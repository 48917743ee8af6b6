import Gamebook.Command.Check
import Gamebook.Command.Play

set_option autoImplicit false

namespace Gamebook.Command

def announcement (serving : Serving) : String :=
  "Starting API on http://localhost:" ++ toString serving.port ++ " ..."

def run (world : World) (typed : List String) : Command → StateM (List Completion.Reply) Ran
  | .play path => playScript world path typed
  | .check path => return checkScript world path
  | .serve serving => return ⟨printed [announcement serving], .serves serving⟩

def runArguments (world : World) (standard : Serving) (typed arguments : List String) :
    StateM (List Completion.Reply) Ran :=
  match Command.read standard arguments with
  | .ok command => run world typed command
  | .error .help => return ⟨"", .code 0⟩
  | .error .usage => return ⟨"", .code 2⟩

def typedLines (text : String) : List String :=
  let lines := (text.toList.splitOn '\n').map String.ofList
  if lines.getLast? == some "" then lines.dropLast else lines

end Gamebook.Command
