import Gamebook.Command.Ending

set_option autoImplicit false

namespace Gamebook.Command

def lineText? (line : Line) : Option String :=
  match line.sender, line.kind with
  | .system, _ => some ("[" ++ line.text ++ "]")
  | _, .image => some ("(image: " ++ line.text ++ ")")
  | .narrator, .text => some line.text
  | .player, .text => none

def linesText (lines : List Line) : String := printed (lines.filterMap lineText?)

inductive Turn where
  | player (play : Playthrough)
  | ended (ending : Ending)

def prompt : String := "> "

def proceed (output : String) (play : Playthrough) : String × Turn :=
  match play.status with
  | .waiting => (output, .player play)
  | .error => (output, .ended (.code 1))
  | _ => (output ++ "THE END\n", .ended (.code 0))

def tell (played : Playthrough.Played (List Line)) : String × Turn :=
  match played with
  | (.ok lines, after) => proceed (linesText lines) after
  | (.error fault, _) => ("", .ended (.fault (.play fault)))

def countersText (counters : Counters) : String :=
  if counters.entries.isEmpty then "" else printed ["  (" ++ ", ".intercalate counters.display ++ ")"]

def turn {σ : Type} (matcher : Option (Matching.Matcher σ)) (play : Playthrough) (line : String) :
    StateM σ (String × Turn) := do
  if Text.trim line == "/undo" then return tell play.jumpBack
  match ← play.submit matcher line with
  | (.error fault, _) => return ("", .ended (.fault (.play fault)))
  | (.ok none, after) => return proceed "Nothing happens.\n" after
  | (.ok (some _), after) =>
    -- The first new line is what the player typed.
    let lines := after.history.drop (play.history.length + 1)
    return proceed (linesText lines ++ countersText after.counters) after

def turns {σ : Type} (matcher : Option (Matching.Matcher σ)) : String × Turn → List String → StateM σ Ran
  | (output, .ended ending), _ => return ⟨output, ending⟩
  | (output, .player _), [] => return ⟨output ++ prompt ++ "\n", .code 0⟩
  | (output, .player before), line :: lines => do
    let (more, next) ← turn matcher before line
    turns matcher (output ++ prompt ++ more, next) lines

structure Session where
  play : Playthrough
  matcher : Option (Matching.Matcher (List Completion.Reply))

def Session.prepare (world : World) (path : String) : Except Ending Session := do
  let config ← (Config.load world none).mapError fun fault => .fault (.config fault)
  let lines ← readScript world path
  let client ← config.client?.mapError fun fault => .fault (.client fault)
  let play ← (Playthrough.start config {} lines).mapError fun fault => .fault (.play fault)
  return ⟨play, client.map Completion.Client.matcher⟩

def playScript (world : World) (path : String) (typed : List String) : StateM (List Completion.Reply) Ran :=
  match Session.prepare world path with
  | .error ending => return ⟨"", ending⟩
  | .ok session => turns session.matcher (tell session.play.advance) typed

end Gamebook.Command
