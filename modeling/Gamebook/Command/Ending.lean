import Gamebook.Command.Basic
import Gamebook.Config
import Gamebook.Playthrough

set_option autoImplicit false

namespace Gamebook.Command

inductive Fault where
  | config (fault : Config.Fault)
  | client (fault : Config.ClientFault)
  | play (fault : Playthrough.Fault)
  | notText
  | numeralTooLong

inductive Ending where
  | code (code : Nat)
  | message (text : String)
  | serves (serving : Serving)
  | fault (fault : Fault)

structure Ran where
  output : String
  ending : Ending

def printed (lines : List String) : String := String.join (lines.map (· ++ "\n"))

def readScript (world : World) (path : String) : Except Ending (List String) :=
  let refuse (reason : String) : Except Ending (List String) :=
    .error (.message ("Cannot read " ++ path ++ ": " ++ reason))
  match world.file path with
  | .missing => refuse "No such file or directory"
  | .directory => refuse "Is a directory"
  | .beyondFile => refuse "Not a directory"
  | .refused reason => refuse reason
  | .file bytes =>
    match decodeText? bytes with
    | some text => .ok (Text.lines text)
    | none => .error (.fault .notText)

end Gamebook.Command
