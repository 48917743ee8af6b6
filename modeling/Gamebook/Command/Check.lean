import Gamebook.Command.Ending
import Gamebook.Scene.Problem

set_option autoImplicit false

namespace Gamebook.Command

def padRight (width : Nat) (text : String) : String :=
  text ++ String.ofList (List.replicate (width - text.length) ' ')

def sceneRow (scene : String × Int) : String := s!"@{padRight 20 scene.1} {scene.2}"

def report (story : Story) : List String :=
  story.scenes.map sceneRow ++ story.problems.map fun problem => "warning: " ++ problem.message

def checkScript (world : World) (path : String) : Ran :=
  match readScript world path with
  | .error ending => ⟨"", ending⟩
  | .ok lines =>
    match Script.read lines with
    | .error _ => ⟨"", .fault .numeralTooLong⟩
    | .ok script =>
      let story := Story.ofScript script
      ⟨printed (report story), .code (if story.problems.isEmpty then 0 else 1)⟩

end Gamebook.Command
