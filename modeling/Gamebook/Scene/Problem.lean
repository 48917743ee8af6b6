import Gamebook.Scene.Map

set_option autoImplicit false

namespace Gamebook

inductive Problem where
  | duplicateScene (label : String)
  | missingScene (target : String)
  deriving DecidableEq, Repr

namespace Problem

def message : Problem → String
  | .duplicateScene label => s!"Duplicate scene @{label} is unreachable"
  | .missingScene target => s!"goto @{target} points at a scene that does not exist"

end Problem

namespace Script

mutual

def jumpTargetsOf : Entry → List String
  | .goto target => [Text.trim target]
  | .option _ response => jumpTargets response
  | .when _ body => jumpTargets body
  | .whenElse _ body otherwise => jumpTargets body ++ jumpTargets otherwise
  | _ => []

def jumpTargets : List Entry → List String
  | [] => []
  | entry :: entries => jumpTargetsOf entry ++ jumpTargets entries

end

def repeated : List String → List String → List String
  | _, [] => []
  | seen, label :: labels =>
    if seen.contains label then label :: repeated seen labels else repeated (label :: seen) labels

end Script

namespace Story

def duplicateScenes (story : Story) : List Problem :=
  (Script.repeated [] ((Script.headers story.script).map Prod.fst)).map .duplicateScene

def missingScenes (story : Story) : List Problem :=
  let lost := (Script.jumpTargets story.script).filter fun target =>
    target != endLabel && (story.scenes.get? target).isNone
  lost.eraseDups.map .missingScene

def problems (story : Story) : List Problem := story.duplicateScenes ++ story.missingScenes

end Story

end Gamebook
