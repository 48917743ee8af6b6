import Gamebook.Script.Entry
import Gamebook.Text.Blank

set_option autoImplicit false

namespace Gamebook

def startLabel : String := "START"

def endLabel : String := "END"

/-- The labels of a story and where they lead; a negative place is none. -/
abbrev SceneMap := List (String × Int)

def Entry.label? : Entry → Option String
  | .scene label _ => some (Text.trim label)
  | _ => none

namespace Script

def headersFrom (index : Nat) : List Entry → List (String × Nat)
  | [] => []
  | entry :: entries =>
    match entry.label? with
    | some label => (label, index) :: headersFrom (index + 1) entries
    | none => headersFrom (index + 1) entries

def headers (script : List Entry) : List (String × Nat) := headersFrom 0 script

def firstScene? (script : List Entry) : Option Nat := script.findIdx? Entry.isScene

def preambleSize (script : List Entry) : Nat := (firstScene? script).getD 0

end Script

def firstOfEach : List (String × Nat) → List (String × Nat)
  | [] => []
  | header :: headers => header :: (firstOfEach headers).filter (·.1 != header.1)

namespace SceneMap

def get? (scenes : SceneMap) (label : String) : Option Int := scenes.lookup label

def ofScript (script : List Entry) : SceneMap :=
  let headers := Script.headers script
  (startLabel, ((headers.lookup startLabel).map Int.ofNat).getD 0) ::
    (endLabel, ((headers.lookup endLabel).map Int.ofNat).getD (-1)) ::
    (firstOfEach (headers.filter fun header => header.1 != startLabel && header.1 != endLabel)).map
      fun header => (header.1, (header.2 : Int))

end SceneMap

structure Story where
  script : List Entry
  scenes : SceneMap
  deriving Repr

namespace Story

def ofScript (script : List Entry) : Story := ⟨script, SceneMap.ofScript script⟩

def entryAt? (story : Story) (place : Int) : Option Entry :=
  if place < 0 then none else story.script[place.toNat]?

def hasScene (story : Story) (label : String) : Bool :=
  match (story.scenes.get? label).bind story.entryAt? with
  | some entry => entry.label? == some label
  | none => false

def scanStart (story : Story) (place : Int) : Int :=
  match story.entryAt? place with
  | some entry => if entry.isScene then place + 1 else place
  | none => place

end Story

end Gamebook
