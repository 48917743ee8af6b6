import Gamebook.Text.Blank
import Gamebook.Text.LowerCase
import Gamebook.Text.Word

set_option autoImplicit false

namespace Gamebook.Name

open Gamebook.Text

def take? : List Char → Option (List Char × List Char)
  | [] => none
  | c :: cs =>
    if isNameStart c then some (c :: cs.takeWhile isNameRest, cs.dropWhile isNameRest) else none

def isName (cs : List Char) : Bool :=
  match take? cs with
  | some (_, []) => true
  | _ => false

def normalize (name : String) : String := lower (trim name)

end Gamebook.Name
