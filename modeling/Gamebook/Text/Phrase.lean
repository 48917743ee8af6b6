import Gamebook.Text.Blank
import Gamebook.Text.LowerCase

set_option autoImplicit false

namespace Gamebook.Text

def normalize (phrase : String) : List Char := collapseBlanks (lowerChars phrase.toList)

def partsWords (c : Char) : Bool :=
  isBlank c || [',', '.', '!', '?', ';', ':', '\'', '"', '(', ')', '-'].contains c

def tokens (phrase : String) : List (List Char) :=
  (((lowerChars phrase.toList).splitOnP partsWords).filter fun word => !word.isEmpty).eraseDups

end Gamebook.Text
