import Gamebook.Text.Blank

set_option autoImplicit false

namespace Gamebook

open Gamebook.Text

def indentFrom (column : Nat) : List Char → Nat
  | [] => 0
  | c :: cs =>
    if c == '\t' then
      let width := 4 - column % 4
      width + indentFrom (column + width) cs
    else if c == '\n' || c == '\r' then 1 + indentFrom 0 cs
    else if isBlank c then 1 + indentFrom (column + 1) cs
    else 0

def indentOf (cs : List Char) : Nat := indentFrom 0 cs

/-- Stars at the front of a line, if blanks follow them, turned into two spaces each. -/
def expandStars (cs : List Char) : List Char :=
  let text := dropBlanks cs
  let stars := text.takeWhile (· == '*')
  let rest := text.dropWhile (· == '*')
  if !stars.isEmpty && rest.head?.any isBlank then
    cs.takeWhile isBlank ++ List.replicate (2 * stars.length) ' ' ++ dropBlanks rest
  else cs

structure SourceLine where
  indent : Nat
  text : List Char
  deriving DecidableEq, Repr

def SourceLine.ofString? (raw : String) : Option SourceLine :=
  let cs := expandStars raw.toList
  if (trimChars cs).isEmpty then none else some ⟨indentOf cs, trimChars cs⟩

end Gamebook
