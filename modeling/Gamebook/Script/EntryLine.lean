import Gamebook.Condition
import Gamebook.Script.Option
import Gamebook.Text.Search

set_option autoImplicit false

namespace Gamebook.EntryLine

open Gamebook.Text

abbrev Read := Except NumeralTooLong Entry

def narrative (cs : List Char) : Entry := .narrative (String.ofList cs)

def headerEnd? (cs : List Char) : Option (Option (List Char)) :=
  match dropBlanks cs with
  | [] => some none
  | rest =>
    match afterWord? "[allows:" rest with
    | none => none
    | some value =>
      let value := dropBlanks value
      if value.dropWhile (· != ']') == [']'] then
        some (some (dropBlanksEnd (value.takeWhile (· != ']'))))
      else none

/-- The shortest label, on one line, that only a hint can follow. -/
def splitHeader? (cs : List Char) : Option (List Char × Option (List Char)) :=
  match headerEnd? cs with
  | some allows => some ([], allows)
  | none =>
    match cs with
    | [] => none
    | c :: rest => if c == '\n' then none else (splitHeader? rest).map fun r => (c :: r.1, r.2)

def header? (cs : List Char) : Option Read :=
  match cs with
  | '@' :: rest =>
    match splitHeader? (dropBlanks rest) with
    | some (c :: label, allows) =>
      let hint := allows.filter fun hint => !hint.isEmpty
      some (.ok (.scene (String.ofList (c :: label)) (hint.map String.ofList)))
    | _ => some (.ok (narrative cs))
  | _ => none

def jumpTarget (cs : List Char) : List Char :=
  match trimChars cs with
  | '@' :: rest => trimChars rest
  | target => target

def jump? (cs : List Char) : Option Read :=
  (afterWord? "goto " cs).map fun rest =>
    let target := jumpTarget rest
    .ok (if target.isEmpty then narrative cs else .goto (String.ofList target))

def conditional (condition cs : List Char) : Read := do
  let condition := String.ofList (trimChars condition)
  match ← Condition.read condition with
  | some _ => return .when condition []
  | none => return narrative cs

def when? (cs : List Char) : Option Read :=
  (afterWord? "when " cs).map fun condition => conditional condition cs

def bracketed? (cs : List Char) : Option Read :=
  match afterWord? "if" cs with
  | none => none
  | some rest =>
    if !rest.head?.any isBlank then none
    else
      match dropBlanks rest with
      | '[' :: rest =>
        let condition := rest.takeWhile (· != ']')
        if !condition.isEmpty && rest.dropWhile (· != ']') == [']'] then
          some (conditional condition cs)
        else none
      | _ => none

def option? (cs : List Char) : Option Read :=
  (afterWord? "if " cs).map fun rest =>
    match Choice.read? (trimChars rest) with
    | some choice => .ok (.option choice [])
    | none => .ok (narrative cs)

def change? (cs : List Char) : Option Read :=
  match cs with
  | '+' :: name => if Name.isName name then some (.ok (.metadata "sets" (String.ofList name))) else none
  | '-' :: name => if Name.isName name then some (.ok (.metadata "unsets" (String.ofList name))) else none
  | _ => none

def fieldValue? (cs : List Char) : Option (List Char) :=
  match dropBlanks cs with
  | [] => (cs.reverse.find? (· != '\n')).map ([·])
  | value =>
    let value := dropBlanksEnd value
    if value.contains '\n' then none else some value

def splitField? (cs : List Char) : Option (List Char × List Char) :=
  match cs with
  | '[' :: rest =>
    let key := rest.takeWhile isWord
    match rest.dropWhile isWord with
    | ':' :: value =>
      if key.isEmpty || value.getLast? != some ']' then none
      else (fieldValue? value.dropLast).map fun value => (key, value)
    | _ => none
  | _ => none

def imageEndings : List (List Char) :=
  [".jpg", ".jpeg", ".png", ".gif", ".webp", ".svg"].map String.toList

def isImage (url : List Char) : Bool :=
  imageEndings.any fun ending =>
    ending.isSuffixOf (lowerChars url) || occursIn (ending ++ ['?']) (lowerChars url)

def image (url : List Char) : Entry :=
  if isImage url then .image (String.ofList url)
  else .narrative ("[Invalid image URL: " ++ String.ofList url ++ "]")

def field? (cs : List Char) : Option Read :=
  (splitField? cs).map fun (key, value) =>
    match String.ofList key with
    | "image" => .ok (image value)
    | "if" => conditional value cs
    | key => .ok (.metadata key (String.ofList value))

def read (cs : List Char) : Read :=
  -- The older conditional looks like an option and so comes first.
  (header? cs <|> jump? cs <|> when? cs <|> bracketed? cs <|> option? cs <|> change? cs <|> field? cs).getD
    (.ok (narrative cs))

end Gamebook.EntryLine
