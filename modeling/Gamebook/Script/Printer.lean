import Gamebook.Script.Entry

set_option autoImplicit false

namespace Gamebook

def Choice.line (choice : Choice) : String :=
  let phrases := "if " ++ " | ".intercalate choice.phrases
  match choice.requires with
  | none => phrases
  | some condition => if condition.isEmpty then phrases else phrases ++ " & ?" ++ condition

def sceneLine (label : String) (allows : Option String) : String :=
  match allows with
  | none => "@" ++ label
  | some hint => if hint.isEmpty then "@" ++ label else "@" ++ label ++ " [allows: " ++ hint ++ "]"

def metadataLine (key value : String) : String :=
  match Change.ofField? key value with
  | some (.sets name) => "+" ++ name
  | some (.unsets name) => "-" ++ name
  | none => "[" ++ key ++ ": " ++ value ++ "]"

namespace Entry

def line : Entry → String
  | .narrative text => text
  | .scene label allows => sceneLine label allows
  | .goto target => "goto @" ++ target
  | .option choice _ => choice.line
  | .image url => "[image: " ++ url ++ "]"
  | .metadata key value => metadataLine key value
  | .when condition _ => "when " ++ condition
  | .whenElse condition _ _ => "when " ++ condition

end Entry

namespace Script

def indentBy (depth : Nat) (line : String) : String :=
  String.ofList (List.replicate (2 * depth) ' ') ++ line

mutual

def printEntry (depth : Nat) (entry : Entry) : List String :=
  indentBy depth entry.line ::
    match entry with
    | .option _ response => print (depth + 1) response
    | .when _ body => print (depth + 1) body
    | .whenElse _ body otherwise =>
      print (depth + 1) body ++ indentBy depth "else" :: print (depth + 1) otherwise
    | _ => []

def print (depth : Nat) : List Entry → List String
  | [] => []
  | entry :: entries => printEntry depth entry ++ print depth entries

end

end Script

end Gamebook
