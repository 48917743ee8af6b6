import Gamebook.Change

set_option autoImplicit false

namespace Gamebook

structure Choice where
  text : String
  aliases : Option (List String) := none
  requires : Option String := none
  deriving DecidableEq, Repr

def Choice.phrases (choice : Choice) : List String := choice.text :: choice.aliases.getD []

inductive Entry where
  | narrative (text : String)
  | scene (label : String) (allows : Option String)
  | goto (target : String)
  | option (choice : Choice) (response : List Entry)
  | image (url : String)
  | metadata (key value : String)
  | when (condition : String) (body : List Entry)
  | whenElse (condition : String) (body otherwise : List Entry)
  deriving BEq, Repr, Inhabited

structure Offer where
  choice : Choice
  response : List Entry
  deriving BEq, Repr

namespace Entry

def isScene : Entry → Bool
  | .scene _ _ => true
  | _ => false

def change? : Entry → Option Change
  | .metadata key value => Change.ofField? key value
  | _ => none

end Entry

end Gamebook
