set_option autoImplicit false

namespace Gamebook

inductive Change where
  | sets (name : String)
  | unsets (name : String)
  deriving DecidableEq, Repr

namespace Change

def name : Change → String
  | .sets name => name
  | .unsets name => name

def key : Change → String
  | .sets _ => "sets"
  | .unsets _ => "unsets"

def ofField? (key value : String) : Option Change :=
  if key == "sets" then some (.sets value)
  else if key == "unsets" then some (.unsets value)
  else none

end Change

end Gamebook
