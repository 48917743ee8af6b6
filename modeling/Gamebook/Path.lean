set_option autoImplicit false

namespace Gamebook.Path

def steps (path : List Char) : List (List Char) :=
  (path.splitOn '/').filter fun step => !step.isEmpty && step != ['.']

def root : List Char → List Char
  | '/' :: '/' :: '/' :: _ => ['/']
  | '/' :: '/' :: _ => ['/', '/']
  | '/' :: _ => ['/']
  | _ => []

def normalize (path : String) : String :=
  let plain := root path.toList ++ ['/'].intercalate (steps path.toList)
  if plain.isEmpty then "." else String.ofList plain

end Gamebook.Path
