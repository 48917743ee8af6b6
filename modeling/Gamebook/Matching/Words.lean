import Gamebook.Script.Entry
import Gamebook.Text.Phrase

set_option autoImplicit false

namespace Gamebook.Matching

open Gamebook.Text

structure Hit where
  index : Nat
  phrase : Option String := none
  score : Nat := 0
  deriving DecidableEq, Repr

def exactPhrase? (wanted : List Char) (choice : Choice) : Option (Option String) :=
  if Text.normalize choice.text == wanted then some none
  else ((choice.aliases.getD []).find? fun phrase => Text.normalize phrase == wanted).map some

def exactHit? (input : String) (choices : List Choice) : Option Hit :=
  let wanted := Text.normalize input
  if wanted.isEmpty then none
  else
    choices.zipIdx.findSome? fun (choice, index) =>
      (exactPhrase? wanted choice).map fun phrase => { index, phrase }

def keywordScore (words : List (List Char)) (phrase : String) : Nat :=
  (words.filter fun word => 3 ≤ word.length && (tokens phrase).contains word).length

def bestPhrase (words : List (List Char)) (choice : Choice) : Nat × Option String :=
  (choice.aliases.getD []).foldl
    (fun best phrase =>
      let score := keywordScore words phrase
      if best.1 < score then (score, some phrase) else best)
    (keywordScore words choice.text, none)

def better (words : List (List Char)) (best : Option Hit) (next : Choice × Nat) : Option Hit :=
  let found := bestPhrase words next.1
  if (best.map Hit.score).getD 0 < found.1 then some ⟨next.2, found.2, found.1⟩ else best

def keywordHit? (input : String) (choices : List Choice) (least : Int) : Option Hit :=
  -- A threshold below one asks for one shared word all the same.
  (choices.zipIdx.foldl (better (tokens input)) none).filter fun hit => max least 1 ≤ hit.score

end Gamebook.Matching
