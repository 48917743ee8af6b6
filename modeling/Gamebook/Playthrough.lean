import Gamebook.Config
import Gamebook.Matching.Resolve
import Gamebook.Script.Alias
import Gamebook.Script.Reader
import Gamebook.Step

set_option autoImplicit false

namespace Gamebook

inductive Status where
  | running
  | waiting
  | matching
  | ended
  | error
  deriving DecidableEq, Repr

def Status.name : Status → String
  | .running => "running"
  | .waiting => "waiting"
  | .matching => "matching"
  | .ended => "ended"
  | .error => "error"

structure Playthrough where
  config : Config
  lines : List String
  story : Story
  counters : Counters := {}
  history : List Line := []
  place : Coordinate := ⟨startLabel, 0⟩
  status : Status := .running
  numbered : Nat := 0

namespace Playthrough

inductive Fault where
  | notWaiting (status : Status)
  | noSuchLine (index : Int)
  | badSetting (fault : Json.NumberFault)
  | numeralTooLong
  | lostPlace
  deriving DecidableEq, Repr

def Fault.message? : Fault → Option String
  | .notWaiting status => some ("Session is " ++ status.name ++ ", not waiting for input")
  | .noSuchLine index => some ("history index " ++ toString index ++ " out of range")
  | _ => none

def Fault.outOfRange (index : Int) : Fault :=
  if Text.isWritable index then .noSuchLine index else .numeralTooLong

abbrev Played (α : Type) := Except Fault α × Playthrough

/-- Reads a script anew. The coordinate and the history are kept. -/
def updateScript (play : Playthrough) (lines : List String) : Played Unit :=
  match Script.read lines with
  | .ok script => (.ok (), { play with lines, story := .ofScript script })
  | .error _ => (.error .numeralTooLong, { play with lines })

def start (config : Config) (counters : Counters) (lines : List String) : Except Fault Playthrough :=
  match Script.read lines with
  | .ok script => .ok { config, lines, story := .ofScript script, counters }
  | .error _ => .error .numeralTooLong

def record (play : Playthrough) (line : Line) : Playthrough :=
  { play with history := play.history ++ [line] }

def say (play : Playthrough) (sender : Sender) (text : String) (kind : LineKind) : Playthrough :=
  { play.record { id := sender.name ++ ":" ++ toString play.numbered, sender, text, kind } with
    numbered := play.numbered + 1 }

def sayAll (play : Playthrough) (texts : List String) : Playthrough :=
  texts.foldl (fun play text => play.say .narrator text .text) play

def display (play : Playthrough) : List Shown → Playthrough
  | [] => play
  | .text text :: rest => (play.say .narrator text .text).display rest
  | .image url :: rest => (play.say .narrator url .image).display rest

def recordLine (play : Playthrough) (line : Line) : Played Unit :=
  let play := play.record line
  match Coordinate.ofId line.id with
  | .error _ => (.error .numeralTooLong, play)
  | .ok none => (.error .lostPlace, play)
  | .ok (some place) => (.ok (), { play with place := place.next })

/-- Plays at most so many steps, until the story waits, ends or fails. -/
def playSteps : Nat → Playthrough → Played Unit
  | 0, play =>
    (.ok (),
      { play.say .system "Stopped: too many lines without a choice" .text with status := .error })
  | count + 1, play =>
    let stepped := step play.story Counters.keeper play.counters play.place
    let play := { play with counters := stepped.state }
    match stepped.outcome with
    | .error _ => (.error .numeralTooLong, play)
    | .ok outcome =>
      let play := play.sayAll outcome.prelude
      match outcome with
      | .line line _ _ =>
        match play.recordLine line with
        | (.ok (), play) => playSteps count play
        | failed => failed
      | .wait place _ => (.ok (), { play with place, status := .waiting })
      | .finished _ => (.ok (), { play with status := .ended })
      | .failed error => (.ok (), { play.record error.line with status := .error })

def advance (play : Playthrough) : Played (List Line) :=
  if play.status = .ended ∨ play.status = .error then (.ok [], play)
  else
    let play := { play with status := .running }
    match play.config.maxSteps.toInt with
    | .error fault => (.error (.badSetting fault), play)
    | .ok count =>
      match playSteps count.toNat play with
      | (.ok (), after) => (.ok (after.history.drop play.history.length), after)
      | (.error fault, after) => (.error fault, after)

def silence : String := "(stay silent)"

/-- Keeps words that only the matcher of meaning understood, and tells the player how they were read. -/
def learn (play : Playthrough) (input : String) (resolution : Matching.Resolution) : Played Unit :=
  match resolution.means, resolution.suggestion with
  | .semantic confidence, some words =>
    if words.isEmpty then (.ok (), play)
    else
      match play.updateScript (Alias.add resolution.optionText words play.lines) with
      | (.error fault, play) => (.error fault, play)
      | (.ok (), play) =>
        let note := "Matched \"" ++ input ++ "\" to \"" ++ resolution.optionText ++ "\" ("
          ++ Number.percent confidence ++ " confidence)"
        (.ok (), play.say .system note .text)
  | _, _ => (.ok (), play)

def apply (play : Playthrough) (input : String) (resolution : Matching.Resolution) : Played Unit :=
  let play := { play with counters := play.counters.applyAll resolution.changes }
  match (play.display resolution.shown).learn input resolution with
  | (.error fault, play) => (.error fault, play)
  | (.ok (), play) =>
    match { play with place := resolution.place, status := .running }.advance with
    | (.error fault, play) => (.error fault, play)
    | (.ok _, play) => (.ok (), play)

/-- Resolves what the player typed and plays on. Without a match the playthrough goes on waiting. -/
def submit {σ : Type} (matcher : Option (Matching.Matcher σ)) (play : Playthrough) (text : String) :
    StateM σ (Played (Option Matching.Resolution)) := do
  if play.status ≠ .waiting then return (.error (.notWaiting play.status), play)
  let words := Text.trim text
  let input := if words.isEmpty then silence else words
  -- The player's line is there even if the thresholds turn out to be wrong.
  let play := { play.say .player input .text with status := .matching }
  match play.config.thresholds with
  | .error fault => return (.error (.badSetting fault), play)
  | .ok thresholds =>
    match ← Matching.resolve play.story play.counters.answer matcher thresholds play.place input with
    | .error _ => return (.error .numeralTooLong, play)
    | .ok none => return (.ok none, { play with status := .waiting })
    | .ok (some resolution) =>
      let (result, play) := play.apply input resolution
      return (result.map fun () => some resolution, play)

def restart (play : Playthrough) : Played (List Line) :=
  { play with
    counters := {}, history := [], place := ⟨startLabel, 0⟩, status := .running : Playthrough }.advance

def placeAfter : List Line → Except Fault Coordinate
  | [] => .ok ⟨startLabel, 0⟩
  | line :: earlier =>
    match Coordinate.ofId line.id with
    | .error _ => .error .numeralTooLong
    | .ok (some place) => .ok place.next
    | .ok none => placeAfter earlier

/-- Goes back to just after a line of the history and plays on. Counters are not taken back. -/
def jumpTo (play : Playthrough) (index : Int) : Played (List Line) :=
  if index < 0 ∨ (play.history.length : Int) ≤ index then (.error (.outOfRange index), play)
  else
    let play := { play with history := play.history.take (index.toNat + 1) }
    match placeAfter play.history.reverse with
    | .error fault => (.error fault, play)
    | .ok place => { play with place, status := .running }.advance

def lastInput? (history : List Line) : Option Nat :=
  (history.zipIdx.reverse.find? fun entry => entry.1.sender == .player).map Prod.snd

def jumpBack (play : Playthrough) : Played (List Line) :=
  match lastInput? play.history with
  | none => (.ok [], play)
  | some 0 => play.restart
  | some (index + 1) => play.jumpTo index

end Playthrough

end Gamebook
