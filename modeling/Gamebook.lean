import Gamebook.Text.Digit
import Gamebook.Text.LowerCase
import Gamebook.Text.Printable
import Gamebook.Text.Ranges
import Gamebook.Text.Word
import Gamebook.Text.Blank
import Gamebook.Number.Binary
import Gamebook.Number.Reading
import Gamebook.Number.Shortest
import Gamebook.Json.Basic
import Gamebook.Json.Reader
import Gamebook.Condition
import Gamebook.Change
import Gamebook.Counters
import Gamebook.Script.Alias
import Gamebook.Script.EntryLine
import Gamebook.Script.Reader
import Gamebook.Scene.Layout
import Gamebook.Scene.Preamble
import Gamebook.Scene.Problem
import Gamebook.Line
import Gamebook.Step
import Gamebook.Matching.Choose
import Gamebook.Matching.Resolve
import Gamebook.Prompt.Match
import Gamebook.Completion
import Gamebook.Config
import Gamebook.Playthrough
import Gamebook.Record
import Gamebook.Service
import Gamebook.Command.Arguments
import Gamebook.Command
import Gamebook.Main
import Gamebook.Step.Passage
import Gamebook.Proofs.Places
import Gamebook.Proofs.Enactment
import Gamebook.Proofs.Branches
import Gamebook.Proofs.LoopBack
import Gamebook.Proofs.DocumentOrder
import Gamebook.Proofs.WrittenLines
import Gamebook.Proofs.RoundTrip
import Gamebook.Proofs.StepEnds
import Gamebook.Proofs.Pending
import Gamebook.Proofs.Identifiers
import Gamebook.Proofs.Resuming
import Gamebook.Proofs.OpenOptions
import Gamebook.Proofs.LearntAliases
import Gamebook.Proofs.Recovered
import Gamebook.Proofs.LineForms
import Gamebook.Proofs.ConditionForms
import Gamebook.Proofs.Legible
import Gamebook.Proofs.KnownScenes
import Gamebook.Proofs.NormalNames
import Gamebook.Proofs.Snapshots
import Gamebook.Proofs.Seams
import Gamebook.Proofs.Indentation
import Gamebook.Proofs.Unmentioned
import Gamebook.Proofs.Waiting
import Gamebook.Proofs.RankedScenes
import Gamebook.Proofs.ChoosingTiers
import Gamebook.Proofs.ToldOnce
import Gamebook.Proofs.Gates
import Gamebook.Proofs.Keywords
import Gamebook.Proofs.ConditionGrammar
import Gamebook.Proofs.Tallies
import Gamebook.Proofs.Thresholds
import Gamebook.Proofs.Restarting
import Gamebook.Proofs.ShadowedScenes
import Gamebook.Proofs.CompletionFaults
import Gamebook.Proofs.ConfigLayers
