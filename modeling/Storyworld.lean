import Storyworld.Chance.Dice
import Storyworld.Chance.Generator
import Storyworld.Engine.Basic
import Storyworld.Engine.Build
import Storyworld.Expression.Coercion
import Storyworld.Expression.Eval
import Storyworld.Expression.Syntax
import Storyworld.Expression.Token
import Storyworld.Fault
import Storyworld.Game.Document
import Storyworld.Game.Inventory
import Storyworld.Game.NewGame
import Storyworld.Game.Party
import Storyworld.Game.Save
import Storyworld.Game.State
import Storyworld.Issue
import Storyworld.Json.Display
import Storyworld.Json.Pairs
import Storyworld.Json.Printer
import Storyworld.Json.Reader
import Storyworld.Json.Value
import Storyworld.Main
import Storyworld.Number.Basic
import Storyworld.Number.Decimal
import Storyworld.Number.Double
import Storyworld.Number.Numeral
import Storyworld.Play.Condition
import Storyworld.Play.Effect
import Storyworld.Play.Move
import Storyworld.Play.Narrative
import Storyworld.Play.Turn
import Storyworld.Play.View
import Storyworld.Proofs.Answers
import Storyworld.Proofs.BrokenOff
import Storyworld.Proofs.Checked
import Storyworld.Proofs.Comparisons
import Storyworld.Proofs.Complaints
import Storyworld.Proofs.Conforming
import Storyworld.Proofs.Conversations
import Storyworld.Proofs.Decisions
import Storyworld.Proofs.Documents
import Storyworld.Proofs.Draws
import Storyworld.Proofs.Effects
import Storyworld.Proofs.Enrolment
import Storyworld.Proofs.Escapes
import Storyworld.Proofs.Evaluable
import Storyworld.Proofs.Evaluation
import Storyworld.Proofs.Exact
import Storyworld.Proofs.Fairness
import Storyworld.Proofs.Frame
import Storyworld.Proofs.Grammar
import Storyworld.Proofs.Hooks
import Storyworld.Proofs.Hosting
import Storyworld.Proofs.Inventories
import Storyworld.Proofs.Journey
import Storyworld.Proofs.Labels
import Storyworld.Proofs.LastTeleport
import Storyworld.Proofs.Lexemes
import Storyworld.Proofs.Loading
import Storyworld.Proofs.Locations
import Storyworld.Proofs.Lockstep
import Storyworld.Proofs.Log
import Storyworld.Proofs.Looking
import Storyworld.Proofs.Mentions
import Storyworld.Proofs.Misfits
import Storyworld.Proofs.Moves
import Storyworld.Proofs.Narratives
import Storyworld.Proofs.Nesting
import Storyworld.Proofs.Normal
import Storyworld.Proofs.Notes
import Storyworld.Proofs.Offers
import Storyworld.Proofs.Operators
import Storyworld.Proofs.Parties
import Storyworld.Proofs.Period
import Storyworld.Proofs.Phrasing
import Storyworld.Proofs.Playthrough
import Storyworld.Proofs.Reachable
import Storyworld.Proofs.Reading
import Storyworld.Proofs.Refusals
import Storyworld.Proofs.Rereading
import Storyworld.Proofs.Resolution
import Storyworld.Proofs.Resumed
import Storyworld.Proofs.Rolls
import Storyworld.Proofs.Saving
import Storyworld.Proofs.Shapes
import Storyworld.Proofs.SideBySide
import Storyworld.Proofs.SmallSaves
import Storyworld.Proofs.Subjects
import Storyworld.Proofs.Supplies
import Storyworld.Proofs.Tally
import Storyworld.Proofs.Teleports
import Storyworld.Proofs.Telling
import Storyworld.Proofs.Tokens
import Storyworld.Proofs.Turn
import Storyworld.Proofs.Untellable
import Storyworld.Proofs.Versions
import Storyworld.Proofs.Voting
import Storyworld.Proofs.Weights
import Storyworld.Proofs.WellFormed
import Storyworld.Rules.Bundled
import Storyworld.Rules.Module
import Storyworld.Rules.Scripted
import Storyworld.Schema.Conform
import Storyworld.Schema.Parts
import Storyworld.Schema.Scalar
import Storyworld.Schema.Shape
import Storyworld.Session.Host
import Storyworld.Session.Voting
import Storyworld.Story.Basic
import Storyworld.Story.Check
import Storyworld.Story.LanternRoad
import Storyworld.Story.Load
import Storyworld.Story.OfDocument
import Storyworld.Story.Shapes
import Storyworld.Table
import Storyworld.Terminal.Arguments
import Storyworld.Terminal.Playing
import Storyworld.Terminal.Run
import Storyworld.Text.Blank
import Storyworld.Text.Digit
import Storyworld.Text.Encoding
import Storyworld.Text.Printable
import Storyworld.Text.Quoted
