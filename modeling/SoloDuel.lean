import SoloDuel.Engine.Summon
import SoloDuel.Engine.Turn
import SoloDuel.Format.Play
import SoloDuel.Format.View
import SoloDuel.Format.Json
import SoloDuel.Library.Install
import SoloDuel.Play.Command
import SoloDuel.Play.Transcript
import SoloDuel.Format.Script
import SoloDuel.Proofs.Board.Sound
import SoloDuel.Proofs.Board.Verdict
import SoloDuel.Proofs.Board.Moves
import SoloDuel.Proofs.Board.Dealing
import SoloDuel.Proofs.Board.Fields
import SoloDuel.Proofs.Board.Arranged
import SoloDuel.Proofs.Random.Shuffles
import SoloDuel.Proofs.Registry.FirstWins
import SoloDuel.Proofs.Registry.Indexed
import SoloDuel.Proofs.Registry.Listing
import SoloDuel.Proofs.Registry.Lookup
import SoloDuel.Proofs.Registry.Registrations
import SoloDuel.Proofs.Rule.Categories
import SoloDuel.Proofs.Rule.Permissions
import SoloDuel.Proofs.Rule.Destruction
import SoloDuel.Proofs.Rule.Restriction
import SoloDuel.Proofs.Script.Compile
import SoloDuel.Proofs.Snapshot.Change
import SoloDuel.Proofs.Snapshot.Operations
import SoloDuel.Proofs.Snapshot.Opening
import SoloDuel.Proofs.Snapshot.Opens
import SoloDuel.Proofs.Snapshot.Success
import SoloDuel.Proofs.Snapshot.Moves
import SoloDuel.Proofs.Snapshot.Draws
import SoloDuel.Proofs.Snapshot.Deliveries
import SoloDuel.Proofs.Snapshot.Discards
import SoloDuel.Proofs.Snapshot.Counters
import SoloDuel.Proofs.Snapshot.SetCards
import SoloDuel.Proofs.Snapshot.Stays
import SoloDuel.Proofs.Snapshot.FaceUp
import SoloDuel.Proofs.Snapshot.Buried
import SoloDuel.Proofs.Snapshot.Piles
import SoloDuel.Proofs.Snapshot.Arrival
import SoloDuel.Proofs.Snapshot.Touched
import SoloDuel.Proofs.Snapshot.Shuffling
import SoloDuel.Proofs.Snapshot.CounterAlgebra
import SoloDuel.Proofs.Step.Selection
import SoloDuel.Proofs.Step.Filters
import SoloDuel.Proofs.Step.Deliveries
import SoloDuel.Proofs.Step.Carried
import SoloDuel.Proofs.Sequencer.Calls
import SoloDuel.Proofs.Sequencer.Protocol
import SoloDuel.Proofs.Sequencer.Prompts
import SoloDuel.Proofs.Sequencer.Worklist
import SoloDuel.Proofs.Sequencer.Replay
import SoloDuel.Proofs.Sequencer.Completion
import SoloDuel.Proofs.Sequencer.Outcomes
import SoloDuel.Proofs.Sequencer.Termination
import SoloDuel.Proofs.Sequencer.Throughout
import SoloDuel.Proofs.Sequencer.Agreement
import SoloDuel.Proofs.Sequencer.Ledger
import SoloDuel.Proofs.Activation.EnterPlay
import SoloDuel.Proofs.Activation.Activated
import SoloDuel.Proofs.Activation.Resolution
import SoloDuel.Proofs.Activation.Closing
import SoloDuel.Proofs.Engine.Commands
import SoloDuel.Proofs.Engine.Turns
import SoloDuel.Proofs.Engine.NextTurn
import SoloDuel.Proofs.Engine.Steps
import SoloDuel.Proofs.Engine.Stock
import SoloDuel.Proofs.Engine.Sparing
import SoloDuel.Proofs.Engine.Reachable
import SoloDuel.Proofs.Engine.Capacity
import SoloDuel.Proofs.Engine.Placement
import SoloDuel.Proofs.Engine.Decided
import SoloDuel.Proofs.Engine.OncePerTurn
import SoloDuel.Proofs.Engine.History
import SoloDuel.Proofs.Engine.Course
import SoloDuel.Proofs.Engine.Victory
import SoloDuel.Proofs.Engine.Allowance
import SoloDuel.Proofs.Engine.Binding
import SoloDuel.Proofs.Engine.SetEarlier
import SoloDuel.Proofs.Engine.Stays
import SoloDuel.Proofs.Engine.Placed
import SoloDuel.Proofs.Engine.Recorded
import SoloDuel.Proofs.Engine.FieldStates
import SoloDuel.Proofs.Engine.Upholds
import SoloDuel.Proofs.Engine.Summons
import SoloDuel.Proofs.Engine.Waiting
import SoloDuel.Proofs.Library.Installed
import SoloDuel.Proofs.Library.Scripted
import SoloDuel.Proofs.Library.Completion
import SoloDuel.Proofs.Library.SpellCounters
import SoloDuel.Proofs.Library.Upkeep
import SoloDuel.Proofs.Library.Protection
import SoloDuel.Proofs.Library.Locks
import SoloDuel.Proofs.Library.Tallies
import SoloDuel.Proofs.Format.Lawful
import SoloDuel.Proofs.Format.RoundTrip
import SoloDuel.Proofs.Trigger.Collection
