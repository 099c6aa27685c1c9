import StagedScript.Text.Ranges
import StagedScript.Text.Alphabetic
import StagedScript.Text.Numeric
import StagedScript.Text.Blank
import StagedScript.Text.Unprintable
import StagedScript.Text.Quoted
import StagedScript.Decimal.Binary
import StagedScript.Decimal.Shortest
import StagedScript.Decimal.Layout
import StagedScript.Decimal.Reading
import StagedScript.Json.Basic
import StagedScript.Json.Writer
import StagedScript.Json.Reader
import StagedScript.Problem
import StagedScript.Script.Token
import StagedScript.Script.Lexer
import StagedScript.Script.Program
import StagedScript.Script.Parser
import StagedScript.Files.Error
import StagedScript.Files.Path
import StagedScript.Files.Tree
import StagedScript.Text.Utf8
import StagedScript.Log
import StagedScript.Stream
import StagedScript.Model.Handle
import StagedScript.Value
import StagedScript.Native
import StagedScript.Frames
import StagedScript.Language.Basic
import StagedScript.Run.Lifecycle
import StagedScript.Error
import StagedScript.Model.Store
import StagedScript.Resources
import StagedScript.Model.Disposal
import StagedScript.Model.Repository
import StagedScript.Model.Builder
import StagedScript.Decimal.Remainder
import StagedScript.Script.Operators
import StagedScript.Context
import StagedScript.Script.Evaluator
import StagedScript.Profile.RuleTimer
import StagedScript.Trace
import StagedScript.Engine.Module
import StagedScript.Engine.Script
import StagedScript.Language.Lookup
import StagedScript.Validation
import StagedScript.Options
import StagedScript.Report
import StagedScript.Metrics.Histogram
import StagedScript.Metrics.Registry
import StagedScript.Metrics.Exposition
import StagedScript.Profile.Basic
import StagedScript.World
import StagedScript.Profile.Recording
import StagedScript.Engine.Canned
import StagedScript.Executor.Basic
import StagedScript.Executor.Rules
import StagedScript.Executor.Script
import StagedScript.Run.Pass
import StagedScript.Run.Controller
import StagedScript.Run.Plan
import StagedScript.Run.Outcome
import StagedScript.Json.Record
import StagedScript.Trace.Record
import StagedScript.Script.Outline
import StagedScript.Value.Record
import StagedScript.Error.Record
import StagedScript.Engine.CannedRecord
import StagedScript.Metrics.Changes
import StagedScript.Session
import StagedScript.Run.Trail
import StagedScript.Proofs.Script.Grammar
import StagedScript.Proofs.Script.Reading
import StagedScript.Proofs.Script.Rules
import StagedScript.Proofs.Script.Soundness
import StagedScript.Proofs.Script.ExpressionCompleteness
import StagedScript.Proofs.Script.Completeness
import StagedScript.Proofs.Script.Printer
import StagedScript.Proofs.Script.LexicalGrammar
import StagedScript.Proofs.Script.Cuts
import StagedScript.Proofs.Script.LongestMatch
import StagedScript.Proofs.Script.Scanning
import StagedScript.Proofs.Script.Lexemes
import StagedScript.Proofs.Script.RoundTrip
import StagedScript.Proofs.Script.Nesting
import StagedScript.Proofs.Frames.Bindings
import StagedScript.Proofs.Metrics.Likeness
import StagedScript.Proofs.Run.Effects
import StagedScript.Proofs.Model.Disposal
import StagedScript.Proofs.Script.Runner
import StagedScript.Proofs.Script.Confinement
import StagedScript.Proofs.Script.Printing
import StagedScript.Proofs.Script.Transcript
import StagedScript.Proofs.Script.Utterances
import StagedScript.Proofs.Run.Calls
import StagedScript.Proofs.Run.Metering
import StagedScript.Proofs.Run.Likeness
import StagedScript.Proofs.Run.History
import StagedScript.Proofs.Run.Balance
import StagedScript.Proofs.Run.Views
import StagedScript.Proofs.Run.ScriptRuns
import StagedScript.Proofs.Run.Repetition
import StagedScript.Proofs.Run.Release
import StagedScript.Proofs.Run.OneShot
import StagedScript.Proofs.Run.Redirections
import StagedScript.Proofs.Run.Delivery
import StagedScript.Proofs.Engine.Contexts
import StagedScript.Proofs.Run.Parameters
import StagedScript.Proofs.Script.Construction
import StagedScript.Proofs.Script.Writing
import StagedScript.Proofs.Script.FullSink
import StagedScript.Proofs.Run.LettingGo
import StagedScript.Proofs.Run.Inputs
import StagedScript.Proofs.Script.Passing
import StagedScript.Proofs.Script.Lines
import StagedScript.Proofs.Script.Recovery
import StagedScript.Proofs.Script.Turns
import StagedScript.Proofs.Script.Progress
import StagedScript.Proofs.Script.Places
import StagedScript.Proofs.Script.Skipping
import StagedScript.Proofs.Script.Cascades
import StagedScript.Proofs.Script.Arithmetic
import StagedScript.Proofs.Files.ReadBack
import StagedScript.Proofs.Model.Persistence
import StagedScript.Proofs.Script.EmptyScopes
import StagedScript.Proofs.Script.Modes
import StagedScript.Proofs.Script.Adequacy
import StagedScript.Proofs.Script.Termination
import StagedScript.Proofs.Profile.Timers
import StagedScript.Proofs.Profile.Harvests
import StagedScript.Proofs.Run.Profiles
import StagedScript.Proofs.Report.Layout
import StagedScript.Proofs.Engine.Sources
import StagedScript.Proofs.Script.LineFeeds
import StagedScript.Proofs.Frames.Restoration
import StagedScript.Proofs.Script.WrittenIntegers
import StagedScript.Proofs.Model.Repositories
