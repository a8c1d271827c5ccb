import TypedImp.Frontend
import TypedImp.Parse.Session
import TypedImp.Text.Cursor
import TypedImp.Proofs.ScopeGrowth
import TypedImp.Proofs.CallDepth
import TypedImp.Proofs.Computation
import TypedImp.Proofs.Failures
import TypedImp.Proofs.Typing
import TypedImp.Proofs.Resolution
import TypedImp.Proofs.Draining
import TypedImp.Proofs.FirstPass
import TypedImp.Proofs.ReachableStates
import TypedImp.Proofs.Agreement
import TypedImp.Proofs.Standing
import TypedImp.Proofs.Decisions
import TypedImp.Proofs.Fitting
import TypedImp.Proofs.WellTyped
import TypedImp.Proofs.CallLimit
import TypedImp.Proofs.Parsing
import TypedImp.Proofs.Spelling
import TypedImp.Proofs.Lexemes
import TypedImp.Proofs.Language
import TypedImp.Proofs.Precedence
import TypedImp.Proofs.Spacing
import TypedImp.Proofs.RoundTrip
import TypedImp.Proofs.Prompt
import TypedImp.Proofs.PromptExpr
import TypedImp.Proofs.PromptStmt
import TypedImp.Proofs.ParseOutcome
import TypedImp.Proofs.RegularTrees
import TypedImp.Proofs.RegularAnalysis
import TypedImp.Proofs.Recording
import TypedImp.Proofs.Contexts
import TypedImp.Proofs.CallSites
import TypedImp.Proofs.Queueing
import TypedImp.Proofs.Census
import TypedImp.Proofs.ScopeLinks
import TypedImp.Proofs.Blocks
import TypedImp.Proofs.ScopeMirror
import TypedImp.Proofs.Gaps
import TypedImp.Proofs.Partition
import TypedImp.Proofs.Placeless
import TypedImp.Proofs.Respelling
import TypedImp.Proofs.Renaming
import TypedImp.Proofs.Translation
import TypedImp.Proofs.OpaqueNames
import TypedImp.Proofs.Nesting
import TypedImp.Proofs.Hoisting
import TypedImp.Proofs.Violations
import TypedImp.Proofs.Uses
import TypedImp.Proofs.Reports
import TypedImp.Proofs.Concatenation
import TypedImp.Proofs.Regex
import TypedImp.Proofs.StrayCharacters
import TypedImp.Proofs.Lines
import TypedImp.Proofs.Declaring
import TypedImp.Proofs.CallCycles
import TypedImp.Proofs.Balance
import TypedImp.Proofs.Progress
import TypedImp.Proofs.Moves
