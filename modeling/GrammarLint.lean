import GrammarLint.Main
import GrammarLint.Sandbox.Bench
import GrammarLint.Sandbox.Script
import GrammarLint.Log.Pattern
import GrammarLint.Proofs.Pipeline.Debouncer
import GrammarLint.Proofs.Pipeline.Reaction
import GrammarLint.Proofs.Pipeline.History
import GrammarLint.Proofs.Pipeline.Calls
import GrammarLint.Proofs.Pipeline.Window
import GrammarLint.Proofs.Json.Literal
import GrammarLint.Proofs.Json.StringMap
import GrammarLint.Proofs.Sandbox.Disk
import GrammarLint.Proofs.Store.Entries
import GrammarLint.Proofs.Sandbox.Machine
import GrammarLint.Proofs.Session.Vault
import GrammarLint.Proofs.Session.Durability
import GrammarLint.Proofs.Session.Passage
import GrammarLint.Proofs.Session.Settings
import GrammarLint.Proofs.Session.Startup
import GrammarLint.Proofs.Session.Watch
import GrammarLint.Proofs.Session.Restart
import GrammarLint.Proofs.Pipeline.LastGood
import GrammarLint.Proofs.Json.Grammar
import GrammarLint.Proofs.Json.Scan
import GrammarLint.Proofs.Json.Reader
import GrammarLint.Proofs.Json.Skip
import GrammarLint.Proofs.Json.Record
import GrammarLint.Proofs.Json.Writer
import GrammarLint.Proofs.Analysis.Format
import GrammarLint.Proofs.Analysis.RoundTrip
import GrammarLint.Proofs.Session.Opening
import GrammarLint.Proofs.Pipeline.Persistence
import GrammarLint.Proofs.Session.Request
import GrammarLint.Proofs.Session.Lint
import GrammarLint.Proofs.Session.Loop
import GrammarLint.Proofs.Pipeline.Phase
import GrammarLint.Proofs.Pipeline.TwoStage
import GrammarLint.Proofs.Pipeline.Forgetting
import GrammarLint.Proofs.Json.OneLine
import GrammarLint.Proofs.Report.Reading
import GrammarLint.Proofs.Session.Framing
import GrammarLint.Proofs.Session.StateFile
import GrammarLint.Proofs.Sandbox.Mortal
import GrammarLint.Proofs.Session.CrashSafety
import GrammarLint.Proofs.Text.Bytes
import GrammarLint.Proofs.Text.Lines
import GrammarLint.Proofs.Text.Offset
import GrammarLint.Proofs.Diagnostic.Span
import GrammarLint.Proofs.Pipeline.Activation
import GrammarLint.Proofs.Report.Pretty
import GrammarLint.Proofs.Text.Lookup
import GrammarLint.Proofs.Pipeline.Fates
import GrammarLint.Proofs.Store.Memory
