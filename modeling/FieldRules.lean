import FieldRules.Text.Blank
import FieldRules.Text.Pieces
import FieldRules.Text.Quoted
import FieldRules.Text.Case
import FieldRules.Numeric.Decimal
import FieldRules.Numeric.Literal
import FieldRules.Json.Printer
import FieldRules.Json.Document
import FieldRules.Path
import FieldRules.Json.Key
import FieldRules.Issue
import FieldRules.Tag.Parser
import FieldRules.Registry.Basic
import FieldRules.Registry.Builtin
import FieldRules.Plan
import FieldRules.Value.Snapshot
import FieldRules.Value.Read
import FieldRules.Engine
import FieldRules.Settings.Overrides
import FieldRules.Pattern.Property
import FieldRules.Pattern.Tree
import FieldRules.Pattern.Cursor
import FieldRules.Pattern.ClassParser
import FieldRules.Pattern.Parser
import FieldRules.Pattern.Fold
import FieldRules.Yaml.Scan
import FieldRules.Yaml.Document
import FieldRules.Toml.Document
import FieldRules.Settings.File
import FieldRules.Proofs.Route
import FieldRules.Proofs.Sequence
import FieldRules.Proofs.Guard
import FieldRules.Proofs.Inspect
import FieldRules.Proofs.Plans
import FieldRules.Proofs.Unmapped
import FieldRules.Proofs.Agree
import FieldRules.Proofs.Annotations
import FieldRules.Proofs.Fresh
import FieldRules.Proofs.Descent
import FieldRules.Proofs.Cycle
import FieldRules.Proofs.Writes
import FieldRules.Proofs.Issues
import FieldRules.Proofs.RoundTrip
import FieldRules.Proofs.Transparent
import FieldRules.Proofs.Frame
import FieldRules.Proofs.Abort
import FieldRules.Proofs.Depth
import FieldRules.Proofs.Spelling
import FieldRules.Proofs.Settling
import FieldRules.Proofs.Proper
import FieldRules.Proofs.Rerun
import FieldRules.Proofs.Moments
import FieldRules.Proofs.CacheHistory
import FieldRules.Proofs.Limit
import FieldRules.Proofs.Wrappers
import FieldRules.Proofs.Elements
import FieldRules.Proofs.Faults
import FieldRules.Proofs.Coverage
import FieldRules.Proofs.Chains
import FieldRules.Proofs.Sharing
import FieldRules.Proofs.Bindings
import FieldRules.Proofs.Casing
import FieldRules.Proofs.Literals
import FieldRules.Proofs.Signatures
import FieldRules.Proofs.Zero
import FieldRules.Proofs.Bounds
import FieldRules.Proofs.DisplayNames
import FieldRules.Proofs.Intervals
import FieldRules.Proofs.Whereabouts
import FieldRules.Proofs.Lengths
import FieldRules.Proofs.Alignment
import FieldRules.Proofs.Layers
