import SchemaTypes.CommandLine.Arguments
import SchemaTypes.CommandLine.Run
import SchemaTypes.DataModel.Draft
import SchemaTypes.DataModel.Item
import SchemaTypes.DataModel.Name
import SchemaTypes.Disk
import SchemaTypes.Files.Error
import SchemaTypes.Files.Pattern
import SchemaTypes.Files.Search
import SchemaTypes.Files.Tree
import SchemaTypes.Fixtures
import SchemaTypes.Json.Basic
import SchemaTypes.Json.Fault
import SchemaTypes.Json.Pointer
import SchemaTypes.Json.Printer
import SchemaTypes.Json.Reader
import SchemaTypes.Keyed
import SchemaTypes.Location.Basic
import SchemaTypes.Location.Domain
import SchemaTypes.Location.FilePath
import SchemaTypes.Location.Host
import SchemaTypes.Location.Percent
import SchemaTypes.Location.Punycode
import SchemaTypes.Location.Url
import SchemaTypes.Main
import SchemaTypes.Number.Binary64
import SchemaTypes.Number.Shortest
import SchemaTypes.Number.Text
import SchemaTypes.Proofs.Absorption
import SchemaTypes.Proofs.Accounts
import SchemaTypes.Proofs.Body
import SchemaTypes.Proofs.Budget
import SchemaTypes.Proofs.Bundles
import SchemaTypes.Proofs.Compile
import SchemaTypes.Proofs.Congruence
import SchemaTypes.Proofs.Conjunction
import SchemaTypes.Proofs.Counterpart
import SchemaTypes.Proofs.Cycles
import SchemaTypes.Proofs.Decision
import SchemaTypes.Proofs.Dependency
import SchemaTypes.Proofs.Depth
import SchemaTypes.Proofs.Distinct
import SchemaTypes.Proofs.DocumentSize
import SchemaTypes.Proofs.Drafting
import SchemaTypes.Proofs.Emission
import SchemaTypes.Proofs.Enclosure
import SchemaTypes.Proofs.Equality
import SchemaTypes.Proofs.Escaping
import SchemaTypes.Proofs.Extension
import SchemaTypes.Proofs.Failing
import SchemaTypes.Proofs.Faithful
import SchemaTypes.Proofs.Faults
import SchemaTypes.Proofs.FieldNames
import SchemaTypes.Proofs.FileTermination
import SchemaTypes.Proofs.Following
import SchemaTypes.Proofs.Forms
import SchemaTypes.Proofs.Fragments
import SchemaTypes.Proofs.FreeNames
import SchemaTypes.Proofs.Harvest
import SchemaTypes.Proofs.InPlace
import SchemaTypes.Proofs.Inputs
import SchemaTypes.Proofs.Invariance
import SchemaTypes.Proofs.ItemNames
import SchemaTypes.Proofs.Joint
import SchemaTypes.Proofs.Keyed
import SchemaTypes.Proofs.Lexical
import SchemaTypes.Proofs.LocationKinds
import SchemaTypes.Proofs.Mirroring
import SchemaTypes.Proofs.Namesakes
import SchemaTypes.Proofs.Occurrences
import SchemaTypes.Proofs.OpenDocuments
import SchemaTypes.Proofs.OrderedSets
import SchemaTypes.Proofs.Ordering
import SchemaTypes.Proofs.Origin
import SchemaTypes.Proofs.Outstanding
import SchemaTypes.Proofs.Parts
import SchemaTypes.Proofs.Path
import SchemaTypes.Proofs.Plan
import SchemaTypes.Proofs.Predefined
import SchemaTypes.Proofs.Quiet
import SchemaTypes.Proofs.Reading
import SchemaTypes.Proofs.Referring
import SchemaTypes.Proofs.Refinement
import SchemaTypes.Proofs.Regrouping
import SchemaTypes.Proofs.Reordering
import SchemaTypes.Proofs.Reporting
import SchemaTypes.Proofs.Restatement
import SchemaTypes.Proofs.Restoration
import SchemaTypes.Proofs.Results
import SchemaTypes.Proofs.SameFile
import SchemaTypes.Proofs.Scope
import SchemaTypes.Proofs.Settled
import SchemaTypes.Proofs.Settling
import SchemaTypes.Proofs.Siblings
import SchemaTypes.Proofs.Simulation
import SchemaTypes.Proofs.Site
import SchemaTypes.Proofs.SourceLines
import SchemaTypes.Proofs.SourceReading
import SchemaTypes.Proofs.Standing
import SchemaTypes.Proofs.StructReading
import SchemaTypes.Proofs.Termination
import SchemaTypes.Proofs.Transparency
import SchemaTypes.Proofs.TypeEquality
import SchemaTypes.Proofs.UrlParts
import SchemaTypes.Proofs.Verdict
import SchemaTypes.Proofs.WellFormed
import SchemaTypes.Proofs.Whereabouts
import SchemaTypes.Schema.Compilation
import SchemaTypes.Schema.Compile
import SchemaTypes.Schema.Definitions
import SchemaTypes.Schema.Failure
import SchemaTypes.Schema.Files
import SchemaTypes.Schema.Journal
import SchemaTypes.Schema.Loader
import SchemaTypes.Schema.Node
import SchemaTypes.Schema.Object
import SchemaTypes.Schema.Plan
import SchemaTypes.Schema.Position
import SchemaTypes.Schema.Reference
import SchemaTypes.Schema.Scalar
import SchemaTypes.Schema.Scope
import SchemaTypes.Text.Extending
import SchemaTypes.Text.Lines
import SchemaTypes.Text.Quoted
import SchemaTypes.Text.Ranges
import SchemaTypes.Text.Unprintable
import SchemaTypes.Text.Utf8
import SchemaTypes.Ty.Basic
import SchemaTypes.Ty.Form
import SchemaTypes.Ty.Merge
import SchemaTypes.Ty.Notation
import SchemaTypes.Ty.Schema
