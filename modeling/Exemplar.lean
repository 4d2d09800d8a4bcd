import Exemplar.Disk.FileTree
import Exemplar.Main
import Exemplar.Proofs.Discovery.Steps
import Exemplar.Proofs.Discovery.Walk
import Exemplar.Proofs.Discovery.Visits
import Exemplar.Proofs.Discovery.Records
import Exemplar.Proofs.Discovery.Slots
import Exemplar.Proofs.Discovery.Fields
import Exemplar.Proofs.Discovery.Known
import Exemplar.Proofs.Admission
import Exemplar.Proofs.Resolution
import Exemplar.Proofs.Typing
import Exemplar.Proofs.References
import Exemplar.Proofs.Disk.Places
import Exemplar.Proofs.Disk.Descents
import Exemplar.Proofs.Disk.Standing
import Exemplar.Proofs.Disk.Growth
import Exemplar.Proofs.Sink.Writing
import Exemplar.Proofs.Sink.Rollback
import Exemplar.Proofs.Sink.Sessions
import Exemplar.Proofs.Sink.Survival
import Exemplar.Proofs.Naming.PlainNames
import Exemplar.Proofs.Source.JavaNames
import Exemplar.Proofs.Discovery.Reordering
import Exemplar.Proofs.Discovery.MergingOrders
import Exemplar.Proofs.KeyOrder
import Exemplar.Proofs.Source.JavaMembers
import Exemplar.Proofs.Naming.SnakeNames
import Exemplar.Proofs.Source.RustModules
import Exemplar.Proofs.Text.Unescaping
import Exemplar.Proofs.Source.JavaLiterals
import Exemplar.Proofs.Source.RustLiterals
import Exemplar.Proofs.Source.RustUnits
import Exemplar.Proofs.Source.WireNames
import Exemplar.Proofs.Skeletons
import Exemplar.Proofs.Stages
import Exemplar.Proofs.FieldPrefixes
import Exemplar.Proofs.Delivery
import Exemplar.Proofs.Source.RustImports
import Exemplar.Proofs.Discovery.Growth
import Exemplar.Proofs.Source.RustLayout
import Exemplar.Proofs.Collection
import Exemplar.Proofs.Source.Confinement
import Exemplar.Proofs.Source.RustMembers
import Exemplar.Proofs.Settling
import Exemplar.Proofs.Discovery.Shapes
import Exemplar.Proofs.Repetition
import Exemplar.Proofs.CommandLine.Scenes
import Exemplar.Proofs.Sink.Output
import Exemplar.Proofs.Source.LastLines
import Exemplar.Proofs.Runs
import Exemplar.Proofs.CommandLine.Endings
import Exemplar.Proofs.CommandLine.Fidelity
import Exemplar.Proofs.Discovery.ListRoots
import Exemplar.Proofs.Discovery.Mismatches
import Exemplar.Proofs.Discovery.Series
import Exemplar.Proofs.Cancellation
import Exemplar.Proofs.Fallbacks
import Exemplar.Proofs.Naming.Positions
import Exemplar.Proofs.Naming.SecondPass
import Exemplar.Proofs.Naming.AsciiNames
import Exemplar.Proofs.Discovery.Keys
import Exemplar.Proofs.Source.RustMethods
import Exemplar.Proofs.Source.JavaIdentifiers
import Exemplar.Proofs.Source.RustIdentifiers
import Exemplar.Proofs.Source.FileUnits
import Exemplar.Proofs.Source.TypeNames
import Exemplar.Proofs.Naming.SingularCase
import Exemplar.Proofs.Naming.CompoundNames
import Exemplar.Proofs.Naming.LetterlessNames
import Exemplar.Proofs.Magnitudes
import Exemplar.Proofs.Discovery.FirstElements
import Exemplar.Proofs.Json.Extents
import Exemplar.Proofs.OptionTexts
import Exemplar.Proofs.Source.Packages
import Exemplar.Proofs.Source.GeneratorMarks
import Exemplar.Proofs.Sink.Histories
import Exemplar.Proofs.Discovery.Descriptions
import Exemplar.Proofs.Source.FileBlocks
