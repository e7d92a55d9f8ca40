import ProgramInterchange.Configuration
import ProgramInterchange.Interchange
import ProgramInterchange.Record.Inner
import ProgramInterchange.Record.Published
import ProgramInterchange.Walk.Recorder
import ProgramInterchange.Proofs.Computation
import ProgramInterchange.Proofs.Name
import ProgramInterchange.Proofs.Tree.Documentation
import ProgramInterchange.Proofs.Tree.Members
import ProgramInterchange.Proofs.Conversion.RoundTrip
import ProgramInterchange.Proofs.Record.Faults
import ProgramInterchange.Proofs.Record.FaultKinds
import ProgramInterchange.Proofs.Record.Canonical
import ProgramInterchange.Proofs.Conversion.Canonical
import ProgramInterchange.Proofs.Conversion.Selected
import ProgramInterchange.Proofs.Conversion.Omission
import ProgramInterchange.Proofs.Conversion.Documentation
import ProgramInterchange.Proofs.Conversion.FileOrder
import ProgramInterchange.Proofs.Conversion.Sound
import ProgramInterchange.Proofs.Conversion.Content
import ProgramInterchange.Proofs.Conversion.Injective
import ProgramInterchange.Proofs.Conversion.Events
import ProgramInterchange.Proofs.Conversion.Members
import ProgramInterchange.Proofs.Scan.Token
import ProgramInterchange.Proofs.Scan.Number
import ProgramInterchange.Proofs.Scan.Text
import ProgramInterchange.Proofs.Scan.Skipped
import ProgramInterchange.Proofs.Json.Brackets
import ProgramInterchange.Proofs.Json.Injective
import ProgramInterchange.Proofs.Wire.Conforms
import ProgramInterchange.Proofs.Wire.Spelling
import ProgramInterchange.Proofs.Wire.Object
import ProgramInterchange.Proofs.Wire.Spelled
import ProgramInterchange.Proofs.Wire.Written
import ProgramInterchange.Proofs.Wire.Budget
import ProgramInterchange.Proofs.Record.Lawful.Basic
import ProgramInterchange.Proofs.Record.Lawful.Type
import ProgramInterchange.Proofs.Record.Lawful.Program
import ProgramInterchange.Proofs.Record.Lawful.Inner
import ProgramInterchange.Proofs.Record.Lawful.Named
import ProgramInterchange.Proofs.Record.Nesting
import ProgramInterchange.Proofs.Record.Reread
import ProgramInterchange.Proofs.Record.WrittenText
import ProgramInterchange.Proofs.Record.Restored
import ProgramInterchange.Proofs.Record.Spelling
import ProgramInterchange.Proofs.Record.WellTagged
import ProgramInterchange.Proofs.Conversion.WellTagged
import ProgramInterchange.Proofs.Conversion.TypeNodes
import ProgramInterchange.Proofs.Reload
import ProgramInterchange.Proofs.Transparent
import ProgramInterchange.Proofs.SameText
import ProgramInterchange.Proofs.Walk.Calls
import ProgramInterchange.Proofs.Walk.Payload
import ProgramInterchange.Proofs.Walk.TypeKind
import ProgramInterchange.Proofs.Walk.Fusion
import ProgramInterchange.Proofs.Walk.Tuple
