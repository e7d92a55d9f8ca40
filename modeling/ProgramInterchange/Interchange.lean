import ProgramInterchange.Conversion.ToRecord
import ProgramInterchange.Conversion.ToTree
import ProgramInterchange.Record.Wire

/-!
# Programs as wire text

Writing a program tree and reading one back, in one step each.
-/

namespace ProgramInterchange

/-- The wire text of a program under a profile. -/
def serialize (profile : Profile) (p : Tree.Program) : List UInt8 :=
  Record.write (p.toRecord profile)

/-- The program of a wire text, with the events of rebuilding it. Text that cannot be read gives none. -/
def deserializeLogged (input : List UInt8) : Record.LoggedExcept Tree.Program :=
  match (Record.read input : Except WireFault Record.Program) with
  | .error fault => throw (.wire fault)
  | .ok p => p.toTreeLogged

def deserialize (input : List UInt8) : Except Fault Tree.Program :=
  match (Record.read input : Except WireFault Record.Program) with
  | .error fault => .error (.wire fault)
  | .ok p => p.toTree

end ProgramInterchange
