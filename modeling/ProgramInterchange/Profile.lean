/-!
# Profiles

How much of a declaration its record carries.
-/

namespace ProgramInterchange

inductive Profile where
  /-- Names, places, documentation and comments. -/
  | minimal
  /-- Everything a record can carry. -/
  | full
  deriving DecidableEq, Repr

namespace Profile

def standard : Profile := full

def name : Profile → String
  | minimal => "minimal"
  | full => "full"

def all : List Profile := [minimal, full]

def ofName? (s : String) : Option Profile := all.find? fun p => p.name = s

def title : Profile → String
  | minimal => "Minimal"
  | full => "Full"

/-- What the full profile writes and the minimal one leaves out. -/
def keep {α : Type} (profile : Profile) (value : α) : Option α :=
  match profile with
  | minimal => none
  | full => some value

end Profile

end ProgramInterchange
