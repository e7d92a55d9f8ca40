import ProgramInterchange.Name
import ProgramInterchange.Source

/-!
# References to types

How a type mentions a declared type or a type parameter of the enclosing callable.
-/

namespace ProgramInterchange

structure UserDefinedType where
  space : String
  name : String
  range : Option Range
  deriving DecidableEq, Repr

/-- A mention of a type parameter; `origin` is the callable that declares it. -/
structure TypeParameter where
  origin : QualifiedName
  typeName : String
  range : Option Range
  deriving DecidableEq, Repr

namespace UserDefinedType

/-- The reference itself, if both parts of its name are identifiers. -/
def checked (u : UserDefinedType) : Except Fault UserDefinedType := do
  let space ← requireIdentifier "UserDefinedType.namespace" u.space
  let name ← requireIdentifier "UserDefinedType.name" u.name
  return ⟨space, name, u.range⟩

end UserDefinedType

namespace TypeParameter

/-- The reference itself, if all its names are identifiers. -/
def checked (p : TypeParameter) : Except Fault TypeParameter := do
  let origin ← QualifiedName.checked p.origin.space p.origin.name
  let typeName ← requireIdentifier "TypeParameter.type_name" p.typeName
  return ⟨origin, typeName, p.range⟩

end TypeParameter

end ProgramInterchange
