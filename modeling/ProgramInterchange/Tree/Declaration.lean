import ProgramInterchange.Tree.Tuple
import ProgramInterchange.Tree.Type

/-!
# Declarations of a program tree

Callables and custom types, and what they are made of.
-/

namespace ProgramInterchange.Tree

inductive Access where
  | default
  | internal
  deriving DecidableEq, Repr

structure Modifiers where
  access : Access
  deriving DecidableEq, Repr

inductive CallableKind where
  | operation
  | function
  | typeConstructor
  deriving DecidableEq, Repr

/-- A local name, or what an invalid one leaves behind. -/
inductive LocalSymbol where
  | valid (name : String)
  | invalid
  deriving DecidableEq, Repr

/-- A part of a custom type, with or without a name. -/
inductive TypeItem where
  | named (declaration : LocalVariable String ResolvedType)
  | anonymous (type : ResolvedType)
  deriving DecidableEq

/-- What is kept of the argument of an attribute: its type and extent. -/
structure AttributeArgument where
  resolvedType : ResolvedType
  range : Option Range
  deriving DecidableEq

structure Attribute where
  typeId : Option UserDefinedType
  typeIdRange : Option Range
  argument : AttributeArgument
  offset : Position
  comments : Comments
  deriving DecidableEq

abbrev ResolvedSignature := Signature LocalSymbol ResolvedType Characteristics

inductive SpecializationKind where
  | body
  | adjoint
  | controlled
  | controlledAdjoint
  deriving DecidableEq, Repr

structure Specialization where
  kind : SpecializationKind
  parent : QualifiedName
  attributes : List Attribute
  sourceFile : String
  location : Option Location
  typeArguments : Option (List ResolvedType)
  signature : ResolvedSignature
  documentation : List String
  comments : Comments
  deriving DecidableEq

structure Callable where
  kind : CallableKind
  fullName : QualifiedName
  attributes : List Attribute
  modifiers : Modifiers
  sourceFile : String
  location : Option Location
  signature : ResolvedSignature
  argumentTuple : Tuple (LocalVariable LocalSymbol ResolvedType)
  specializations : List Specialization
  documentation : List String
  comments : Comments
  deriving DecidableEq

structure CustomType where
  fullName : QualifiedName
  attributes : List Attribute
  modifiers : Modifiers
  sourceFile : String
  location : Option Location
  underlyingType : ResolvedType
  typeItems : Tuple TypeItem
  documentation : List String
  comments : Comments
  deriving DecidableEq

/-! ### Placeholders -/

def Modifiers.placeholder : Modifiers := ⟨.default⟩

def signaturePlaceholder : ResolvedSignature := ⟨[], .invalid, .invalid, plainInformation⟩

/-- The argument of an attribute, which no record carries. -/
def AttributeArgument.placeholder : AttributeArgument := ⟨.invalid, none⟩

end ProgramInterchange.Tree
