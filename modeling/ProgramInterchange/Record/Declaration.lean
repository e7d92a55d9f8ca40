import ProgramInterchange.Record.Tuple
import ProgramInterchange.Record.Type

/-!
# Declaration records

The portable form of declarations. The fields that only the full profile writes are optional here, and
absent where the minimal profile was used.
-/

namespace ProgramInterchange.Record

open ProgramInterchange.Tree (Access CallableKind)

structure Modifiers where
  access : Tag Access
  deriving DecidableEq, Repr

structure LocalSymbol where
  kind : Tag SymbolTag
  name : Option String
  deriving DecidableEq, Repr

structure TypeItem where
  kind : Tag ItemTag
  named : Option (LocalVariable String ResolvedType)
  anonymous : Option ResolvedType
  deriving DecidableEq

/-- An attribute of a declaration, without its argument. -/
structure Attribute where
  typeId : Option UserDefinedType
  typeIdRange : Option Range
  offset : Position
  comments : Comments
  deriving DecidableEq, Repr

abbrev ResolvedSignature := Signature LocalSymbol ResolvedType Characteristics

abbrev ArgumentTuple := Tuple (LocalVariable LocalSymbol ResolvedType)

structure Callable where
  kind : Tag CallableKind
  fullName : QualifiedName
  attributes : Option (List Attribute)
  modifiers : Option Modifiers
  sourceFile : String
  location : Option Location
  signature : Option ResolvedSignature
  argumentTuple : Option ArgumentTuple
  documentation : List String
  comments : Comments
  deriving DecidableEq

structure CustomType where
  fullName : QualifiedName
  attributes : Option (List Attribute)
  modifiers : Option Modifiers
  sourceFile : String
  location : Option Location
  underlyingType : Option ResolvedType
  typeItems : Option (Tuple TypeItem)
  documentation : List String
  comments : Comments
  deriving DecidableEq

end ProgramInterchange.Record
