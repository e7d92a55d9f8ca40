import ProgramInterchange.Tag
import ProgramInterchange.Tree.Declaration

/-!
# The tags of the records

One enumeration for each tagged record, naming its alternatives, and the enumerations of a tree that
travel as they are.
-/

namespace ProgramInterchange.Record

open ProgramInterchange.Tree (LeafType OpProperty CallableKind Access)

inductive TypeTag where
  | leaf (type : LeafType)
  | array
  | tuple
  | userDefined
  | parameter
  | operation
  | function
  deriving DecidableEq, Repr

inductive CharacteristicsTag where
  | emptySet
  | simpleSet
  | union
  | intersection
  | invalid
  deriving DecidableEq, Repr

inductive ElementTag where
  | callable
  | customType
  deriving DecidableEq, Repr

inductive SymbolTag where
  | valid
  | invalid
  deriving DecidableEq, Repr

inductive TupleTag where
  | item
  | group
  deriving DecidableEq, Repr

inductive ItemTag where
  | named
  | anonymous
  deriving DecidableEq, Repr

instance : Coded TypeTag where
  title := "TypeKind"
  all := [.leaf .unit, .leaf .int, .leaf .bigInt, .leaf .double, .leaf .bool, .leaf .string,
    .leaf .qubit, .leaf .result, .leaf .pauli, .leaf .range, .array, .tuple, .userDefined, .parameter,
    .operation, .function, .leaf .invalid, .leaf .missing, .leaf .placeholder]
  name
    | .leaf .unit => "UnitType"
    | .leaf .int => "Int"
    | .leaf .bigInt => "BigInt"
    | .leaf .double => "Double"
    | .leaf .bool => "Bool"
    | .leaf .string => "String"
    | .leaf .qubit => "Qubit"
    | .leaf .result => "Result"
    | .leaf .pauli => "Pauli"
    | .leaf .range => "Range"
    | .array => "ArrayType"
    | .tuple => "TupleType"
    | .userDefined => "UserDefinedType"
    | .parameter => "TypeParameter"
    | .operation => "Operation"
    | .function => "Function"
    | .leaf .invalid => "InvalidType"
    | .leaf .missing => "MissingType"
    | .leaf .placeholder => "PlaceholderType"
  mem_all a := by cases a with
    | leaf type => cases type <;> decide
    | _ => decide
  nodup := by decide
  length_lt := by decide

instance : Coded CharacteristicsTag where
  title := "CharacteristicsKind"
  all := [.emptySet, .simpleSet, .union, .intersection, .invalid]
  name
    | .emptySet => "EmptySet"
    | .simpleSet => "SimpleSet"
    | .union => "Union"
    | .intersection => "Intersection"
    | .invalid => "InvalidSetExpr"
  mem_all a := by cases a <;> decide
  nodup := by decide
  length_lt := by decide

instance : Coded OpProperty where
  title := "OpProperty"
  all := [.adjointable, .controllable]
  name
    | .adjointable => "Adjointable"
    | .controllable => "Controllable"
  mem_all a := by cases a <;> decide
  nodup := by decide
  length_lt := by decide

instance : Coded ElementTag where
  title := "NamespaceElementKind"
  all := [.callable, .customType]
  name
    | .callable => "Callable"
    | .customType => "CustomType"
  mem_all a := by cases a <;> decide
  nodup := by decide
  length_lt := by decide

instance : Coded CallableKind where
  title := "CallableKind"
  all := [.operation, .function, .typeConstructor]
  name
    | .operation => "Operation"
    | .function => "Function"
    | .typeConstructor => "TypeConstructor"
  mem_all a := by cases a <;> decide
  nodup := by decide
  length_lt := by decide

instance : Coded SymbolTag where
  title := "LocalSymbolKind"
  all := [.valid, .invalid]
  name
    | .valid => "ValidName"
    | .invalid => "InvalidName"
  mem_all a := by cases a <;> decide
  nodup := by decide
  length_lt := by decide

instance : Coded Access where
  title := "AccessModifier"
  all := [.default, .internal]
  name
    | .default => "DefaultAccess"
    | .internal => "Internal"
  mem_all a := by cases a <;> decide
  nodup := by decide
  length_lt := by decide

instance : Coded TupleTag where
  title := "QsTupleKind"
  all := [.item, .group]
  name
    | .item => "Item"
    | .group => "Tuple"
  mem_all a := by cases a <;> decide
  nodup := by decide
  length_lt := by decide

instance : Coded ItemTag where
  title := "TypeItemKind"
  all := [.named, .anonymous]
  name
    | .named => "Named"
    | .anonymous => "Anonymous"
  mem_all a := by cases a <;> decide
  nodup := by decide
  length_lt := by decide

end ProgramInterchange.Record
