import ProgramInterchange.Record.Wire

/-!
# Records inside records

Arrows, operations, set operations and the nodes of characteristics expressions occur in other records only.
Here they have a wire form of their own.
-/

namespace ProgramInterchange.Record

open ProgramInterchange.Wire (Value)
open ProgramInterchange.Tree (OpProperty)

/-! ### Characteristics -/

structure SetOperation where
  lhs : Characteristics
  rhs : Characteristics
  deriving DecidableEq, Repr

structure CharacteristicsNode where
  kind : Tag CharacteristicsTag
  simpleSet : Option (Tag OpProperty)
  setOperation : Option SetOperation
  deriving DecidableEq, Repr

def Characteristics.expression (c : Characteristics) : CharacteristicsNode :=
  ⟨c.kind, c.simpleSet, c.setOperation.map fun sides => ⟨sides.1, sides.2⟩⟩

instance : Fielded SetOperation (Characteristics × Characteristics × Unit) where
  name := .setOperation
  toFields r := (r.lhs, r.rhs, ())
  ofFields := fun (lhs, rhs, ()) => ⟨lhs, rhs⟩

instance : Wire RecordName SetOperation := Fielded.wire

instance : Fielded CharacteristicsNode
    (Tag CharacteristicsTag × Option (Tag OpProperty) × Option SetOperation × Unit) where
  name := .characteristicsNode
  toFields r := (r.kind, r.simpleSet, r.setOperation, ())
  ofFields := fun (kind, simpleSet, setOperation, ()) => ⟨kind, simpleSet, setOperation⟩

instance : Wire RecordName CharacteristicsNode := Fielded.wire

/-- An expression is written as a record around its node. -/
theorem Characteristics.value_eq (c : Characteristics) : value c = .record [value c.expression] := by
  cases c <;> rfl

/-! ### Arrows -/

section

variable {D C : Type} [Wire RecordName D] [Wire RecordName C]

instance : Wire RecordName (Arrow D) where
  shape := .record (.arrow (shapeOf D))
  toValue a := (a.map value).toValue
  ofValue? v := Arrow.ofValue? v fun w _ => member? w

instance : Wire RecordName (OperationType D C) where
  shape := .record (.operationType (shapeOf D) (shapeOf C))
  toValue o := (o.map value value).toValue
  ofValue? v := OperationType.ofValue? v fun w _ => member? w

/-- The sides and the payloads of a type node are written the same inside it as on their own. -/
theorem TypeNode.value_eq {U P : Type} [Wire RecordName U] [Wire RecordName P] (n : TypeNode D U P C) :
    value n = .record [value n.kind, value n.arrayType, value n.tupleType, value n.userDefinedType,
      value n.typeParameter, value n.operation, value n.function] := by
  obtain ⟨kind, arrayType, tupleType, userDefinedType, typeParameter, operation, function⟩ := n
  cases arrayType <;> cases tupleType <;> cases userDefinedType <;> cases typeParameter <;>
    cases operation <;> cases function <;> rfl

end

end ProgramInterchange.Record
