import ProgramInterchange.Proofs.Record.Lawful.Program
import ProgramInterchange.Record.Inner

/-!
# Laws of inner records on the wire

The records that occur in other ones only are got back from their values too, and so are type nodes.
-/

namespace ProgramInterchange.Record

open ProgramInterchange.Wire
open LawfulWire FaithfulWire NeverAbsent

/-! ### Characteristics -/

instance : NeverAbsent Characteristics where
  value_ne_absent c := by
    rw [Characteristics.value_eq]
    exact record_ne_absent _

instance : LawfulWire SetOperation := .ofFields

instance : FaithfulWire SetOperation := .ofFields

instance : NeverAbsent SetOperation := .ofFields

instance : LawfulWire CharacteristicsNode := .ofFields

instance : FaithfulWire CharacteristicsNode := .ofFields

/-! ### Arrows and type nodes -/

section

variable {D U P C : Type} [Wire RecordName D] [Wire RecordName U] [Wire RecordName P] [Wire RecordName C]

instance [LawfulWire D] : LawfulWire (Arrow D) where
  canonicalTags := Arrow.map canonicalTags
  conforms _ := Arrow.conforms_writeWith fun d _ => conforms d
  member?_value _ := Arrow.readWith_writeWith fun d _ => member?_value d

instance [LawfulWire D] [LawfulWire C] : LawfulWire (OperationType D C) where
  canonicalTags := OperationType.map canonicalTags canonicalTags
  conforms _ := OperationType.conforms_writeWith fun d _ => conforms d
  member?_value _ := OperationType.readWith_writeWith fun d _ => member?_value d

instance [FaithfulWire D] : FaithfulWire (Arrow D) where
  value_of_member? h := Arrow.writeWith_of_readWith h fun _ _ _ => value_of_member?

instance [FaithfulWire D] [FaithfulWire C] : FaithfulWire (OperationType D C) where
  value_of_member? h := OperationType.writeWith_of_readWith h fun _ _ _ => value_of_member?

instance [FaithfulWire D] [FaithfulWire U] [FaithfulWire P] [FaithfulWire C] :
    FaithfulWire (TypeNode D U P C) where
  value_of_member? h := TypeNode.writeWith_of_readWith h fun _ _ _ => value_of_member?

end

end ProgramInterchange.Record
