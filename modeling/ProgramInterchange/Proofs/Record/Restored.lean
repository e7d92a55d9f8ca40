import ProgramInterchange.Proofs.Record.WrittenText

/-!
# Records that have been read

A text may spell a record in many ways. Whatever record is read from it, all its tags are named and its own text is
read as the same record, so a second reading and writing leaves a text as the first one did.
-/

namespace ProgramInterchange.Record

open ProgramInterchange.Wire
open LawfulWire FaithfulWire NamedTags

section

variable {α : Type} [Wire RecordName α]

/-- The text of the record that a text is read as. -/
def rewritten (α : Type) [Wire RecordName α] (input : List UInt8) : Except WireFault (List UInt8) :=
  (read input : Except WireFault α).map write

theorem rewritten_eq_ok_iff {input output : List UInt8} :
    rewritten α input = .ok output ↔ ∃ a : α, read input = .ok a ∧ write a = output := by
  unfold rewritten
  cases (read input : Except WireFault α) with
  | error fault => exact iff_of_false nofun nofun
  | ok a => simp [Except.map]

theorem nesting_le_of_read [FaithfulWire α] {input : List UInt8} {a : α} (h : read input = .ok a) :
    (value a).nesting ≤ nestingLimit := by
  obtain ⟨v, hv, ha⟩ := read_eq_ok_iff.mp h
  rw [value_of_member? ha]
  exact nesting_le_of_readAll hv

theorem canonicalTags_of_member? [LawfulWire α] [FaithfulWire α] {v : Value} {a : α} (h : member? v = some a) :
    canonicalTags a = a := by
  have back := member?_value a
  rw [value_of_member? h, h] at back
  exact (Option.some.inj back).symm

end

theorem Program.canonicalTags_of_member? {v : Value} {p : Program} (h : member? v = some p) :
    canonicalTags p = p := by
  rcases Program.value_of_member? h with rfl | ⟨none, rfl⟩
  · exact Option.some.inj ((member?_value p).symm.trans h)
  · obtain ⟨namespaces, entryPoints⟩ := p
    obtain rfl : entryPoints = [] := none
    exact Option.some.inj ((Program.member?_sparseValue namespaces).symm.trans h)

/-- What becomes of the texts that are read as records of a type. -/
structure Restores (α : Type) [Wire RecordName α] [LawfulWire α] [NamedTags α] : Prop where
  again {input : List UInt8} {a : α} (h : read input = .ok a) : read (write a) = .ok a
  named {input : List UInt8} {a : α} (h : read input = .ok a) : TagsNamed a
  once (input : List UInt8) : rewritten α input >>= rewritten α = rewritten α input

section

variable {α : Type} [Wire RecordName α] [LawfulWire α] [NamedTags α]

theorem restores_of_member? (fits : ∀ {input} {a : α}, read input = .ok a → (value a).nesting ≤ nestingLimit)
    (kept : ∀ {v} {a : α}, member? v = some a → canonicalTags a = a) : Restores α := by
  have same {input} {a : α} (h : read input = .ok a) : canonicalTags a = a := by
    obtain ⟨v, -, ha⟩ := read_eq_ok_iff.mp h
    exact kept ha
  have again {input} {a : α} (h : read input = .ok a) : read (write a) = .ok a := by
    rw [read_write, if_pos (fits h), same h]
  refine ⟨again, fun h => (canonicalTags_eq_iff _).mp (same h), fun input => ?_⟩
  cases first : rewritten α input with
  | error fault => rfl
  | ok output =>
    obtain ⟨a, ha, rfl⟩ := rewritten_eq_ok_iff.mp first
    exact rewritten_eq_ok_iff.mpr ⟨a, again ha, rfl⟩

theorem restores [FaithfulWire α] : Restores α := restores_of_member? nesting_le_of_read canonicalTags_of_member?

end

/-- Every record that has been read from a text is read again from its own text. -/
theorem records_restored :
    Restores Program ∧ Restores Namespace ∧ Restores NamespaceElement ∧ Restores DocumentationItem ∧
      Restores Callable ∧ Restores CustomType ∧ Restores Attribute ∧ Restores Modifiers ∧
      Restores ResolvedSignature ∧ Restores ArgumentTuple ∧ Restores (Tuple TypeItem) ∧ Restores TypeItem ∧
      Restores (LocalVariable LocalSymbol ResolvedType) ∧ Restores (LocalVariable String ResolvedType) ∧
      Restores LocalSymbol ∧ Restores ResolvedType ∧ Restores ResolvedTypeNode ∧ Restores (Arrow ResolvedType) ∧
      Restores (OperationType ResolvedType Information) ∧ Restores Information ∧ Restores Characteristics ∧
      Restores CharacteristicsNode ∧ Restores SetOperation ∧ Restores InferredExpressionInformation ∧
      Restores InferredCallableInformation ∧ Restores TypeParameter ∧ Restores UserDefinedType ∧
      Restores QualifiedName ∧ Restores Comments ∧ Restores Location ∧ Restores Range ∧ Restores Position := by
  have program : Restores Program :=
    restores_of_member? Program.nesting_le_of_read Program.canonicalTags_of_member?
  refine ⟨program, ?_⟩
  repeat' apply And.intro
  all_goals exact restores

/-- Text with an unknown member, white space and records in the form of lists. -/
def sparseText : List UInt8 :=
  Text.utf8 "\x7b \"x\" : [[]], \"namespaces\":[[\"N\", [[9,null,null]], []]] \x7d"

theorem restored_sparse :
    let p : Program := ⟨[⟨"N", [⟨.unrecognized 9, none, none⟩], []⟩], []⟩
    read sparseText = .ok p ∧ read (write p) = .ok p ∧ TagsNamed p := by
  intro p
  have h : (read sparseText : Except WireFault Program) = .ok p := by decide +kernel
  have restores : Restores Program := records_restored.1
  exact ⟨h, restores.again h, restores.named h⟩

end ProgramInterchange.Record
