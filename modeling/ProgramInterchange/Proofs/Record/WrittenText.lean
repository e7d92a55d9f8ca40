import ProgramInterchange.Proofs.Json.Brackets
import ProgramInterchange.Proofs.Record.Lawful.Named
import ProgramInterchange.Proofs.Record.Reread

/-!
# What the text of a record tells

Whether a record is read again shows in its text: the brackets must not nest deeper than the reader follows them.
The record that is read has the same text, and differs from the one written in tags that are not named only.
-/

namespace ProgramInterchange.Record

open ProgramInterchange.Json (bracketNesting)
open ProgramInterchange.Wire
open LawfulWire FaithfulWire NamedTags

section

variable {α : Type} [Wire RecordName α] [LawfulWire α]

theorem bracketNesting_write (a : α) : bracketNesting (write a) = (value a).nesting := by
  have rendered : bracketNesting (write a) = (document (shapeOf α) (value a)).nesting :=
    Json.bracketNesting_render _
  rw [rendered, nesting_document (conforms a)]

/-- Records of one value are read as one. -/
theorem canonicalTags_eq_of_value_eq {a b : α} (h : value a = value b) : canonicalTags a = canonicalTags b := by
  have back := member?_value a
  rw [h, member?_value b] at back
  exact (Option.some.inj back).symm

/-- Records of one text are read as one, also where the text nests too deep to be read. -/
theorem canonicalTags_eq_of_write_eq {a b : α} (h : write a = write b) : canonicalTags a = canonicalTags b :=
  canonicalTags_eq_of_value_eq (eq_of_render_eq (conforms a) (conforms b) h)

end

theorem value_canonicalTags {α : Type} [Wire RecordName α] [LawfulWire α] [FaithfulWire α] (a : α) :
    value (canonicalTags a) = value a :=
  value_of_member? (member?_value a)

theorem Program.value_canonicalTags (p : Program) : value (canonicalTags p) = value p := by
  have namespaces := Record.value_canonicalTags p.namespaces
  have entryPoints := Record.value_canonicalTags p.entryPoints
  show Value.record [value (canonicalTags p.namespaces), value (canonicalTags p.entryPoints)] =
    Value.record [value p.namespaces, value p.entryPoints]
  rw [namespaces, entryPoints]

/-- What becomes of the records of a type that are written and read again. -/
structure Rereads (α : Type) [Wire RecordName α] [LawfulWire α] [NamedTags α] : Prop where
  again (a : α) : read (write a) =
    if bracketNesting (write a) ≤ 127 then .ok (canonicalTags a) else .error .recursionLimit
  same_text (a : α) : write (canonicalTags a) = write a
  named (a : α) : TagsNamed (canonicalTags a)
  unchanged_iff (a : α) : canonicalTags a = a ↔ TagsNamed a

section

variable {α : Type} [Wire RecordName α] [LawfulWire α] [NamedTags α]

theorem rereads_of_value_canonicalTags (same : ∀ a : α, value (canonicalTags a) = value a) : Rereads α where
  again a := by
    have limit : nestingLimit = 127 := rfl
    rw [read_write, bracketNesting_write, limit]
  same_text a := by
    show (document (shapeOf α) (value (canonicalTags a))).render = (document (shapeOf α) (value a)).render
    rw [same a]
  named a := (canonicalTags_eq_iff _).mp (canonicalTags_eq_of_value_eq (same a))
  unchanged_iff := canonicalTags_eq_iff

theorem rereads [FaithfulWire α] : Rereads α := rereads_of_value_canonicalTags value_canonicalTags

end

/-- Every record that is written is read again with its tags named, unless its brackets nest too deep. -/
theorem records_reread :
    Rereads Program ∧ Rereads Namespace ∧ Rereads NamespaceElement ∧ Rereads DocumentationItem ∧
      Rereads Callable ∧ Rereads CustomType ∧ Rereads Attribute ∧ Rereads Modifiers ∧
      Rereads ResolvedSignature ∧ Rereads ArgumentTuple ∧ Rereads (Tuple TypeItem) ∧ Rereads TypeItem ∧
      Rereads (LocalVariable LocalSymbol ResolvedType) ∧ Rereads (LocalVariable String ResolvedType) ∧
      Rereads LocalSymbol ∧ Rereads ResolvedType ∧ Rereads ResolvedTypeNode ∧ Rereads (Arrow ResolvedType) ∧
      Rereads (OperationType ResolvedType Information) ∧ Rereads Information ∧ Rereads Characteristics ∧
      Rereads CharacteristicsNode ∧ Rereads SetOperation ∧ Rereads InferredExpressionInformation ∧
      Rereads InferredCallableInformation ∧ Rereads TypeParameter ∧ Rereads UserDefinedType ∧
      Rereads QualifiedName ∧ Rereads Comments ∧ Rereads Location ∧ Rereads Range ∧ Rereads Position := by
  have program : Rereads Program := rereads_of_value_canonicalTags Program.value_canonicalTags
  refine ⟨program, ?_⟩
  repeat' apply And.intro
  all_goals exact rereads

end ProgramInterchange.Record
