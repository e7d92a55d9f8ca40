import Mathlib.Data.List.Forall2
import ProgramInterchange.Proofs.Wire.Conforms
import ProgramInterchange.Record.Wire

/-!
# Laws of the records on the wire

Every record becomes a value of its layout and is got back from it, up to the tags that spell a known number
as an unknown one. Here are the laws, the types of every format, and the records that consist of lawful fields.
-/

namespace ProgramInterchange.Record

open ProgramInterchange.Wire

/-- A type whose members are got back from their values. -/
class LawfulWire (α : Type) [Wire RecordName α] where
  /-- Every tag under the name that its number has. -/
  canonicalTags : α → α
  conforms (a : α) : Conforms (shapeOf α) (value a)
  member?_value (a : α) : member? (value a) = some (canonicalTags a)

/-- A type whose members stand for one value each. -/
class FaithfulWire (α : Type) [Wire RecordName α] : Prop where
  value_of_member? {v : Value} {a : α} (h : member? v = some a) : value a = v

/-- A type whose members are there. -/
class NeverAbsent (α : Type) [Wire RecordName α] : Prop where
  value_ne_absent (a : α) : value a ≠ .absent

/-- A type without tags. -/
class TagFree (α : Type) [Wire RecordName α] [LawfulWire α] : Prop where
  canonicalTags_eq (a : α) : LawfulWire.canonicalTags a = a

open LawfulWire FaithfulWire NeverAbsent TagFree

/-! ### Records -/

theorem conforms_record {name : RecordName} {vs : List Value}
    (h : List.Forall₂ (fun f v => Conforms f.shape v) (layout name).fields vs) :
    Conforms (.record name) (.record vs) := by
  refine .record h.length_eq.symm ?_
  show ∀ entry ∈ (layout name).fields.zip vs, Conforms entry.1.shape entry.2
  generalize (layout name).fields = fields at h
  induction h with
  | nil =>
    intro entry he
    cases he
  | cons head tail ih => exact List.forall_mem_cons.mpr ⟨head, ih⟩

theorem record_ne_absent (vs : List Value) : Value.record vs ≠ .absent := nofun

/-! ### Optional parts and lists -/

section

variable {α β : Type} {write : α → Value} {read : Value → Option β}

theorem conforms_optionValue {shape : Shape RecordName} {o : Option α}
    (h : ∀ a ∈ o, Conforms shape (write a) ∧ write a ≠ .absent) :
    Conforms (.nullable shape) (Wire.optionValue write o) := by
  cases o with
  | none => exact .absent shape
  | some a => exact .present (h a rfl).1 (h a rfl).2

theorem optionOf?_of_ne_absent {v : Value} (h : v ≠ .absent) :
    Wire.optionOf? read v = (read v).map some := by
  cases v with
  | absent => exact absurd rfl h
  | _ => rfl

theorem optionOf?_optionValue {change : α → β} {o : Option α}
    (h : ∀ a ∈ o, read (write a) = some (change a) ∧ write a ≠ .absent) :
    Wire.optionOf? read (Wire.optionValue write o) = some (o.map change) := by
  cases o with
  | none => rfl
  | some a =>
    obtain ⟨back, there⟩ := h a rfl
    rw [Wire.optionValue, optionOf?_of_ne_absent there, back]
    rfl

theorem optionValue_of_optionOf? {write : β → Value} {v : Value} {o : Option β}
    (h : Wire.optionOf? read v = some o) (each : ∀ b ∈ o, ∀ w, read w = some b → write b = w) :
    Wire.optionValue write o = v := by
  by_cases there : v = .absent
  · subst there
    cases h
    rfl
  · rw [optionOf?_of_ne_absent there, Option.map_eq_some_iff] at h
    obtain ⟨b, hb, rfl⟩ := h
    exact each b rfl v hb

theorem listOf?_map {change : α → β} {as : List α} (h : ∀ a ∈ as, read (write a) = some (change a)) :
    Wire.listOf? read (as.map write) = some (as.map change) := by
  induction as with
  | nil => rfl
  | cons a as ih =>
    obtain ⟨ha, has⟩ := List.forall_mem_cons.mp h
    rw [List.map_cons, Wire.listOf?, ha, ih has]
    rfl

theorem map_of_listOf? {write : β → Value} {vs : List Value} {bs : List β}
    (h : Wire.listOf? read vs = some bs) (each : ∀ b ∈ bs, ∀ w, read w = some b → write b = w) :
    bs.map write = vs := by
  induction vs generalizing bs with
  | nil =>
    cases h
    rfl
  | cons v vs ih =>
    rw [Wire.listOf?] at h
    split at h
    · cases h
      obtain ⟨first, rest⟩ := List.forall_mem_cons.mp each
      rw [List.map_cons, first v ‹_›, ih ‹_› rest]
    · cases h

end

/-! ### Types of every format -/

instance : LawfulWire String where
  canonicalTags s := s
  conforms s := .text s
  member?_value _ := rfl

instance : LawfulWire Bool where
  canonicalTags b := b
  conforms b := .flag b
  member?_value _ := rfl

instance : LawfulWire UInt32 where
  canonicalTags n := n
  conforms n := .count n
  member?_value _ := rfl

instance {α : Type} [DecidableEq α] [Coded α] : LawfulWire (Tag α) where
  canonicalTags := Tag.canonical
  conforms t := .code _ t.code
  member?_value _ := rfl

instance {α : Type} [Wire RecordName α] [LawfulWire α] : LawfulWire (List α) where
  canonicalTags := List.map canonicalTags
  conforms as := .list fun v hv => by
    obtain ⟨a, -, rfl⟩ := List.mem_map.mp hv
    exact conforms a
  member?_value _ := listOf?_map fun a _ => member?_value a

instance {α : Type} [Wire RecordName α] [LawfulWire α] [NeverAbsent α] : LawfulWire (Option α) where
  canonicalTags := Option.map canonicalTags
  conforms _ := conforms_optionValue fun a _ => ⟨conforms a, value_ne_absent a⟩
  member?_value _ := optionOf?_optionValue fun a _ => ⟨member?_value a, value_ne_absent a⟩

instance : FaithfulWire String where
  value_of_member? {v s} h := by
    cases v <;> cases h
    rfl

instance : FaithfulWire Bool where
  value_of_member? {v b} h := by
    cases v <;> cases h
    rfl

instance : FaithfulWire UInt32 where
  value_of_member? {v n} h := by
    cases v <;> cases h
    rfl

instance {α : Type} [DecidableEq α] [Coded α] : FaithfulWire (Tag α) where
  value_of_member? {v t} h := by
    cases v with
    | code c =>
      cases h
      exact congrArg Value.code (Tag.code_ofCode c)
    | _ => cases h

instance {α : Type} [Wire RecordName α] [FaithfulWire α] : FaithfulWire (List α) where
  value_of_member? {v as} h := by
    cases v with
    | list vs => exact congrArg Value.list (map_of_listOf? h fun _ _ _ => value_of_member?)
    | _ => cases h

instance {α : Type} [Wire RecordName α] [FaithfulWire α] : FaithfulWire (Option α) where
  value_of_member? h := optionValue_of_optionOf? h fun _ _ _ => value_of_member?

instance : NeverAbsent String := ⟨nofun⟩

instance {α : Type} [DecidableEq α] [Coded α] : NeverAbsent (Tag α) := ⟨nofun⟩

instance {α : Type} [Wire RecordName α] : NeverAbsent (List α) := ⟨nofun⟩

instance : TagFree String := ⟨fun _ => rfl⟩

instance : TagFree Bool := ⟨fun _ => rfl⟩

instance : TagFree UInt32 := ⟨fun _ => rfl⟩

instance {α : Type} [Wire RecordName α] [LawfulWire α] [TagFree α] : TagFree (List α) where
  canonicalTags_eq as := List.map_id'' canonicalTags_eq as

instance {α : Type} [Wire RecordName α] [LawfulWire α] [NeverAbsent α] [TagFree α] :
    TagFree (Option α) where
  canonicalTags_eq o := by
    cases o with
    | none => rfl
    | some a => exact congrArg some (canonicalTags_eq a)

/-! ### Records of lawful fields -/

/-- Fields that are got back from their values, as the types of which they are. -/
class LawfulFields (F : Type) [Fields F] where
  canonicalTags : F → F
  conforms (f : F) : List.Forall₂ Conforms (Fields.shapes F) (Fields.toValues f)
  ofValues?_toValues (f : F) : Fields.ofValues? (Fields.toValues f) = some (canonicalTags f)

class FaithfulFields (F : Type) [Fields F] : Prop where
  toValues_of_ofValues? {vs : List Value} {f : F} (h : Fields.ofValues? vs = some f) : Fields.toValues f = vs

class TagFreeFields (F : Type) [Fields F] [LawfulFields F] : Prop where
  canonicalTags_eq (f : F) : LawfulFields.canonicalTags f = f

instance : LawfulFields Unit where
  canonicalTags f := f
  conforms _ := .nil
  ofValues?_toValues _ := rfl

instance : FaithfulFields Unit where
  toValues_of_ofValues? {vs f} h := by
    cases vs with
    | nil => rfl
    | cons v vs => cases h

instance : TagFreeFields Unit := ⟨fun _ => rfl⟩

section

variable {A F : Type} [Wire RecordName A] [Fields F]

instance [LawfulWire A] [LawfulFields F] : LawfulFields (A × F) where
  canonicalTags f := (canonicalTags f.1, LawfulFields.canonicalTags f.2)
  conforms f := .cons (conforms f.1) (LawfulFields.conforms f.2)
  ofValues?_toValues f := by
    show (do return (← member? (value f.1), ← Fields.ofValues? (Fields.toValues f.2)) : Option (A × F)) = _
    rw [member?_value, LawfulFields.ofValues?_toValues]
    rfl

instance [FaithfulWire A] [FaithfulFields F] : FaithfulFields (A × F) where
  toValues_of_ofValues? {vs f} h := by
    cases vs with
    | nil => cases h
    | cons v vs =>
      simp only [Fields.ofValues?, Option.bind_eq_bind, Option.bind_eq_some_iff, Option.pure_def,
        Option.some.injEq] at h
      obtain ⟨first, hf, rest, hr, rfl⟩ := h
      rw [← value_of_member? hf, ← FaithfulFields.toValues_of_ofValues? hr]
      rfl

instance [LawfulWire A] [TagFree A] [LawfulFields F] [TagFreeFields F] : TagFreeFields (A × F) where
  canonicalTags_eq f := Prod.ext (canonicalTags_eq f.1) (TagFreeFields.canonicalTags_eq f.2)

end

section

variable {α F : Type} [Fields F] [Fielded α F]

/-- The laws of a record are those of its fields. -/
@[reducible]
def LawfulWire.ofFields [LawfulFields F] : @LawfulWire α Fielded.wire :=
  letI : Wire RecordName α := Fielded.wire
  { canonicalTags a := Fielded.ofFields (LawfulFields.canonicalTags (Fielded.toFields a))
    conforms a := by
      refine conforms_record (List.forall₂_map_left_iff.mp ?_)
      rw [Fielded.shapes_eq]
      exact LawfulFields.conforms (Fielded.toFields a)
    member?_value a := by
      show (Fields.ofValues? (Fields.toValues (Fielded.toFields a))).map Fielded.ofFields = _
      rw [LawfulFields.ofValues?_toValues]
      rfl }

theorem FaithfulWire.ofFields [FaithfulFields F] : @FaithfulWire α Fielded.wire := by
  refine @FaithfulWire.mk α Fielded.wire fun {v a} h => ?_
  cases v with
  | record vs =>
    obtain ⟨f, hf, rfl⟩ := Option.map_eq_some_iff.mp h
    show Value.record (Fields.toValues (Fielded.toFields (Fielded.ofFields f))) = _
    rw [Fielded.toFields_ofFields, FaithfulFields.toValues_of_ofValues? hf]
  | _ => cases h

theorem NeverAbsent.ofFields : @NeverAbsent α Fielded.wire :=
  @NeverAbsent.mk α Fielded.wire fun _ => record_ne_absent _

theorem TagFree.ofFields [LawfulFields F] [TagFreeFields F] : @TagFree α Fielded.wire LawfulWire.ofFields := by
  refine @TagFree.mk α Fielded.wire LawfulWire.ofFields fun a => ?_
  show Fielded.ofFields (LawfulFields.canonicalTags (Fielded.toFields a)) = a
  rw [TagFreeFields.canonicalTags_eq, Fielded.ofFields_toFields]

end

/-! ### Places and names -/

instance : LawfulWire Position := .ofFields

instance : FaithfulWire Position := .ofFields

instance : NeverAbsent Position := .ofFields

instance : TagFree Position := .ofFields

instance : LawfulWire Range := .ofFields

instance : FaithfulWire Range := .ofFields

instance : NeverAbsent Range := .ofFields

instance : TagFree Range := .ofFields

instance : LawfulWire Location := .ofFields

instance : FaithfulWire Location := .ofFields

instance : NeverAbsent Location := .ofFields

instance : TagFree Location := .ofFields

instance : LawfulWire Comments := .ofFields

instance : FaithfulWire Comments := .ofFields

instance : TagFree Comments := .ofFields

instance : LawfulWire QualifiedName := .ofFields

instance : FaithfulWire QualifiedName := .ofFields

instance : TagFree QualifiedName := .ofFields

instance : LawfulWire UserDefinedType := .ofFields

instance : FaithfulWire UserDefinedType := .ofFields

instance : NeverAbsent UserDefinedType := .ofFields

instance : TagFree UserDefinedType := .ofFields

instance : LawfulWire TypeParameter := .ofFields

instance : FaithfulWire TypeParameter := .ofFields

instance : NeverAbsent TypeParameter := .ofFields

instance : TagFree TypeParameter := .ofFields

instance : LawfulWire InferredCallableInformation := .ofFields

instance : FaithfulWire InferredCallableInformation := .ofFields

instance : TagFree InferredCallableInformation := .ofFields

instance : LawfulWire InferredExpressionInformation := .ofFields

instance : FaithfulWire InferredExpressionInformation := .ofFields

instance : TagFree InferredExpressionInformation := .ofFields

end ProgramInterchange.Record
