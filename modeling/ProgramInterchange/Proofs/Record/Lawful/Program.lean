import ProgramInterchange.Proofs.Record.Lawful.Type

/-!
# Laws of program records on the wire

The records of declarations have their laws from their fields. Tuples recurse, and a program may leave its entry
points out.
-/

namespace ProgramInterchange.Record

open ProgramInterchange.Wire
open LawfulWire FaithfulWire NeverAbsent

/-! ### Tuples -/

namespace Tuple

variable {α : Type} [Wire RecordName α]

mutual
def canonicalTags [LawfulWire α] : Tuple α → Tuple α
  | single kind item => single kind.canonical (item.map LawfulWire.canonicalTags)
  | grouped kind item items =>
    grouped kind.canonical (item.map LawfulWire.canonicalTags) (canonicalTagsOf items)

def canonicalTagsOf [LawfulWire α] : List (Tuple α) → List (Tuple α)
  | [] => []
  | t :: ts => t.canonicalTags :: canonicalTagsOf ts
end

theorem toValues_eq_map (ts : List (Tuple α)) : toValues ts = ts.map toValue := by
  induction ts with
  | nil => rfl
  | cons t ts ih => rw [toValues, ih, List.map_cons]

theorem toValue_ne_absent (t : Tuple α) : t.toValue ≠ .absent := by
  cases t <;> exact nofun

theorem conforms_toValue [LawfulWire α] [NeverAbsent α] (t : Tuple α) :
    Conforms (shapeOf (Tuple α)) t.toValue := by
  induction t using Tuple.induction with
  | single kind item =>
    exact conforms_record (.cons (conforms kind) (.cons (conforms item) (.cons (.absent _) .nil)))
  | grouped kind item items ih =>
    have each : ∀ v ∈ toValues items, Conforms (shapeOf (Tuple α)) v := by
      intro v hv
      rw [toValues_eq_map] at hv
      obtain ⟨t, ht, rfl⟩ := List.mem_map.mp hv
      exact ih t ht
    exact conforms_record (.cons (conforms kind) (.cons (conforms item)
      (.cons (.present (.list each) nofun) .nil)))

theorem ofValues?_toValues [LawfulWire α] {ts : List (Tuple α)}
    (each : ∀ t ∈ ts, ofValue? t.toValue = some t.canonicalTags) :
    ofValues? (toValues ts) = some (canonicalTagsOf ts) := by
  induction ts with
  | nil => rfl
  | cons t ts ih =>
    obtain ⟨first, rest⟩ := List.forall_mem_cons.mp each
    simp only [toValues, ofValues?, first, ih rest]
    rfl

theorem ofValue?_toValue [LawfulWire α] [NeverAbsent α] (t : Tuple α) :
    ofValue? t.toValue = some t.canonicalTags := by
  induction t using Tuple.induction with
  | single kind item =>
    simp only [toValue, ofValue?, member?_value]
    rfl
  | grouped kind item items ih =>
    simp only [toValue, ofValue?, member?_value, ofValues?_toValues ih]
    rfl

theorem toValues_of_ofValues? {vs : List Value} {ts : List (Tuple α)} (h : ofValues? vs = some ts)
    (each : ∀ t ∈ ts, ∀ v, ofValue? v = some t → t.toValue = v) : toValues ts = vs := by
  induction vs generalizing ts with
  | nil =>
    cases h
    rfl
  | cons v vs ih =>
    rw [ofValues?] at h
    simp only [Option.bind_eq_bind, Option.bind_eq_some_iff, Option.pure_def, Option.some.injEq] at h
    obtain ⟨t, ht, ts, hts, rfl⟩ := h
    obtain ⟨first, rest⟩ := List.forall_mem_cons.mp each
    rw [toValues, first v ht, ih hts rest]

theorem toValue_of_ofValue? [FaithfulWire α] {v : Value} {t : Tuple α} (h : ofValue? v = some t) :
    t.toValue = v := by
  induction t using Tuple.induction generalizing v with
  | single kind item =>
    unfold ofValue? at h
    split at h
    · simp only [Option.bind_eq_bind, Option.bind_eq_some_iff, Option.pure_def, Option.some.injEq] at h
      obtain ⟨_, kind, _, item, heq⟩ := h
      cases heq
      rw [toValue, value_of_member? kind, value_of_member? item]
    · simp only [Option.bind_eq_bind, Option.bind_eq_some_iff, Option.pure_def, Option.some.injEq] at h
      obtain ⟨_, -, _, -, _, -, heq⟩ := h
      cases heq
    · cases h
  | grouped kind item items ih =>
    unfold ofValue? at h
    split at h
    · simp only [Option.bind_eq_bind, Option.bind_eq_some_iff, Option.pure_def, Option.some.injEq] at h
      obtain ⟨_, -, _, -, heq⟩ := h
      cases heq
    · simp only [Option.bind_eq_bind, Option.bind_eq_some_iff, Option.pure_def, Option.some.injEq] at h
      obtain ⟨_, kind, _, item, _, members, heq⟩ := h
      cases heq
      rw [toValue, value_of_member? kind, value_of_member? item,
        toValues_of_ofValues? members fun t ht _ => ih t ht]
    · cases h

end Tuple

section

variable {α : Type} [Wire RecordName α]

instance [LawfulWire α] [NeverAbsent α] : LawfulWire (Tuple α) where
  canonicalTags := Tuple.canonicalTags
  conforms := Tuple.conforms_toValue
  member?_value := Tuple.ofValue?_toValue

instance [FaithfulWire α] : FaithfulWire (Tuple α) := ⟨Tuple.toValue_of_ofValue?⟩

instance : NeverAbsent (Tuple α) := ⟨Tuple.toValue_ne_absent⟩

end

/-! ### Parts of declarations -/

instance : LawfulWire LocalSymbol := .ofFields

instance : FaithfulWire LocalSymbol := .ofFields

section

variable {S : Type} [Wire RecordName S]

instance [LawfulWire S] : LawfulWire (LocalVariable S ResolvedType) := .ofFields

instance [FaithfulWire S] : FaithfulWire (LocalVariable S ResolvedType) := .ofFields

instance : NeverAbsent (LocalVariable S ResolvedType) := .ofFields

end

instance : LawfulWire TypeItem := .ofFields

instance : FaithfulWire TypeItem := .ofFields

instance : NeverAbsent TypeItem := .ofFields

instance : LawfulWire ResolvedSignature := .ofFields

instance : FaithfulWire ResolvedSignature := .ofFields

instance : NeverAbsent ResolvedSignature := .ofFields

instance : LawfulWire Modifiers := .ofFields

instance : FaithfulWire Modifiers := .ofFields

instance : NeverAbsent Modifiers := .ofFields

instance : LawfulWire Attribute := .ofFields

instance : FaithfulWire Attribute := .ofFields

instance : TagFree Attribute := .ofFields

/-! ### Declarations and programs -/

instance : LawfulWire Callable := .ofFields

instance : FaithfulWire Callable := .ofFields

instance : NeverAbsent Callable := .ofFields

instance : LawfulWire CustomType := .ofFields

instance : FaithfulWire CustomType := .ofFields

instance : NeverAbsent CustomType := .ofFields

instance : LawfulWire NamespaceElement := .ofFields

instance : FaithfulWire NamespaceElement := .ofFields

instance : LawfulWire DocumentationItem := .ofFields

instance : FaithfulWire DocumentationItem := .ofFields

instance : TagFree DocumentationItem := .ofFields

instance : LawfulWire Namespace := .ofFields

instance : FaithfulWire Namespace := .ofFields

instance : LawfulWire Program where
  canonicalTags p := ⟨canonicalTags p.namespaces, canonicalTags p.entryPoints⟩
  conforms p := conforms_record (.cons (conforms p.namespaces) (.cons (conforms p.entryPoints) .nil))
  member?_value p := by
    show (do return ⟨← member? (value p.namespaces), ← member? (value p.entryPoints)⟩ : Option Program) = _
    simp only [member?_value]
    rfl

end ProgramInterchange.Record
