import ProgramInterchange.Proofs.Conversion.Sound
import ProgramInterchange.Proofs.Record.WellTagged

/-!
# The records of trees are well-tagged

Every tree has a record under either profile, also where it is not well-formed, and whatever it holds the
record is well-tagged. So it is written with the tags that are read again.
-/

namespace ProgramInterchange

open Tag (isKnown_known)

/-! ### Type nodes -/

namespace PayloadWalk

variable {D U P C D' U' P' C' : Type} (w : PayloadWalk Id D U P C D' U' P' C')

theorem filled_toNode (kind : Tree.TypeKind D U P C) : (Id.run (w.toNode kind)).Filled := by
  cases kind <;> constructor <;> simp [toNode]

theorem parts_toNode (kind : Tree.TypeKind D U P C) :
    (Id.run (w.toNode kind)).parts = kind.parts.map fun d => Id.run (w.data d) := by
  cases kind <;>
    simp [toNode, Record.TypeNode.parts, Record.Arrow.parts, Tree.TypeKind.parts]

theorem characteristics_toNode {kind : Tree.TypeKind D U P C} {o : Record.OperationType D' C'}
    (h : o ∈ (Id.run (w.toNode kind)).operation) : ∃ i, o.characteristics = Id.run (w.information i) := by
  cases kind with
  | operation domain codomain information =>
    obtain rfl : _ = o := Option.some.inj h
    exact ⟨information, rfl⟩
  | _ => cases h

end PayloadWalk

namespace Tree

/-! ### Types -/

theorem Characteristics.filled_toRecord (c : Characteristics) : c.toRecord.Filled := by
  cases c <;> constructor <;>
    simp [toRecord, Record.Characteristics.kind, Record.Characteristics.simpleSet,
      Record.Characteristics.setOperation]

theorem Characteristics.wellTagged_toRecord (c : Characteristics) : c.toRecord.WellTagged := by
  induction c with
  | emptySet => exact filled_toRecord emptySet
  | simpleSet property => exact filled_toRecord (simpleSet property)
  | union lhs rhs ihl ihr => exact ⟨filled_toRecord (union lhs rhs), ihl, ihr⟩
  | intersection lhs rhs ihl ihr => exact ⟨filled_toRecord (intersection lhs rhs), ihl, ihr⟩
  | invalid => exact filled_toRecord invalid

theorem ResolvedType.wellTagged_toRecord (t : ResolvedType) : t.toRecord.WellTagged := by
  induction t using ResolvedType.induction with
  | node kind ih =>
    rw [toRecord_mk, Record.ResolvedType.wellTagged_mk]
    constructor
    · exact PayloadWalk.filled_toNode _ kind
    · rw [PayloadWalk.parts_toNode, List.forall_mem_map]
      exact ih
    · intro o ho
      obtain ⟨information, same⟩ := PayloadWalk.characteristics_toNode _ ho
      rw [same]
      exact information.characteristics.wellTagged_toRecord

/-! ### Parts of declarations -/

theorem Tuple.filled_toRecord {α β : Type} (f : α → β) (t : Tuple α) : (t.toRecord f).Filled := by
  cases t with
  | item value =>
    rw [toRecord_item]
    constructor <;>
      simp [Record.Tuple.kind, Record.Tuple.item, Record.Tuple.items]
  | group members =>
    rw [toRecord_group]
    constructor <;>
      simp [Record.Tuple.kind, Record.Tuple.item, Record.Tuple.items]

theorem Tuple.wellTagged_toRecord {α β : Type} {f : α → β} {each : β → Prop} (items : ∀ a, each (f a))
    (t : Tuple α) : (t.toRecord f).WellTagged each := by
  induction t using Tuple.induction with
  | item value =>
    have filled := filled_toRecord f (item value)
    rw [toRecord_item] at filled ⊢
    refine ⟨filled, fun a ha => ?_⟩
    obtain rfl := Option.some.inj ha
    exact items value
  | group members ih =>
    have filled := filled_toRecord f (group members)
    rw [toRecord_group] at filled ⊢
    refine ⟨filled, fun a ha => (nomatch ha), ?_⟩
    rw [Record.Tuple.wellTaggedOf_iff, List.forall_mem_map]
    exact ih

theorem LocalSymbol.wellTagged_toRecord (s : LocalSymbol) : s.toRecord.WellTagged := by
  cases s <;> constructor <;> simp [toRecord]

theorem argumentWellTagged_argumentToRecord (v : LocalVariable LocalSymbol ResolvedType) :
    Record.ArgumentWellTagged (argumentToRecord v) :=
  ⟨v.variableName.wellTagged_toRecord, v.resolvedType.wellTagged_toRecord⟩

theorem TypeItem.wellTagged_toRecord (i : TypeItem) : i.toRecord.WellTagged := by
  cases i with
  | named declaration =>
    constructor
    case declaration =>
      intro v hv
      obtain rfl := Option.some.inj hv
      exact declaration.resolvedType.wellTagged_toRecord
    all_goals simp [toRecord]
  | anonymous type =>
    constructor
    case type =>
      intro t ht
      obtain rfl := Option.some.inj ht
      exact type.wellTagged_toRecord
    all_goals simp [toRecord]

theorem Modifiers.wellTagged_toRecord (m : Modifiers) : m.toRecord.WellTagged := isKnown_known m.access

theorem signatureWellTagged_signatureToRecord (s : ResolvedSignature) :
    Record.SignatureWellTagged (signatureToRecord s) where
  typeParameters := List.forall_mem_map.mpr fun p _ => p.wellTagged_toRecord
  argumentType := s.argumentType.wellTagged_toRecord
  returnType := s.returnType.wellTagged_toRecord
  information := s.information.characteristics.wellTagged_toRecord

/-! ### Declarations and programs -/

theorem forall_mem_keep {α : Type} {P : α → Prop} {a : α} (h : P a) (profile : Profile) :
    ∀ b ∈ profile.keep a, P b := by
  intro b hb
  cases profile with
  | minimal => cases hb
  | full =>
    obtain rfl : a = b := Option.some.inj hb
    exact h

theorem Callable.wellTagged_toRecord (profile : Profile) (c : Callable) :
    (c.toRecord profile).WellTagged where
  kind := isKnown_known c.kind
  modifiers := forall_mem_keep c.modifiers.wellTagged_toRecord profile
  signature := forall_mem_keep (signatureWellTagged_signatureToRecord c.signature) profile
  argumentTuple :=
    forall_mem_keep (c.argumentTuple.wellTagged_toRecord argumentWellTagged_argumentToRecord) profile

theorem CustomType.wellTagged_toRecord (profile : Profile) (t : CustomType) :
    (t.toRecord profile).WellTagged where
  modifiers := forall_mem_keep t.modifiers.wellTagged_toRecord profile
  underlyingType := forall_mem_keep t.underlyingType.wellTagged_toRecord profile
  typeItems := forall_mem_keep (t.typeItems.wellTagged_toRecord TypeItem.wellTagged_toRecord) profile

theorem NamespaceElement.wellTagged_toRecord (profile : Profile) (e : NamespaceElement) :
    (e.toRecord profile).WellTagged := by
  cases e with
  | callable declaration =>
    constructor
    case callables =>
      intro c hc
      obtain rfl := Option.some.inj hc
      exact declaration.wellTagged_toRecord profile
    all_goals simp [toRecord]
  | customType declaration =>
    constructor
    case customTypes =>
      intro t ht
      obtain rfl := Option.some.inj ht
      exact declaration.wellTagged_toRecord profile
    all_goals simp [toRecord]

theorem Namespace.wellTagged_toRecord (profile : Profile) (n : Namespace) : (n.toRecord profile).WellTagged :=
  List.forall_mem_map.mpr fun e _ => e.wellTagged_toRecord profile

theorem Program.wellTagged_toRecord (profile : Profile) (p : Program) : (p.toRecord profile).WellTagged := by
  rw [toRecord_eq]
  exact List.forall_mem_map.mpr fun n _ => n.wellTagged_toRecord profile

theorem Program.canonicalTags_toRecord (profile : Profile) (p : Program) :
    Record.LawfulWire.canonicalTags (p.toRecord profile) = p.toRecord profile :=
  (p.wellTagged_toRecord profile).canonicalTags_eq

/-- Every program has a well-tagged record, with the declarations of the program. -/
theorem Program.record_wellTagged (profile : Profile) (p : Program) :
    (p.toRecord profile).WellTagged ∧
      (p.toRecord profile).namespaces.map (fun n => n.elements.map Record.NamespaceElement.kind) =
        p.namespaces.map fun n => n.elements.map fun e => .known e.tag := by
  have kinds (n : Namespace) : (n.toRecord profile).elements.map Record.NamespaceElement.kind =
      n.elements.map fun e => .known e.tag :=
    list_map_map (NamespaceElement.kind_toRecord profile) n.elements
  refine ⟨p.wellTagged_toRecord profile, ?_⟩
  rw [toRecord_eq, List.map_map]
  exact List.map_congr_left fun n _ => kinds n

end Tree

end ProgramInterchange
