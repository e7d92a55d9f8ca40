import Mathlib.Tactic.MkIffOfInductiveProp
import ProgramInterchange.Proofs.Record.Lawful.Named

/-!
# Well-tagged records

The tag of a record and its payload fields are independent of each other. A record is well-tagged if every
tag in it is a member of its enumeration and every tagged node in it has the payload that its tag selects and
no other one, at every depth.
-/

namespace ProgramInterchange

namespace Tag

variable {α β : Type}

/-- The tag is a member of its enumeration. -/
def IsKnown (t : Tag α) : Prop := ∃ a, t = known a

/-- The payload field is filled if the tag is one of those that select it, and absent if not. -/
def Fills (t : Tag α) (selecting : List α) (payload : Option β) : Prop :=
  payload.isSome ↔ ∃ a ∈ selecting, t = known a

@[simp]
theorem isKnown_known (a : α) : (known a).IsKnown := ⟨a, rfl⟩

@[simp]
theorem fills_known {a : α} {selecting : List α} {payload : Option β} :
    (known a).Fills selecting payload ↔ (payload.isSome ↔ a ∈ selecting) := by
  simp only [Fills, known.injEq, exists_eq_right']

/-- A payload field is absent exactly if the tag is none of those that select it. -/
theorem Fills.eq_none_iff {t : Tag α} {selecting : List α} {payload : Option β}
    (h : t.Fills selecting payload) : payload = none ↔ ∀ a ∈ selecting, t ≠ known a := by
  have filled : payload.isSome ↔ ∃ a ∈ selecting, t = known a := h
  rw [← Option.not_isSome_iff_eq_none, filled]
  simp only [not_exists, not_and, ne_eq]

theorem IsKnown.named [DecidableEq α] [Coded α] {t : Tag α} (h : t.IsKnown) : t.Named := by
  obtain ⟨a, rfl⟩ := h
  intro c hc
  cases hc

end Tag

namespace Record

/-! ### Characteristics -/

/-- The node of the expression has the payloads that its tag selects. -/
structure Characteristics.Filled (c : Characteristics) : Prop where
  kind : c.kind.IsKnown
  simpleSet : c.kind.Fills [.simpleSet] c.simpleSet
  setOperation : c.kind.Fills [.union, .intersection] c.setOperation
  property : ∀ t ∈ c.simpleSet, t.IsKnown

def Characteristics.WellTagged : Characteristics → Prop
  | single kind simpleSet => (single kind simpleSet).Filled
  | combined kind simpleSet lhs rhs =>
    (combined kind simpleSet lhs rhs).Filled ∧ lhs.WellTagged ∧ rhs.WellTagged

def Information.WellTagged (i : Information) : Prop := i.characteristics.WellTagged

/-! ### Types -/

section

variable {D E U P C : Type}

/-- The node has the payload that its tag selects, which for a leaf is none. -/
@[mk_iff]
structure TypeNode.Filled (n : TypeNode D U P C) : Prop where
  kind : n.kind.IsKnown
  arrayType : n.kind.Fills [.array] n.arrayType
  tupleType : n.kind.Fills [.tuple] n.tupleType
  userDefinedType : n.kind.Fills [.userDefined] n.userDefinedType
  typeParameter : n.kind.Fills [.parameter] n.typeParameter
  operation : n.kind.Fills [.operation] n.operation
  function : n.kind.Fills [.function] n.function

/-- The node is filled, its nested types are as `each` says, and what it knows of an operation is well-tagged. -/
@[mk_iff]
structure TypeNode.WellTagged (each : D → Prop) (n : TypeNode D U P Information) : Prop where
  filled : n.Filled
  parts : ∀ d ∈ n.parts, each d
  information : ∀ o ∈ n.operation, o.characteristics.WellTagged

theorem TypeNode.wellTagged_mapParts (each : E → Prop) (f : D → E) (n : TypeNode D U P Information) :
    (n.mapParts f).WellTagged each ↔ n.WellTagged fun d => each (f d) := by
  have filled : (n.mapParts f).Filled ↔ n.Filled := by
    simp only [filled_iff, mapParts, map, Tag.Fills, Option.isSome_map]
  have information : (∀ o ∈ (n.mapParts f).operation, o.characteristics.WellTagged) ↔
      ∀ o ∈ n.operation, o.characteristics.WellTagged := by
    simp [mapParts, map, OperationType.map]
  rw [wellTagged_iff, wellTagged_iff, filled, information, parts_mapParts, List.forall_mem_map]

end

def ResolvedType.WellTagged : ResolvedType → Prop := fold fun n => n.WellTagged id

theorem ResolvedType.wellTagged_mk (n : ResolvedTypeNode) :
    (mk n).WellTagged ↔ n.WellTagged ResolvedType.WellTagged := by
  rw [WellTagged, fold_mk, ← WellTagged, TypeNode.wellTagged_mapParts]
  rfl

/-! ### Tuples -/

/-- The node of the tuple has the payload that its tag selects. -/
structure Tuple.Filled {α : Type} (t : Tuple α) : Prop where
  kind : t.kind.IsKnown
  item : t.kind.Fills [.item] t.item
  items : t.kind.Fills [.group] t.items

mutual
/-- Every node of the tuple is filled, and its items are as `each` says. -/
def Tuple.WellTagged {α : Type} (each : α → Prop) : Tuple α → Prop
  | .single kind item => (single kind item).Filled ∧ ∀ a ∈ item, each a
  | .grouped kind item items =>
    (grouped kind item items).Filled ∧ (∀ a ∈ item, each a) ∧ WellTaggedOf each items

def Tuple.WellTaggedOf {α : Type} (each : α → Prop) : List (Tuple α) → Prop
  | [] => True
  | t :: ts => t.WellTagged each ∧ WellTaggedOf each ts
end

theorem Tuple.wellTaggedOf_iff {α : Type} {each : α → Prop} {ts : List (Tuple α)} :
    WellTaggedOf each ts ↔ ∀ t ∈ ts, t.WellTagged each := by
  induction ts with
  | nil => simp [WellTaggedOf]
  | cons t ts ih => rw [WellTaggedOf, List.forall_mem_cons, ih]

/-! ### Declarations and programs -/

structure LocalSymbol.WellTagged (s : LocalSymbol) : Prop where
  kind : s.kind.IsKnown
  name : s.kind.Fills [.valid] s.name

structure TypeItem.WellTagged (i : TypeItem) : Prop where
  kind : i.kind.IsKnown
  named : i.kind.Fills [.named] i.named
  anonymous : i.kind.Fills [.anonymous] i.anonymous
  declaration : ∀ v ∈ i.named, v.resolvedType.WellTagged
  type : ∀ t ∈ i.anonymous, t.WellTagged

def Modifiers.WellTagged (m : Modifiers) : Prop := m.access.IsKnown

structure ArgumentWellTagged (v : LocalVariable LocalSymbol ResolvedType) : Prop where
  variableName : v.variableName.WellTagged
  resolvedType : v.resolvedType.WellTagged

structure SignatureWellTagged (s : ResolvedSignature) : Prop where
  typeParameters : ∀ p ∈ s.typeParameters, p.WellTagged
  argumentType : s.argumentType.WellTagged
  returnType : s.returnType.WellTagged
  information : Information.WellTagged s.information

structure Callable.WellTagged (c : Callable) : Prop where
  kind : c.kind.IsKnown
  modifiers : ∀ m ∈ c.modifiers, m.WellTagged
  signature : ∀ s ∈ c.signature, SignatureWellTagged s
  argumentTuple : ∀ t ∈ c.argumentTuple, t.WellTagged ArgumentWellTagged

structure CustomType.WellTagged (t : CustomType) : Prop where
  modifiers : ∀ m ∈ t.modifiers, m.WellTagged
  underlyingType : ∀ u ∈ t.underlyingType, u.WellTagged
  typeItems : ∀ i ∈ t.typeItems, i.WellTagged TypeItem.WellTagged

structure NamespaceElement.WellTagged (e : NamespaceElement) : Prop where
  kind : e.kind.IsKnown
  callable : e.kind.Fills [.callable] e.callable
  customType : e.kind.Fills [.customType] e.customType
  callables : ∀ c ∈ e.callable, c.WellTagged
  customTypes : ∀ t ∈ e.customType, t.WellTagged

def Namespace.WellTagged (n : Namespace) : Prop := ∀ e ∈ n.elements, e.WellTagged

/-- Attributes, documentation and entry points have no tags. -/
def Program.WellTagged (p : Program) : Prop := ∀ n ∈ p.namespaces, n.WellTagged

/-! ### The tags of well-tagged records -/

open NamedTags

theorem Characteristics.Filled.tagsNamed {c : Characteristics} (h : c.Filled) :
    c.kind.Named ∧ ∀ t ∈ c.simpleSet, t.Named :=
  ⟨h.kind.named, fun t ht => (h.property t ht).named⟩

theorem Characteristics.WellTagged.tagsNamed {c : Characteristics} (h : c.WellTagged) : TagsNamed c := by
  show c.TagsNamed
  induction c with
  | single kind simpleSet =>
    have filled : Filled (single kind simpleSet) := h
    exact filled.tagsNamed
  | combined kind simpleSet lhs rhs ihl ihr =>
    obtain ⟨filled, left, right⟩ := h
    have node := filled.tagsNamed
    exact ⟨node.1, node.2, ihl left, ihr right⟩

theorem ResolvedType.WellTagged.tagsNamed {t : ResolvedType} (h : t.WellTagged) : TagsNamed t := by
  show t.TagsNamed
  induction t using ResolvedType.induction with
  | node n ih =>
    obtain ⟨filled, parts, information⟩ := (wellTagged_mk n).mp h
    rw [tagsNamed_mk]
    refine ⟨filled.kind.named, fun t ht => ih t ht (parts t ht), fun o ho => ?_⟩
    exact Characteristics.WellTagged.tagsNamed (information o ho)

theorem Tuple.WellTagged.tagsNamed {α : Type} [Wire RecordName α] [LawfulWire α] [NamedTags α]
    {each : α → Prop} (named : ∀ a, each a → NamedTags.TagsNamed a) {t : Tuple α} (h : t.WellTagged each) :
    t.TagsNamed := by
  induction t using Tuple.induction with
  | single kind item =>
    obtain ⟨filled, here⟩ := h
    exact ⟨filled.kind.named, fun a ha => named a (here a ha)⟩
  | grouped kind item items ih =>
    obtain ⟨filled, here, members⟩ := h
    have inside : ∀ t ∈ items, t.TagsNamed := fun t ht => ih t ht (wellTaggedOf_iff.mp members t ht)
    exact ⟨filled.kind.named, fun a ha => named a (here a ha), tagsNamedOf_iff.mpr inside⟩

theorem LocalSymbol.WellTagged.tagsNamed {s : LocalSymbol} (h : s.WellTagged) : TagsNamed s := h.kind.named

theorem ArgumentWellTagged.tagsNamed {v : LocalVariable LocalSymbol ResolvedType}
    (h : ArgumentWellTagged v) : TagsNamed v :=
  ⟨h.variableName.tagsNamed, h.resolvedType.tagsNamed⟩

theorem TypeItem.WellTagged.tagsNamed {i : TypeItem} (h : i.WellTagged) : TagsNamed i :=
  ⟨h.kind.named, fun v hv => ⟨trivial, (h.declaration v hv).tagsNamed⟩, fun t ht => (h.type t ht).tagsNamed⟩

theorem SignatureWellTagged.tagsNamed {s : ResolvedSignature} (h : SignatureWellTagged s) : TagsNamed s :=
  ⟨fun p hp => (h.typeParameters p hp).tagsNamed, h.argumentType.tagsNamed, h.returnType.tagsNamed,
    Characteristics.WellTagged.tagsNamed h.information⟩

theorem Callable.WellTagged.tagsNamed {c : Callable} (h : c.WellTagged) : TagsNamed c := by
  have modifiers : TagsNamed c.modifiers := fun m hm => (h.modifiers m hm).named
  have signature : TagsNamed c.signature := fun s hs => (h.signature s hs).tagsNamed
  have arguments : ∀ t ∈ c.argumentTuple, t.TagsNamed := fun t ht =>
    (h.argumentTuple t ht).tagsNamed fun _ => ArgumentWellTagged.tagsNamed
  exact ⟨h.kind.named, modifiers, signature, arguments⟩

theorem CustomType.WellTagged.tagsNamed {t : CustomType} (h : t.WellTagged) : TagsNamed t := by
  have modifiers : TagsNamed t.modifiers := fun m hm => (h.modifiers m hm).named
  have type : TagsNamed t.underlyingType := fun u hu => (h.underlyingType u hu).tagsNamed
  have items : TagsNamed t.typeItems := fun i hi =>
    (h.typeItems i hi).tagsNamed fun _ => TypeItem.WellTagged.tagsNamed
  exact ⟨modifiers, type, items⟩

theorem NamespaceElement.WellTagged.tagsNamed {e : NamespaceElement} (h : e.WellTagged) : TagsNamed e :=
  ⟨h.kind.named, fun c hc => (h.callables c hc).tagsNamed, fun t ht => (h.customTypes t ht).tagsNamed⟩

/-- A well-tagged record keeps all its tags when it is written and read again. -/
theorem Program.WellTagged.canonicalTags_eq {p : Program} (h : p.WellTagged) :
    LawfulWire.canonicalTags p = p :=
  (canonicalTags_eq_iff p).mpr fun n hn e he => (h n hn e he).tagsNamed

end Record

end ProgramInterchange
