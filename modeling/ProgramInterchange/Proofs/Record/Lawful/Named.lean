import ProgramInterchange.Proofs.Record.Lawful.Inner

/-!
# Records whose tags are named

A tag may spell as an unknown number what has a name. On the wire that makes no difference, so what is got back
has the name. The records without such a tag are the ones that are got back as they are.
-/

namespace ProgramInterchange

/-- The tag is no number that has a name. -/
def Tag.Named {α : Type} [DecidableEq α] [Coded α] (t : Tag α) : Prop :=
  ∀ c, t = .unrecognized c → (Coded.ofCode? c : Option α) = none

theorem Tag.named_unrecognized {α : Type} [DecidableEq α] [Coded α] (c : UInt16) :
    (unrecognized c : Tag α).Named ↔ (Coded.ofCode? c : Option α) = none := by
  constructor
  · intro h
    exact h c rfl
  · intro h d hd
    cases hd
    exact h

theorem Tag.canonical_eq_iff {α : Type} [DecidableEq α] [Coded α] (t : Tag α) : t.canonical = t ↔ t.Named := by
  cases t with
  | known a =>
    have named : (known a).Named := by
      intro c hc
      cases hc
    exact iff_of_true (ofCode_code_known a) named
  | unrecognized c =>
    rw [named_unrecognized, canonical, code, ofCode]
    split
    · simp_all
    · simp_all

namespace Record

open LawfulWire FaithfulWire TagFree

/-- A type whose members without tags to be renamed are known. -/
class NamedTags (α : Type) [Wire RecordName α] [LawfulWire α] where
  /-- Every tag in the record is named. -/
  TagsNamed : α → Prop
  canonicalTags_eq_iff (a : α) : canonicalTags a = a ↔ TagsNamed a

open NamedTags

/-! ### Optional parts and lists -/

theorem list_map_eq_self_iff {β : Type} {f : β → β} {P : β → Prop} {bs : List β}
    (each : ∀ b ∈ bs, f b = b ↔ P b) : bs.map f = bs ↔ ∀ b ∈ bs, P b := by
  induction bs with
  | nil => simp
  | cons b bs ih =>
    obtain ⟨head, tail⟩ := List.forall_mem_cons.mp each
    rw [List.map_cons, List.cons.injEq, List.forall_mem_cons, head, ih tail]

theorem option_map_eq_self_iff {β : Type} {f : β → β} {P : β → Prop} {o : Option β}
    (each : ∀ b ∈ o, f b = b ↔ P b) : o.map f = o ↔ ∀ b ∈ o, P b := by
  cases o with
  | none => simp
  | some b =>
    have here := each b rfl
    simp [here]

section

variable {α : Type} [Wire RecordName α] [LawfulWire α]

instance (priority := low) [TagFree α] : NamedTags α where
  TagsNamed _ := True
  canonicalTags_eq_iff a := iff_true_intro (canonicalTags_eq a)

instance [NamedTags α] : NamedTags (List α) where
  TagsNamed as := ∀ a ∈ as, TagsNamed a
  canonicalTags_eq_iff _ := list_map_eq_self_iff fun a _ => canonicalTags_eq_iff a

instance [NeverAbsent α] [NamedTags α] : NamedTags (Option α) where
  TagsNamed o := ∀ a ∈ o, TagsNamed a
  canonicalTags_eq_iff _ := option_map_eq_self_iff fun a _ => canonicalTags_eq_iff a

end

instance {α : Type} [DecidableEq α] [Coded α] : NamedTags (Tag α) where
  TagsNamed := Tag.Named
  canonicalTags_eq_iff := Tag.canonical_eq_iff

/-! ### Characteristics -/

def Characteristics.TagsNamed : Characteristics → Prop
  | single kind simpleSet => kind.Named ∧ ∀ p ∈ simpleSet, p.Named
  | combined kind simpleSet lhs rhs =>
    kind.Named ∧ (∀ p ∈ simpleSet, p.Named) ∧ lhs.TagsNamed ∧ rhs.TagsNamed

instance : NamedTags Characteristics where
  TagsNamed := Characteristics.TagsNamed
  canonicalTags_eq_iff c := by
    show c.canonicalTags = c ↔ c.TagsNamed
    have property (o : Option (Tag Tree.OpProperty)) : o.map Tag.canonical = o ↔ ∀ p ∈ o, p.Named :=
      option_map_eq_self_iff fun p _ => p.canonical_eq_iff
    induction c with
    | single kind simpleSet =>
      simp only [Characteristics.canonicalTags, Characteristics.TagsNamed, Characteristics.single.injEq,
        Tag.canonical_eq_iff, property]
    | combined kind simpleSet lhs rhs ihl ihr =>
      simp only [Characteristics.canonicalTags, Characteristics.TagsNamed, Characteristics.combined.injEq,
        Tag.canonical_eq_iff, property, ihl, ihr]

instance : NamedTags SetOperation where
  TagsNamed o := TagsNamed o.lhs ∧ TagsNamed o.rhs
  canonicalTags_eq_iff o := by
    show SetOperation.mk (canonicalTags o.lhs) (canonicalTags o.rhs) = SetOperation.mk o.lhs o.rhs ↔ _
    simp only [SetOperation.mk.injEq, canonicalTags_eq_iff]

instance : NamedTags CharacteristicsNode where
  TagsNamed n := n.kind.Named ∧ TagsNamed n.simpleSet ∧ TagsNamed n.setOperation
  canonicalTags_eq_iff n := by
    show CharacteristicsNode.mk n.kind.canonical (canonicalTags n.simpleSet) (canonicalTags n.setOperation) =
      CharacteristicsNode.mk n.kind n.simpleSet n.setOperation ↔ _
    simp only [CharacteristicsNode.mk.injEq, Tag.canonical_eq_iff, canonicalTags_eq_iff]

instance : NamedTags Information where
  TagsNamed i := TagsNamed i.characteristics
  canonicalTags_eq_iff i := by
    show CallableInformation.mk (canonicalTags i.characteristics) (canonicalTags i.inferred) =
      CallableInformation.mk i.characteristics i.inferred ↔ _
    simp only [CallableInformation.mk.injEq, canonicalTags_eq_iff, canonicalTags_eq, and_true]

/-! ### Types -/

section

variable {D : Type} {change : D → D} {named : D → Prop}

theorem Arrow.map_eq_self_iff {a : Arrow D} (each : ∀ d ∈ a.parts, change d = d ↔ named d) :
    a.map change = a ↔ ∀ d ∈ a.parts, named d := by
  have domain := each a.domain (by simp [parts])
  have codomain := each a.codomain (by simp [parts])
  show Arrow.mk (change a.domain) (change a.codomain) = Arrow.mk a.domain a.codomain ↔ _
  simp only [Arrow.mk.injEq, domain, codomain, parts, List.forall_mem_cons, List.not_mem_nil,
    false_implies, implies_true, and_true]

variable {U P C : Type} [Wire RecordName C] [LawfulWire C] [NamedTags C]

theorem OperationType.map_eq_self_iff {o : OperationType D C}
    (each : ∀ d ∈ o.arrow.parts, change d = d ↔ named d) :
    o.map change canonicalTags = o ↔ (∀ d ∈ o.arrow.parts, named d) ∧ TagsNamed o.characteristics := by
  have arrow := Arrow.map_eq_self_iff each
  show OperationType.mk (o.arrow.map change) (canonicalTags o.characteristics) =
    OperationType.mk o.arrow o.characteristics ↔ _
  simp only [OperationType.mk.injEq, arrow, canonicalTags_eq_iff]

/-- The tags of the node are named, and its nested types are as `named` says. -/
def TypeNode.TagsNamed {E : Type} (named : E → Prop) (n : TypeNode E U P C) : Prop :=
  n.kind.Named ∧ (∀ d ∈ n.parts, named d) ∧ ∀ o ∈ n.operation, NamedTags.TagsNamed o.characteristics

theorem TypeNode.canonicalTags_eq_iff [Wire RecordName U] [LawfulWire U] [NeverAbsent U] [TagFree U]
    [Wire RecordName P] [LawfulWire P] [NeverAbsent P] [TagFree P] {n : TypeNode D U P C}
    (each : ∀ d ∈ n.parts, change d = d ↔ named d) :
    n.canonicalTags change = n ↔ n.TagsNamed named := by
  obtain ⟨arrays, tuples, operations, functions⟩ := forall_mem_parts.mp each
  have array := option_map_eq_self_iff arrays
  have tuple := option_map_eq_self_iff fun ts hts => list_map_eq_self_iff (tuples ts hts)
  have operation := option_map_eq_self_iff fun o ho => OperationType.map_eq_self_iff (operations o ho)
  have function := option_map_eq_self_iff fun r hr => Arrow.map_eq_self_iff (functions r hr)
  have userDefined : n.userDefinedType.map LawfulWire.canonicalTags = n.userDefinedType :=
    canonicalTags_eq n.userDefinedType
  have parameter : n.typeParameter.map LawfulWire.canonicalTags = n.typeParameter :=
    canonicalTags_eq n.typeParameter
  show TypeNode.mk n.kind.canonical (n.arrayType.map change) (n.tupleType.map (List.map change))
      (n.userDefinedType.map LawfulWire.canonicalTags) (n.typeParameter.map LawfulWire.canonicalTags)
      (n.operation.map (OperationType.map change LawfulWire.canonicalTags)) (n.function.map (Arrow.map change)) =
    TypeNode.mk n.kind n.arrayType n.tupleType n.userDefinedType n.typeParameter n.operation n.function ↔ _
  rw [TypeNode.mk.injEq, Tag.canonical_eq_iff, array, tuple, operation, function, TagsNamed, forall_mem_parts]
  simp only [userDefined, parameter, true_and, forall_and]
  tauto

theorem TypeNode.tagsNamed_mapParts {E : Type} {named : E → Prop} (f : D → E) (n : TypeNode D U P C) :
    (n.mapParts f).TagsNamed named ↔ n.TagsNamed fun d => named (f d) := by
  have operation : (∀ o ∈ (n.mapParts f).operation, NamedTags.TagsNamed o.characteristics) ↔
      ∀ o ∈ n.operation, NamedTags.TagsNamed o.characteristics := by
    simp [mapParts, map, OperationType.map]
  rw [TagsNamed, TagsNamed, operation, parts_mapParts, List.forall_mem_map]
  rfl

end

instance {D : Type} [Wire RecordName D] [LawfulWire D] [NamedTags D] : NamedTags (Arrow D) where
  TagsNamed a := ∀ d ∈ a.parts, TagsNamed d
  canonicalTags_eq_iff _ := Arrow.map_eq_self_iff fun d _ => canonicalTags_eq_iff d

instance {D C : Type} [Wire RecordName D] [LawfulWire D] [NamedTags D] [Wire RecordName C] [LawfulWire C]
    [NamedTags C] : NamedTags (OperationType D C) where
  TagsNamed o := (∀ d ∈ o.arrow.parts, TagsNamed d) ∧ TagsNamed o.characteristics
  canonicalTags_eq_iff _ := OperationType.map_eq_self_iff fun d _ => canonicalTags_eq_iff d

def ResolvedType.TagsNamed : ResolvedType → Prop := fold fun n => n.TagsNamed id

theorem ResolvedType.tagsNamed_mk (n : ResolvedTypeNode) :
    (mk n).TagsNamed ↔ n.TagsNamed ResolvedType.TagsNamed := by
  rw [TagsNamed, fold_mk, ← TagsNamed, TypeNode.tagsNamed_mapParts]
  rfl

instance : NamedTags ResolvedType where
  TagsNamed := ResolvedType.TagsNamed
  canonicalTags_eq_iff t := by
    show t.canonicalTags = t ↔ t.TagsNamed
    induction t using ResolvedType.induction with
    | node n ih =>
      rw [ResolvedType.canonicalTags_mk, ResolvedType.tagsNamed_mk, ResolvedType.mk.injEq]
      exact TypeNode.canonicalTags_eq_iff ih

instance : NamedTags ResolvedTypeNode where
  TagsNamed := TypeNode.TagsNamed TagsNamed
  canonicalTags_eq_iff _ := TypeNode.canonicalTags_eq_iff fun t _ => canonicalTags_eq_iff t

/-! ### Local names and variables -/

instance : NamedTags LocalSymbol where
  TagsNamed s := s.kind.Named
  canonicalTags_eq_iff s := by
    show LocalSymbol.mk s.kind.canonical (canonicalTags s.name) = LocalSymbol.mk s.kind s.name ↔ _
    simp only [LocalSymbol.mk.injEq, Tag.canonical_eq_iff, canonicalTags_eq, and_true]

instance {S : Type} [Wire RecordName S] [LawfulWire S] [NamedTags S] :
    NamedTags (LocalVariable S ResolvedType) where
  TagsNamed v := TagsNamed v.variableName ∧ TagsNamed v.resolvedType
  canonicalTags_eq_iff v := by
    show LocalVariable.mk (canonicalTags v.variableName) (canonicalTags v.resolvedType)
        (canonicalTags v.inferred) (canonicalTags v.position) (canonicalTags v.range) =
      LocalVariable.mk v.variableName v.resolvedType v.inferred v.position v.range ↔ _
    simp only [LocalVariable.mk.injEq, canonicalTags_eq_iff, canonicalTags_eq, and_true]

/-! ### Tuples -/

namespace Tuple

variable {α : Type} [Wire RecordName α] [LawfulWire α] [NamedTags α]

mutual
def TagsNamed : Tuple α → Prop
  | single kind item => kind.Named ∧ ∀ a ∈ item, NamedTags.TagsNamed a
  | grouped kind item items => kind.Named ∧ (∀ a ∈ item, NamedTags.TagsNamed a) ∧ TagsNamedOf items

def TagsNamedOf : List (Tuple α) → Prop
  | [] => True
  | t :: ts => t.TagsNamed ∧ TagsNamedOf ts
end

theorem tagsNamedOf_iff {ts : List (Tuple α)} : TagsNamedOf ts ↔ ∀ t ∈ ts, t.TagsNamed := by
  induction ts with
  | nil => simp [TagsNamedOf]
  | cons t ts ih => rw [TagsNamedOf, List.forall_mem_cons, ih]

theorem canonicalTagsOf_eq_iff {ts : List (Tuple α)} (each : ∀ t ∈ ts, t.canonicalTags = t ↔ t.TagsNamed) :
    canonicalTagsOf ts = ts ↔ TagsNamedOf ts := by
  induction ts with
  | nil => exact iff_of_true rfl trivial
  | cons t ts ih =>
    obtain ⟨head, tail⟩ := List.forall_mem_cons.mp each
    rw [canonicalTagsOf, TagsNamedOf, List.cons.injEq, head, ih tail]

theorem canonicalTags_eq_iff (t : Tuple α) : t.canonicalTags = t ↔ t.TagsNamed := by
  have items (o : Option α) : o.map LawfulWire.canonicalTags = o ↔ ∀ a ∈ o, NamedTags.TagsNamed a :=
    option_map_eq_self_iff fun a _ => NamedTags.canonicalTags_eq_iff a
  induction t using Tuple.induction with
  | single kind item =>
    rw [canonicalTags, TagsNamed, single.injEq, Tag.canonical_eq_iff, items]
  | grouped kind item members ih =>
    rw [canonicalTags, TagsNamed, grouped.injEq, Tag.canonical_eq_iff, items, canonicalTagsOf_eq_iff ih]

end Tuple

instance {α : Type} [Wire RecordName α] [LawfulWire α] [NeverAbsent α] [NamedTags α] : NamedTags (Tuple α) where
  TagsNamed := Tuple.TagsNamed
  canonicalTags_eq_iff := Tuple.canonicalTags_eq_iff

/-! ### Declarations -/

instance : NamedTags TypeItem where
  TagsNamed i := i.kind.Named ∧ (∀ v ∈ i.named, TagsNamed v) ∧ TagsNamed i.anonymous
  canonicalTags_eq_iff i := by
    show TypeItem.mk i.kind.canonical (canonicalTags i.named) (canonicalTags i.anonymous) =
      TypeItem.mk i.kind i.named i.anonymous ↔ _
    simp only [TypeItem.mk.injEq, Tag.canonical_eq_iff, canonicalTags_eq_iff]
    rfl

instance : NamedTags ResolvedSignature where
  TagsNamed s :=
    TagsNamed s.typeParameters ∧ TagsNamed s.argumentType ∧ TagsNamed s.returnType ∧ TagsNamed s.information
  canonicalTags_eq_iff s := by
    show Signature.mk (canonicalTags s.typeParameters) (canonicalTags s.argumentType)
        (canonicalTags s.returnType) (canonicalTags s.information) =
      Signature.mk s.typeParameters s.argumentType s.returnType s.information ↔ _
    simp only [Signature.mk.injEq, canonicalTags_eq_iff]

instance : NamedTags Modifiers where
  TagsNamed m := m.access.Named
  canonicalTags_eq_iff m := by
    show Modifiers.mk m.access.canonical = Modifiers.mk m.access ↔ _
    rw [Modifiers.mk.injEq, Tag.canonical_eq_iff]

instance : NamedTags Callable where
  TagsNamed c :=
    c.kind.Named ∧ TagsNamed c.modifiers ∧ TagsNamed c.signature ∧ ∀ t ∈ c.argumentTuple, t.TagsNamed
  canonicalTags_eq_iff c := by
    show Callable.mk c.kind.canonical (canonicalTags c.fullName) (canonicalTags c.attributes)
        (canonicalTags c.modifiers) (canonicalTags c.sourceFile) (canonicalTags c.location)
        (canonicalTags c.signature) (canonicalTags c.argumentTuple) (canonicalTags c.documentation)
        (canonicalTags c.comments) =
      Callable.mk c.kind c.fullName c.attributes c.modifiers c.sourceFile c.location c.signature
        c.argumentTuple c.documentation c.comments ↔ _
    simp only [Callable.mk.injEq, Tag.canonical_eq_iff, canonicalTags_eq_iff, canonicalTags_eq, true_and,
      and_true]
    rfl

instance : NamedTags CustomType where
  TagsNamed t := TagsNamed t.modifiers ∧ TagsNamed t.underlyingType ∧ TagsNamed t.typeItems
  canonicalTags_eq_iff t := by
    show CustomType.mk (canonicalTags t.fullName) (canonicalTags t.attributes) (canonicalTags t.modifiers)
        (canonicalTags t.sourceFile) (canonicalTags t.location) (canonicalTags t.underlyingType)
        (canonicalTags t.typeItems) (canonicalTags t.documentation) (canonicalTags t.comments) =
      CustomType.mk t.fullName t.attributes t.modifiers t.sourceFile t.location t.underlyingType t.typeItems
        t.documentation t.comments ↔ _
    simp only [CustomType.mk.injEq, canonicalTags_eq_iff, canonicalTags_eq, true_and, and_true]

/-! ### Programs -/

instance : NamedTags NamespaceElement where
  TagsNamed e := e.kind.Named ∧ TagsNamed e.callable ∧ TagsNamed e.customType
  canonicalTags_eq_iff e := by
    show NamespaceElement.mk e.kind.canonical (canonicalTags e.callable) (canonicalTags e.customType) =
      NamespaceElement.mk e.kind e.callable e.customType ↔ _
    simp only [NamespaceElement.mk.injEq, Tag.canonical_eq_iff, canonicalTags_eq_iff]

instance : NamedTags Namespace where
  TagsNamed n := TagsNamed n.elements
  canonicalTags_eq_iff n := by
    show Namespace.mk (canonicalTags n.name) (canonicalTags n.elements) (canonicalTags n.documentation) =
      Namespace.mk n.name n.elements n.documentation ↔ _
    simp only [Namespace.mk.injEq, canonicalTags_eq_iff, canonicalTags_eq, true_and, and_true]

instance : NamedTags Program where
  TagsNamed p := TagsNamed p.namespaces
  canonicalTags_eq_iff p := by
    show Program.mk (canonicalTags p.namespaces) (canonicalTags p.entryPoints) =
      Program.mk p.namespaces p.entryPoints ↔ _
    simp only [Program.mk.injEq, canonicalTags_eq_iff, canonicalTags_eq, and_true]

end Record

end ProgramInterchange
