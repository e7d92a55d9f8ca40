import Mathlib.Data.List.Forall2
import ProgramInterchange.Proofs.Conversion.Content

/-!
# Trees with the same record

No two types, tuples or signatures have one record, whether they are well-formed or not. So two trees have the
same record exactly if a profile carries the same of both.
-/

namespace ProgramInterchange.Tree

open Function (Injective)

theorem map_eq_map_iff_forall₂ {α β : Type} {f : α → β} {as bs : List α} :
    as.map f = bs.map f ↔ List.Forall₂ (fun a b => f a = f b) as bs := by
  rw [← List.forall₂_eq_eq_eq, List.forall₂_map_left_iff, List.forall₂_map_right_iff]

/-! ### Types -/

theorem Characteristics.toRecord_injective : Injective Characteristics.toRecord := by
  intro c d h
  have back := congrArg Record.Characteristics.toTree h
  rw [toTree_toRecord, toTree_toRecord] at back
  exact Except.ok.inj back

theorem informationToRecord_injective : Injective informationToRecord := by
  intro i j h
  obtain ⟨characteristics, inferred⟩ := i
  obtain ⟨characteristics', inferred'⟩ := j
  simp only [informationToRecord, CallableInformation.map, CallableInformation.mk.injEq] at h
  obtain ⟨hc, hi⟩ := h
  rw [Characteristics.toRecord_injective hc, hi]

/-- Lists of the same results are the same where no item shares its result with another one. -/
theorem eq_of_map_eq_map {α β : Type} {f : α → β} {as bs : List α} (each : ∀ a ∈ as, ∀ b, f a = f b → a = b)
    (h : as.map f = bs.map f) : as = bs := by
  induction as generalizing bs with
  | nil => exact (List.map_eq_nil_iff.mp h.symm).symm
  | cons a as ih =>
    obtain ⟨first, rest⟩ := List.forall_mem_cons.mp each
    cases bs with
    | nil => cases h
    | cons b bs =>
      obtain ⟨head, tail⟩ := List.cons.inj h
      rw [first b head, ih rest tail]

/-- The tag of a node says of which kind it is, and its payload what it is made of. -/
theorem toNode_inj {kind other : ResolvedTypeKind} (parts : ∀ t ∈ kind.parts, ∀ u, t.toRecord = u.toRecord → t = u)
    (h : Id.run ((typeWriter ResolvedType.toRecord).toNode kind) =
      Id.run ((typeWriter ResolvedType.toRecord).toNode other)) : kind = other := by
  cases kind with
  | leaf type =>
    cases other with
    | leaf type' =>
      cases h
      rfl
    | _ => cases h
  | array item =>
    cases other with
    | array item' =>
      have payload : some item.toRecord = some item'.toRecord := congrArg Record.TypeNode.arrayType h
      rw [parts item (by simp [TypeKind.parts]) item' (Option.some.inj payload)]
    | _ => cases h
  | tuple items =>
    cases other with
    | tuple items' =>
      rw [toNode_tuple, toNode_tuple] at h
      have payload := congrArg Record.TypeNode.tupleType h
      have same : items = items' := eq_of_map_eq_map parts (Option.some.inj payload)
      rw [same]
    | _ => cases h
  | userDefined reference =>
    cases other with
    | userDefined reference' =>
      cases h
      rfl
    | _ => cases h
  | parameter reference =>
    cases other with
    | parameter reference' =>
      cases h
      rfl
    | _ => cases h
  | operation domain codomain information =>
    cases other with
    | operation domain' codomain' information' =>
      have payload : some (Record.OperationType.mk (Record.Arrow.mk domain.toRecord codomain.toRecord)
          (informationToRecord information)) = some ⟨⟨domain'.toRecord, codomain'.toRecord⟩,
            informationToRecord information'⟩ := congrArg Record.TypeNode.operation h
      simp only [Option.some.injEq, Record.OperationType.mk.injEq, Record.Arrow.mk.injEq] at payload
      obtain ⟨⟨left, right⟩, known⟩ := payload
      rw [parts domain (by simp [TypeKind.parts]) domain' left,
        parts codomain (by simp [TypeKind.parts]) codomain' right, informationToRecord_injective known]
    | _ => cases h
  | function domain codomain =>
    cases other with
    | function domain' codomain' =>
      have payload : some (Record.Arrow.mk domain.toRecord codomain.toRecord) =
          some ⟨domain'.toRecord, codomain'.toRecord⟩ := congrArg Record.TypeNode.function h
      simp only [Option.some.injEq, Record.Arrow.mk.injEq] at payload
      rw [parts domain (by simp [TypeKind.parts]) domain' payload.1,
        parts codomain (by simp [TypeKind.parts]) codomain' payload.2]
    | _ => cases h

theorem ResolvedType.toRecord_injective : Injective ResolvedType.toRecord := by
  intro t
  induction t using ResolvedType.induction with
  | node kind ih =>
    intro u h
    obtain ⟨other⟩ := u
    rw [toRecord_mk, toRecord_mk] at h
    rw [toNode_inj ih (Record.ResolvedType.mk.inj h)]

/-! ### Parts of declarations -/

theorem Tuple.toRecord_injective {α β : Type} {f : α → β} (hf : Injective f) :
    Injective (Tuple.toRecord f) := by
  intro t
  induction t using Tuple.induction with
  | item value =>
    intro u h
    cases u with
    | item value' =>
      rw [toRecord_item, toRecord_item, Record.Tuple.single.injEq] at h
      rw [hf (Option.some.inj h.2)]
    | group members => cases h
  | group members ih =>
    intro u h
    cases u with
    | item value => cases h
    | group members' =>
      rw [toRecord_group, toRecord_group, Record.Tuple.grouped.injEq] at h
      have same : members = members' := eq_of_map_eq_map ih h.2.2
      rw [same]

theorem LocalSymbol.toRecord_injective : Injective LocalSymbol.toRecord := by
  intro s s' h
  cases s <;> cases s' <;> simp_all [toRecord]

theorem argumentToRecord_injective : Injective argumentToRecord := by
  intro v w h
  obtain ⟨name, type, inferred, position, range⟩ := v
  obtain ⟨name', type', inferred', position', range'⟩ := w
  simp only [argumentToRecord, LocalVariable.map, LocalVariable.mk.injEq] at h
  obtain ⟨names, types, rfl, rfl, rfl⟩ := h
  rw [LocalSymbol.toRecord_injective names, ResolvedType.toRecord_injective types]

theorem TypeItem.toRecord_injective : Injective TypeItem.toRecord := by
  intro i j h
  cases i with
  | named v =>
    cases j with
    | named w =>
      obtain ⟨name, type, inferred, position, range⟩ := v
      obtain ⟨name', type', inferred', position', range'⟩ := w
      simp only [toRecord, Record.TypeItem.mk.injEq, Option.some.injEq, LocalVariable.map,
        LocalVariable.mk.injEq] at h
      obtain ⟨-, ⟨rfl, types, rfl, rfl, rfl⟩, -⟩ := h
      rw [ResolvedType.toRecord_injective types]
      rfl
    | anonymous type => cases h
  | anonymous type =>
    cases j with
    | named w => cases h
    | anonymous type' =>
      simp only [toRecord, Record.TypeItem.mk.injEq, Option.some.injEq] at h
      rw [ResolvedType.toRecord_injective h.2.2]

theorem Modifiers.toRecord_injective : Injective Modifiers.toRecord := by
  intro m m' h
  obtain ⟨access⟩ := m
  obtain ⟨access'⟩ := m'
  cases h
  rfl

theorem signatureToRecord_injective : Injective signatureToRecord := by
  intro s s' h
  obtain ⟨parameters, argumentType, returnType, information⟩ := s
  obtain ⟨parameters', argumentType', returnType', information'⟩ := s'
  simp only [signatureToRecord, Signature.map, Signature.mk.injEq] at h
  obtain ⟨hp, ha, hr, hi⟩ := h
  rw [LocalSymbol.toRecord_injective.list_map hp, ResolvedType.toRecord_injective ha,
    ResolvedType.toRecord_injective hr, informationToRecord_injective hi]

/-- Attributes of one record differ in their arguments only. -/
theorem attributes_carried_of_toRecord {as bs : List Attribute}
    (h : as.map Attribute.toRecord = bs.map Attribute.toRecord) :
    as.map Attribute.carried = bs.map Attribute.carried := by
  rw [map_eq_map_iff_forall₂] at h ⊢
  refine h.imp fun a b same => ?_
  obtain ⟨typeId, typeIdRange, argument, offset, comments⟩ := a
  cases same
  rfl

/-! ### Declarations -/

theorem Callable.carried_of_toRecord {c d : Callable} (h : c.toRecord .full = d.toRecord .full) :
    c.carried = d.carried := by
  simp only [toRecord, Profile.keep, Record.Callable.mk.injEq, Tag.known.injEq, Option.some.injEq] at h
  obtain ⟨kind, fullName, attributes, modifiers, sourceFile, location, signature, arguments, documentation,
    comments⟩ := h
  have attributes := attributes_carried_of_toRecord attributes
  have modifiers := Modifiers.toRecord_injective modifiers
  have signature := signatureToRecord_injective signature
  have arguments := Tuple.toRecord_injective argumentToRecord_injective arguments
  rw [carried, carried, mk.injEq]
  exact ⟨kind, fullName, attributes, modifiers, sourceFile, location, signature, arguments, rfl, documentation,
    comments⟩

theorem Callable.minimal_of_toRecord {c d : Callable} (h : c.toRecord .minimal = d.toRecord .minimal) :
    c.carried.minimal = d.carried.minimal := by
  simp only [toRecord, Record.Callable.mk.injEq, Tag.known.injEq] at h
  obtain ⟨kind, fullName, -, -, sourceFile, location, -, -, documentation, comments⟩ := h
  rw [minimal, minimal, mk.injEq]
  exact ⟨kind, fullName, rfl, rfl, sourceFile, location, rfl, rfl, rfl, documentation, comments⟩

theorem CustomType.carried_of_toRecord {t u : CustomType} (h : t.toRecord .full = u.toRecord .full) :
    t.carried = u.carried := by
  simp only [toRecord, Profile.keep, Record.CustomType.mk.injEq, Option.some.injEq] at h
  obtain ⟨fullName, attributes, modifiers, sourceFile, location, type, items, documentation, comments⟩ := h
  have attributes := attributes_carried_of_toRecord attributes
  have modifiers := Modifiers.toRecord_injective modifiers
  have type := ResolvedType.toRecord_injective type
  have items := Tuple.toRecord_injective TypeItem.toRecord_injective items
  rw [carried, carried, mk.injEq]
  exact ⟨fullName, attributes, modifiers, sourceFile, location, type, items, documentation, comments⟩

theorem CustomType.minimal_of_toRecord {t u : CustomType} (h : t.toRecord .minimal = u.toRecord .minimal) :
    t.carried.minimal = u.carried.minimal := by
  simp only [toRecord, Record.CustomType.mk.injEq] at h
  obtain ⟨fullName, -, -, sourceFile, location, -, -, documentation, comments⟩ := h
  rw [minimal, minimal, mk.injEq]
  exact ⟨fullName, rfl, rfl, sourceFile, location, rfl, rfl, documentation, comments⟩

theorem NamespaceElement.content_of_toRecord {profile : Profile} {e f : NamespaceElement}
    (h : e.toRecord profile = f.toRecord profile) : e.content profile = f.content profile := by
  cases e with
  | callable c =>
    cases f with
    | callable d =>
      simp only [toRecord, Record.NamespaceElement.mk.injEq, Option.some.injEq] at h
      cases profile with
      | full => exact congrArg callable (Callable.carried_of_toRecord h.2.1)
      | minimal => exact congrArg callable (Callable.minimal_of_toRecord h.2.1)
    | customType u => cases h
  | customType t =>
    cases f with
    | callable d => cases h
    | customType u =>
      simp only [toRecord, Record.NamespaceElement.mk.injEq, Option.some.injEq] at h
      cases profile with
      | full => exact congrArg customType (CustomType.carried_of_toRecord h.2.2)
      | minimal => exact congrArg customType (CustomType.minimal_of_toRecord h.2.2)

theorem NamespaceElement.toRecord_eq_iff {profile : Profile} {e f : NamespaceElement} :
    e.toRecord profile = f.toRecord profile ↔ e.content profile = f.content profile := by
  constructor
  · exact content_of_toRecord
  · intro h
    rw [← e.toRecord_content, h, f.toRecord_content]

/-! ### Programs -/

theorem Documentation.toRecord_eq_iff {d e : Documentation} : d.toRecord = e.toRecord ↔ d.entries = e.entries := by
  have distinct : Injective fun entry : String × DocumentationGroup =>
      (⟨entry.1, entry.2⟩ : Record.DocumentationItem) := by
    intro entry other h
    obtain ⟨file, group⟩ := entry
    cases h
    rfl
  exact distinct.list_map.eq_iff

/-- The namespaces agree in what a profile carries of them. -/
structure Namespace.SameContent (profile : Profile) (m n : Namespace) : Prop where
  name : m.name = n.name
  documentation : m.documentation.entries = n.documentation.entries
  elements : m.elements.map (NamespaceElement.content profile) =
    n.elements.map (NamespaceElement.content profile)

theorem Namespace.toRecord_eq_iff {profile : Profile} {m n : Namespace} :
    m.toRecord profile = n.toRecord profile ↔ m.SameContent profile n := by
  have elements : m.elements.map (NamespaceElement.toRecord profile) =
      n.elements.map (NamespaceElement.toRecord profile) ↔
        m.elements.map (NamespaceElement.content profile) =
          n.elements.map (NamespaceElement.content profile) := by
    rw [map_eq_map_iff_forall₂, map_eq_map_iff_forall₂]
    simp only [NamespaceElement.toRecord_eq_iff]
  rw [toRecord, toRecord, Record.Namespace.mk.injEq, elements, Documentation.toRecord_eq_iff]
  constructor
  · rintro ⟨name, elements, documentation⟩
    exact ⟨name, documentation, elements⟩
  · rintro ⟨name, documentation, elements⟩
    exact ⟨name, elements, documentation⟩

/-- The programs have the same entry points and agree, namespace by namespace, in what a profile carries. -/
structure Program.SameContent (profile : Profile) (p q : Program) : Prop where
  entryPoints : p.entryPoints = q.entryPoints
  namespaces : List.Forall₂ (Namespace.SameContent profile) p.namespaces q.namespaces

theorem Program.toRecord_eq_iff {profile : Profile} {p q : Program} :
    p.toRecord profile = q.toRecord profile ↔ p.SameContent profile q := by
  rw [toRecord_eq, toRecord_eq, Record.Program.mk.injEq, map_eq_map_iff_forall₂]
  simp only [Namespace.toRecord_eq_iff]
  exact ⟨fun h => ⟨h.2, h.1⟩, fun h => ⟨h.2, h.1⟩⟩

end ProgramInterchange.Tree
