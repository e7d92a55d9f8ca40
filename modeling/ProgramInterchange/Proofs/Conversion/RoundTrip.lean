import ProgramInterchange.Proofs.Computation
import ProgramInterchange.Proofs.Tree.Documentation

/-!
# From a tree to its record and back

The record of a tree under the full profile gives a tree back exactly if the tree is well-formed, namely
the tree without what no record carries.
-/

namespace ProgramInterchange

open Record (requireKnown)

/-! ### Names and references -/

theorem requireIdentifier_succeeds (field value : String) :
    Succeeds (requireIdentifier field value) (value ≠ "") value :=
  fun _ => requireIdentifier_eq_ok_iff

theorem QualifiedName.checked_succeeds (q : QualifiedName) :
    Succeeds (checked q.space q.name) q.WellFormed q := by
  have space := requireIdentifier_succeeds "QualifiedName.namespace" q.space
  have name := requireIdentifier_succeeds "QualifiedName.name" q.name
  exact space.bind (name.map (QualifiedName.mk q.space))

theorem UserDefinedType.checked_succeeds (u : UserDefinedType) : Succeeds u.checked u.WellFormed u := by
  have space := requireIdentifier_succeeds "UserDefinedType.namespace" u.space
  have name := requireIdentifier_succeeds "UserDefinedType.name" u.name
  exact space.bind (name.map fun name => UserDefinedType.mk u.space name u.range)

theorem UserDefinedType.mapM_checked_succeeds (o : Option UserDefinedType) :
    Succeeds (o.mapM checked) (∀ u ∈ o, u.WellFormed) o :=
  (Succeeds.mapM_option fun u _ => u.checked_succeeds).congr Iff.rfl Option.map_id'

theorem TypeParameter.checked_succeeds (p : TypeParameter) : Succeeds p.checked p.WellFormed p := by
  have typeName := requireIdentifier_succeeds "TypeParameter.type_name" p.typeName
  exact p.origin.checked_succeeds.bind (typeName.map fun name => TypeParameter.mk p.origin name p.range)

namespace Tree

/-! ### Types -/

theorem Characteristics.toTree_toRecord (c : Characteristics) : c.toRecord.toTree = .ok c := by
  induction c with
  | emptySet => rfl
  | simpleSet property => rfl
  | union lhs rhs ihl ihr =>
    simp only [toRecord, Record.Characteristics.toTree, ihl, ihr]
    rfl
  | intersection lhs rhs ihl ihr =>
    simp only [toRecord, Record.Characteristics.toTree, ihl, ihr]
    rfl
  | invalid => rfl

theorem informationToTree_informationToRecord (i : CallableInformation Characteristics) :
    Record.informationToTree (informationToRecord i) = .ok i := by
  have h := i.characteristics.toTree_toRecord
  simp only [Record.informationToTree, informationToRecord, CallableInformation.mapM,
    CallableInformation.map, h]
  rfl

theorem toNode_tuple (items : List ResolvedType) :
    Id.run ((typeWriter ResolvedType.toRecord).toNode (.tuple items)) =
      ⟨.known .tuple, none, some (items.map ResolvedType.toRecord), none, none, none, none⟩ := by
  simp [PayloadWalk.toNode, typeWriter]

theorem kind_succeeds (kind : ResolvedTypeKind)
    (parts : ∀ t ∈ kind.parts, Succeeds t.toRecord.toTree t.WellFormed t) :
    Succeeds ((Record.typeReader Record.ResolvedType.toTree).toKind
        (Id.run ((typeWriter ResolvedType.toRecord).toNode kind)))
      (kind.WellFormed ∧ ∀ t ∈ kind.parts, t.WellFormed) kind := by
  cases kind with
  | leaf type => exact (Succeeds.ok _).congr (by simp [TypeKind.WellFormed, TypeKind.parts]) rfl
  | array item =>
    have h := parts item (List.mem_singleton_self item)
    exact (h.map TypeKind.array).congr (by simp [TypeKind.WellFormed, TypeKind.parts]) rfl
  | tuple items =>
    have each : Succeeds ((items.map ResolvedType.toRecord).mapM Record.ResolvedType.toTree)
        (∀ t ∈ items, t.WellFormed) items := by
      have h := Succeeds.mapM (f := fun t : ResolvedType => t.toRecord.toTree) parts
      rw [List.mapM_map]
      exact h.congr Iff.rfl (List.map_id' items)
    rw [toNode_tuple]
    cases items with
    | nil => exact (Succeeds.error _ _).congr (by simp [TypeKind.WellFormed]) rfl
    | cons item items =>
      exact (each.map TypeKind.tuple).congr (by simp [TypeKind.WellFormed, TypeKind.parts]) rfl
  | userDefined reference =>
    exact (reference.checked_succeeds.map TypeKind.userDefined).congr
      (by simp [TypeKind.WellFormed, TypeKind.parts]) rfl
  | parameter reference =>
    exact (reference.checked_succeeds.map TypeKind.parameter).congr
      (by simp [TypeKind.WellFormed, TypeKind.parts]) rfl
  | operation domain codomain information =>
    have hd := parts domain (by simp [TypeKind.parts])
    have hc := parts codomain (by simp [TypeKind.parts])
    have hi : Succeeds (Record.informationToTree (informationToRecord information)) True information := by
      rw [informationToTree_informationToRecord]
      exact .ok _
    exact (hd.bind (hc.bind (hi.map (TypeKind.operation domain codomain)))).congr
      (by simp [TypeKind.WellFormed, TypeKind.parts]) rfl
  | function domain codomain =>
    have hd := parts domain (by simp [TypeKind.parts])
    have hc := parts codomain (by simp [TypeKind.parts])
    exact (hd.bind (hc.map (TypeKind.function domain))).congr
      (by simp [TypeKind.WellFormed, TypeKind.parts]) rfl

theorem ResolvedType.toRecord_succeeds (t : ResolvedType) :
    Succeeds t.toRecord.toTree t.WellFormed t := by
  induction t using ResolvedType.induction with
  | node kind ih =>
    rw [toRecord_mk, Record.ResolvedType.toTree_mk]
    exact ((kind_succeeds kind ih).map mk).congr (wellFormed_mk kind).symm rfl

/-! ### Tuples -/

theorem Tuple.toRecord_item {α β : Type} (f : α → β) (value : α) :
    (item value).toRecord f = .single (.known .item) (some (f value)) := rfl

theorem Tuple.toRecord_group {α β : Type} (f : α → β) (members : List (Tuple α)) :
    (group members).toRecord f = .grouped (.known .group) none (members.map fun t => t.toRecord f) := by
  simp only [toRecord, toRecordM, toRecordsM_eq_mapM, Id.run_bind, Id.run_pure, List.idRun_mapM]

/-- If items come back under a condition, so does a tuple of items that all meet it. -/
theorem Tuple.toRecord_succeeds {α β γ : Type} {f : α → β} {g : β → Except Fault γ} {P : α → Prop}
    {h : α → γ} (each : ∀ a, Succeeds (g (f a)) (P a) (h a)) (t : Tuple α) :
    Succeeds ((t.toRecord f).toTreeM g) (∀ a ∈ t.items, P a) (t.map h) := by
  induction t using Tuple.induction with
  | item value => exact ((each value).map Tuple.item).congr (by simp [items]) rfl
  | group members ih =>
    have all : Succeeds (Record.Tuple.toTreesM g (members.map fun t => t.toRecord f))
        (∀ t ∈ members, ∀ a ∈ t.items, P a) (members.map fun t => t.map h) := by
      rw [Record.Tuple.toTreesM_eq_mapM, List.mapM_map]
      exact Succeeds.mapM ih
    rw [toRecord_group, map_group]
    refine (all.map Tuple.group).congr ?_ rfl
    simp only [items_group, List.mem_flatMap]
    constructor
    · rintro h a ⟨t, ht, ha⟩
      exact h t ht a ha
    · exact fun h t ht a ha => h a ⟨t, ht, ha⟩

theorem Tuple.map_id' {α : Type} (t : Tuple α) : t.map (fun a => a) = t := by
  induction t using Tuple.induction with
  | item value => rfl
  | group members ih =>
    rw [map_group, List.map_congr_left ih, List.map_id']

/-! ### Parts of declarations -/

theorem LocalSymbol.toRecord_succeeds (s : LocalSymbol) : Succeeds s.toRecord.toTree s.WellFormed s := by
  cases s with
  | valid name => exact (requireIdentifier_succeeds "LocalSymbol.name" name).map LocalSymbol.valid
  | invalid => exact Succeeds.ok _

theorem argumentToRecord_succeeds (v : LocalVariable LocalSymbol ResolvedType) :
    Succeeds (Record.argumentToTree (argumentToRecord v))
      (v.variableName.WellFormed ∧ v.resolvedType.WellFormed) v := by
  have type := v.resolvedType.toRecord_succeeds
  exact v.variableName.toRecord_succeeds.bind
    (type.map fun t => LocalVariable.mk v.variableName t v.inferred v.position v.range)

theorem TypeItem.toRecord_succeeds (i : TypeItem) : Succeeds i.toRecord.toTree i.WellFormed i := by
  cases i with
  | named v =>
    have name := requireIdentifier_succeeds "TypeItem.named" v.variableName
    have type := v.resolvedType.toRecord_succeeds
    have declaration : Succeeds ((v.map id ResolvedType.toRecord).mapM
        (requireIdentifier "TypeItem.named") Record.ResolvedType.toTree)
        (v.variableName ≠ "" ∧ v.resolvedType.WellFormed) v :=
      name.bind (type.map fun t => LocalVariable.mk v.variableName t v.inferred v.position v.range)
    exact declaration.map TypeItem.named
  | anonymous type => exact type.toRecord_succeeds.map TypeItem.anonymous

theorem Attribute.toRecord_succeeds (a : Attribute) :
    Succeeds a.toRecord.toTree a.WellFormed a.carried :=
  (UserDefinedType.mapM_checked_succeeds a.typeId).map fun u =>
    Attribute.mk u a.typeIdRange .placeholder a.offset a.comments

theorem attributesToTree_succeeds (attributes : List Attribute) :
    Succeeds (Record.attributesToTree (some (attributes.map Attribute.toRecord)))
      (∀ a ∈ attributes, a.WellFormed) (attributes.map Attribute.carried) := by
  have h : Succeeds ((attributes.map Attribute.toRecord).mapM Record.Attribute.toTree)
      (∀ a ∈ attributes, a.WellFormed) (attributes.map Attribute.carried) := by
    rw [List.mapM_map]
    exact Succeeds.mapM fun a _ => a.toRecord_succeeds
  exact h

theorem signatureToRecord_succeeds (s : ResolvedSignature) :
    Succeeds (Record.signatureToTree (signatureToRecord s))
      ((∀ p ∈ s.typeParameters, p.WellFormed) ∧ s.argumentType.WellFormed ∧ s.returnType.WellFormed) s := by
  have parameters : Succeeds ((s.typeParameters.map LocalSymbol.toRecord).mapM Record.LocalSymbol.toTree)
      (∀ p ∈ s.typeParameters, p.WellFormed) s.typeParameters := by
    rw [List.mapM_map]
    exact (Succeeds.mapM fun p _ => p.toRecord_succeeds).congr Iff.rfl (List.map_id' _)
  have information : Succeeds (Record.informationToTree (informationToRecord s.information)) True
      s.information := by
    rw [informationToTree_informationToRecord]
    exact .ok _
  have argumentType := s.argumentType.toRecord_succeeds
  have returnType := s.returnType.toRecord_succeeds
  refine Succeeds.congr (parameters.bind (argumentType.bind (returnType.bind
    (information.map (Signature.mk s.typeParameters s.argumentType s.returnType))))) ?_ rfl
  rw [and_true]

/-! ### Declarations -/

theorem Callable.toRecord_succeeds (c : Callable) :
    Succeeds (c.toRecord .full).toTree c.WellFormed c.carried := by
  have signature := signatureToRecord_succeeds c.signature
  have arguments := c.argumentTuple.toRecord_succeeds argumentToRecord_succeeds
  rw [Tuple.map_id'] at arguments
  have kind : Succeeds (requireKnown "CallableKind" (.known c.kind)) True c.kind := .ok _
  have fullName := c.fullName.checked_succeeds
  have attributes := attributesToTree_succeeds c.attributes
  have modifiers : Succeeds (Record.orPlaceholder Modifiers.placeholder Record.Modifiers.toTree
      (some c.modifiers.toRecord)) True c.modifiers := .ok _
  refine Succeeds.congr (signature.bind (arguments.bind (kind.bind (fullName.bind (attributes.bind
    (modifiers.map fun modifiers => ({ c.carried with modifiers } : Callable))))))) ?_ rfl
  constructor
  · rintro ⟨⟨ht, ha, hr⟩, hv, -, hn, has, -⟩
    exact ⟨ht, ha, hr, hv, hn, has⟩
  · rintro ⟨ht, ha, hr, hv, hn, has⟩
    exact ⟨⟨ht, ha, hr⟩, hv, trivial, hn, has, trivial⟩

theorem CustomType.toRecord_succeeds (t : CustomType) :
    Succeeds (t.toRecord .full).toTree t.WellFormed t.carried := by
  have type := t.underlyingType.toRecord_succeeds
  have items := t.typeItems.toRecord_succeeds TypeItem.toRecord_succeeds
  rw [Tuple.map_id'] at items
  have fullName := t.fullName.checked_succeeds
  have attributes := attributesToTree_succeeds t.attributes
  have modifiers : Succeeds (Record.orPlaceholder Modifiers.placeholder Record.Modifiers.toTree
      (some t.modifiers.toRecord)) True t.modifiers := .ok _
  refine Succeeds.congr (type.bind (items.bind (fullName.bind (attributes.bind
    (modifiers.map fun modifiers => ({ t.carried with modifiers } : CustomType)))))) ?_ rfl
  constructor
  · rintro ⟨hu, hi, hn, has, -⟩
    exact ⟨hu, hi, hn, has⟩
  · rintro ⟨hu, hi, hn, has⟩
    exact ⟨hu, hi, hn, has, trivial⟩

theorem NamespaceElement.toRecord_succeeds (e : NamespaceElement) :
    Succeeds (e.toRecord .full).toTree e.WellFormed e.carried := by
  cases e with
  | callable declaration => exact declaration.toRecord_succeeds.map NamespaceElement.callable
  | customType declaration => exact declaration.toRecord_succeeds.map NamespaceElement.customType

/-! ### Programs -/

/-- If declarations come back under a condition, so does a namespace of declarations that all meet it. -/
theorem Namespace.toRecord_succeeds_of {profile : Profile} {P : NamespaceElement → Prop}
    {f : NamespaceElement → NamespaceElement} (each : ∀ e, Succeeds (e.toRecord profile).toTree (P e) (f e))
    (n : Namespace) :
    Succeeds (n.toRecord profile).toTree (n.name ≠ "" ∧ ∀ e ∈ n.elements, P e)
      ⟨n.name, n.elements.map f, n.documentation.carried⟩ := by
  have name := requireIdentifier_succeeds "Namespace.name" n.name
  have elements : Succeeds ((n.elements.map (NamespaceElement.toRecord profile)).mapM
      Record.NamespaceElement.toTree) (∀ e ∈ n.elements, P e) (n.elements.map f) := by
    rw [List.mapM_map]
    exact Succeeds.mapM fun e _ => each e
  rw [← Record.documentationToTree_toRecord]
  exact name.bind (elements.map fun elements =>
    Namespace.mk n.name elements (Record.documentationToTree n.documentation.toRecord))

theorem Namespace.toRecord_succeeds (n : Namespace) :
    Succeeds (n.toRecord .full).toTree n.WellFormed n.carried :=
  (toRecord_succeeds_of NamespaceElement.toRecord_succeeds n).congr
    ⟨fun h => ⟨h.1, h.2⟩, fun h => ⟨h.name, h.elements⟩⟩ rfl

/-- The full record of a program gives a program back exactly if the program is well-formed, namely what
the record carries of it. -/
theorem Program.toTree_toRecord_eq_ok_iff (p q : Program) :
    (p.toRecord .full).toTree = .ok q ↔ p.WellFormed ∧ q = p.carried := by
  have namespaces : Succeeds ((p.namespaces.map (Namespace.toRecord .full)).mapM Record.Namespace.toTree)
      p.WellFormed (p.namespaces.map Namespace.carried) := by
    rw [List.mapM_map]
    exact Succeeds.mapM fun n _ => n.toRecord_succeeds
  rw [Record.Program.toTree_eq, toRecord_eq]
  exact namespaces.map (fun namespaces => Program.mk namespaces []) q

end Tree

end ProgramInterchange
