import ProgramInterchange.Tree.Program

/-!
# Well-formed trees

A tree may hold names without characters and tuple types without items, which no record gives back. Here
stands which trees are well-formed in the parts that a record carries, and what it carries of a tree.
-/

namespace ProgramInterchange

/-- Both parts of the name are identifiers. -/
def QualifiedName.WellFormed (q : QualifiedName) : Prop := q.space ≠ "" ∧ q.name ≠ ""

def UserDefinedType.WellFormed (u : UserDefinedType) : Prop := u.space ≠ "" ∧ u.name ≠ ""

def TypeParameter.WellFormed (p : TypeParameter) : Prop := p.origin.WellFormed ∧ p.typeName ≠ ""

namespace Tree

/-! ### Types -/

namespace TypeKind

variable {D E C : Type}

/-- The node is no tuple without items, and the names it mentions are identifiers. -/
def WellFormed : TypeKind D UserDefinedType TypeParameter C → Prop
  | .tuple items => items ≠ []
  | .userDefined reference => reference.WellFormed
  | .parameter reference => reference.WellFormed
  | _ => True

theorem wellFormed_mapParts (f : D → E) (k : TypeKind D UserDefinedType TypeParameter C) :
    (k.mapParts f).WellFormed ↔ k.WellFormed := by
  cases k with
  | tuple items => simp only [mapParts, map, WellFormed, ne_eq, List.map_eq_nil_iff]
  | _ => rfl

end TypeKind

/-- Every node of the type is well-formed. -/
def ResolvedType.WellFormed (t : ResolvedType) : Prop := ∀ node ∈ t.nodes, node.WellFormed

theorem ResolvedType.nodes_mk (kind : ResolvedTypeKind) :
    (mk kind).nodes = kind.mapParts (fun _ => ()) :: kind.parts.flatMap nodes := by
  rw [nodes, fold_mk, ← nodes, TypeKind.parts_mapParts, List.flatMap_def]
  congr 1
  cases kind with
  | tuple items => simp only [TypeKind.mapParts, TypeKind.map, List.map_map, Function.comp_def]
  | _ => rfl

theorem ResolvedType.wellFormed_mk (kind : ResolvedTypeKind) :
    (mk kind).WellFormed ↔ kind.WellFormed ∧ ∀ t ∈ kind.parts, t.WellFormed := by
  unfold WellFormed
  rw [nodes_mk, List.forall_mem_cons, TypeKind.wellFormed_mapParts]
  simp only [List.mem_flatMap]
  constructor
  · rintro ⟨hk, h⟩
    exact ⟨hk, fun t ht node hn => h node ⟨t, ht, hn⟩⟩
  · rintro ⟨hk, h⟩
    exact ⟨hk, fun node ⟨t, ht, hn⟩ => h t ht node hn⟩

/-! ### Declarations and programs -/

def LocalSymbol.WellFormed : LocalSymbol → Prop
  | .valid name => name ≠ ""
  | .invalid => True

def TypeItem.WellFormed : TypeItem → Prop
  | .named declaration => declaration.variableName ≠ "" ∧ declaration.resolvedType.WellFormed
  | .anonymous type => type.WellFormed

/-- The type of the attribute is named by identifiers, if it is known. -/
def Attribute.WellFormed (a : Attribute) : Prop := ∀ u ∈ a.typeId, u.WellFormed

structure Callable.WellFormed (c : Callable) : Prop where
  typeParameters : ∀ s ∈ c.signature.typeParameters, s.WellFormed
  argumentType : c.signature.argumentType.WellFormed
  returnType : c.signature.returnType.WellFormed
  arguments : ∀ v ∈ c.argumentTuple.items, v.variableName.WellFormed ∧ v.resolvedType.WellFormed
  fullName : c.fullName.WellFormed
  attributes : ∀ a ∈ c.attributes, a.WellFormed

structure CustomType.WellFormed (t : CustomType) : Prop where
  underlyingType : t.underlyingType.WellFormed
  typeItems : ∀ i ∈ t.typeItems.items, i.WellFormed
  fullName : t.fullName.WellFormed
  attributes : ∀ a ∈ t.attributes, a.WellFormed

def NamespaceElement.WellFormed : NamespaceElement → Prop
  | .callable declaration => declaration.WellFormed
  | .customType declaration => declaration.WellFormed

structure Namespace.WellFormed (n : Namespace) : Prop where
  name : n.name ≠ ""
  elements : ∀ e ∈ n.elements, e.WellFormed

/-- Entry points, specializations and the arguments of attributes play no part. -/
def Program.WellFormed (p : Program) : Prop := ∀ n ∈ p.namespaces, n.WellFormed

/-! ### What a record carries -/

def Attribute.carried (a : Attribute) : Attribute := { a with argument := .placeholder }

/-- The callable without specializations and the arguments of its attributes. -/
def Callable.carried (c : Callable) : Callable :=
  { c with attributes := c.attributes.map Attribute.carried, specializations := [] }

def CustomType.carried (t : CustomType) : CustomType :=
  { t with attributes := t.attributes.map Attribute.carried }

def NamespaceElement.carried : NamespaceElement → NamespaceElement
  | .callable declaration => .callable declaration.carried
  | .customType declaration => .customType declaration.carried

def Documentation.carried (d : Documentation) : Documentation where
  files := d.files.filter fun entry => entry.2 ≠ []
  nodup := (List.filter_sublist.map Prod.fst).nodup d.nodup

def Namespace.carried (n : Namespace) : Namespace :=
  ⟨n.name, n.elements.map NamespaceElement.carried, n.documentation.carried⟩

/-- The program without entry points and without what its declarations lose. -/
def Program.carried (p : Program) : Program := ⟨p.namespaces.map Namespace.carried, []⟩

end Tree

end ProgramInterchange
