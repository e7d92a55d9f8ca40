import ProgramInterchange.Proofs.Conversion.Canonical
import ProgramInterchange.Proofs.Conversion.Selected

/-!
# Absent fields

The fields of the full profile may be absent one by one, in each declaration by itself. The tree of what is
left has placeholders there and is the same everywhere else. The minimal profile leaves all of them out.
-/

namespace ProgramInterchange

variable {α β : Type}

/-- What is done to the item of each place, a successful traversal shows at the same place. -/
theorem mapM_mapIdx_eq_ok {f : α → Except Fault β} {g : Nat → α → α} {h : Nat → β → β} {as : List α}
    {bs : List β} (hm : as.mapM f = .ok bs) (each : ∀ i a b, f a = .ok b → f (g i a) = .ok (h i b)) :
    (as.mapIdx g).mapM f = .ok (bs.mapIdx h) := by
  induction as generalizing bs g h with
  | nil =>
    obtain rfl := pure_eq_ok_iff.mp hm
    rfl
  | cons a as ih =>
    obtain ⟨b, hb, cs, hcs, rfl⟩ := mapM_cons_eq_ok_iff.mp hm
    have rest := ih hcs fun i => each (i + 1)
    rw [List.mapIdx_cons, List.mapIdx_cons, List.mapM_cons, each 0 a b hb, rest]
    rfl

theorem mapIdx_const (f : α → β) (as : List α) : as.mapIdx (fun _ a => f a) = as.map f := by
  have pairs : as.zipIdx.map (fun entry => f entry.1) = (as.zipIdx.map Prod.fst).map f := List.map_map.symm
  rw [List.mapIdx_eq_zipIdx_map, pairs, List.zipIdx_map_fst]

/-! ### Which fields are left out -/

/-- The fields of the full profile that a callable does without. -/
structure CallableOmission where
  attributes : Bool := false
  modifiers : Bool := false
  signature : Bool := false
  argumentTuple : Bool := false

/-- The fields of the full profile that a custom type does without. -/
structure CustomTypeOmission where
  attributes : Bool := false
  modifiers : Bool := false
  underlyingType : Bool := false
  typeItems : Bool := false

/-- The fields that a declaration does without, whichever kind it is of. -/
structure Omission where
  callable : CallableOmission := {}
  customType : CustomTypeOmission := {}

def Omission.everything : Omission := ⟨⟨true, true, true, true⟩, ⟨true, true, true, true⟩⟩

/-! ### Records with absent fields -/

namespace Record

def Callable.omitting (o : CallableOmission) (c : Callable) : Callable :=
  { c with
    attributes := if o.attributes then none else c.attributes
    modifiers := if o.modifiers then none else c.modifiers
    signature := if o.signature then none else c.signature
    argumentTuple := if o.argumentTuple then none else c.argumentTuple }

def CustomType.omitting (o : CustomTypeOmission) (t : CustomType) : CustomType :=
  { t with
    attributes := if o.attributes then none else t.attributes
    modifiers := if o.modifiers then none else t.modifiers
    underlyingType := if o.underlyingType then none else t.underlyingType
    typeItems := if o.typeItems then none else t.typeItems }

def NamespaceElement.omitting (o : Omission) (e : NamespaceElement) : NamespaceElement :=
  { e with
    callable := e.callable.map (Callable.omitting o.callable)
    customType := e.customType.map (CustomType.omitting o.customType) }

/-- The namespace without the fields that are chosen for each of its declarations, by place. -/
def Namespace.omitting (choice : Nat → Omission) (n : Namespace) : Namespace :=
  { n with elements := n.elements.mapIdx fun i => NamespaceElement.omitting (choice i) }

/-- The program without the fields that are chosen for each declaration, by namespace and place in it. -/
def Program.omitting (choice : Nat → Nat → Omission) (p : Program) : Program :=
  { p with namespaces := p.namespaces.mapIdx fun i => Namespace.omitting (choice i) }

end Record

/-! ### Trees with placeholders -/

namespace Tree

def Callable.omitting (o : CallableOmission) (c : Callable) : Callable :=
  { c with
    attributes := if o.attributes then [] else c.attributes
    modifiers := if o.modifiers then .placeholder else c.modifiers
    signature := if o.signature then signaturePlaceholder else c.signature
    argumentTuple := if o.argumentTuple then .empty else c.argumentTuple }

def CustomType.omitting (o : CustomTypeOmission) (t : CustomType) : CustomType :=
  { t with
    attributes := if o.attributes then [] else t.attributes
    modifiers := if o.modifiers then .placeholder else t.modifiers
    underlyingType := if o.underlyingType then .invalid else t.underlyingType
    typeItems := if o.typeItems then .empty else t.typeItems }

def NamespaceElement.omitting (o : Omission) : NamespaceElement → NamespaceElement
  | callable declaration => callable (declaration.omitting o.callable)
  | customType declaration => customType (declaration.omitting o.customType)

/-- The namespace with placeholders for the fields that are chosen for each of its declarations, by place. -/
def Namespace.omitting (choice : Nat → Omission) (n : Namespace) : Namespace :=
  { n with elements := n.elements.mapIdx fun i => NamespaceElement.omitting (choice i) }

/-- The program with placeholders for the fields that are chosen for each declaration, by namespace and
place in it. -/
def Program.omitting (choice : Nat → Nat → Omission) (p : Program) : Program :=
  { p with namespaces := p.namespaces.mapIdx fun i => Namespace.omitting (choice i) }

end Tree

/-! ### The tree of what is left -/

namespace Record

theorem orPlaceholder_omitting {placeholder b : β} {f : α → Except Fault β} {field : Option α} (absent : Bool)
    (h : orPlaceholder placeholder f field = .ok b) :
    orPlaceholder placeholder f (if absent then none else field) =
      .ok (if absent then placeholder else b) := by
  cases absent with
  | false => exact h
  | true => rfl

theorem Callable.toTree_omitting (o : CallableOmission) {c : Callable} {t : Tree.Callable}
    (h : c.toTree = .ok t) : (c.omitting o).toTree = .ok (t.omitting o) := by
  obtain ⟨signature, hs, h⟩ := bind_eq_ok_iff.mp h
  obtain ⟨arguments, hv, h⟩ := bind_eq_ok_iff.mp h
  obtain ⟨kind, hk, h⟩ := bind_eq_ok_iff.mp h
  obtain ⟨fullName, hn, h⟩ := bind_eq_ok_iff.mp h
  obtain ⟨attributes, ha, h⟩ := bind_eq_ok_iff.mp h
  obtain ⟨modifiers, hm, h⟩ := bind_eq_ok_iff.mp h
  obtain rfl := pure_eq_ok_iff.mp h
  -- each field is read by itself, so one that is absent changes none of the others
  simp only [toTree, omitting, attributesToTree, orPlaceholder_omitting o.signature hs,
    orPlaceholder_omitting o.argumentTuple hv, orPlaceholder_omitting o.attributes ha,
    orPlaceholder_omitting o.modifiers hm, hk, hn]
  rfl

theorem CustomType.toTree_omitting (o : CustomTypeOmission) {c : CustomType} {t : Tree.CustomType}
    (h : c.toTree = .ok t) : (c.omitting o).toTree = .ok (t.omitting o) := by
  obtain ⟨type, hu, h⟩ := bind_eq_ok_iff.mp h
  obtain ⟨items, hi, h⟩ := bind_eq_ok_iff.mp h
  obtain ⟨fullName, hn, h⟩ := bind_eq_ok_iff.mp h
  obtain ⟨attributes, ha, h⟩ := bind_eq_ok_iff.mp h
  obtain ⟨modifiers, hm, h⟩ := bind_eq_ok_iff.mp h
  obtain rfl := pure_eq_ok_iff.mp h
  simp only [toTree, omitting, attributesToTree, orPlaceholder_omitting o.underlyingType hu,
    orPlaceholder_omitting o.typeItems hi, orPlaceholder_omitting o.attributes ha,
    orPlaceholder_omitting o.modifiers hm, hn]
  rfl

theorem NamespaceElement.toTree_omitting (o : Omission) {e : NamespaceElement} {t : Tree.NamespaceElement}
    (h : e.toTree = .ok t) : (e.omitting o).toTree = .ok (t.omitting o) := by
  obtain ⟨(_ | _) | code, callable, customType⟩ := e
  · obtain ⟨declaration, rfl, h⟩ := withPayload_eq_ok_iff.mp h
    obtain ⟨c, hc, h⟩ := bind_eq_ok_iff.mp h
    obtain rfl := pure_eq_ok_iff.mp h
    show (do return Tree.NamespaceElement.callable (← (declaration.omitting o.callable).toTree)) = _
    rw [Callable.toTree_omitting o.callable hc]
    rfl
  · obtain ⟨declaration, rfl, h⟩ := withPayload_eq_ok_iff.mp h
    obtain ⟨c, hc, h⟩ := bind_eq_ok_iff.mp h
    obtain rfl := pure_eq_ok_iff.mp h
    show (do return Tree.NamespaceElement.customType (← (declaration.omitting o.customType).toTree)) = _
    rw [CustomType.toTree_omitting o.customType hc]
    rfl
  · cases h

theorem Namespace.toTree_omitting (choice : Nat → Omission) {n : Namespace} {t : Tree.Namespace}
    (h : n.toTree = .ok t) : (n.omitting choice).toTree = .ok (t.omitting choice) := by
  obtain ⟨name, hn, h⟩ := bind_eq_ok_iff.mp h
  obtain ⟨elements, he, h⟩ := bind_eq_ok_iff.mp h
  obtain rfl := pure_eq_ok_iff.mp h
  have left := mapM_mapIdx_eq_ok he fun i _ _ => NamespaceElement.toTree_omitting (choice i)
  simp only [toTree, omitting, hn, left]
  rfl

theorem Program.toTree_omitting (choice : Nat → Nat → Omission) {p : Program} {t : Tree.Program}
    (h : p.toTree = .ok t) : (p.omitting choice).toTree = .ok (t.omitting choice) := by
  rw [toTree_eq] at h
  obtain ⟨namespaces, hn, h⟩ := bind_eq_ok_iff.mp h
  obtain rfl := pure_eq_ok_iff.mp h
  have left := mapM_mapIdx_eq_ok hn fun i _ _ => Namespace.toTree_omitting (choice i)
  rw [toTree_eq, omitting, left]
  rfl

end Record

/-! ### Without any field of the full profile -/

namespace Record

theorem Namespace.omitting_everything (n : Namespace) : (n.omitting fun _ => .everything) = n.minimal := by
  rw [omitting, mapIdx_const]
  rfl

theorem Program.omitting_everything (p : Program) : (p.omitting fun _ _ => .everything) = p.minimal := by
  rw [omitting, mapIdx_const, funext Namespace.omitting_everything]
  rfl

end Record

namespace Tree

theorem NamespaceElement.omitting_everything (e : NamespaceElement) : e.omitting .everything = e.minimal := by
  cases e <;> rfl

theorem Namespace.omitting_everything (n : Namespace) : (n.omitting fun _ => .everything) = n.minimal := by
  rw [omitting, mapIdx_const, funext NamespaceElement.omitting_everything]
  rfl

theorem Program.omitting_everything (p : Program) : (p.omitting fun _ _ => .everything) = p.minimal := by
  rw [omitting, mapIdx_const, funext Namespace.omitting_everything]
  rfl

end Tree

theorem Record.Program.toTree_minimal {p : Record.Program} {t : Tree.Program} (h : p.toTree = .ok t) :
    p.minimal.toTree = .ok t.minimal := by
  have left := toTree_omitting (fun _ _ => .everything) h
  rwa [omitting_everything, Tree.Program.omitting_everything] at left

/-- Whatever fields of the full profile are absent, from whatever declarations: the tree has placeholders
for these and is otherwise the same. The minimal profile is the full one with all of them absent. -/
theorem absent_fields_read_as_placeholders :
    (∀ (p : Record.Program) (t : Tree.Program), p.toTree = .ok t → ∀ choice : Nat → Nat → Omission,
      (p.omitting choice).toTree = .ok (t.omitting choice)) ∧
    ∀ p : Tree.Program, p.toRecord .minimal = (p.toRecord .full).omitting fun _ _ => .everything := by
  refine ⟨fun p t h choice => Record.Program.toTree_omitting choice h, fun p => ?_⟩
  rw [p.toRecord_minimal, Record.Program.omitting_everything]

/-- An internal function of one argument that has an attribute. -/
def successor (name : String) : Tree.Callable where
  kind := .function
  fullName := ⟨"N", name⟩
  attributes := [⟨some ⟨"M", "Test", none⟩, none, .placeholder, ⟨1, 0⟩, ⟨[], []⟩⟩]
  modifiers := ⟨.internal⟩
  sourceFile := "n.qs"
  location := none
  signature := ⟨[], .leaf .int, .leaf .int, Tree.plainInformation⟩
  argumentTuple := .item ⟨.valid "x", .leaf .int, ⟨false, false⟩, none, ⟨⟨0, 0⟩, ⟨0, 1⟩⟩⟩
  specializations := []
  documentation := ["Adds one."]
  comments := ⟨[], []⟩

/-- An internal type with one item. -/
def wrapper : Tree.CustomType where
  fullName := ⟨"N", "T"⟩
  attributes := []
  modifiers := ⟨.internal⟩
  sourceFile := "n.qs"
  location := none
  underlyingType := .leaf .int
  typeItems := .item (.anonymous (.leaf .int))
  documentation := []
  comments := ⟨[], []⟩

def threeDeclarations (f g : Tree.Callable) (t : Tree.CustomType) : Tree.Program :=
  ⟨[⟨"N", [.callable f, .callable g, .customType t], .empty⟩], []⟩

/-- Other fields are left out of each declaration of a namespace. -/
def scatteredOmission : Nat → Nat → Omission
  | _, 0 => { callable := { modifiers := true, signature := true } }
  | _, 1 => { callable := { attributes := true, argumentTuple := true } }
  | _, _ => { customType := { underlyingType := true } }

theorem toTree_omitting_threeDeclarations :
    let p := threeDeclarations (successor "F") (successor "G") wrapper
    (p.toRecord .full).toTree = .ok p ∧
      ((p.toRecord .full).omitting scatteredOmission).toTree = .ok (threeDeclarations
        { successor "F" with modifiers := .placeholder, signature := Tree.signaturePlaceholder }
        { successor "G" with attributes := [], argumentTuple := .empty }
        { wrapper with underlyingType := .invalid }) ∧
      p.toRecord .minimal = (p.toRecord .full).omitting fun _ _ => .everything := by
  intro p
  have read : (p.toRecord .full).toTree = .ok p := rfl
  obtain ⟨left, minimal⟩ := absent_fields_read_as_placeholders
  exact ⟨read, left _ _ read scatteredOmission, minimal p⟩

end ProgramInterchange
