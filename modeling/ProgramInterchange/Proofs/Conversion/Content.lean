import ProgramInterchange.Proofs.Conversion.Canonical
import ProgramInterchange.Proofs.Conversion.Selected

/-!
# What a profile carries

The content of a tree under a profile is what its record carries, with placeholders for the rest. The record
of a tree gives back its content and nothing else, and the content has the same record as the tree. Under the
minimal profile only names can stand in the way.
-/

namespace ProgramInterchange.Tree

/-! ### Content -/

def NamespaceElement.content (profile : Profile) (e : NamespaceElement) : NamespaceElement :=
  match profile with
  | .full => e.carried
  | .minimal => e.carried.minimal

def Namespace.content (profile : Profile) (n : Namespace) : Namespace :=
  ⟨n.name, n.elements.map (NamespaceElement.content profile), n.documentation.carried⟩

/-- What the record of a program carries under the profile; entry points are written, but never read. -/
def Program.content (profile : Profile) (p : Program) : Program :=
  ⟨p.namespaces.map (Namespace.content profile), []⟩

theorem Program.content_minimal (p : Program) : p.content .minimal = p.carried.minimal := by
  have each (n : Namespace) : n.carried.minimal = n.content .minimal := by
    have elements : (n.elements.map NamespaceElement.carried).map NamespaceElement.minimal =
        n.elements.map (NamespaceElement.content .minimal) := list_map_map (fun _ => rfl) n.elements
    rw [Namespace.content, ← elements]
    rfl
  have namespaces : (p.namespaces.map Namespace.carried).map Namespace.minimal =
      p.namespaces.map (Namespace.content .minimal) := list_map_map each p.namespaces
  rw [content, ← namespaces]
  rfl

/-! ### The content of a tree comes back -/

/-- Of a declaration under the minimal profile only the name is checked. -/
theorem NamespaceElement.toRecord_minimal_succeeds (e : NamespaceElement) :
    Succeeds (e.toRecord .minimal).toTree e.fullName.WellFormed (e.content .minimal) := by
  cases e with
  | callable declaration =>
    have fullName := declaration.fullName.checked_succeeds
    have rest := fullName.map fun fullName => ({ declaration.carried.minimal with fullName } : Callable)
    exact rest.map NamespaceElement.callable
  | customType declaration =>
    have fullName := declaration.fullName.checked_succeeds
    have rest := fullName.map fun fullName => ({ declaration.carried.minimal with fullName } : CustomType)
    exact rest.map NamespaceElement.customType

theorem Namespace.toRecord_minimal_succeeds (n : Namespace) :
    Succeeds (n.toRecord .minimal).toTree (n.name ≠ "" ∧ ∀ e ∈ n.elements, e.fullName.WellFormed)
      (n.content .minimal) :=
  toRecord_succeeds_of NamespaceElement.toRecord_minimal_succeeds n

theorem Program.toRecord_succeeds_of {profile : Profile} {P : Namespace → Prop}
    (each : ∀ n, Succeeds (n.toRecord profile).toTree (P n) (n.content profile)) (p : Program) :
    Succeeds (p.toRecord profile).toTree (∀ n ∈ p.namespaces, P n) (p.content profile) := by
  have namespaces : Succeeds ((p.namespaces.map (Namespace.toRecord profile)).mapM Record.Namespace.toTree)
      (∀ n ∈ p.namespaces, P n) (p.namespaces.map (Namespace.content profile)) := by
    rw [List.mapM_map]
    exact Succeeds.mapM fun n _ => each n
  rw [Record.Program.toTree_eq, toRecord_eq]
  exact namespaces.map fun namespaces => Program.mk namespaces []

/-- Nothing but its content is rebuilt from the record of a program. -/
theorem Program.eq_content_of_toTree {profile : Profile} {p t : Program}
    (h : (p.toRecord profile).toTree = .ok t) : t = p.content profile := by
  cases profile with
  | full => exact ((toRecord_succeeds_of Namespace.toRecord_succeeds p t).mp h).2
  | minimal => exact ((toRecord_succeeds_of Namespace.toRecord_minimal_succeeds p t).mp h).2

/-- The minimal record of a program gives a program back exactly if its namespaces and declarations have
names, namely what it carries with placeholders for what only the full profile writes. -/
theorem Program.toTree_toRecord_minimal_eq_ok_iff (p q : Program) :
    (p.toRecord .minimal).toTree = .ok q ↔
      (∀ n ∈ p.namespaces, n.name ≠ "" ∧ ∀ e ∈ n.elements, e.fullName.WellFormed) ∧
        q = p.carried.minimal := by
  rw [← content_minimal]
  exact toRecord_succeeds_of Namespace.toRecord_minimal_succeeds p q

/-! ### The content of a tree has its record -/

theorem toRecord_attributes_carried (as : List Attribute) :
    (as.map Attribute.carried).map Attribute.toRecord = as.map Attribute.toRecord :=
  list_map_map (fun _ => rfl) as

theorem Callable.toRecord_carried (c : Callable) : c.carried.toRecord .full = c.toRecord .full := by
  simp only [toRecord, carried, toRecord_attributes_carried]

theorem CustomType.toRecord_carried (t : CustomType) : t.carried.toRecord .full = t.toRecord .full := by
  simp only [toRecord, carried, toRecord_attributes_carried]

theorem NamespaceElement.toRecord_content (profile : Profile) (e : NamespaceElement) :
    (e.content profile).toRecord profile = e.toRecord profile := by
  cases profile with
  | full =>
    cases e with
    | callable declaration =>
      show toRecord .full (callable declaration.carried) = _
      rw [toRecord, declaration.toRecord_carried, toRecord]
    | customType declaration =>
      show toRecord .full (customType declaration.carried) = _
      rw [toRecord, declaration.toRecord_carried, toRecord]
  | minimal => cases e <;> rfl

theorem Namespace.toRecord_content (profile : Profile) (n : Namespace) :
    (n.content profile).toRecord profile = n.toRecord profile := by
  have elements : (n.elements.map (NamespaceElement.content profile)).map (NamespaceElement.toRecord profile) =
      n.elements.map (NamespaceElement.toRecord profile) :=
    list_map_map (NamespaceElement.toRecord_content profile) n.elements
  rw [toRecord, toRecord, content, elements, Record.toRecord_carried]

theorem Program.toRecord_content (profile : Profile) (p : Program) :
    (p.content profile).toRecord profile = { p with entryPoints := [] }.toRecord profile := by
  have namespaces : (p.namespaces.map (Namespace.content profile)).map (Namespace.toRecord profile) =
      p.namespaces.map (Namespace.toRecord profile) :=
    list_map_map (Namespace.toRecord_content profile) p.namespaces
  rw [toRecord_eq, toRecord_eq, content, namespaces]

end ProgramInterchange.Tree
