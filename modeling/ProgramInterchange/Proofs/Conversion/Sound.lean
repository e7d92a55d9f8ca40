import ProgramInterchange.Proofs.Conversion.Canonical
import ProgramInterchange.Proofs.Conversion.Selected

/-!
# Trees that come from records

Whatever a record holds, a tree that is rebuilt from it is well-formed and holds nothing that no record carries.
This needs no walk through the tree: it is what its own record gives back.
-/

namespace ProgramInterchange

namespace Tree

namespace NamespaceElement

def tag : NamespaceElement → Record.ElementTag
  | callable _ => .callable
  | customType _ => .customType

def attributes : NamespaceElement → List Attribute
  | callable declaration => declaration.attributes
  | customType declaration => declaration.attributes

/-- Custom types have none. -/
def specializations : NamespaceElement → List Specialization
  | callable declaration => declaration.specializations
  | customType _ => []

theorem specializations_carried (e : NamespaceElement) : e.carried.specializations = [] := by
  cases e <;> rfl

theorem argument_of_mem_attributes_carried {e : NamespaceElement} {a : Attribute} (h : a ∈ e.carried.attributes) :
    a.argument = .placeholder := by
  have carried : e.carried.attributes = e.attributes.map Attribute.carried := by cases e <;> rfl
  rw [carried] at h
  obtain ⟨b, -, rfl⟩ := List.mem_map.mp h
  rfl

theorem kind_toRecord (profile : Profile) (e : NamespaceElement) : (e.toRecord profile).kind = .known e.tag := by
  cases e <;> rfl

end NamespaceElement

/-- What holds of every namespace that is rebuilt from a record. -/
structure Namespace.Rebuilt (n : Namespace) : Prop where
  wellFormed : n.WellFormed
  filesDistinct : (n.documentation.files.map Prod.fst).Nodup
  filesDocumented : ∀ entry ∈ n.documentation.files, entry.2 ≠ []
  argumentsUnknown : ∀ e ∈ n.elements, ∀ a ∈ e.attributes, a.argument = .placeholder
  unspecialized : ∀ e ∈ n.elements, e.specializations = []

theorem Namespace.rebuilt_carried {n : Namespace} (h : n.carried.WellFormed) : n.carried.Rebuilt where
  wellFormed := h
  filesDistinct := n.carried.documentation.nodup
  filesDocumented entry he := of_decide_eq_true (List.mem_filter.mp he).2
  argumentsUnknown e he a ha := by
    obtain ⟨f, -, rfl⟩ := List.mem_map.mp he
    exact NamespaceElement.argument_of_mem_attributes_carried ha
  unspecialized e he := by
    obtain ⟨f, -, rfl⟩ := List.mem_map.mp he
    exact f.specializations_carried

end Tree

namespace Record

theorem NamespaceElement.tag_of_toTree {e : NamespaceElement} {t : Tree.NamespaceElement} (h : e.toTree = .ok t) :
    .known t.tag = e.kind := by
  have kept := toRecord_of_toTree h
  rw [← t.kind_toRecord .full, kept]
  rfl

theorem Namespace.rebuilt_of_toTree {n : Namespace} {t : Tree.Namespace} (h : n.toTree = .ok t) : t.Rebuilt := by
  -- the record of the tree is the canonical form of the one it comes from, and so has the same tree
  have back : (t.toRecord .full).toTree = .ok t := by
    rw [toRecord_of_toTree h, toTree_completed, toTree_pruned, h]
  obtain ⟨wellFormed, carried⟩ := (t.toRecord_succeeds t).mp back
  rw [carried] at wellFormed ⊢
  exact Tree.Namespace.rebuilt_carried wellFormed

theorem Namespace.tags_of_toTree {n : Namespace} {t : Tree.Namespace} (h : n.toTree = .ok t) :
    t.elements.map (fun e => .known e.tag) = n.elements.map NamespaceElement.kind := by
  obtain ⟨name, -, h⟩ := bind_eq_ok_iff.mp h
  obtain ⟨elements, he, h⟩ := bind_eq_ok_iff.mp h
  obtain rfl := pure_eq_ok_iff.mp h
  exact map_eq_of_mapM_eq_ok (fun _ _ _ ht => NamespaceElement.tag_of_toTree ht) he

/-- A tree that is rebuilt from a record is well-formed, has nothing that no record carries, and has the
declarations of the record. -/
theorem Program.toTree_rebuilds {p : Program} {t : Tree.Program} (h : p.toTree = .ok t) :
    t.entryPoints = [] ∧ (∀ n ∈ t.namespaces, n.Rebuilt) ∧
      t.namespaces.map (fun n => n.elements.map fun e => .known e.tag) =
        p.namespaces.map fun n => n.elements.map NamespaceElement.kind := by
  rw [toTree_eq] at h
  obtain ⟨namespaces, hn, h⟩ := bind_eq_ok_iff.mp h
  obtain rfl := pure_eq_ok_iff.mp h
  have rebuilt := forall_mem_of_mapM_eq_ok (fun _ _ ht => Namespace.rebuilt_of_toTree ht) hn
  have tags := map_eq_of_mapM_eq_ok (fun _ _ _ ht => Namespace.tags_of_toTree ht) hn
  exact ⟨rfl, rebuilt, tags⟩

theorem rebuilt_gathered :
    scattered.toTree = .ok gathered ∧ gathered.entryPoints = [] ∧ gathered.namespaces ≠ [] ∧
      ∀ n ∈ gathered.namespaces, n.Rebuilt := by
  have h : scattered.toTree = .ok gathered := rfl
  obtain ⟨entryPoints, rebuilt, -⟩ := Program.toTree_rebuilds h
  exact ⟨h, entryPoints, by decide, rebuilt⟩

end Record

end ProgramInterchange
