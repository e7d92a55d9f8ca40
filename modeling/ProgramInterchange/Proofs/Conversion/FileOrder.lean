import Mathlib.Data.List.Nodup
import Mathlib.Data.List.Perm.Subperm
import ProgramInterchange.Proofs.Conversion.Documentation
import ProgramInterchange.Proofs.Reload

/-!
# Programs that differ in the order of files

Two programs are the same also where their documentation lists its files in another order. That order shows in
the record and in the text, but nothing else of them differs, and what is rebuilt from them is the same again,
faults included.
-/

namespace ProgramInterchange

/-! ### Computations that agree -/

/-- Both computations fail with the same fault, or both succeed, with related results. -/
inductive Agree {α : Type} (R : α → α → Prop) : Except Fault α → Except Fault α → Prop
  | error (fault : Fault) : Agree R (.error fault) (.error fault)
  | ok {a b : α} (related : R a b) : Agree R (.ok a) (.ok b)

namespace Agree

variable {α β : Type} {R : α → α → Prop} {S : β → β → Prop}

theorem self (x : Except Fault α) : Agree Eq x x := by
  cases x with
  | error fault => exact .error fault
  | ok a => exact .ok rfl

theorem bind {x y : Except Fault α} {f g : α → Except Fault β} (first : Agree R x y)
    (next : ∀ a b, R a b → Agree S (f a) (g b)) : Agree S (x >>= f) (y >>= g) := by
  cases first with
  | error fault => exact .error fault
  | ok related => exact next _ _ related

theorem map {x y : Except Fault α} {f g : α → β} (first : Agree R x y) (next : ∀ a b, R a b → S (f a) (g b)) :
    Agree S (x >>= fun a => pure (f a)) (y >>= fun b => pure (g b)) :=
  first.bind fun a b related => .ok (next a b related)

theorem mapM {γ : Type} {Q : γ → γ → Prop} {f : γ → Except Fault α} {as bs : List γ}
    (each : ∀ a b, Q a b → Agree R (f a) (f b)) (h : List.Forall₂ Q as bs) :
    Agree (List.Forall₂ R) (as.mapM f) (bs.mapM f) := by
  induction h with
  | nil => exact .ok .nil
  | cons head tail ih =>
    rw [List.mapM_cons, List.mapM_cons]
    refine (each _ _ head).bind fun a b related => ?_
    exact ih.map fun as bs rest => .cons related rest

end Agree

/-! ### The same trees -/

namespace Tree

open Wire (mem_of_lookup lookup_of_mem)

/-- The same index is one with the same entries, in whatever order. -/
theorem Documentation.same_iff_perm {d e : Documentation} : d.same e = true ↔ d.files.Perm e.files := by
  rw [same, Bool.and_eq_true, decide_eq_true_eq, List.all_eq_true]
  simp only [decide_eq_true_eq]
  constructor
  · rintro ⟨length, all⟩
    have inside : d.files ⊆ e.files := fun entry he => mem_of_lookup (all entry he)
    have distinct : d.files.Nodup := List.Nodup.of_map _ d.nodup
    exact (distinct.subperm inside).perm_of_length_le (Nat.le_of_eq length.symm)
  · intro h
    exact ⟨h.length_eq, fun entry he => lookup_of_mem e.nodup (h.subset he)⟩

theorem Documentation.groups?_eq_some_iff {d : Documentation} {file : String} {groups : List DocumentationGroup} :
    d.groups? file = some groups ↔ (file, groups) ∈ d.files :=
  ⟨mem_of_lookup, lookup_of_mem d.nodup⟩

/-- The same index has the same groups of each file. -/
theorem Documentation.groups?_of_same {d e : Documentation} (h : d.same e = true) (file : String) :
    d.groups? file = e.groups? file := by
  ext groups
  rw [groups?_eq_some_iff, groups?_eq_some_iff]
  exact (same_iff_perm.mp h).mem_iff

theorem Namespace.same_iff {a b : Namespace} :
    a.same b = true ↔ a.name = b.name ∧ a.elements = b.elements ∧ a.documentation.same b.documentation = true := by
  rw [same, Bool.and_eq_true, Bool.and_eq_true, decide_eq_true_eq, decide_eq_true_eq, and_assoc]

theorem sameNamespaces_iff {as bs : List Namespace} :
    sameNamespaces as bs = true ↔ List.Forall₂ (fun a b => a.same b = true) as bs := by
  induction as generalizing bs with
  | nil => cases bs <;> simp [sameNamespaces]
  | cons a as ih => cases bs <;> simp [sameNamespaces, ih]

theorem Program.same_iff {p q : Program} :
    p.same q = true ↔
      List.Forall₂ (fun a b => a.same b = true) p.namespaces q.namespaces ∧ p.entryPoints = q.entryPoints := by
  rw [same, Bool.and_eq_true, sameNamespaces_iff, decide_eq_true_eq]

end Tree

/-! ### The same records -/

namespace Record

/-- The namespaces are equal but for the places of documentation items of different files: there are the same
items, and those of one file come in the same order. -/
structure Namespace.SameByFile (a b : Namespace) : Prop where
  name : a.name = b.name
  elements : a.elements = b.elements
  documentation : a.documentation.Perm b.documentation
  itemsOf : ∀ file, Record.itemsOf file a.documentation = Record.itemsOf file b.documentation

structure Program.SameByFile (p q : Program) : Prop where
  namespaces : List.Forall₂ Namespace.SameByFile p.namespaces q.namespaces
  entryPoints : p.entryPoints = q.entryPoints

/-! ### From trees to records -/

/-- The items of a file are its groups. -/
theorem itemsOf_toRecord (file : String) (d : Tree.Documentation) :
    itemsOf file d.toRecord = ((d.groups? file).getD []).map (DocumentationItem.mk file) := by
  have all (files : List (String × List Tree.DocumentationGroup)) (nodup : (files.map Prod.fst).Nodup) :
      itemsOf file (files.flatMap fun entry => entry.2.map (DocumentationItem.mk entry.1)) =
        ((files.lookup file).getD []).map (DocumentationItem.mk file) := by
    induction files with
    | nil => rfl
    | cons entry files ih =>
      obtain ⟨first, groups⟩ := entry
      obtain ⟨fresh, rest⟩ := List.nodup_cons.mp nodup
      rw [List.flatMap_cons, itemsOf_append_items, ih rest]
      by_cases h : first = file
      · subst h
        have others : files.lookup first = none := Wire.lookup_eq_none fresh
        rw [others, List.lookup_cons_self]
        simp [itemsOf, List.filter_map, Function.comp_def]
      · have other : (file == first) = false := beq_false_of_ne (Ne.symm h)
        rw [List.lookup_cons, other]
        simp [itemsOf, List.filter_map, Function.comp_def, h]
  rw [Tree.Documentation.groups?, ← all d.files d.nodup, Tree.Documentation.toRecord, Tree.Documentation.entries,
    List.map_flatMap]
  simp only [List.map_map, Function.comp_def]

theorem Namespace.sameByFile_toRecord {a b : Tree.Namespace} (profile : Profile) (h : a.same b = true) :
    SameByFile (a.toRecord profile) (b.toRecord profile) := by
  obtain ⟨name, elements, documentation⟩ := Tree.Namespace.same_iff.mp h
  have items (file : String) : Record.itemsOf file a.documentation.toRecord =
      Record.itemsOf file b.documentation.toRecord := by
    rw [itemsOf_toRecord, itemsOf_toRecord, Tree.Documentation.groups?_of_same documentation]
  exact ⟨name, congrArg (List.map _) elements, perm_of_itemsOf items, items⟩

theorem Program.sameByFile_toRecord {p q : Tree.Program} (profile : Profile) (h : p.same q = true) :
    SameByFile (p.toRecord profile) (q.toRecord profile) := by
  obtain ⟨namespaces, entryPoints⟩ := Tree.Program.same_iff.mp h
  rw [Tree.Program.toRecord_eq, Tree.Program.toRecord_eq]
  refine ⟨?_, entryPoints⟩
  rw [List.forall₂_map_left_iff, List.forall₂_map_right_iff]
  exact namespaces.imp fun _ _ => Namespace.sameByFile_toRecord profile

/-! ### From records to trees -/

theorem nodup_sourceFiles (items : List DocumentationItem) : (sourceFiles items).Nodup := by
  rw [← map_fst_grouped, ← files_documentationToTree]
  exact (documentationToTree items).nodup

theorem mem_sourceFiles_iff_itemsOf {file : String} {items : List DocumentationItem} :
    file ∈ sourceFiles items ↔ itemsOf file items ≠ [] := by
  constructor
  · intro h
    obtain ⟨item, hi, he⟩ := mem_sourceFiles.mp h
    exact List.ne_nil_of_mem (List.mem_filter.mpr ⟨hi, decide_eq_true he⟩)
  · intro h
    by_contra hn
    exact h (itemsOf_eq_nil hn)

/-- The index depends on the items of each file alone, but for the order of the files. -/
theorem documentationToTree_same {items others : List DocumentationItem}
    (h : ∀ file, itemsOf file items = itemsOf file others) :
    (documentationToTree items).same (documentationToTree others) = true := by
  have files : (sourceFiles items).Perm (sourceFiles others) := by
    refine (List.perm_ext_iff_of_nodup (nodup_sourceFiles items) (nodup_sourceFiles others)).mpr fun file => ?_
    rw [mem_sourceFiles_iff_itemsOf, mem_sourceFiles_iff_itemsOf, h]
  rw [Tree.Documentation.same_iff_perm, files_documentationToTree, files_documentationToTree, grouped, grouped]
  simp only [h]
  exact files.map _

theorem Namespace.SameByFile.toTree_agree {a b : Namespace} (h : SameByFile a b) :
    Agree (fun s t => s.same t = true) a.toTree b.toTree := by
  have documentation := documentationToTree_same h.itemsOf
  rw [toTree, toTree, h.name, h.elements]
  refine (Agree.self _).bind fun name _ hname => ?_
  refine (Agree.self _).map fun elements _ helements => ?_
  exact Tree.Namespace.same_iff.mpr ⟨hname, helements, documentation⟩

theorem Program.SameByFile.toTree_agree {p q : Program} (h : SameByFile p q) :
    Agree (fun s t => s.same t = true) p.toTree q.toTree := by
  have namespaces := Agree.mapM (fun _ _ same => Namespace.SameByFile.toTree_agree same) h.namespaces
  rw [toTree_eq, toTree_eq]
  exact namespaces.map fun as bs same => Tree.Program.same_iff.mpr ⟨same, rfl⟩

/-! ### Nesting -/

open Wire (Value)

theorem nestingOf_perm {vs ws : List Value} (h : vs.Perm ws) : Value.nestingOf vs = Value.nestingOf ws := by
  induction h with
  | nil => rfl
  | cons v _ ih => rw [Value.nestingOf, Value.nestingOf, ih]
  | swap v w vs =>
    simp only [Value.nestingOf]
    omega
  | trans _ _ left right => exact left.trans right

theorem Namespace.SameByFile.nesting_eq {a b : Namespace} (h : SameByFile a b) :
    (value a).nesting = (value b).nesting := by
  have documentation : (value a.documentation).nesting = (value b.documentation).nesting :=
    congrArg (· + 1) (nestingOf_perm (h.documentation.map value))
  show (Value.record [value a.name, value a.elements, value a.documentation]).nesting =
    (Value.record [value b.name, value b.elements, value b.documentation]).nesting
  simp only [Value.nesting, Value.nestingOf, h.name, h.elements, documentation]

theorem Program.SameByFile.nesting_eq {p q : Program} (h : SameByFile p q) :
    (value p).nesting = (value q).nesting := by
  have each {as bs : List Namespace} (h : List.Forall₂ Namespace.SameByFile as bs) :
      Value.nestingOf (as.map value) = Value.nestingOf (bs.map value) := by
    induction h with
    | nil => rfl
    | cons head tail ih => simp only [List.map_cons, Value.nestingOf, head.nesting_eq, ih]
  have namespaces : (value p.namespaces).nesting = (value q.namespaces).nesting :=
    congrArg (· + 1) (each h.namespaces)
  show (Value.record [value p.namespaces, value p.entryPoints]).nesting =
    (Value.record [value q.namespaces, value q.entryPoints]).nesting
  simp only [Value.nesting, Value.nestingOf, h.entryPoints, namespaces]

end Record

/-! ### Programs -/

/-- Programs that are the same have records that are the same but for the places of documentation items of
different files, and what comes back from the records, directly or through the text, is the same. -/
theorem conversions_respect_same {p q : Tree.Program} (h : p.same q = true) (profile : Profile) :
    Record.Program.SameByFile (p.toRecord profile) (q.toRecord profile) ∧
      Agree (fun s t => s.same t = true) (p.toRecord profile).toTree (q.toRecord profile).toTree ∧
      Agree (fun s t => s.same t = true) (deserialize (serialize profile p)) (deserialize (serialize profile q)) := by
  have records := Record.Program.sameByFile_toRecord profile h
  have trees := records.toTree_agree
  refine ⟨records, trees, ?_⟩
  rw [deserialize_serialize, deserialize_serialize, records.nesting_eq]
  split
  · exact trees
  · exact .error _

/-- Two files that document a namespace, once in each order. -/
def documented (backward : Bool) : Tree.Program where
  namespaces := [{
    name := "N"
    elements := []
    documentation :=
      if backward then ⟨[("b.qs", [["3"]]), ("a.qs", [["1"], ["2"]])], by decide⟩
      else ⟨[("a.qs", [["1"], ["2"]]), ("b.qs", [["3"]])], by decide⟩ }]
  entryPoints := []

theorem conversions_respect_same_backward :
    let p := documented false
    let q := documented true
    p.same q = true ∧ Record.Program.SameByFile (p.toRecord .full) (q.toRecord .full) ∧
      p.toRecord .full ≠ q.toRecord .full ∧
      (p.toRecord .full).toTree = .ok p ∧ (q.toRecord .full).toTree = .ok q ∧
      Agree (fun s t => s.same t = true) (deserialize (serialize .full p)) (deserialize (serialize .full q)) := by
  intro p q
  have same : p.same q = true := by decide
  obtain ⟨records, -, reloaded⟩ := conversions_respect_same same .full
  exact ⟨same, records, by decide, rfl, rfl, reloaded⟩

end ProgramInterchange
