import ProgramInterchange.Proofs.Conversion.Omission

/-!
# Documentation through trees and records

A record lists documentation in any order, a tree by file. What is read and written again is the same items,
now file by file, and stays as it is from there on. On the way from a tree to its record and back, only files
without groups are lost.
-/

namespace ProgramInterchange

namespace Record

/-! ### The items of a file -/

theorem itemsOf_cons_of_ne {file : String} {item : DocumentationItem} (h : item.sourceFileName ≠ file)
    (items : List DocumentationItem) : itemsOf file (item :: items) = itemsOf file items :=
  List.filter_cons_of_neg (by simpa using h)

theorem itemsOf_cons_self (item : DocumentationItem) (items : List DocumentationItem) :
    itemsOf item.sourceFileName (item :: items) = item :: itemsOf item.sourceFileName items :=
  List.filter_cons_of_pos (by simp)

theorem itemsOf_append_items (file : String) (front back : List DocumentationItem) :
    itemsOf file (front ++ back) = itemsOf file front ++ itemsOf file back :=
  List.filter_append ..

theorem itemsOf_itemsOf_self (file : String) (items : List DocumentationItem) :
    itemsOf file (itemsOf file items) = itemsOf file items := by
  simp [itemsOf, List.filter_filter]

theorem itemsOf_itemsOf_of_ne {file other : String} (h : file ≠ other) (items : List DocumentationItem) :
    itemsOf file (itemsOf other items) = [] := by
  rw [itemsOf, itemsOf, List.filter_filter, List.filter_eq_nil_iff]
  intro item _ he
  rw [Bool.and_eq_true, decide_eq_true_eq, decide_eq_true_eq] at he
  exact h (he.1.symm.trans he.2)

/-! ### The first file and the others -/

/-- The items of the other files, in their order. -/
def itemsBeside (file : String) (items : List DocumentationItem) : List DocumentationItem :=
  items.filter fun item => item.sourceFileName ≠ file

/-- What holds of no items, and of a list whenever it holds of its items beside the file of the first one,
holds of every list. -/
theorem byFile_induction {motive : List DocumentationItem → Prop} (nil : motive [])
    (cons : ∀ item items, motive (itemsBeside item.sourceFileName items) → motive (item :: items))
    (items : List DocumentationItem) : motive items := by
  cases items with
  | nil => exact nil
  | cons item items => exact cons item items (byFile_induction nil cons _)
termination_by items.length
decreasing_by exact Nat.lt_succ_of_le (List.length_filter_le _ _)

theorem itemsOf_itemsBeside_self (file : String) (items : List DocumentationItem) :
    itemsOf file (itemsBeside file items) = [] := by
  simp [itemsOf, itemsBeside, List.filter_filter]

theorem itemsOf_itemsBeside {file other : String} (h : file ≠ other) (items : List DocumentationItem) :
    itemsOf file (itemsBeside other items) = itemsOf file items := by
  rw [itemsOf, itemsBeside, List.filter_filter, itemsOf]
  refine List.filter_congr fun item _ => ?_
  by_cases he : item.sourceFileName = file
  · simp [he, h]
  · simp [he]

theorem itemsBeside_itemsOf (file other : String) (items : List DocumentationItem) :
    itemsBeside file (itemsOf other items) = itemsOf other (itemsBeside file items) := by
  simp only [itemsBeside, itemsOf, List.filter_filter, Bool.and_comm]

theorem itemsBeside_cons_self (item : DocumentationItem) (items : List DocumentationItem) :
    itemsBeside item.sourceFileName (item :: items) = itemsBeside item.sourceFileName items :=
  List.filter_cons_of_neg (by simp)

theorem itemsBeside_eq_self {file : String} {items : List DocumentationItem} (h : itemsOf file items = []) :
    itemsBeside file items = items :=
  List.filter_eq_self.mpr fun item hi => by simpa using List.filter_eq_nil_iff.mp h item hi

theorem sourceFiles_cons (item : DocumentationItem) (items : List DocumentationItem) :
    sourceFiles (item :: items) =
      item.sourceFileName :: sourceFiles (itemsBeside item.sourceFileName items) := by
  have others : (items.map DocumentationItem.sourceFileName).filter (fun file => !file == item.sourceFileName) =
      (itemsBeside item.sourceFileName items).map DocumentationItem.sourceFileName := by
    rw [List.filter_map, itemsBeside]
    congr 2
    funext other
    simp [Bool.beq_eq_decide_eq]
  rw [sourceFiles, List.map_cons, List.eraseDups_cons, others, ← sourceFiles]

theorem regrouped_cons (item : DocumentationItem) (items : List DocumentationItem) :
    regrouped (item :: items) =
      itemsOf item.sourceFileName (item :: items) ++ regrouped (itemsBeside item.sourceFileName items) := by
  have others : ∀ file ∈ sourceFiles (itemsBeside item.sourceFileName items),
      itemsOf file (item :: items) = itemsOf file (itemsBeside item.sourceFileName items) := by
    intro file hf
    obtain ⟨other, ho, rfl⟩ := mem_sourceFiles.mp hf
    have distinct : other.sourceFileName ≠ item.sourceFileName :=
      of_decide_eq_true (List.mem_filter.mp ho).2
    rw [itemsOf_itemsBeside distinct, itemsOf_cons_of_ne (Ne.symm distinct)]
  rw [regrouped, sourceFiles_cons, List.flatMap_cons, regrouped, List.flatMap_def, List.flatMap_def,
    List.map_congr_left others]

/-! ### The items of a file in the regrouped list -/

/-- Regrouping keeps the items of each file and their order. -/
theorem itemsOf_regrouped (file : String) (items : List DocumentationItem) :
    itemsOf file (regrouped items) = itemsOf file items := by
  induction items using byFile_induction with
  | nil => rfl
  | cons item items ih =>
    rw [regrouped_cons, itemsOf_append_items, ih]
    by_cases h : file = item.sourceFileName
    · rw [h, itemsOf_itemsOf_self, itemsOf_itemsBeside_self, List.append_nil]
    · rw [itemsOf_itemsOf_of_ne h, itemsOf_itemsBeside h, itemsOf_cons_of_ne (Ne.symm h), List.nil_append]

/-- Lists with the same items of each file are the same but for the order. -/
theorem perm_of_itemsOf {items others : List DocumentationItem}
    (h : ∀ file, itemsOf file items = itemsOf file others) : items.Perm others := by
  rw [List.perm_iff_count]
  intro item
  have same := congrArg (List.count item) (h item.sourceFileName)
  rwa [itemsOf, itemsOf, List.count_filter (by simp), List.count_filter (by simp)] at same

theorem sourceFiles_regrouped (items : List DocumentationItem) :
    sourceFiles (regrouped items) = sourceFiles items := by
  rw [← map_fst_grouped, ← files_documentationToTree, documentationToTree_regrouped, files_documentationToTree,
    map_fst_grouped]

/-! ### Contiguous lists -/

/-- The items of each file stand next to each other. -/
def Contiguous (items : List DocumentationItem) : Prop := ∀ file, itemsOf file items <:+: items

theorem contiguous_regrouped (items : List DocumentationItem) : Contiguous (regrouped items) := by
  intro file
  rw [itemsOf_regrouped]
  by_cases h : file ∈ sourceFiles items
  · obtain ⟨front, back, hs⟩ := List.append_of_mem h
    rw [regrouped, hs, List.flatMap_append, List.flatMap_cons]
    exact List.infix_append' ..
  · rw [itemsOf_eq_nil h]
    exact List.nil_infix

theorem Contiguous.itemsBeside {items : List DocumentationItem} (h : Contiguous items) (file : String) :
    Contiguous (itemsBeside file items) := by
  intro other
  have kept := (h other).filter fun item => item.sourceFileName ≠ file
  change Record.itemsBeside file (itemsOf other items) <:+: Record.itemsBeside file items at kept
  rwa [itemsBeside_itemsOf] at kept

/-- The items of the first file come first. -/
theorem Contiguous.cons_eq {item : DocumentationItem} {items : List DocumentationItem}
    (h : Contiguous (item :: items)) :
    item :: items =
      itemsOf item.sourceFileName (item :: items) ++ Record.itemsBeside item.sourceFileName items := by
  obtain ⟨front, back, split⟩ := h item.sourceFileName
  -- all items of the file stand in the middle, so there are none before and behind
  have all := congrArg (fun items => (itemsOf item.sourceFileName items).length) split
  simp only [itemsOf_append_items, itemsOf_itemsOf_self, List.length_append] at all
  have before : itemsOf item.sourceFileName front = [] := List.eq_nil_of_length_eq_zero (by omega)
  have behind : itemsOf item.sourceFileName back = [] := List.eq_nil_of_length_eq_zero (by omega)
  have first : front = [] := by
    cases front with
    | nil => rfl
    | cons other front =>
      obtain rfl : other = item := (List.cons.inj split).1
      rw [itemsOf_cons_self] at before
      cases before
  rw [first, List.nil_append] at split
  have rest : Record.itemsBeside item.sourceFileName items = back := by
    rw [← itemsBeside_cons_self, ← split, Record.itemsBeside, List.filter_append, ← Record.itemsBeside,
      ← Record.itemsBeside, itemsBeside_itemsOf, itemsOf_itemsBeside_self, itemsBeside_eq_self behind,
      List.nil_append]
  rw [rest, split]

theorem Contiguous.regrouped_eq {items : List DocumentationItem} (h : Contiguous items) :
    regrouped items = items := by
  induction items using byFile_induction with
  | nil => rfl
  | cons item items ih =>
    have others : Contiguous (Record.itemsBeside item.sourceFileName items) := by
      have beside := h.itemsBeside item.sourceFileName
      rwa [itemsBeside_cons_self] at beside
    rw [regrouped_cons, ih others, ← h.cons_eq]

theorem regrouped_eq_self_iff {items : List DocumentationItem} : regrouped items = items ↔ Contiguous items := by
  constructor
  · intro h
    rw [← h]
    exact contiguous_regrouped items
  · exact Contiguous.regrouped_eq

/-- The second list has the items of the first one, those of each file next to each other and in the same
order, and the files in the order in which they first occur. -/
structure Regroups (items again : List DocumentationItem) : Prop where
  perm : again.Perm items
  itemsOf : ∀ file, Record.itemsOf file again = Record.itemsOf file items
  sourceFiles : Record.sourceFiles again = Record.sourceFiles items
  contiguous : Contiguous again

theorem regroups_regrouped (items : List DocumentationItem) : Regroups items (regrouped items) where
  perm := perm_of_itemsOf fun file => itemsOf_regrouped file items
  itemsOf := fun file => itemsOf_regrouped file items
  sourceFiles := sourceFiles_regrouped items
  contiguous := contiguous_regrouped items

/-! ### From a record to its tree and back -/

theorem Namespace.documentation_of_toTree {n : Namespace} {t : Tree.Namespace} (h : n.toTree = .ok t) :
    t.documentation = documentationToTree n.documentation := by
  obtain ⟨name, -, h⟩ := bind_eq_ok_iff.mp h
  obtain ⟨elements, -, h⟩ := bind_eq_ok_iff.mp h
  obtain rfl := pure_eq_ok_iff.mp h
  rfl

/-- The tree of a record is written as a record that has a tree again, whatever the profile. -/
theorem Namespace.toTree_toRecord_of_toTree {n : Namespace} {t : Tree.Namespace} (profile : Profile)
    (h : n.toTree = .ok t) : ∃ u, (t.toRecord profile).toTree = .ok u := by
  have full : (t.toRecord .full).toTree = .ok t := by
    rw [toRecord_of_toTree h, toTree_completed, toTree_pruned, h]
  cases profile with
  | full => exact ⟨t, full⟩
  | minimal =>
    rw [t.toRecord_minimal, ← omitting_everything]
    exact ⟨_, toTree_omitting _ full⟩

/-- The documentation of a record is read by file, each file with its groups in order. What is written again
are the same items file by file; these are the list that was read exactly if that was contiguous, and reading
and writing them once more changes neither the tree nor the list. -/
theorem Namespace.toTree_regroups {n : Namespace} {t : Tree.Namespace} (profile : Profile)
    (h : n.toTree = .ok t) :
    t.documentation.files = grouped n.documentation ∧
      Regroups n.documentation (t.toRecord profile).documentation ∧
      ((t.toRecord profile).documentation = n.documentation ↔ Contiguous n.documentation) ∧
      ∃ u, (t.toRecord profile).toTree = .ok u ∧ u.documentation = t.documentation ∧
        (u.toRecord profile).documentation = (t.toRecord profile).documentation := by
  have read := documentation_of_toTree h
  have written : (t.toRecord profile).documentation = regrouped n.documentation := by
    rw [Tree.Namespace.toRecord, read, toRecord_documentationToTree]
  obtain ⟨u, hu⟩ := toTree_toRecord_of_toTree profile h
  have again : u.documentation = t.documentation := by
    rw [documentation_of_toTree hu, written, documentationToTree_regrouped, read]
  rw [written]
  refine ⟨?_, regroups_regrouped _, regrouped_eq_self_iff, u, hu, again, ?_⟩
  · rw [read, files_documentationToTree]
  · rw [Tree.Namespace.toRecord, again, read, toRecord_documentationToTree]

/-- Two files that contribute by turns, once without any line. -/
def interleaved : Namespace where
  name := "N"
  elements := []
  documentation := [⟨"b.qs", ["1"]⟩, ⟨"a.qs", ["2"]⟩, ⟨"b.qs", []⟩, ⟨"a.qs", ["3"]⟩]

theorem toTree_interleaved :
    let t : Tree.Namespace := ⟨"N", [], ⟨[("b.qs", [["1"], []]), ("a.qs", [["2"], ["3"]])], by decide⟩⟩
    let again : List DocumentationItem := [⟨"b.qs", ["1"]⟩, ⟨"b.qs", []⟩, ⟨"a.qs", ["2"]⟩, ⟨"a.qs", ["3"]⟩]
    interleaved.toTree = .ok t ∧ t.documentation.files = grouped interleaved.documentation ∧
      (t.toRecord .minimal).documentation = again ∧ Regroups interleaved.documentation again ∧
      ¬ Contiguous interleaved.documentation ∧
      ∃ u, (t.toRecord .minimal).toTree = .ok u ∧ u.documentation = t.documentation ∧
        (u.toRecord .minimal).documentation = again := by
  intro t again
  have read : interleaved.toTree = .ok t := rfl
  obtain ⟨files, regroups, same, once⟩ := interleaved.toTree_regroups .minimal read
  have moved : again ≠ interleaved.documentation := by decide
  exact ⟨read, files, rfl, regroups, fun h => moved (same.mpr h), once⟩

end Record

/-! ### From a tree to its record and back -/

namespace Tree

theorem Documentation.carried_eq_self_iff {d : Documentation} :
    d.carried = d ↔ ∀ entry ∈ d.files, entry.2 ≠ [] := by
  have files : d.carried = d ↔ d.carried.files = d.files := ⟨congrArg files, eq_of_files⟩
  rw [files, carried, List.filter_eq_self]
  simp only [decide_eq_true_eq]

/-- The files that have groups come back in their order and with their groups, those without groups do not:
the documentation comes back as it was exactly if there are none of these. -/
theorem Namespace.toTree_toRecord_documentation {profile : Profile} {n t : Namespace}
    (h : (n.toRecord profile).toTree = .ok t) :
    t.documentation = n.documentation.carried ∧
      (t.documentation = n.documentation ↔ ∀ entry ∈ n.documentation.files, entry.2 ≠ []) := by
  have carried : t.documentation = n.documentation.carried := by
    rw [Record.Namespace.documentation_of_toTree h, toRecord, Record.documentationToTree_toRecord]
  exact ⟨carried, by rw [carried, Documentation.carried_eq_self_iff]⟩

/-- A file without groups between two files with groups, of which one is without lines. -/
def partlyDocumented : Namespace where
  name := "N"
  elements := []
  documentation := ⟨[("b.qs", [["1"], []]), ("a.qs", []), ("c.qs", [["2"]])], by decide⟩

theorem toTree_toRecord_partlyDocumented :
    let t : Namespace := ⟨"N", [], ⟨[("b.qs", [["1"], []]), ("c.qs", [["2"]])], by decide⟩⟩
    (partlyDocumented.toRecord .full).toTree = .ok t ∧
      t.documentation = partlyDocumented.documentation.carried ∧
      ¬ ∀ entry ∈ partlyDocumented.documentation.files, entry.2 ≠ [] := by
  intro t
  have back : (partlyDocumented.toRecord .full).toTree = .ok t := rfl
  obtain ⟨carried, same⟩ := Namespace.toTree_toRecord_documentation back
  have fewer : t.documentation ≠ partlyDocumented.documentation := by decide
  exact ⟨back, carried, fun h => fewer (same.mpr h)⟩

/-- A namespace whose one documentation file has no groups. -/
def undocumented : Namespace where
  name := "A"
  elements := []
  documentation := ⟨[("a.qs", [])], by decide⟩

/-- The file is lost under both profiles, without a fault. -/
theorem toTree_toRecord_undocumented :
    let t : Namespace := ⟨"A", [], .empty⟩
    (undocumented.toRecord .full).toTree = .ok t ∧ (undocumented.toRecord .minimal).toTree = .ok t ∧
      t.documentation ≠ undocumented.documentation := by
  intro t
  exact ⟨rfl, rfl, by decide⟩

end Tree

end ProgramInterchange
