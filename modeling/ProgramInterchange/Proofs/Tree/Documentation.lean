import ProgramInterchange.Proofs.Tree.WellFormed
import ProgramInterchange.Conversion.ToRecord
import ProgramInterchange.Conversion.ToTree

/-!
# Documentation between index and list

The index read from a list has the files in the order of first occurrence, each with the groups of its
items in their order. Writing an index and reading it back loses the files without groups only.
-/

namespace ProgramInterchange

open Record (DocumentationItem documentationToTree)

namespace Tree.Documentation

theorem eq_of_files {d e : Documentation} (h : d.files = e.files) : d = e := by
  obtain ⟨files, hd⟩ := d
  obtain ⟨others, he⟩ := e
  obtain rfl : files = others := h
  rfl

/-! ### Adding groups -/

theorem addTo_append {file : String} {group : DocumentationGroup}
    {front back : List (String × List DocumentationGroup)} (h : file ∉ front.map Prod.fst) :
    addTo file group (front ++ back) = front ++ addTo file group back := by
  induction front with
  | nil => rfl
  | cons entry front ih =>
    rw [List.map_cons, List.mem_cons, not_or] at h
    rw [List.cons_append, addTo, if_neg (Ne.symm h.1), ih h.2, List.cons_append]

theorem addTo_of_not_mem {file : String} {group : DocumentationGroup}
    {files : List (String × List DocumentationGroup)} (h : file ∉ files.map Prod.fst) :
    addTo file group files = files ++ [(file, [group])] := by
  have last : addTo file group (files ++ []) = files ++ addTo file group [] := addTo_append h
  rwa [List.append_nil] at last

theorem addTo_map_of_mem {file : String} {group : DocumentationGroup} {names : List String}
    {groups : String → List DocumentationGroup} (hm : file ∈ names) (hn : names.Nodup) :
    addTo file group (names.map fun name => (name, groups name)) =
      names.map fun name => (name, if name = file then groups name ++ [group] else groups name) := by
  induction names with
  | nil => simp at hm
  | cons name names ih =>
    obtain ⟨hname, hrest⟩ := List.nodup_cons.mp hn
    rw [List.map_cons, List.map_cons, addTo]
    by_cases h : name = file
    · have others : ∀ other ∈ names, other ≠ file := by
        intro other ho he
        exact hname (h ▸ he ▸ ho)
      rw [if_pos h, if_pos h]
      congr 1
      refine List.map_congr_left fun other ho => ?_
      rw [if_neg (others other ho)]
    · have later : file ∈ names := (List.mem_cons.mp hm).resolve_left (Ne.symm h)
      rw [if_neg h, if_neg h, ih later hrest]

theorem foldl_addTo {file : String} {groups added : List DocumentationGroup}
    {front : List (String × List DocumentationGroup)} (h : file ∉ front.map Prod.fst) :
    added.foldl (fun files group => addTo file group files) (front ++ [(file, groups)]) =
      front ++ [(file, groups ++ added)] := by
  induction added generalizing groups with
  | nil => rw [List.foldl_nil, List.append_nil]
  | cons group added ih =>
    have step : addTo file group (front ++ [(file, groups)]) = front ++ [(file, groups ++ [group])] := by
      rw [addTo_append h, addTo, if_pos rfl]
    rw [List.foldl_cons, step, ih, List.append_assoc]
    rfl

end Tree.Documentation

namespace Record

open Tree.Documentation (addTo addTo_of_not_mem addTo_map_of_mem foldl_addTo)

theorem files_foldl_add (d : Tree.Documentation) (items : List DocumentationItem) :
    (items.foldl (fun d item => d.add item.sourceFileName item.documentationInstances) d).files =
      items.foldl (fun files item => addTo item.sourceFileName item.documentationInstances files)
        d.files := by
  induction items generalizing d with
  | nil => rfl
  | cons item items ih =>
    rw [List.foldl_cons, List.foldl_cons, ih]
    rfl

theorem files_documentationToTree_append (front back : List DocumentationItem) :
    (documentationToTree (front ++ back)).files =
      back.foldl (fun files item => addTo item.sourceFileName item.documentationInstances files)
        (documentationToTree front).files := by
  rw [documentationToTree, List.foldl_append, files_foldl_add, ← documentationToTree]

/-! ### The index of a list -/

/-- The files of a list of items, in the order of first occurrence. -/
def sourceFiles (items : List DocumentationItem) : List String :=
  (items.map DocumentationItem.sourceFileName).eraseDups

/-- The items of a file, in their order. -/
def itemsOf (file : String) (items : List DocumentationItem) : List DocumentationItem :=
  items.filter fun item => item.sourceFileName = file

/-- The items file by file. -/
def regrouped (items : List DocumentationItem) : List DocumentationItem :=
  (sourceFiles items).flatMap fun file => itemsOf file items

theorem mem_sourceFiles {file : String} {items : List DocumentationItem} :
    file ∈ sourceFiles items ↔ ∃ item ∈ items, item.sourceFileName = file := by
  rw [sourceFiles, List.mem_eraseDups, List.mem_map]

theorem itemsOf_eq_nil {file : String} {items : List DocumentationItem} (h : file ∉ sourceFiles items) :
    itemsOf file items = [] := by
  rw [itemsOf, List.filter_eq_nil_iff]
  intro item hi he
  exact h (mem_sourceFiles.mpr ⟨item, hi, of_decide_eq_true he⟩)

theorem sourceFiles_append_of_mem {items : List DocumentationItem} {item : DocumentationItem}
    (h : item.sourceFileName ∈ sourceFiles items) : sourceFiles (items ++ [item]) = sourceFiles items := by
  unfold sourceFiles at h ⊢
  rw [List.mem_eraseDups] at h
  rw [List.map_append, List.eraseDups_append]
  generalize items.map DocumentationItem.sourceFileName = files at h ⊢
  simp [List.removeAll, h]

theorem sourceFiles_append_of_not_mem {items : List DocumentationItem} {item : DocumentationItem}
    (h : item.sourceFileName ∉ sourceFiles items) :
    sourceFiles (items ++ [item]) = sourceFiles items ++ [item.sourceFileName] := by
  unfold sourceFiles at h ⊢
  rw [List.mem_eraseDups] at h
  rw [List.map_append, List.eraseDups_append]
  generalize items.map DocumentationItem.sourceFileName = files at h ⊢
  simp [List.removeAll, h, List.eraseDups_cons]

theorem itemsOf_append (file : String) (items : List DocumentationItem) (item : DocumentationItem) :
    itemsOf file (items ++ [item]) =
      itemsOf file items ++ if item.sourceFileName = file then [item] else [] := by
  rw [itemsOf, List.filter_append, ← itemsOf]
  congr 1
  by_cases h : item.sourceFileName = file <;> simp [h]

/-- The files and groups that the index of a list has to have. -/
def grouped (items : List DocumentationItem) : List (String × List Tree.DocumentationGroup) :=
  (sourceFiles items).map fun file =>
    (file, (itemsOf file items).map DocumentationItem.documentationInstances)

theorem map_fst_grouped (items : List DocumentationItem) :
    (grouped items).map Prod.fst = sourceFiles items := by
  rw [grouped, List.map_map]
  exact List.map_id _

theorem addTo_grouped {items : List DocumentationItem} (hn : (sourceFiles items).Nodup)
    (item : DocumentationItem) :
    addTo item.sourceFileName item.documentationInstances (grouped items) = grouped (items ++ [item]) := by
  by_cases h : item.sourceFileName ∈ sourceFiles items
  · rw [grouped, addTo_map_of_mem h hn, grouped, sourceFiles_append_of_mem h]
    refine List.map_congr_left fun file _ => ?_
    rw [itemsOf_append]
    by_cases he : file = item.sourceFileName
    · simp [he]
    · simp [he, Ne.symm he]
  · have hnew : item.sourceFileName ∉ (grouped items).map Prod.fst := by rwa [map_fst_grouped]
    rw [addTo_of_not_mem hnew, grouped, grouped, sourceFiles_append_of_not_mem h, List.map_append]
    congr 1
    · refine List.map_congr_left fun file hf => ?_
      have he : item.sourceFileName ≠ file := fun he => h (he ▸ hf)
      rw [itemsOf_append, if_neg he, List.append_nil]
    · simp [itemsOf_append, itemsOf_eq_nil h]

/-- The index of a list has the files in the order of first occurrence, each with its groups in order. -/
theorem files_documentationToTree (items : List DocumentationItem) :
    (documentationToTree items).files = grouped items := by
  have extend : ∀ front back : List DocumentationItem,
      (documentationToTree front).files = grouped front →
        (documentationToTree (front ++ back)).files = grouped (front ++ back) := by
    intro front back h
    induction back generalizing front with
    | nil => rwa [List.append_nil]
    | cons item back ih =>
      have hn : (sourceFiles front).Nodup := by
        rw [← map_fst_grouped, ← h]
        exact (documentationToTree front).nodup
      have step : (documentationToTree (front ++ [item])).files = grouped (front ++ [item]) := by
        rw [files_documentationToTree_append, List.foldl_cons, List.foldl_nil, h, addTo_grouped hn]
      have all := ih (front ++ [item]) step
      rwa [List.append_assoc] at all
  exact extend [] items rfl

theorem toRecord_documentationToTree (items : List DocumentationItem) :
    (documentationToTree items).toRecord = regrouped items := by
  rw [Tree.Documentation.toRecord, Tree.Documentation.entries, files_documentationToTree, grouped,
    List.flatMap_map, List.map_flatMap, regrouped, List.flatMap_def, List.flatMap_def]
  congr 1
  refine List.map_congr_left fun file _ => ?_
  rw [List.map_map, List.map_map]
  have same : ∀ item ∈ itemsOf file items,
      (⟨file, item.documentationInstances⟩ : DocumentationItem) = item := by
    intro item hi
    have he : item.sourceFileName = file := of_decide_eq_true (List.mem_filter.mp hi).2
    rw [← he]
  exact (List.map_congr_left same).trans (List.map_id' _)

/-! ### The list of an index -/

theorem foldl_addTo_toRecord {front files : List (String × List Tree.DocumentationGroup)}
    (hn : ((front ++ files).map Prod.fst).Nodup) :
    ((files.flatMap fun entry => entry.2.map fun group => (entry.1, group)).foldl
      (fun files entry => addTo entry.1 entry.2 files) front) =
        front ++ files.filter fun entry => entry.2 ≠ [] := by
  induction files generalizing front with
  | nil => rw [List.flatMap_nil, List.foldl_nil, List.filter_nil, List.append_nil]
  | cons entry files ih =>
    obtain ⟨file, groups⟩ := entry
    rw [List.flatMap_cons, List.foldl_append, List.foldl_map]
    cases groups with
    | nil =>
      have fewer : ((front ++ files).map Prod.fst).Nodup :=
        List.Nodup.sublist ((List.Sublist.refl front).append (List.sublist_cons_self _ _) |>.map _) hn
      rw [List.foldl_nil, ih fewer]
      simp
    | cons group groups =>
      have hnew : file ∉ front.map Prod.fst := by
        intro hm
        rw [List.map_append, List.nodup_append] at hn
        exact hn.2.2 file hm file (by simp) rfl
      have block : (group :: groups).foldl (fun files group => addTo file group files) front =
          front ++ [(file, group :: groups)] := by
        rw [List.foldl_cons, addTo_of_not_mem hnew, foldl_addTo hnew, List.singleton_append]
      have hn' : (((front ++ [(file, group :: groups)]) ++ files).map Prod.fst).Nodup := by
        rwa [List.append_assoc, List.singleton_append]
      rw [block, ih hn', List.append_assoc]
      simp

theorem documentationToTree_toRecord (d : Tree.Documentation) :
    documentationToTree d.toRecord = d.carried := by
  have hn : (([] ++ d.files).map Prod.fst).Nodup := d.nodup
  have files : (documentationToTree d.toRecord).files = d.carried.files := by
    have h := files_documentationToTree_append [] d.toRecord
    rw [List.nil_append, Tree.Documentation.toRecord, List.foldl_map] at h
    exact h.trans (foldl_addTo_toRecord hn)
  exact Tree.Documentation.eq_of_files files

theorem toRecord_carried (d : Tree.Documentation) : d.carried.toRecord = d.toRecord := by
  have kept (files : List (String × List Tree.DocumentationGroup)) :
      ((files.filter fun entry => entry.2 ≠ []).flatMap fun entry =>
        entry.2.map fun group => (entry.1, group)) =
        files.flatMap fun entry => entry.2.map fun group => (entry.1, group) := by
    induction files with
    | nil => rfl
    | cons entry files ih =>
      obtain ⟨file, _ | ⟨group, groups⟩⟩ := entry
      · simpa using ih
      · simpa using ih
  exact congrArg (List.map fun entry => (⟨entry.1, entry.2⟩ : DocumentationItem)) (kept d.files)

theorem carried_documentationToTree (items : List DocumentationItem) :
    (documentationToTree items).carried = documentationToTree items := by
  refine Tree.Documentation.eq_of_files (List.filter_eq_self.mpr fun entry he => ?_)
  rw [files_documentationToTree, grouped, List.mem_map] at he
  obtain ⟨file, hf, rfl⟩ := he
  obtain ⟨item, hi, hs⟩ := mem_sourceFiles.mp hf
  have mem : item ∈ itemsOf file items := List.mem_filter.mpr ⟨hi, decide_eq_true hs⟩
  exact decide_eq_true fun h => List.ne_nil_of_mem mem (List.map_eq_nil_iff.mp h)

theorem regrouped_regrouped (items : List DocumentationItem) :
    regrouped (regrouped items) = regrouped items := by
  have again := documentationToTree_toRecord (documentationToTree items)
  rw [toRecord_documentationToTree] at again
  rw [← toRecord_documentationToTree, again, toRecord_carried, toRecord_documentationToTree]

end Record

end ProgramInterchange
