/-!
# The documentation of a namespace

Each source file contributes groups of lines. The index keeps the files in the order of their first
contribution and the groups of a file in the order in which they were added.
-/

namespace ProgramInterchange.Tree

/-- Lines of documentation that belong together. -/
abbrev DocumentationGroup := List String

/-- The groups of each source file; no file is listed twice. -/
structure Documentation where
  files : List (String × List DocumentationGroup)
  nodup : (files.map Prod.fst).Nodup
  deriving DecidableEq

namespace Documentation

def empty : Documentation := ⟨[], by simp⟩

/-- Adds a group behind those of its file, which becomes the last one if it is new. -/
def addTo (file : String) (group : DocumentationGroup) :
    List (String × List DocumentationGroup) → List (String × List DocumentationGroup)
  | [] => [(file, [group])]
  | (f, groups) :: rest =>
    if f = file then (f, groups ++ [group]) :: rest else (f, groups) :: addTo file group rest

theorem mem_addTo {file name : String} {group : DocumentationGroup}
    {files : List (String × List DocumentationGroup)}
    (h : name ∈ (addTo file group files).map Prod.fst) : name = file ∨ name ∈ files.map Prod.fst := by
  induction files with
  | nil => simp_all [addTo]
  | cons entry rest ih =>
    obtain ⟨f, groups⟩ := entry
    simp only [addTo] at h
    split at h <;> simp only [List.map_cons, List.mem_cons] at h ⊢
    · rcases h with h | h <;> simp_all
    · rcases h with h | h
      · simp [h]
      · rcases ih h with h | h <;> simp [h]

theorem nodup_addTo {file : String} {group : DocumentationGroup}
    {files : List (String × List DocumentationGroup)} (h : (files.map Prod.fst).Nodup) :
    ((addTo file group files).map Prod.fst).Nodup := by
  induction files with
  | nil => simp [addTo]
  | cons entry rest ih =>
    obtain ⟨f, groups⟩ := entry
    simp only [List.map_cons, List.nodup_cons] at h
    simp only [addTo]
    split
    · exact List.nodup_cons.mpr h
    · rename_i hf
      refine List.nodup_cons.mpr ⟨fun hm => ?_, ih h.2⟩
      rcases mem_addTo hm with he | he
      · exact hf he
      · exact h.1 he

/-- Adds a group of a file. -/
def add (d : Documentation) (file : String) (group : DocumentationGroup) : Documentation :=
  ⟨addTo file group d.files, nodup_addTo d.nodup⟩

/-- The groups of a file, if it is listed. -/
def groups? (d : Documentation) (file : String) : Option (List DocumentationGroup) :=
  d.files.lookup file

/-- The index with these files, later entries of a file left out. -/
def ofList : List (String × List DocumentationGroup) → Documentation
  | [] => empty
  | (file, groups) :: rest =>
    let others := (ofList rest).files.filter fun entry => entry.1 ≠ file
    ⟨(file, groups) :: others, by
      have hs : (others.map Prod.fst).Sublist ((ofList rest).files.map Prod.fst) :=
        List.Sublist.map Prod.fst List.filter_sublist
      refine List.nodup_cons.mpr ⟨?_, hs.nodup (ofList rest).nodup⟩
      simp [others]⟩

/-- Whether two indices list the same files with the same groups, in whatever order of the files. -/
def same (d e : Documentation) : Bool :=
  decide (d.files.length = e.files.length) &&
    d.files.all fun entry => decide (e.groups? entry.1 = some entry.2)

/-- Every group with its file, file by file. -/
def entries (d : Documentation) : List (String × DocumentationGroup) :=
  d.files.flatMap fun entry => entry.2.map fun group => (entry.1, group)

end Documentation

end ProgramInterchange.Tree
