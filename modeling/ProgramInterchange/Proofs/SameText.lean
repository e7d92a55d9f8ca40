import ProgramInterchange.Proofs.Conversion.Injective
import ProgramInterchange.Proofs.Record.WrittenText
import ProgramInterchange.Proofs.Reload

/-!
# Programs with the same text

The text of a program carries its content under the profile and its entry points, and nothing else: programs
that differ in these have different texts, however ill-formed they are and however deep they nest. So a program
that has been saved and loaded is saved as the same text again, but for the entry points.
-/

namespace ProgramInterchange

open ProgramInterchange.Tree (Program)

theorem toRecord_eq_of_serialize_eq {profile : Profile} {p q : Program}
    (h : serialize profile p = serialize profile q) : p.toRecord profile = q.toRecord profile := by
  have same := Record.canonicalTags_eq_of_write_eq h
  rwa [Program.canonicalTags_toRecord, Program.canonicalTags_toRecord] at same

/-- Two programs are written as the same text exactly if the profile carries the same of both. -/
theorem serialize_eq_iff (profile : Profile) (p q : Program) :
    serialize profile p = serialize profile q ↔ p.SameContent profile q := by
  rw [← Program.toRecord_eq_iff]
  constructor
  · exact toRecord_eq_of_serialize_eq
  · intro h
    rw [serialize, serialize, h]

theorem eq_content_of_deserialize_serialize {profile : Profile} {p t : Program}
    (h : deserialize (serialize profile p) = .ok t) : t = p.content profile := by
  rw [deserialize_serialize] at h
  split at h
  · exact Program.eq_content_of_toTree h
  · cases h

/-- A program that is loaded from the text of another one is saved as the text of that one without entry points,
which is the first text itself exactly if there were none. -/
theorem serialize_of_deserialize_serialize {profile : Profile} {p t : Program}
    (h : deserialize (serialize profile p) = .ok t) :
    serialize profile t = serialize profile { p with entryPoints := [] } ∧
      (serialize profile t = serialize profile p ↔ p.entryPoints = []) := by
  have again : t.toRecord profile = { p with entryPoints := [] }.toRecord profile := by
    rw [eq_content_of_deserialize_serialize h, p.toRecord_content]
  have text : serialize profile t = serialize profile { p with entryPoints := [] } := by
    rw [serialize, serialize, again]
  refine ⟨text, ?_⟩
  rw [text]
  constructor
  · intro same
    have records := toRecord_eq_of_serialize_eq same
    rw [Program.toRecord_eq, Program.toRecord_eq] at records
    exact (Record.Program.mk.inj records).2.symm
  · intro none
    rw [← none]

/-- A program with an entry point, whose callable has a specialization and an attribute with an argument, and
with a file that documents nothing. -/
def marked : Program where
  namespaces := [{
    name := "N"
    elements := [.callable {
      kind := .operation
      fullName := ⟨"N", "F"⟩
      attributes := [⟨none, none, ⟨.leaf .int, none⟩, ⟨0, 0⟩, ⟨[], []⟩⟩]
      modifiers := ⟨.internal⟩
      sourceFile := "n"
      location := none
      signature := Tree.signaturePlaceholder
      argumentTuple := .empty
      specializations := [{
        kind := .body
        parent := ⟨"N", "F"⟩
        attributes := []
        sourceFile := "n"
        location := none
        typeArguments := none
        signature := Tree.signaturePlaceholder
        documentation := []
        comments := ⟨[], []⟩ }]
      documentation := []
      comments := ⟨[], []⟩ }]
    documentation := ⟨[("n", [])], by decide⟩ }]
  entryPoints := [⟨"N", "F"⟩]

theorem serialize_marked :
    deserialize (serialize .full marked) = .ok marked.carried ∧
      serialize .full marked.carried = serialize .full { marked with entryPoints := [] } ∧
      serialize .full marked.carried ≠ serialize .full marked ∧
      deserialize (serialize .minimal marked) = .ok marked.carried.minimal ∧
      serialize .minimal marked.carried.minimal = serialize .minimal { marked with entryPoints := [] } ∧
      marked.carried.minimal ≠ marked.carried := by
  have full : deserialize (serialize .full marked) = .ok marked.carried := by
    rw [deserialize_serialize, if_pos (by decide)]
    rfl
  have minimal : deserialize (serialize .minimal marked) = .ok marked.carried.minimal := by
    rw [deserialize_serialize, if_pos (by decide)]
    rfl
  obtain ⟨text, first⟩ := serialize_of_deserialize_serialize full
  have different : serialize .full marked.carried ≠ serialize .full marked := by
    intro same
    have none := first.mp same
    cases none
  exact ⟨full, text, different, minimal, (serialize_of_deserialize_serialize minimal).1, by decide⟩

end ProgramInterchange
