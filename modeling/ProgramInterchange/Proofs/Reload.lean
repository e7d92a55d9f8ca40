import ProgramInterchange.Interchange
import ProgramInterchange.Proofs.Conversion.Canonical
import ProgramInterchange.Proofs.Conversion.WellTagged
import ProgramInterchange.Proofs.Conversion.Omission
import ProgramInterchange.Proofs.Record.Nesting
import ProgramInterchange.Proofs.Record.Reread

/-!
# Programs saved and loaded again

Writing the tree of any text that can be read gives text that can be read, whatever stands in the first one
and however deep it nests: the limit on nesting is never passed by what the writer fills in.
-/

namespace ProgramInterchange

open ProgramInterchange.Wire (nestingLimit)
open Record (value)
open Record.LawfulWire (canonicalTags)

theorem deserialize_eq_ok_iff {input : List UInt8} {t : Tree.Program} :
    deserialize input = .ok t ↔ ∃ p : Record.Program, Record.read input = .ok p ∧ p.toTree = .ok t := by
  rw [deserialize]
  cases (Record.read input : Except WireFault Record.Program) <;> simp

/-- A program that is written and read again has the tree of its record, if that does not nest too deep. -/
theorem deserialize_serialize (profile : Profile) (t : Tree.Program) :
    deserialize (serialize profile t) =
      if (value (t.toRecord profile)).nesting ≤ nestingLimit then (t.toRecord profile).toTree
      else .error (.wire .recursionLimit) := by
  have again := Record.read_write (t.toRecord profile)
  rw [Tree.Program.canonicalTags_toRecord] at again
  rw [deserialize, serialize, again]
  by_cases h : (value (t.toRecord profile)).nesting ≤ nestingLimit
  · simp only [if_pos h]
  · simp only [if_neg h]

/-- The tree of a record that has been read nests within the limit when it is written. -/
theorem nesting_le_of_deserialize {input : List UInt8} {p : Record.Program}
    (h : Record.read input = .ok p) : (value p.canonical).nesting ≤ nestingLimit := by
  have fits := Record.Program.nesting_le_of_read h
  -- only a record that is nowhere near the limit grows when its fields are filled
  have filled := p.nesting_canonical
  have room : 10 ≤ nestingLimit := by decide
  omega

/-- A program that has been read is read again when it is written, and under the minimal profile it is read
with placeholders for what only the full profile writes. -/
theorem deserialize_serialize_of_deserialize {input : List UInt8} {t : Tree.Program}
    (h : deserialize input = .ok t) :
    deserialize (serialize .full t) = .ok t ∧ deserialize (serialize .minimal t) = .ok t.minimal := by
  obtain ⟨p, hp, ht⟩ := deserialize_eq_ok_iff.mp h
  have full := Record.Program.toRecord_of_toTree ht
  have minimal : t.toRecord .minimal = p.canonical.minimal := by rw [t.toRecord_minimal, full]
  -- what is written is not what was read, but both have the same tree
  have same : p.canonical.toTree = .ok t := p.toTree_canonical.trans ht
  have fits := nesting_le_of_deserialize hp
  have fitsMinimal := Nat.le_trans p.canonical.nesting_minimal fits
  constructor
  · rw [deserialize_serialize, full, if_pos fits, same]
  · rw [deserialize_serialize, minimal, if_pos fitsMinimal, Record.Program.toTree_minimal same]

/-- Text with a member that is unknown, a namespace and declarations that are written as lists, documentation
that is not in order, and without entry points. -/
def scatteredText : List UInt8 :=
  Text.utf8 ("\x7b\"x\":[[]],\"namespaces\":[[\"N\",[[0,[1,[\"N\",\"F\"],null,[1],\"n\"," ++
    "null,null,null,[],[[],[]]]]],[[\"a\",[]],[\"b\",[]],[\"a\",[]]]]]\x7d")

def loaded : Tree.Program where
  namespaces := [{
    name := "N"
    elements := [.callable {
      kind := .function
      fullName := ⟨"N", "F"⟩
      attributes := []
      modifiers := ⟨.internal⟩
      sourceFile := "n"
      location := none
      signature := Tree.signaturePlaceholder
      argumentTuple := .empty
      specializations := []
      documentation := []
      comments := ⟨[], []⟩ }]
    documentation := ⟨[("a", [[], []]), ("b", [[]])], by decide⟩ }]
  entryPoints := []

theorem deserialize_serialize_loaded :
    deserialize scatteredText = .ok loaded ∧ deserialize (serialize .full loaded) = .ok loaded ∧
      deserialize (serialize .minimal loaded) = .ok loaded.minimal ∧ loaded.minimal ≠ loaded := by
  have h : deserialize scatteredText = .ok loaded := by decide +kernel
  obtain ⟨full, minimal⟩ := deserialize_serialize_of_deserialize h
  exact ⟨h, full, minimal, by decide⟩

end ProgramInterchange
