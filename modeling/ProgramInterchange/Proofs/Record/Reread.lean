import ProgramInterchange.Proofs.Record.Lawful.Program
import ProgramInterchange.Proofs.Wire.Budget
import ProgramInterchange.Proofs.Wire.Written

/-!
# Records written and read again

What is written is read again, up to the names of tags, unless it nests too deep to be read. What is read
never nests too deep.
-/

namespace ProgramInterchange.Record

open ProgramInterchange.Wire
open LawfulWire FaithfulWire

instance : LawfulFormat RecordName where
  nodup_keys name := by
    cases name with
    | arrow data =>
      show ["domain", "codomain"].Nodup
      decide
    | operationType data information =>
      show ["arrow", "characteristics"].Nodup
      decide
    | typeNode data userDefined parameter information =>
      show ["kind", "arrayType", "tupleType", "userDefinedType", "typeParameter", "operation",
        "function"].Nodup
      decide
    | localVariable name =>
      show ["variableName", "type", "inferredInformation", "position", "range"].Nodup
      decide
    | tuple item =>
      show ["kind", "item", "items"].Nodup
      decide
    | _ => decide

variable {α : Type} [Wire RecordName α]

theorem read_eq (input : List UInt8) :
    (read input : Except WireFault α) =
      match readAll (shapeOf α) input with
      | .error fault => .error fault
      | .ok v =>
        match member? v with
        | some a => .ok a
        | none => .error .expectedValue := rfl

theorem read_eq_ok_iff {input : List UInt8} {a : α} :
    read input = .ok a ↔ ∃ v, readAll (shapeOf α) input = .ok v ∧ member? v = some a := by
  rw [read_eq]
  cases readAll (shapeOf α) input with
  | error fault => simp
  | ok v => cases hv : (member? v : Option α) <;> simp [hv]

/-- What is written is read again if its value nests within the limit. -/
theorem read_write [LawfulWire α] (a : α) :
    read (write a) =
      if (value a).nesting ≤ nestingLimit then .ok (canonicalTags a) else .error .recursionLimit := by
  have again : readAll (shapeOf α) (write a) =
      if (value a).nesting ≤ nestingLimit then .ok (value a) else .error .recursionLimit :=
    readAll_render (conforms a)
  rw [read_eq, again]
  by_cases h : (value a).nesting ≤ nestingLimit
  · simp only [if_pos h, member?_value]
  · simp only [if_neg h]

/-! ### Programs -/

namespace Program

/-- The value of a program whose entry points are left out. -/
def sparseValue (namespaces : List Namespace) : Value := .record [value namespaces, .absent]

theorem member?_sparseValue (namespaces : List Namespace) :
    member? (sparseValue namespaces) = some (⟨canonicalTags namespaces, []⟩ : Program) := by
  show (do return ⟨← member? (value namespaces), []⟩ : Option Program) = _
  rw [member?_value]
  rfl

/-- Entry points that are left out nest no deeper when they are there. -/
theorem nesting_sparseValue (namespaces : List Namespace) :
    (sparseValue namespaces).nesting = (value (⟨namespaces, []⟩ : Program)).nesting := by
  have there : 1 ≤ (value namespaces).nesting := Nat.succ_le_succ (Nat.zero_le _)
  have whole : (value (⟨namespaces, []⟩ : Program)).nesting = max (value namespaces).nesting 1 + 1 := rfl
  have sparse : (sparseValue namespaces).nesting = max (value namespaces).nesting 0 + 1 := rfl
  omega

theorem value_of_member? {v : Value} {p : Program} (h : member? v = some p) :
    v = value p ∨ p.entryPoints = [] ∧ v = sparseValue p.namespaces := by
  have read : Wire.ofValue? RecordName v = some p := h
  simp only [Wire.ofValue?] at read
  split at read
  · simp only [Option.bind_eq_bind, Option.bind_eq_some_iff, Option.pure_def, Option.some.injEq] at read
    obtain ⟨namespaces, hn, rfl⟩ := read
    rw [← FaithfulWire.value_of_member? hn]
    exact .inr ⟨rfl, rfl⟩
  · simp only [Option.bind_eq_bind, Option.bind_eq_some_iff, Option.pure_def, Option.some.injEq] at read
    obtain ⟨namespaces, hn, entryPoints, he, rfl⟩ := read
    rw [← FaithfulWire.value_of_member? hn, ← FaithfulWire.value_of_member? he]
    exact .inl rfl
  · cases read

theorem nesting_le_of_read {input : List UInt8} {p : Program} (h : read input = .ok p) :
    (value p).nesting ≤ nestingLimit := by
  obtain ⟨v, hv, hp⟩ := read_eq_ok_iff.mp h
  have fits := nesting_le_of_readAll hv
  rcases value_of_member? hp with rfl | ⟨none, rfl⟩
  · exact fits
  · obtain ⟨namespaces, entryPoints⟩ := p
    obtain rfl : entryPoints = [] := none
    rwa [nesting_sparseValue] at fits

end Program

end ProgramInterchange.Record
