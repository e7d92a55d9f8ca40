/-!
# Tags

The alternatives of a tagged record travel as numbers. A number without a meaning is kept as it is, so a
record with an alternative unknown here can still be read and written; only rebuilding a tree from it
fails.
-/

namespace ProgramInterchange

/-- An enumeration whose members travel as 0, 1, 2, … in the order of `all`. -/
class Coded (α : Type) [DecidableEq α] where
  title : String
  all : List α
  name : α → String
  mem_all : ∀ a, a ∈ all
  nodup : all.Nodup
  length_lt : all.length < 65536

namespace Coded

variable {α : Type} [DecidableEq α] [Coded α]

/-- The number a member travels as. -/
def code (a : α) : UInt16 := ((all : List α).idxOf a).toUInt16

def ofCode? (c : UInt16) : Option α := (all : List α)[c.toNat]?

theorem toNat_code (a : α) : (code a).toNat = (all : List α).idxOf a := by
  have h := List.idxOf_lt_length_of_mem (mem_all a)
  have hl := length_lt (α := α)
  simp only [code, Nat.toUInt16, UInt16.toNat_ofNat']
  exact Nat.mod_eq_of_lt (by omega)

theorem ofCode?_code (a : α) : ofCode? (code a) = some a := by
  simp only [ofCode?, toNat_code]
  have h := List.idxOf_lt_length_of_mem (mem_all a)
  rw [List.getElem?_eq_getElem h, List.getElem_idxOf]

theorem code_of_ofCode? {c : UInt16} {a : α} (h : ofCode? c = some a) : code a = c := by
  simp only [ofCode?] at h
  obtain ⟨hc, rfl⟩ := List.getElem?_eq_some_iff.mp h
  apply UInt16.toNat_inj.mp
  rw [toNat_code, List.Nodup.idxOf_getElem nodup]

end Coded

/-- A member of the enumeration, or a number that stands for none. -/
inductive Tag (α : Type) where
  | known (a : α)
  | unrecognized (code : UInt16)
  deriving DecidableEq, Repr

namespace Tag

variable {α : Type} [DecidableEq α] [Coded α]

def code : Tag α → UInt16
  | known a => Coded.code a
  | unrecognized c => c

/-- What a number that has travelled stands for. -/
def ofCode (c : UInt16) : Tag α :=
  match Coded.ofCode? c with
  | some a => known a
  | none => unrecognized c

def display : Tag α → String
  | known a => Coded.name a
  | unrecognized c => "Unrecognized(" ++ toString c.toNat ++ ")"

/-- The same number, under its name if it has one. -/
def canonical (t : Tag α) : Tag α := ofCode t.code

theorem ofCode_code_known (a : α) : ofCode (code (known a)) = known a := by
  simp only [code, ofCode, Coded.ofCode?_code]

theorem code_ofCode (c : UInt16) : (ofCode c : Tag α).code = c := by
  unfold ofCode
  split
  · exact Coded.code_of_ofCode? ‹_›
  · rfl

end Tag

end ProgramInterchange
