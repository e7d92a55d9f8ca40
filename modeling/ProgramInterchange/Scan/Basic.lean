import ProgramInterchange.Fault
import ProgramInterchange.Scan.Byte

/-!
# Scanning

A scan reads something off the front of a text and gives what is left, which is shorter. Loops over a text
therefore end, and what follows a scanned part never matters to it.
-/

namespace ProgramInterchange.Scan

open ProgramInterchange.Byte

/-- What is left of a text after something has been read off it. -/
abbrev Rest {τ : Type} (input : List τ) := { rest : List τ // rest.length < input.length }

/-- What is left of a text after nothing or something has been read off it. -/
abbrev Tail {τ : Type} (input : List τ) := { rest : List τ // rest.length ≤ input.length }

section

variable {τ : Type}

abbrev Tail.whole (input : List τ) : Tail input := ⟨input, Nat.le_refl _⟩

/-- All but the first element is left. -/
abbrev Rest.behind (b : τ) (rest : List τ) : Rest (b :: rest) := ⟨rest, Nat.lt_succ_self _⟩

/-- All but the first element is left, which may count as nothing read. -/
abbrev Tail.behind (b : τ) (rest : List τ) : Tail (b :: rest) := ⟨rest, Nat.le_succ _⟩

abbrev Rest.tail {input : List τ} (r : Rest input) : Tail input := ⟨r.val, Nat.le_of_lt r.property⟩

/-- What is left after something has been read is part of what follows the first element. -/
abbrev Rest.afterFirst {b : τ} {rest : List τ} (r : Rest (b :: rest)) : Tail rest :=
  ⟨r.val, Nat.le_of_lt_succ r.property⟩

abbrev Rest.within {input : List τ} (r : Rest input) (s : Rest r.val) : Rest input :=
  ⟨s.val, Nat.lt_trans s.property r.property⟩

abbrev Tail.within {input : List τ} (t : Tail input) (s : Tail t.val) : Tail input :=
  ⟨s.val, Nat.le_trans s.property t.property⟩

abbrev Rest.inTail {input : List τ} (t : Tail input) (s : Rest t.val) : Rest input :=
  ⟨s.val, Nat.lt_of_lt_of_le s.property t.property⟩

/-- What is left after the first element and something more. -/
abbrev Rest.below {rest : List τ} (b : τ) (r : Rest rest) : Rest (b :: rest) :=
  ⟨r.val, Nat.lt_succ_of_lt r.property⟩

/-- What is left after the first element and anything more. -/
abbrev Tail.below {rest : List τ} (b : τ) (t : Tail rest) : Rest (b :: rest) :=
  ⟨t.val, Nat.lt_succ_of_le t.property⟩

end

/-- The result of reading an `α` off the front of a text. -/
abbrev Scanned (input : List UInt8) (α : Type) := Except WireFault (α × Rest input)

/-- Reads an `α` off the front of any text. -/
abbrev Reader (α : Type) := (input : List UInt8) → Scanned input α

namespace Scanned

variable {α β : Type} {input middle : List UInt8}

/-- A scan of what was left of a text, seen as a scan of the text. -/
def widen (h : middle.length ≤ input.length) (s : Scanned middle α) : Scanned input α :=
  match s with
  | .error fault => .error fault
  | .ok (a, ⟨rest, hr⟩) => .ok (a, ⟨rest, Nat.lt_of_lt_of_le hr h⟩)

def map (f : α → β) (s : Scanned input α) : Scanned input β :=
  match s with
  | .error fault => .error fault
  | .ok (a, rest) => .ok (f a, rest)

end Scanned

/-- The first byte that is not white space, and what follows it. -/
def next? : (input : List UInt8) → Option (UInt8 × Rest input)
  | [] => none
  | b :: rest =>
    if isBlank b then
      match next? rest with
      | none => none
      | some (c, ⟨after, h⟩) => some (c, ⟨after, Nat.lt_succ_of_lt h⟩)
    else some (b, ⟨rest, Nat.lt_succ_self _⟩)

theorem next?_cons_of_not_blank {b : UInt8} {rest : List UInt8} (h : isBlank b = false) :
    next? (b :: rest) = some (b, ⟨rest, Nat.lt_succ_self _⟩) := by
  simp only [next?, h, Bool.false_eq_true, if_false]

def dropWord : (letters input : List UInt8) → Except WireFault (Tail input)
  | [], input => .ok ⟨input, Nat.le_refl _⟩
  | _ :: _, [] => .error .endInValue
  | letter :: letters, b :: rest =>
    if b = letter then
      match dropWord letters rest with
      | .error fault => .error fault
      | .ok ⟨after, h⟩ => .ok ⟨after, Nat.le_succ_of_le h⟩
    else .error .expectedIdent

/-- The digits at the front of a text, by value, and what follows them. -/
def digits : (input : List UInt8) → List Nat × Tail input
  | [] => ([], ⟨[], Nat.le_refl _⟩)
  | b :: rest =>
    if isDigit b then
      match digits rest with
      | (ds, ⟨after, h⟩) => (digitValue b :: ds, ⟨after, Nat.le_succ_of_le h⟩)
    else ([], ⟨b :: rest, Nat.le_refl _⟩)

end ProgramInterchange.Scan
