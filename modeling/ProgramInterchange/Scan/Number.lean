import ProgramInterchange.Decimal.Binary64
import ProgramInterchange.Scan.Basic

/-!
# Reading numbers

A number is first split into its digits, then valued. Integers that fit 64 bits stay exact; all other
numbers become binary. That conversion keeps the digits whose number fits 64 bits, and then scales by
powers of ten, rounding at each step.
-/

namespace ProgramInterchange.Scan

open ProgramInterchange.Byte

/-- The digits of a number; the exponent has a sign. -/
structure NumberText where
  whole : List Nat
  fraction : Option (List Nat)
  exponent : Option (Bool × List Nat)

/-- What a number is read as. -/
inductive Number where
  | integer (value : Int)
  | floating (negative : Bool) (magnitude : Binary64)

/-! ### Digits -/

/-- At least one digit. -/
def someDigits : Reader (List Nat) := fun input =>
  match input with
  | [] => .error .endInValue
  | b :: rest =>
    if isDigit b then
      match digits rest with
      | (ds, ⟨after, h⟩) => .ok (digitValue b :: ds, ⟨after, Nat.lt_succ_of_le h⟩)
    else .error .invalidNumber

/-- Whether the text begins with a digit. -/
def startsWithDigit : List UInt8 → Bool
  | [] => false
  | b :: _ => isDigit b

/-- The digits before point and exponent: a zero stands alone. -/
def wholeDigits : Reader (List Nat) := fun input =>
  match input with
  | [] => .error .endInValue
  | b :: rest =>
    if b = 48 then
      if startsWithDigit rest then .error .invalidNumber else .ok ([0], Rest.behind b rest)
    else someDigits (b :: rest)

/-- The digits behind a point, if there is one. -/
def fractionDigits (input : List UInt8) : Except WireFault (Option (List Nat) × Tail input) :=
  match input with
  | [] => .ok (none, Tail.whole [])
  | b :: rest =>
    if b = point then
      match someDigits rest with
      | .error fault => .error fault
      | .ok (ds, ⟨after, h⟩) => .ok (some ds, ⟨after, Nat.le_of_lt (Nat.lt_succ_of_lt h)⟩)
    else .ok (none, Tail.whole (b :: rest))

/-- The sign of an exponent, which may be left out: whether it is negative. -/
def exponentSign (input : List UInt8) : Bool × Tail input :=
  match input with
  | [] => (false, Tail.whole [])
  | b :: rest =>
    if b = plus then (false, Tail.behind b rest)
    else if b = minus then (true, Tail.behind b rest)
    else (false, Tail.whole (b :: rest))

/-- The exponent, if there is one. -/
def exponentDigits (input : List UInt8) :
    Except WireFault (Option (Bool × List Nat) × Tail input) :=
  match input with
  | [] => .ok (none, Tail.whole [])
  | b :: rest =>
    if b = letterE ∨ b = capitalE then
      match exponentSign rest with
      | (negative, ⟨behind, hb⟩) =>
        match someDigits behind with
        | .error fault => .error fault
        | .ok (ds, ⟨after, h⟩) =>
          .ok (some (negative, ds), ⟨after, by simp only [List.length_cons]; omega⟩)
    else .ok (none, Tail.whole (b :: rest))

/-- The digits of a number, behind its sign. -/
def numberText : Reader NumberText := fun input =>
  match wholeDigits input with
  | .error fault => .error fault
  | .ok (whole, ⟨behindWhole, h⟩) =>
    match fractionDigits behindWhole with
    | .error fault => .error fault
    | .ok (fraction, ⟨behindFraction, h'⟩) =>
      match exponentDigits behindFraction with
      | .error fault => .error fault
      | .ok (exponent, ⟨after, h''⟩) => .ok (⟨whole, fraction, exponent⟩, ⟨after, by omega⟩)

/-! ### Value -/

/-- Goes on reading digits as long as the number fits 64 bits; gives the number and the digits left. -/
def accumulate (n : Nat) : List Nat → Nat × List Nat
  | [] => (n, [])
  | d :: ds => if n * 10 + d < UInt64.size then accumulate (n * 10 + d) ds else (n, d :: ds)

def digitsValue (ds : List Nat) : Nat := ds.foldl (fun n d => n * 10 + d) 0

/-- The greatest power of ten by which a number is scaled at once. -/
def greatestPower : Nat := 308

/-- Divides by the greatest power of ten that many times, or until zero is reached. -/
def divideDown (x : Binary64) : Nat → Binary64
  | 0 => x
  | steps + 1 =>
    if x.significand = 0 then x
    else divideDown (((Binary64.tenPow greatestPower).bind x.div).getD .zero) steps

/-- Scales by a power of ten, downwards in steps of the greatest power. -/
def scale (x : Binary64) (exponent : Int) : Except WireFault Binary64 :=
  if exponent < 0 then
    let steps := (exponent.natAbs - 1) / greatestPower
    let left := exponent.natAbs - steps * greatestPower
    .ok (((Binary64.tenPow left).bind (divideDown x steps).div).getD .zero)
  else if x.significand = 0 then .ok x
  else if exponent.natAbs ≤ greatestPower then
    match (Binary64.tenPow exponent.natAbs).bind x.mul with
    | some y => .ok y
    | none => .error .numberOutOfRange
  else .error .numberOutOfRange

def NumberText.writtenExponent (t : NumberText) : Int :=
  match t.exponent with
  | none => 0
  | some (negative, ds) => if negative then -(digitsValue ds : Int) else digitsValue ds

def NumberText.floating (t : NumberText) : Except WireFault Binary64 :=
  let whole := accumulate 0 t.whole
  let fraction := t.fraction.getD []
  let both := accumulate whole.1 fraction
  let exponent : Int := whole.2.length - (fraction.length - both.2.length : Nat)
  match Binary64.ofRatio both.1 1 with
  | none => .error .numberOutOfRange
  | some x => scale x (exponent + t.writtenExponent)

/-- The value of a number with the sign that stood before it. Only an integer that fits 64 bits, signed if
it is negative, is exact; minus zero is a binary number. -/
def NumberText.value (t : NumberText) (negative : Bool) : Except WireFault Number :=
  let whole := accumulate 0 t.whole
  if t.fraction.isNone ∧ t.exponent.isNone ∧ whole.2 = [] ∧
      (negative = false ∨ (0 < whole.1 ∧ 2 * whole.1 ≤ UInt64.size)) then
    .ok (.integer (if negative then -(whole.1 : Int) else whole.1))
  else
    match t.floating with
    | .error fault => .error fault
    | .ok x => .ok (.floating negative x)

/-- A number, behind its sign. -/
def number (negative : Bool) : Reader Number := fun input =>
  match numberText input with
  | .error fault => .error fault
  | .ok (t, rest) =>
    match t.value negative with
    | .error fault => .error fault
    | .ok n => .ok (n, rest)

/-- Passes over a number, behind its sign. Its form is checked, its size is not. -/
def skipNumber (input : List UInt8) : Except WireFault (Rest input) :=
  match numberText input with
  | .error _ => .error .invalidNumber
  | .ok (_, rest) => .ok rest

end ProgramInterchange.Scan
