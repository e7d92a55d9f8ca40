/-!
# Numbers of the 64-bit binary format

A finite magnitude is a whole number of units, the unit being a power of two. All arithmetic goes
through exact fractions and one rounding step, `ofRatio`, so it can be computed and reasoned about
without machine floats.
-/

namespace ProgramInterchange

/-- A finite magnitude: `significand · 2 ^ exponent`. -/
structure Binary64 where
  significand : Nat
  exponent : Int
  deriving DecidableEq, Repr

/-- The whole number nearest to `num / den`; a half goes to the even neighbour. -/
def roundRatio (num den : Nat) : Nat :=
  let quotient := num / den
  let twice := 2 * (num % den)
  if twice < den then quotient
  else if den < twice then quotient + 1
  else if quotient % 2 = 0 then quotient else quotient + 1

namespace Binary64

/-- Zero, in the least unit. -/
def zero : Binary64 := ⟨0, -1074⟩

/-- The fraction `num / den` counted in units of `2 ^ exponent`, again as a fraction. -/
def inUnits (num den : Nat) (exponent : Int) : Nat × Nat :=
  if 0 ≤ exponent then (num, den * Nat.pow 2 exponent.toNat)
  else (num * Nat.pow 2 (-exponent).toNat, den)

/-- The binary order of magnitude of a positive fraction: the greatest `e` with `2 ^ e ≤ num / den`. -/
def binaryOrder (num den : Nat) : Int :=
  let guess : Int := (Nat.log2 num : Int) - (Nat.log2 den : Int)
  let scaled := inUnits num den guess
  if scaled.2 ≤ scaled.1 then guess else guess - 1

/-- The number nearest to `num / den`, ties going to an even significand, or nothing where the
fraction lies beyond the greatest finite number. -/
def ofRatio (num den : Nat) : Option Binary64 :=
  if num = 0 then some zero
  else
    let exponent := max (-1074) (binaryOrder num den - 52)
    let scaled := inUnits num den exponent
    let significand := roundRatio scaled.1 scaled.2
    let carried : Binary64 :=
      if significand = Nat.pow 2 53 then ⟨Nat.pow 2 52, exponent + 1⟩ else ⟨significand, exponent⟩
    if 971 < carried.exponent then none else some carried

def toRatio (x : Binary64) : Nat × Nat :=
  if 0 ≤ x.exponent then (x.significand * Nat.pow 2 x.exponent.toNat, 1)
  else (x.significand, Nat.pow 2 (-x.exponent).toNat)

/-- The rounded product, or nothing beyond the greatest finite number. -/
def mul (x y : Binary64) : Option Binary64 :=
  ofRatio (x.toRatio.1 * y.toRatio.1) (x.toRatio.2 * y.toRatio.2)

/-- The rounded quotient, or nothing beyond the greatest finite number. -/
def div (x y : Binary64) : Option Binary64 :=
  ofRatio (x.toRatio.1 * y.toRatio.2) (x.toRatio.2 * y.toRatio.1)

/-- The number nearest to a power of ten. -/
def tenPow (n : Nat) : Option Binary64 := ofRatio (Nat.pow 10 n) 1

example : ofRatio 1 10 = some ⟨7205759403792794, -56⟩ := by decide +kernel
example : ofRatio (2 ^ 53 + 1) 1 = some ⟨2 ^ 52, 1⟩ := by decide +kernel
example : ofRatio 1 (10 ^ 400) = some zero := by decide +kernel
example : ofRatio (10 ^ 309) 1 = none := by decide +kernel

end Binary64

end ProgramInterchange
