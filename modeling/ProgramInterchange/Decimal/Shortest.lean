import ProgramInterchange.Decimal.Binary64

/-!
# The shortest decimal that reads back

A number of the binary format stands for an interval of reals, those that round to it. `shortest`
gives the decimal with the fewest digits inside that interval, the nearest one if there are several, and
the one with an even last digit if two are as near.
-/

namespace ProgramInterchange

/-- A decimal: `digits · 10 ^ exponent`. -/
structure Decimal where
  digits : Nat
  exponent : Int
  deriving DecidableEq, Repr

/-- The fraction `num / den` counted in units of `10 ^ exponent`, again as a fraction. -/
def inDecimalUnits (num den : Nat) (exponent : Int) : Nat × Nat :=
  if 0 ≤ exponent then (num, den * Nat.pow 10 exponent.toNat)
  else (num * Nat.pow 10 (-exponent).toNat, den)

/-- The decimal order of magnitude of a positive fraction above `10 ^ (-400)`: the greatest `e` with
`10 ^ e ≤ num / den`. -/
def decimalOrder (num den : Nat) : Int :=
  ((Nat.toDigits 10 (num * Nat.pow 10 400 / den)).length : Int) - 401

namespace Binary64

/-- The reals that round to `x`, in quarters of its unit. Below the least significand of a binade the
grid is twice as fine, so the lower end is nearer there. -/
def ends (x : Binary64) : Nat × Nat :=
  (if x.significand = Nat.pow 2 52 ∧ -1074 < x.exponent then 4 * x.significand - 1
    else 4 * x.significand - 2,
   4 * x.significand + 2)

/-- Whether a decimal rounds to `x`; the ends of the interval do iff the significand is even. -/
def reads (x : Binary64) (d : Decimal) : Bool :=
  let quarters := inUnits (if 0 ≤ d.exponent then d.digits * Nat.pow 10 d.exponent.toNat else d.digits)
    (if 0 ≤ d.exponent then 1 else Nat.pow 10 (-d.exponent).toNat) (x.exponent - 2)
  if x.significand % 2 = 0 then
    decide (x.ends.1 * quarters.2 ≤ quarters.1 ∧ quarters.1 ≤ x.ends.2 * quarters.2)
  else
    decide (x.ends.1 * quarters.2 < quarters.1 ∧ quarters.1 < x.ends.2 * quarters.2)

/-- The decimal on the grid `10 ^ exponent` that is next to `x` and rounds to it, if there is one. -/
def onGrid (x : Binary64) (exponent : Int) : Option Decimal :=
  let scaled := inDecimalUnits x.toRatio.1 x.toRatio.2 exponent
  let below := scaled.1 / scaled.2
  let nearest := roundRatio scaled.1 scaled.2
  let other := if nearest = below then below + 1 else below
  if x.reads ⟨nearest, exponent⟩ then some ⟨nearest, exponent⟩
  else if x.reads ⟨other, exponent⟩ then some ⟨other, exponent⟩
  else none

/-- Tries grids with more and more digits, from `count` on. -/
def shortestFrom (x : Binary64) (order : Int) : (tries count : Nat) → Decimal
  | 0, count => ⟨0, order - count⟩
  | tries + 1, count =>
    match x.onGrid (order - count) with
    | some d => d
    | none => shortestFrom x order tries (count + 1)

/-- The shortest decimal that rounds to `x`; seventeen digits always suffice. -/
def shortest (x : Binary64) : Decimal :=
  if x.significand = 0 then ⟨0, 0⟩
  else shortestFrom x (decimalOrder x.toRatio.1 x.toRatio.2) 17 0

end Binary64

/-! ### Spelling -/

/-- Where a number is written positionally: from the least to the greatest decimal order. -/
structure NumberSpelling where
  leastPositional : Int
  greatestPositional : Int

def zeros (n : Nat) : List Char := List.replicate n '0'

/-- Positional text of the digits `ds` whose first one counts `10 ^ order`; a whole number keeps one
place after the point. -/
def positionalText (ds : List Char) (order : Int) : List Char :=
  if order < 0 then '0' :: '.' :: zeros (-order - 1).toNat ++ ds
  else
    let whole := order.toNat + 1
    if ds.length ≤ whole then ds ++ zeros (whole - ds.length) ++ ['.', '0']
    else ds.take whole ++ '.' :: ds.drop whole

/-- Text with an exponent: one digit before the point, the exponent always signed. -/
def scientificText (ds : List Char) (order : Int) : List Char :=
  ds.take 1 ++ (if ds.length ≤ 1 then [] else '.' :: ds.drop 1) ++
    'e' :: (if order < 0 then '-' else '+') :: Nat.toDigits 10 order.natAbs

/-- A decimal written by the given spelling. -/
def Decimal.text (spelling : NumberSpelling) (d : Decimal) : List Char :=
  if d.digits = 0 then ['0', '.', '0']
  else
    let all := Nat.toDigits 10 d.digits
    let order : Int := d.exponent + all.length - 1
    let ds := (all.reverse.dropWhile (· = '0')).reverse
    if spelling.leastPositional ≤ order ∧ order ≤ spelling.greatestPositional then
      positionalText ds order
    else scientificText ds order

end ProgramInterchange
