import ProgramInterchange.Toml.Table
import ProgramInterchange.Toml.Text

/-!
# Words in configuration

Values without quotes or brackets: truth values, integers, floating point numbers, and moments, which are
dates, times or both. Only which kind a word is matters, and of a number whether it can be held.
-/

namespace ProgramInterchange.Toml

open ProgramInterchange.Scan (Rest Tail)

def isWordChar (c : Char) : Bool :=
  c.isAlphanum || c = '_' || c = '+' || c = '-' || c = '.' || c = ':'

/-! ### Numbers -/

/-- The value of a digit in a base of at most sixteen. -/
def digit? (base : Nat) (c : Char) : Option Nat := (hexValue? c).filter (· < base)

/-- The digits of a number, at least one. An underscore may stand between two of them. -/
def digits? (base : Nat) : List Char → Option (List Nat)
  | [] => none
  | [c] => (digit? base c).map fun d => [d]
  | c :: '_' :: rest => do return (← digit? base c) :: (← digits? base rest)
  | c :: rest => do return (← digit? base c) :: (← digits? base rest)

def numeral (base : Nat) (ds : List Nat) : Nat := ds.foldl (fun n d => n * base + d) 0

/-- The digits of a decimal number, which begins with zero only if that is all of it. -/
def decimalDigits? (word : List Char) : Option (List Nat) :=
  (digits? 10 word).filter fun ds => ds.head? ≠ some 0 || ds.length = 1

/-- A word without its sign, and whether that was a minus. -/
def unsigned : List Char → Bool × List Char
  | '-' :: rest => (true, rest)
  | '+' :: rest => (false, rest)
  | word => (false, word)

/-- Whether an integer can be held in 128 bits, with a sign if it is negative. -/
def isHeldInteger (negative : Bool) (magnitude : Nat) : Bool :=
  if negative then magnitude ≤ Nat.pow 2 127 else magnitude < Nat.pow 2 128

/-- Whether an integer in a base other than ten can be held, from its digits. -/
def basedInteger? (base : Nat) (word : List Char) : Option Bool :=
  (digits? base word).map fun ds => isHeldInteger false (numeral base ds)

/-- Whether an integer can be held, if the word is one. -/
def integer? : List Char → Option Bool
  | '0' :: 'x' :: ds => basedInteger? 16 ds
  | '0' :: 'o' :: ds => basedInteger? 8 ds
  | '0' :: 'b' :: ds => basedInteger? 2 ds
  | word =>
    match unsigned word with
    | (negative, ds) => (decimalDigits? ds).map fun ds => isHeldInteger negative (numeral 10 ds)

/-- Whether `0.ds` with a power of ten is below the numbers that round to infinity in 64 bits. The first
digit is not zero, so only one order needs a closer look. -/
def isFiniteNumber (ds : List Nat) (order : Int) : Bool :=
  if order = 309 then numeral 10 ds * Nat.pow 10 309 < (Nat.pow 2 1024 - Nat.pow 2 970) * Nat.pow 10 ds.length
  else order < 309

/-- Whether a number with these digits in front of its point and behind it, and this exponent, is
finite. -/
def isFiniteFloat (whole fraction : List Nat) (exponent : Int) : Bool :=
  match (whole ++ fraction).dropWhile (· = 0) with
  | [] => true
  | ds => isFiniteNumber ds (ds.length - fraction.length + exponent)

/-- A word cut at the first character of a kind; that character is dropped. -/
def cutAt (isCut : Char → Bool) (word : List Char) : List Char × Option (List Char) :=
  match word.span (!isCut ·) with
  | (front, []) => (front, none)
  | (front, _ :: back) => (front, some back)

/-- The exponent behind its letter; a number without one has exponent zero. -/
def exponent? : Option (List Char) → Option Int
  | none => some 0
  | some word =>
    match unsigned word with
    | (negative, ds) => (digits? 10 ds).map fun ds =>
      if negative then -(numeral 10 ds : Int) else numeral 10 ds

/-- The digits behind a point; a number without one has none. -/
def fraction? : Option (List Char) → Option (List Nat)
  | none => some []
  | some word => digits? 10 word

/-- Whether a floating point number can be held, if the word is one: it has a point or an exponent, unless it
is no number or infinite by name. -/
def float? (word : List Char) : Option Bool :=
  match (unsigned word).2 with
  | ['i', 'n', 'f'] => some true
  | ['n', 'a', 'n'] => some true
  | magnitude =>
    match cutAt (fun c => c = 'e' || c = 'E') magnitude with
    | (mantissa, power) =>
      match cutAt (· = '.') mantissa with
      | (whole, behindPoint) =>
        if power.isSome || behindPoint.isSome then
          match decimalDigits? whole, fraction? behindPoint, exponent? power with
          | some whole, some fraction, some exponent => some (isFiniteFloat whole fraction exponent)
          | _, _, _ => none
        else none

/-! ### Moments -/

/-- A number of exactly so many decimal digits, and what follows it. -/
def fixedNumber : (count value : Nat) → List Char → Option (Nat × List Char)
  | 0, value, rest => some (value, rest)
  | _ + 1, _, [] => none
  | count + 1, value, c :: rest => do fixedNumber count (value * 10 + (← digit? 10 c)) rest

/-- Two numbers of two digits with a colon between them, the first below `hours` and the second below
sixty, and what follows them. -/
def dropClock (word : List Char) : Option (List Char) :=
  match fixedNumber 2 0 word with
  | some (hour, ':' :: rest) =>
    match fixedNumber 2 0 rest with
    | some (minute, rest) => if hour < 24 ∧ minute < 60 then some rest else none
    | none => none
  | _ => none

/-- The days of a month. -/
def daysIn (year month : Nat) : Nat :=
  if month = 2 then
    if year % 4 = 0 ∧ (year % 100 ≠ 0 ∨ year % 400 = 0) then 29 else 28
  else if month = 4 ∨ month = 6 ∨ month = 9 ∨ month = 11 then 30
  else 31

def dropDate (word : List Char) : Option (List Char) :=
  match fixedNumber 4 0 word with
  | some (year, '-' :: rest) =>
    match fixedNumber 2 0 rest with
    | some (month, '-' :: rest) =>
      match fixedNumber 2 0 rest with
      | some (day, rest) =>
        if 1 ≤ month ∧ month ≤ 12 ∧ 1 ≤ day ∧ day ≤ daysIn year month then some rest else none
      | none => none
    | _ => none
  | _ => none

/-- What follows the fraction of a second, behind its point. -/
def dropFraction (word : List Char) : Option (List Char) :=
  match word.span Char.isDigit with
  | ([], _) => none
  | (_, rest) => some rest

/-- What follows a time; seconds and their fraction may be left out, and a minute may have one second
more. -/
def dropTime (word : List Char) : Option (List Char) :=
  match dropClock word with
  | some (':' :: rest) =>
    match fixedNumber 2 0 rest with
    | some (second, rest) =>
      if second ≤ 60 then
        match rest with
        | '.' :: rest => dropFraction rest
        | rest => some rest
      else none
    | none => none
  | result => result

/-- Whether what follows the time of a dated moment is its distance from the first meridian, or nothing. -/
def isOffset : List Char → Bool
  | [] => true
  | ['Z'] => true
  | ['z'] => true
  | c :: rest => (c = '+' || c = '-') && dropClock rest == some []

def isDate (word : List Char) : Bool := dropDate word == some []

def isTime (word : List Char) : Bool := dropTime word == some []

def isDatedTime (word : List Char) : Bool := (dropTime word).any isOffset

/-- Whether a word is a date and a time joined by a letter. -/
def isDateTime (word : List Char) : Bool :=
  match dropDate word with
  | some (c :: rest) => (c = 'T' || c = 't') && isDatedTime rest
  | _ => false

/-! ### Words -/

def isMoment (word : List Char) : Bool := isDate word || isTime word || isDateTime word

def itemOfWord? (word : List Char) : Option Item :=
  if word = ['t', 'r', 'u', 'e'] ∨ word = ['f', 'a', 'l', 's', 'e'] then some .flag
  else if isMoment word then some .moment
  else ((integer? word).or (float? word)).map .number

def run (isMember : Char → Bool) : (input : List Char) → List Char × Tail input
  | [] => ([], ⟨[], Nat.le_refl _⟩)
  | c :: rest =>
    if isMember c then
      match run isMember rest with
      | (cs, ⟨after, h⟩) => (c :: cs, ⟨after, Nat.le_succ_of_le h⟩)
    else ([], ⟨c :: rest, Nat.le_refl _⟩)

/-- The characters of a kind at the front of a text, at least one. -/
def run₁ (isMember : Char → Bool) : Reader (List Char)
  | [] => none
  | c :: rest =>
    if isMember c then
      match run isMember rest with
      | (cs, after) => some (c :: cs, Tail.below c after)
    else none

/-- Reads a value without quotes or brackets. A date and its time may be joined by a blank. -/
def scalar : Reader Item := fun input =>
  match run₁ isWordChar input with
  | none => none
  | some (word, ⟨behind, h⟩) =>
    match behind with
    | ' ' :: c :: rest =>
      if isDate word && c.isDigit then
        match run isWordChar (c :: rest) with
        | (time, ⟨after, h'⟩) =>
          if isDatedTime time then
            some (.moment, ⟨after, by simp only [List.length_cons] at *; omega⟩)
          else none
      else (itemOfWord? word).map fun item => (item, ⟨' ' :: c :: rest, h⟩)
    | behind => (itemOfWord? word).map fun item => (item, ⟨behind, h⟩)

end ProgramInterchange.Toml
