/-!
# The bytes of JSON text

The punctuation, white space and digits that readers and writers of JSON go by.
-/

namespace ProgramInterchange.Byte

/-! ### Punctuation -/

def quote : UInt8 := 34
def plus : UInt8 := 43
def comma : UInt8 := 44
def minus : UInt8 := 45
def point : UInt8 := 46
def slash : UInt8 := 47
def colon : UInt8 := 58
def openBracket : UInt8 := 91
def backslash : UInt8 := 92
def closeBracket : UInt8 := 93
def openBrace : UInt8 := 123
def closeBrace : UInt8 := 125

/-! ### Letters

The first ones of `null`, `true` and `false`, the one of the escape by number, and those of the exponent.
-/

def letterN : UInt8 := 110
def letterT : UInt8 := 116
def letterF : UInt8 := 102
def letterU : UInt8 := 117
def letterE : UInt8 := 101
def capitalE : UInt8 := 69

/-- The bytes of a word of ASCII letters. -/
def word (s : String) : List UInt8 := s.toList.map fun c => c.toNat.toUInt8

/-! ### Classes -/

/-- White space is space, tab, line feed and carriage return. -/
def isBlank (b : UInt8) : Bool := b == 32 || b == 9 || b == 10 || b == 13

def isDigit (b : UInt8) : Bool := decide (48 ≤ b) && decide (b ≤ 57)

def digitValue (b : UInt8) : Nat := b.toNat - 48

def hexValue? (b : UInt8) : Option Nat :=
  if isDigit b then some (b.toNat - 48)
  else if 97 ≤ b ∧ b ≤ 102 then some (b.toNat - 87)
  else if 65 ≤ b ∧ b ≤ 70 then some (b.toNat - 55)
  else none

/-- The hexadecimal digit of a value below sixteen, in lower case. -/
def hexDigit (n : Nat) : UInt8 := if n < 10 then (48 + n).toUInt8 else (87 + n).toUInt8

end ProgramInterchange.Byte
