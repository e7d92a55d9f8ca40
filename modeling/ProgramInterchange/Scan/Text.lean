import ProgramInterchange.Scan.Basic
import ProgramInterchange.Text.Utf8

/-!
# Reading texts

Two readers start behind the opening quote. `text` reads the text and checks all of it: escapes,
surrogate pairs, controls and, at the closing quote, that its bytes are UTF-8. `skipText` only looks for
the closing quote and checks controls and the form of escapes.
-/

namespace ProgramInterchange.Scan

open ProgramInterchange.Byte

/-- What an escape of one letter stands for. -/
def escapeOf? (b : UInt8) : Option UInt8 :=
  if b = quote ∨ b = backslash ∨ b = slash then some b
  else if b = 98 then some 8
  else if b = 102 then some 12
  else if b = 110 then some 10
  else if b = 114 then some 13
  else if b = 116 then some 9
  else none

/-- The number of four hexadecimal digits. Four bytes are taken whatever they are. -/
def fourHex : Reader Nat
  | a :: b :: c :: d :: rest =>
    match hexValue? a, hexValue? b, hexValue? c, hexValue? d with
    | some a, some b, some c, some d =>
      .ok (((a * 16 + b) * 16 + c) * 16 + d, ⟨rest, by simp only [List.length_cons]; omega⟩)
    | _, _, _, _ => .error .invalidEscape
  | _ => .error .endInText

def characterBytes (n : Nat) : List UInt8 := String.utf8EncodeChar (Char.ofNat n)

/-- Whether a number is the first half of a surrogate pair. -/
def isHighSurrogate (n : Nat) : Bool := decide (0xD800 ≤ n ∧ n ≤ 0xDBFF)

/-- Whether a number is the second half of a surrogate pair. -/
def isLowSurrogate (n : Nat) : Bool := decide (0xDC00 ≤ n ∧ n ≤ 0xDFFF)

/-- The second half of a surrogate pair, written as another escape by number. -/
def lowSurrogate : Reader Nat
  | [] => .error .endInText
  | [b] => if b = backslash then .error .endInText else .error .endOfHexEscape
  | b :: c :: rest =>
    if b = backslash ∧ c = letterU then
      match fourHex rest with
      | .error fault => .error fault
      | .ok (n, ⟨after, h⟩) =>
        if isLowSurrogate n then .ok (n, ⟨after, by simp only [List.length_cons]; omega⟩)
        else .error .loneSurrogate
    else .error .endOfHexEscape

/-- The character of an escape by number, behind its first letter. -/
def numberedCharacter : Reader (List UInt8) := fun input =>
  match fourHex input with
  | .error fault => .error fault
  | .ok (n, rest) =>
    if isLowSurrogate n then .error .loneSurrogate
    else if isHighSurrogate n then
      match lowSurrogate rest.val with
      | .error fault => .error fault
      | .ok (m, after) =>
        .ok (characterBytes ((n - 0xD800) * 0x400 + (m - 0xDC00) + 0x10000),
          ⟨after.val, Nat.lt_trans after.property rest.property⟩)
    else .ok (characterBytes n, rest)

/-- What an escape stands for, behind its backslash. -/
def escape : Reader (List UInt8)
  | [] => .error .endInText
  | b :: rest =>
    match escapeOf? b with
    | some c => .ok ([c], Rest.behind b rest)
    | none =>
      if b = letterU then (numberedCharacter rest).widen (Nat.le_succ _)
      else .error .invalidEscape

/-- The bytes of a text up to its closing quote. -/
def textContent (input : List UInt8) : Scanned input (List UInt8) :=
  match input with
  | [] => .error .endInText
  | b :: rest =>
    if b = quote then .ok ([], ⟨rest, Nat.lt_succ_self _⟩)
    else if b = backslash then
      match escape rest with
      | .error fault => .error fault
      | .ok (front, ⟨after, h⟩) =>
        ((textContent after).map (front ++ ·)).widen
          (Nat.le_of_lt (Nat.lt_succ_of_lt h))
    else if b < 32 then .error .controlCharacter
    else ((textContent rest).map (b :: ·)).widen (Nat.le_succ _)
termination_by input.length

/-- A text, behind its opening quote. -/
def text : Reader String := fun input =>
  match textContent input with
  | .error fault => .error fault
  | .ok (bytes, rest) =>
    match Text.ofUtf8? bytes with
    | some s => .ok (s, rest)
    | none => .error .invalidCodePoint

/-- Passes over a text, behind its opening quote. -/
def skipText (input : List UInt8) : Except WireFault (Rest input) :=
  match input with
  | [] => .error .endInText
  | b :: rest =>
    if b = quote then .ok ⟨rest, Nat.lt_succ_self _⟩
    else if b = backslash then
      match rest with
      | [] => .error .endInText
      | c :: after =>
        if (escapeOf? c).isSome then
          match skipText after with
          | .error fault => .error fault
          | .ok ⟨final, h⟩ => .ok ⟨final, by simp only [List.length_cons]; omega⟩
        else if c = letterU then
          match fourHex after with
          | .error fault => .error fault
          | .ok (_, ⟨behind, h⟩) =>
            match skipText behind with
            | .error fault => .error fault
            | .ok ⟨final, h'⟩ => .ok ⟨final, by simp only [List.length_cons]; omega⟩
        else .error .invalidEscape
    else if b < 32 then .error .controlCharacter
    else
      match skipText rest with
      | .error fault => .error fault
      | .ok ⟨final, h⟩ => .ok ⟨final, Nat.lt_succ_of_lt h⟩
termination_by input.length

end ProgramInterchange.Scan
