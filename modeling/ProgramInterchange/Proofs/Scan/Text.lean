import ProgramInterchange.Json.Document
import ProgramInterchange.Proofs.Scan.Token
import ProgramInterchange.Scan.Text

/-!
# Texts and their spellings

A character of a text may stand for itself or be escaped, by a letter or by its number. The reader gives the same
text for every spelling, and the written text is one of them.
-/

namespace ProgramInterchange.Scan

open ProgramInterchange.Byte
open ProgramInterchange.Json (escapedByte escapedText textBytes)

/-! ### Spellings -/

/-- Four hexadecimal digits of either case, and their number. -/
inductive HexSpelled : Nat → List UInt8 → Prop
  | mk {a b c d : UInt8} {i j k l : Nat} (ha : hexValue? a = some i) (hb : hexValue? b = some j)
    (hc : hexValue? c = some k) (hd : hexValue? d = some l) :
    HexSpelled (((i * 16 + j) * 16 + k) * 16 + l) [a, b, c, d]

/-- How bytes of a text are spelled between its quotes. A character whose number is beyond 16 bits is escaped as two
surrogates. -/
inductive BytesSpelled : List UInt8 → List UInt8 → Prop
  | nil : BytesSpelled [] []
  | plain {b : UInt8} {bytes spelled : List UInt8} (hq : b ≠ quote) (hs : b ≠ backslash) (hc : ¬b < 32)
    (more : BytesSpelled bytes spelled) : BytesSpelled (b :: bytes) (b :: spelled)
  | letter {letter b : UInt8} {bytes spelled : List UInt8} (h : escapeOf? letter = some b)
    (more : BytesSpelled bytes spelled) : BytesSpelled (b :: bytes) (backslash :: letter :: spelled)
  | number {n : Nat} {digits bytes spelled : List UInt8} (h : HexSpelled n digits)
    (low : isLowSurrogate n = false) (high : isHighSurrogate n = false) (more : BytesSpelled bytes spelled) :
    BytesSpelled (characterBytes n ++ bytes) (backslash :: letterU :: (digits ++ spelled))
  | pair {n m : Nat} {digits digits' bytes spelled : List UInt8} (hn : HexSpelled n digits)
    (high : isHighSurrogate n = true) (hm : HexSpelled m digits') (low : isLowSurrogate m = true)
    (more : BytesSpelled bytes spelled) :
    BytesSpelled (characterBytes ((n - 0xD800) * 0x400 + (m - 0xDC00) + 0x10000) ++ bytes)
      (backslash :: letterU :: (digits ++ backslash :: letterU :: (digits' ++ spelled)))

/-- A spelling of the text, with its quotes. -/
def Quoted (s : String) (t : Token) : Prop :=
  ∃ spelled, BytesSpelled (Text.utf8 s) spelled ∧ t = quote :: (spelled ++ [quote])

/-! ### Reading -/

theorem fourHex_spelled {n : Nat} {digits : List UInt8} (h : HexSpelled n digits) (rest : List UInt8) :
    (fourHex (digits ++ rest)).outcome = .ok (n, rest) := by
  cases h with
  | @mk a b c d i j k l ha hb hc hd =>
    show (fourHex (a :: b :: c :: d :: rest)).outcome = _
    simp only [fourHex, ha, hb, hc, hd]
    rfl

theorem escape_numbered {input front after : List UInt8}
    (h : (numberedCharacter input).outcome = .ok (front, after)) :
    (escape (letterU :: input)).outcome = .ok (front, after) := by
  have letter : escapeOf? letterU = none := rfl
  simp only [escape, letter, if_true, Scanned.outcome_widen, h]

theorem numberedCharacter_spelled {n : Nat} {digits : List UInt8} (h : HexSpelled n digits)
    (low : isLowSurrogate n = false) (high : isHighSurrogate n = false) (rest : List UInt8) :
    (numberedCharacter (digits ++ rest)).outcome = .ok (characterBytes n, rest) := by
  obtain ⟨_, hex⟩ := Scanned.outcome_eq_ok_iff.mp (fourHex_spelled h rest)
  simp only [numberedCharacter, hex, low, high, Bool.false_eq_true, if_false]
  rfl

theorem not_isLowSurrogate_of_isHighSurrogate {n : Nat} (h : isHighSurrogate n = true) :
    isLowSurrogate n = false := by
  have range := of_decide_eq_true h
  exact decide_eq_false (by omega)

theorem numberedCharacter_pair {n m : Nat} {digits digits' : List UInt8} (hn : HexSpelled n digits)
    (high : isHighSurrogate n = true) (hm : HexSpelled m digits') (low : isLowSurrogate m = true)
    (rest : List UInt8) :
    (numberedCharacter (digits ++ backslash :: letterU :: (digits' ++ rest))).outcome =
      .ok (characterBytes ((n - 0xD800) * 0x400 + (m - 0xDC00) + 0x10000), rest) := by
  obtain ⟨_, first⟩ := Scanned.outcome_eq_ok_iff.mp
    (fourHex_spelled hn (backslash :: letterU :: (digits' ++ rest)))
  obtain ⟨_, second⟩ := Scanned.outcome_eq_ok_iff.mp (fourHex_spelled hm rest)
  have notLow := not_isLowSurrogate_of_isHighSurrogate high
  simp only [numberedCharacter, first, notLow, high, Bool.false_eq_true, if_false, if_true, lowSurrogate, second,
    low, and_self]
  rfl

theorem textContent_escape {input front after : List UInt8}
    (h : (escape input).outcome = .ok (front, after)) : (textContent (backslash :: input)).outcome =
      (textContent after).outcome.map fun result => (front ++ result.1, result.2) := by
  obtain ⟨_, he⟩ := Scanned.outcome_eq_ok_iff.mp h
  rw [textContent, if_neg (by decide), if_pos rfl, he]
  simp only [Scanned.outcome_widen, Scanned.outcome_map]

/-- The bytes of a text are read as they are spelled, up to the quote. -/
theorem textContent_spelled {bytes spelled : List UInt8} (h : BytesSpelled bytes spelled) (rest : List UInt8) :
    (textContent (spelled ++ quote :: rest)).outcome = .ok (bytes, rest) := by
  induction h with
  | nil =>
    show (textContent (quote :: rest)).outcome = _
    rw [textContent, if_pos rfl]
    rfl
  | @plain b bytes spelled hq hs hc more ih =>
    show (textContent (b :: (spelled ++ quote :: rest))).outcome = _
    rw [textContent, if_neg hq, if_neg hs, if_neg hc, Scanned.outcome_widen, Scanned.outcome_map, ih]
    rfl
  | @letter letter b bytes spelled h more ih =>
    have one : (escape (letter :: (spelled ++ quote :: rest))).outcome = .ok ([b], spelled ++ quote :: rest) := by
      simp only [escape, h]
      rfl
    show (textContent (backslash :: letter :: (spelled ++ quote :: rest))).outcome = _
    rw [textContent_escape one, ih]
    rfl
  | @number n digits bytes spelled h low high more ih =>
    have one := escape_numbered (numberedCharacter_spelled h low high (spelled ++ quote :: rest))
    rw [← List.append_assoc] at one
    show (textContent (backslash :: letterU :: (digits ++ spelled ++ quote :: rest))).outcome = _
    rw [textContent_escape one, ih]
    rfl
  | @pair n m digits digits' bytes spelled hn high hm low more ih =>
    have one := escape_numbered (numberedCharacter_pair hn high hm low (spelled ++ quote :: rest))
    have input : digits ++ backslash :: letterU :: (digits' ++ spelled) ++ quote :: rest =
        digits ++ backslash :: letterU :: (digits' ++ (spelled ++ quote :: rest)) := by simp
    rw [← input] at one
    show (textContent (backslash :: letterU ::
      (digits ++ backslash :: letterU :: (digits' ++ spelled) ++ quote :: rest))).outcome = _
    rw [textContent_escape one, ih]
    rfl

theorem text_spelled {s : String} {spelled : List UInt8} (h : BytesSpelled (Text.utf8 s) spelled)
    (rest : List UInt8) : (text (spelled ++ quote :: rest)).outcome = .ok (s, rest) := by
  obtain ⟨_, content⟩ := Scanned.outcome_eq_ok_iff.mp (textContent_spelled h rest)
  have back := Text.ofUtf8?_utf8 s
  simp only [text, content, back]
  rfl

/-! ### Written texts -/

theorem hexValue?_hexDigit {n : Nat} (h : n < 16) : hexValue? (hexDigit n) = some n := by
  have all : ∀ n, n < 16 → hexValue? (hexDigit n) = some n := by decide
  exact all n h

theorem characterBytes_control {n : Nat} (h : n < 32) : characterBytes n = [n.toUInt8] := by
  have all : ∀ n, n < 32 → characterBytes n = [n.toUInt8] := by decide
  exact all n h

theorem hexSpelled_control {b : UInt8} (h : b < 32) :
    HexSpelled b.toNat [48, 48, hexDigit (b.toNat / 16), hexDigit (b.toNat % 16)] := by
  have hn : b.toNat < 32 := h
  have zero : hexValue? 48 = some 0 := rfl
  have high : hexValue? (hexDigit (b.toNat / 16)) = some (b.toNat / 16) := hexValue?_hexDigit (by omega)
  have low : hexValue? (hexDigit (b.toNat % 16)) = some (b.toNat % 16) := hexValue?_hexDigit (by omega)
  have number : ((0 * 16 + 0) * 16 + b.toNat / 16) * 16 + b.toNat % 16 = b.toNat := by omega
  have spelled := HexSpelled.mk zero zero high low
  rwa [number] at spelled

theorem bytesSpelled_control {b : UInt8} (h : b < 32) {bytes spelled : List UInt8}
    (more : BytesSpelled bytes spelled) :
    BytesSpelled (b :: bytes)
      (backslash :: letterU :: 48 :: 48 :: hexDigit (b.toNat / 16) :: hexDigit (b.toNat % 16) :: spelled) := by
  have hn : b.toNat < 32 := h
  have low : isLowSurrogate b.toNat = false := decide_eq_false (by omega)
  have high : isHighSurrogate b.toNat = false := decide_eq_false (by omega)
  have bytes : characterBytes b.toNat = [b] := by
    rw [characterBytes_control hn]
    simp
  have escaped := BytesSpelled.number (hexSpelled_control h) low high more
  rwa [bytes] at escaped

theorem bytesSpelled_escapedByte (b : UInt8) {bytes spelled : List UInt8} (more : BytesSpelled bytes spelled) :
    BytesSpelled (b :: bytes) (escapedByte b ++ spelled) := by
  unfold escapedByte
  by_cases hq : b = quote
  · rw [if_pos hq, hq]
    exact .letter rfl more
  by_cases hs : b = backslash
  · rw [if_neg hq, if_pos hs, hs]
    exact .letter rfl more
  by_cases h8 : b = 8
  · rw [if_neg hq, if_neg hs, if_pos h8, h8]
    exact .letter rfl more
  by_cases h9 : b = 9
  · rw [if_neg hq, if_neg hs, if_neg h8, if_pos h9, h9]
    exact .letter rfl more
  by_cases h10 : b = 10
  · rw [if_neg hq, if_neg hs, if_neg h8, if_neg h9, if_pos h10, h10]
    exact .letter rfl more
  by_cases h12 : b = 12
  · rw [if_neg hq, if_neg hs, if_neg h8, if_neg h9, if_neg h10, if_pos h12, h12]
    exact .letter rfl more
  by_cases h13 : b = 13
  · rw [if_neg hq, if_neg hs, if_neg h8, if_neg h9, if_neg h10, if_neg h12, if_pos h13, h13]
    exact .letter rfl more
  rw [if_neg hq, if_neg hs, if_neg h8, if_neg h9, if_neg h10, if_neg h12, if_neg h13]
  by_cases hc : b < 32
  · rw [if_pos hc]
    exact bytesSpelled_control hc more
  · rw [if_neg hc]
    exact .plain hq hs hc more

theorem quoted_textBytes (s : String) : Quoted s (textBytes s) := by
  have all (bytes : List UInt8) : BytesSpelled bytes (bytes.flatMap escapedByte) := by
    induction bytes with
    | nil => exact .nil
    | cons b bytes ih => exact bytesSpelled_escapedByte b ih
  exact ⟨escapedText s, all _, rfl⟩

end ProgramInterchange.Scan
