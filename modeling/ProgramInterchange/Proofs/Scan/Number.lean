import ProgramInterchange.Json.Document
import ProgramInterchange.Proofs.Scan.Token
import ProgramInterchange.Scan.Number

/-!
# Numbers and their spellings

The digits of a number are read as they are spelled, whatever the sign, the letter and the length of the exponent.
A natural number has one spelling without point and exponent.
-/

namespace ProgramInterchange.Scan

open ProgramInterchange.Byte
open ProgramInterchange.Json (numberBytes)

/-! ### Digits -/

def digitByte (d : Nat) : UInt8 := (48 + d).toUInt8

theorem isDigit_digitByte {d : Nat} (h : d < 10) : isDigit (digitByte d) = true := by
  have all : ∀ d, d < 10 → isDigit (digitByte d) = true := by decide
  exact all d h

theorem digitValue_digitByte {d : Nat} (h : d < 10) : digitValue (digitByte d) = d := by
  have all : ∀ d, d < 10 → digitValue (digitByte d) = d := by decide
  exact all d h

theorem digitByte_ne_zero {d : Nat} (h : d < 10) (hd : d ≠ 0) : digitByte d ≠ 48 := by
  have all : ∀ d, d < 10 → d ≠ 0 → digitByte d ≠ 48 := by decide
  exact all d h hd

/-- A digit is told from what else begins a value. -/
theorem digitByte_first {d : Nat} (h : d < 10) :
    isBlank (digitByte d) = false ∧ digitByte d ≠ closeBracket ∧ digitByte d ≠ letterN ∧
      digitByte d ≠ minus := by
  have all : ∀ d, d < 10 → isBlank (digitByte d) = false ∧ digitByte d ≠ closeBracket ∧
      digitByte d ≠ letterN ∧ digitByte d ≠ minus := by decide
  exact all d h

theorem digits_map_digitByte {ds : List Nat} {rest : List UInt8} (hd : ∀ d ∈ ds, d < 10)
    (hr : startsWithDigit rest = false) : ∃ h, digits (ds.map digitByte ++ rest) = (ds, ⟨rest, h⟩) := by
  induction ds with
  | nil =>
    cases rest with
    | nil => exact ⟨Nat.le_refl _, rfl⟩
    | cons b rest =>
      have hb : isDigit b = false := hr
      refine ⟨Nat.le_refl _, ?_⟩
      show digits (b :: rest) = ([], ⟨b :: rest, _⟩)
      simp only [digits, hb, Bool.false_eq_true, if_false]
  | cons d ds ih =>
    obtain ⟨h, tail⟩ := ih fun x hx => hd x (List.mem_cons_of_mem _ hx)
    have hlt := hd d (List.mem_cons_self ..)
    refine ⟨Nat.le_succ_of_le h, ?_⟩
    show digits (digitByte d :: (ds.map digitByte ++ rest)) = (d :: ds, ⟨rest, _⟩)
    simp only [digits, isDigit_digitByte hlt, if_true, tail, digitValue_digitByte hlt]

/-- At least one digit of ten. -/
def IsDigits (ds : List Nat) : Prop := ds ≠ [] ∧ ∀ d ∈ ds, d < 10

theorem someDigits_map_digitByte {ds : List Nat} {rest : List UInt8} (h : IsDigits ds)
    (hr : startsWithDigit rest = false) : (someDigits (ds.map digitByte ++ rest)).outcome = .ok (ds, rest) := by
  obtain ⟨some, small⟩ := h
  obtain ⟨d, ds, rfl⟩ := List.exists_cons_of_ne_nil some
  obtain ⟨hd, hds⟩ := List.forall_mem_cons.mp small
  obtain ⟨hl, tail⟩ := digits_map_digitByte hds hr
  show (someDigits (digitByte d :: (ds.map digitByte ++ rest))).outcome = _
  simp only [someDigits, isDigit_digitByte hd, if_true, tail, digitValue_digitByte hd]
  rfl

/-! ### Spellings -/

/-- Digits before point and exponent: a zero stands alone. -/
def IsWhole (ds : List Nat) : Prop := IsDigits ds ∧ (ds.head? = some 0 → ds = [0])

/-- How the digits behind a point are spelled, if there are any. -/
inductive FractionSpelled : Option (List Nat) → List UInt8 → Prop
  | none : FractionSpelled none []
  | some {ds : List Nat} (h : IsDigits ds) : FractionSpelled (some ds) (point :: ds.map digitByte)

inductive SignSpelled : Bool → List UInt8 → Prop
  | none : SignSpelled false []
  | plus : SignSpelled false [plus]
  | minus : SignSpelled true [minus]

/-- How an exponent is spelled, if there is one. -/
inductive ExponentSpelled : Option (Bool × List Nat) → List UInt8 → Prop
  | none : ExponentSpelled none []
  | some {letter : UInt8} {negative : Bool} {sign : List UInt8} {ds : List Nat}
    (hl : letter = letterE ∨ letter = capitalE) (hs : SignSpelled negative sign) (h : IsDigits ds) :
    ExponentSpelled (some (negative, ds)) (letter :: (sign ++ ds.map digitByte))

inductive NumberSpelled : NumberText → List UInt8 → Prop
  | mk {whole : List Nat} {fraction : Option (List Nat)} {exponent : Option (Bool × List Nat)}
    {behindWhole behindFraction : List UInt8} (hw : IsWhole whole) (hf : FractionSpelled fraction behindWhole)
    (he : ExponentSpelled exponent behindFraction) :
    NumberSpelled ⟨whole, fraction, exponent⟩ (whole.map digitByte ++ (behindWhole ++ behindFraction))

def IsNumber (t : Token) : Prop :=
  ∃ text bytes, NumberSpelled text bytes ∧ (t = bytes ∨ t = minus :: bytes)

/-! ### What ends a number -/

/-- What follows does not go on with the number before it. -/
def EndsNumber (rest : List UInt8) : Prop :=
  ∀ b ∈ rest.head?, isDigit b = false ∧ b ≠ point ∧ b ≠ letterE ∧ b ≠ capitalE

theorem endsNumber_of_head {b : UInt8} (h : isDigit b = false ∧ b ≠ point ∧ b ≠ letterE ∧ b ≠ capitalE)
    (rest : List UInt8) : EndsNumber (b :: rest) := by
  rintro c ⟨⟩
  exact h

theorem not_number_of_isBlank {b : UInt8} (h : isBlank b = true) :
    isDigit b = false ∧ b ≠ point ∧ b ≠ letterE ∧ b ≠ capitalE := by
  simp only [isBlank, Bool.or_eq_true, beq_iff_eq] at h
  rcases h with ((rfl | rfl) | rfl) | rfl <;> decide

/-- White space ends a number, and so does what a value ends before. -/
theorem Spaced.endsNumber {ts : List Token} {text : List UInt8} (h : Spaced ts text) (hc : Closes ts) :
    EndsNumber text := by
  cases h with
  | done h =>
    cases text with
    | nil => exact nofun
    | cons b blank => exact endsNumber_of_head (not_number_of_isBlank (h b (List.mem_cons_self ..))) _
  | @token blank rest t ts h more =>
    cases blank with
    | cons b blank => exact endsNumber_of_head (not_number_of_isBlank (h b (List.mem_cons_self ..))) _
    | nil => rcases hc t rfl with rfl | rfl | rfl <;> exact endsNumber_of_head (by decide) _

theorem startsWithDigit_of_head {rest : List UInt8} (h : ∀ b ∈ rest.head?, isDigit b = false) :
    startsWithDigit rest = false := by
  cases rest with
  | nil => rfl
  | cons b rest => exact h b rfl

/-! ### Reading -/

theorem exponentDigits_spelled {exponent : Option (Bool × List Nat)} {bytes rest : List UInt8}
    (h : ExponentSpelled exponent bytes) (hr : EndsNumber rest) :
    ∃ shorter, exponentDigits (bytes ++ rest) = .ok (exponent, ⟨rest, shorter⟩) := by
  have noDigit := startsWithDigit_of_head fun b hb => (hr b hb).1
  cases h with
  | none =>
    refine ⟨Nat.le_refl _, ?_⟩
    show exponentDigits rest = _
    cases rest with
    | nil => rfl
    | cons b rest =>
      have hb : ¬(b = letterE ∨ b = capitalE) := not_or.mpr (hr b rfl).2.2
      simp only [exponentDigits, if_neg hb]
  | @some letter negative sign ds hl hs hds =>
    obtain ⟨shorter, digits⟩ := Scanned.outcome_eq_ok_iff.mp (someDigits_map_digitByte hds noDigit)
    have signed : ∃ h, exponentSign (sign ++ (ds.map digitByte ++ rest)) =
        (negative, ⟨ds.map digitByte ++ rest, h⟩) := by
      cases hs with
      | plus => exact ⟨_, rfl⟩
      | minus => exact ⟨_, rfl⟩
      | none =>
        obtain ⟨some, small⟩ := hds
        obtain ⟨d, ds, rfl⟩ := List.exists_cons_of_ne_nil some
        have noSign : ∀ d, d < 10 → digitByte d ≠ plus ∧ digitByte d ≠ minus := by decide
        obtain ⟨hp, hm⟩ := noSign d (small d (List.mem_cons_self ..))
        refine ⟨Nat.le_refl _, ?_⟩
        show exponentSign (digitByte d :: (ds.map digitByte ++ rest)) = _
        simp only [exponentSign, if_neg hp, if_neg hm]
        rfl
    obtain ⟨behind, signed⟩ := signed
    have input : letter :: (sign ++ ds.map digitByte) ++ rest =
        letter :: (sign ++ (ds.map digitByte ++ rest)) := by simp
    rw [input]
    refine ⟨by simp only [List.length_append, List.length_cons]; omega, ?_⟩
    rw [exponentDigits, if_pos hl]
    generalize exponentSign (sign ++ (ds.map digitByte ++ rest)) = found at signed ⊢
    subst signed
    simp only [digits]

theorem fractionDigits_spelled {fraction : Option (List Nat)} {bytes rest : List UInt8}
    (h : FractionSpelled fraction bytes) (hr : ∀ b ∈ rest.head?, isDigit b = false ∧ b ≠ point) :
    ∃ shorter, fractionDigits (bytes ++ rest) = .ok (fraction, ⟨rest, shorter⟩) := by
  cases h with
  | none =>
    refine ⟨Nat.le_refl _, ?_⟩
    show fractionDigits rest = _
    cases rest with
    | nil => rfl
    | cons b rest => simp only [fractionDigits, if_neg (hr b rfl).2]
  | @some ds hds =>
    have noDigit := startsWithDigit_of_head fun b hb => (hr b hb).1
    obtain ⟨shorter, digits⟩ := Scanned.outcome_eq_ok_iff.mp (someDigits_map_digitByte hds noDigit)
    refine ⟨Nat.le_of_lt (Nat.lt_succ_of_lt shorter), ?_⟩
    show fractionDigits (point :: (ds.map digitByte ++ rest)) = _
    simp only [fractionDigits, if_true, digits]

theorem wholeDigits_spelled {ds : List Nat} {rest : List UInt8} (h : IsWhole ds)
    (hr : startsWithDigit rest = false) : (wholeDigits (ds.map digitByte ++ rest)).outcome = .ok (ds, rest) := by
  obtain ⟨hds, alone⟩ := h
  have digits := someDigits_map_digitByte hds hr
  obtain ⟨d, ds, rfl⟩ := List.exists_cons_of_ne_nil hds.1
  by_cases hd : d = 0
  · subst hd
    obtain rfl := (List.cons.inj (alone rfl)).2
    show (wholeDigits (48 :: rest)).outcome = _
    simp only [wholeDigits, if_true, hr, Bool.false_eq_true, if_false]
    rfl
  · have notZero := digitByte_ne_zero (hds.2 d (List.mem_cons_self ..)) hd
    rw [← digits]
    show (wholeDigits (digitByte d :: (ds.map digitByte ++ rest))).outcome = _
    simp only [wholeDigits, if_neg notZero]
    rfl

theorem numberText_spelled {t : NumberText} {bytes rest : List UInt8} (h : NumberSpelled t bytes)
    (hr : EndsNumber rest) : (numberText (bytes ++ rest)).outcome = .ok (t, rest) := by
  cases h with
  | @mk whole fraction exponent behindWhole behindFraction hw hf he =>
    have endsFraction : ∀ b ∈ (behindFraction ++ rest).head?, isDigit b = false ∧ b ≠ point := by
      cases he with
      | none => exact fun b hb => ⟨(hr b hb).1, (hr b hb).2.1⟩
      | some hl hs hds =>
        rintro b ⟨⟩
        rcases hl with rfl | rfl <;> decide
    have endsWhole : startsWithDigit (behindWhole ++ (behindFraction ++ rest)) = false := by
      cases hf with
      | none => exact startsWithDigit_of_head fun b hb => (endsFraction b hb).1
      | some hds => rfl
    obtain ⟨_, first⟩ := Scanned.outcome_eq_ok_iff.mp (wholeDigits_spelled hw endsWhole)
    obtain ⟨_, second⟩ := fractionDigits_spelled hf endsFraction
    obtain ⟨_, third⟩ := exponentDigits_spelled he hr
    rw [List.append_assoc, List.append_assoc]
    simp only [numberText, first, second, third]
    rfl

/-! ### Natural numbers -/

def decimal (n : Nat) : List Nat := if n < 10 then [n] else decimal (n / 10) ++ [n % 10]

theorem numberBytes_eq_map (n : Nat) : numberBytes n = (decimal n).map digitByte := by
  induction n using Nat.strongRecOn with
  | ind n ih =>
    rw [numberBytes, decimal]
    by_cases h : n < 10
    · rw [if_pos h, if_pos h]
      rfl
    · rw [if_neg h, if_neg h, ih (n / 10) (by omega), List.map_append]
      rfl

theorem lt_of_mem_decimal {n d : Nat} (h : d ∈ decimal n) : d < 10 := by
  induction n using Nat.strongRecOn with
  | ind n ih =>
    rw [decimal] at h
    by_cases hn : n < 10
    · rw [if_pos hn, List.mem_singleton] at h
      omega
    · rw [if_neg hn, List.mem_append, List.mem_singleton] at h
      rcases h with h | h
      · exact ih (n / 10) (by omega) h
      · omega

theorem foldl_decimal (n : Nat) : (decimal n).foldl (fun m d => m * 10 + d) 0 = n := by
  induction n using Nat.strongRecOn with
  | ind n ih =>
    rw [decimal]
    by_cases h : n < 10
    · rw [if_pos h, List.foldl_cons, List.foldl_nil]
      omega
    · rw [if_neg h, List.foldl_append, ih (n / 10) (by omega), List.foldl_cons, List.foldl_nil]
      omega

/-- The first digit is a zero only if it is the only one. -/
theorem decimal_eq_cons (n : Nat) : ∃ d ds, decimal n = d :: ds ∧ (d = 0 → ds = []) := by
  induction n using Nat.strongRecOn with
  | ind n ih =>
    rw [decimal]
    by_cases h : n < 10
    · rw [if_pos h]
      exact ⟨n, [], rfl, fun _ => rfl⟩
    · obtain ⟨d, ds, hd, hz⟩ := ih (n / 10) (by omega)
      rw [if_neg h, hd]
      refine ⟨d, ds ++ [n % 10], rfl, fun h0 => ?_⟩
      have value := foldl_decimal (n / 10)
      rw [hd, hz h0, h0] at value
      simp only [List.foldl_cons, List.foldl_nil] at value
      omega

theorem numberBytes_eq_cons (n : Nat) : ∃ d tail, d < 10 ∧ numberBytes n = digitByte d :: tail := by
  obtain ⟨d, ds, hd, -⟩ := decimal_eq_cons n
  have small : d < 10 := lt_of_mem_decimal (by rw [hd]; exact List.mem_cons_self ..)
  exact ⟨d, ds.map digitByte, small, by rw [numberBytes_eq_map, hd, List.map_cons]⟩

theorem numberSpelled_numberBytes (n : Nat) : NumberSpelled ⟨decimal n, none, none⟩ (numberBytes n) := by
  obtain ⟨d, ds, hd, hz⟩ := decimal_eq_cons n
  have whole : IsWhole (decimal n) := by
    refine ⟨⟨by simp [hd], fun _ => lt_of_mem_decimal⟩, fun h => ?_⟩
    rw [hd] at h ⊢
    obtain rfl := Option.some.inj h
    rw [hz rfl]
  have spelled := NumberSpelled.mk whole .none .none
  rwa [List.append_nil, List.append_nil, ← numberBytes_eq_map] at spelled

theorem le_foldl (m : Nat) (ds : List Nat) : m ≤ ds.foldl (fun m d => m * 10 + d) m := by
  induction ds generalizing m with
  | nil => exact Nat.le_refl m
  | cons d ds ih =>
    have h := ih (m * 10 + d)
    rw [List.foldl_cons]
    omega

theorem accumulate_eq {m : Nat} {ds : List Nat}
    (h : ds.foldl (fun m d => m * 10 + d) m < UInt64.size) :
    accumulate m ds = (ds.foldl (fun m d => m * 10 + d) m, []) := by
  induction ds generalizing m with
  | nil => rfl
  | cons d ds ih =>
    rw [List.foldl_cons] at h ⊢
    have hm := le_foldl (m * 10 + d) ds
    rw [accumulate, if_pos (Nat.lt_of_le_of_lt hm h), ih h]

/-- A number of 64 bits is read as it was written. -/
theorem number_numberBytes {n : Nat} (hn : n < UInt64.size) {rest : List UInt8} (hr : EndsNumber rest) :
    (number false (numberBytes n ++ rest)).outcome = .ok (.integer n, rest) := by
  have all : accumulate 0 (decimal n) = ((decimal n).foldl (fun m d => m * 10 + d) 0, []) :=
    accumulate_eq (by rwa [foldl_decimal])
  rw [foldl_decimal] at all
  obtain ⟨h, text⟩ := Scanned.outcome_eq_ok_iff.mp (numberText_spelled (numberSpelled_numberBytes n) hr)
  have value : (⟨decimal n, none, none⟩ : NumberText).value false = .ok (.integer n) := by
    simp [NumberText.value, all]
  simp only [number, text, value]
  rfl

end ProgramInterchange.Scan
