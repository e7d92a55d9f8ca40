import ProgramInterchange.Proofs.Wire.Object

/-!
# Reading what is spelled

Every spelling of a value is read as the value if there are brackets enough to be open at once.
-/

namespace ProgramInterchange.Wire

open ProgramInterchange.Byte ProgramInterchange.Scan

variable {ρ : Type}

/-- What is read inside a bracket may nest in one bracket fewer, if there may be one. -/
def ReadsInside [Format ρ] (inside : Option (Shape ρ → Reader Value)) (budget : Nat) : Prop :=
  match inside with
  | none => budget = 0
  | some read => ∃ n, budget = n + 1 ∧ Reads read n

section

variable [Format ρ] {inside : Option (Shape ρ → Reader Value)} {budget : Nat}

theorem gives_no_bracket {outcome : Except WireFault (Value × List UInt8)} {v : Value} {more : List Token}
    (deep : 0 < v.nesting) (h : outcome = .error .recursionLimit) : Gives outcome (v.nesting ≤ 0) v more :=
  ⟨fun fits => by omega, fun _ => h⟩

theorem readShape_list (hin : ReadsInside inside budget) {item : Shape ρ} {items : List (Value × List Token)}
    (each : ∀ i ∈ items, Spells item i.1 i.2) {more : List Token} {text : List UInt8}
    (spaced : Spaced (arrayTokens (items.map Prod.snd) ++ more) text) :
    Gives (readShape inside (.list item) text).outcome ((Value.list (items.map Prod.fst)).nesting ≤ budget)
      (.list (items.map Prod.fst)) more := by
  simp only [arrayTokens, List.cons_append, List.append_assoc, List.nil_append] at spaced
  obtain ⟨start, _, next, spaced⟩ := spaced.next? (by decide)
  simp only [readShape, next, if_true]
  cases inside with
  | none =>
    obtain rfl : budget = 0 := hin
    exact gives_no_bracket (Nat.succ_pos _) rfl
  | some read =>
    obtain ⟨n, rfl, hread⟩ := hin
    rw [Scanned.outcome_widen, Scanned.outcome_map]
    exact ((readItems_spelled hread each true spaced).map Value.list).congr Value.nesting_list_le_iff.symm

theorem readShape_fields (hin : ReadsInside inside budget) {name : ρ} {entries : List (Field ρ × Value × List Token)}
    (complete : entries.map Prod.fst = (Format.layout name).fields)
    (each : ∀ e ∈ entries, Spells e.1.shape e.2.1 e.2.2) {more : List Token} {text : List UInt8}
    (spaced : Spaced (arrayTokens (entries.map fun e => e.2.2) ++ more) text) :
    Gives (readShape inside (.record name) text).outcome
      ((Value.record (entries.map fun e => e.2.1)).nesting ≤ budget) (.record (entries.map fun e => e.2.1)) more := by
  simp only [arrayTokens, List.cons_append, List.append_assoc, List.nil_append] at spaced
  obtain ⟨start, _, next, spaced⟩ := spaced.next? (by decide)
  simp only [readShape, next, if_true]
  cases inside with
  | none =>
    obtain rfl : budget = 0 := hin
    exact gives_no_bracket (Nat.succ_pos _) rfl
  | some read =>
    obtain ⟨n, rfl, hread⟩ := hin
    have all := readFields_spelled hread (Format.layout name) 0 each true spaced
    rw [complete] at all
    rw [Scanned.outcome_widen, Scanned.outcome_map]
    exact (all.map Value.record).congr Value.nesting_record_le_iff.symm

theorem readShape_members [LawfulFormat ρ] (hin : ReadsInside inside budget) {name : ρ} {values : List Value}
    {members : List (Member ρ)} {leftOut : List (Field ρ × Value)}
    (keyed : ∀ m ∈ members, m.Keyed (Format.layout name).fields)
    (each : ∀ m ∈ members, ∀ f v, m.entry = some (f, v) → Spells f.shape v m.tokens)
    (optional : ∀ e ∈ leftOut, e.2 = .absent ∧ e.1.isRequired = false)
    (length : values.length = (Format.layout name).fields.length)
    (complete : (members.filterMap Member.entry ++ leftOut).Perm ((Format.layout name).fields.zip values))
    {more : List Token} {text : List UInt8}
    (spaced : Spaced (objectTokens (members.map fun m => memberTokens m.spelled m.tokens) ++ more) text) :
    Gives (readShape inside (.record name) text).outcome ((Value.record values).nesting ≤ budget)
      (.record values) more := by
  simp only [objectTokens, List.cons_append, List.append_assoc, List.nil_append] at spaced
  obtain ⟨start, _, next, spaced⟩ := spaced.next? (by decide)
  have other : openBrace ≠ openBracket := by decide
  simp only [readShape, next, if_neg other, if_true]
  cases inside with
  | none =>
    obtain rfl : budget = 0 := hin
    exact gives_no_bracket (Nat.succ_pos _) rfl
  | some read =>
    obtain ⟨n, rfl, hread⟩ := hin
    have all := readObject_spelled hread keyed each optional length complete spaced
    rw [Scanned.outcome_widen, Scanned.outcome_map]
    exact (all.map Value.record).congr Value.nesting_record_le_iff.symm

end

theorem reads_readShape [Format ρ] [LawfulFormat ρ] {inside : Option (Shape ρ → Reader Value)} {budget : Nat}
    (hin : ReadsInside inside budget) : Reads (readShape inside) budget := by
  intro shape v ts h more text closes spaced
  induction h with
  | text h =>
    obtain ⟨rest, spaced, outcome⟩ := readText_quoted h spaced
    refine .of_ok spaced ?_ (Nat.zero_le budget)
    rw [readShape, Scanned.outcome_map, outcome]
    rfl
  | flag b =>
    obtain ⟨rest, spaced, outcome⟩ := readFlag_word b spaced
    exact .of_ok spaced outcome (Nat.zero_le budget)
  | code title c =>
    obtain ⟨rest, spaced, outcome⟩ := readBounded_numberBytes .code c.toNat_lt (by decide) closes spaced
    refine .of_ok spaced ?_ (Nat.zero_le budget)
    have bound : UInt16.size = 2 ^ 16 := rfl
    rw [readShape, Scanned.outcome_map, bound, outcome]
    simp [Except.map]
  | count n =>
    obtain ⟨rest, spaced, outcome⟩ := readBounded_numberBytes .count n.toNat_lt (by decide) closes spaced
    refine .of_ok spaced ?_ (Nat.zero_le budget)
    have bound : UInt32.size = 2 ^ 32 := rfl
    rw [readShape, Scanned.outcome_map, bound, outcome]
    simp [Except.map]
  | @choice variants name index t found h =>
    obtain ⟨content, hc, rfl⟩ := h
    obtain ⟨rest, _, next, spaced⟩ := spaced.next?_quote
    obtain ⟨_, nameRead⟩ := Scanned.outcome_eq_ok_iff.mp (text_spelled hc rest)
    have variant : variantIndex variants name = .ok index := by rw [variantIndex, found]
    refine .of_ok spaced ?_ (Nat.zero_le budget)
    simp only [readShape, next, if_true, nameRead, variant]
    rfl
  | absent shape =>
    have spaced : Spaced ((letterN :: word "ull") :: more) text := spaced
    obtain ⟨rest, _, next, spaced⟩ := spaced.next? (by decide)
    refine .of_ok spaced ?_ (Nat.zero_le budget)
    simp only [readShape, next, if_true]
    exact outcome_afterWord _ rfl
  | @present shape v ts h there ih =>
    -- a value that is there does not begin like the word for an absent one
    obtain ⟨b, t, others, rfl, blank, -, other⟩ := h.begins
    have same := ih spaced
    obtain ⟨rest, _, next, -⟩ := spaced.next? blank
    simpa only [readShape, next, if_neg (other there)] using same
  | list items each => exact readShape_list hin each spaced
  | fields entries complete each => exact readShape_fields hin complete each spaced
  | members members leftOut keyed each optional length complete =>
    exact readShape_members hin keyed each optional length complete spaced

theorem reads_readWithin [Format ρ] [LawfulFormat ρ] (budget : Nat) :
    Reads (readWithin budget : Shape ρ → Reader Value) budget := by
  induction budget with
  | zero =>
    have inside : ReadsInside (none : Option (Shape ρ → Reader Value)) 0 := rfl
    exact reads_readShape inside
  | succ budget ih =>
    have inside : ReadsInside (some (readWithin budget : Shape ρ → Reader Value)) (budget + 1) := ⟨budget, rfl, ih⟩
    exact reads_readShape inside

/-- The text spells the value, with any white space between the tokens. -/
def Spelling [Format ρ] (shape : Shape ρ) (v : Value) (text : List UInt8) : Prop :=
  ∃ ts, Spells shape v ts ∧ Spaced ts text

/-- Every spelling of a value is read as the value if that nests within the limit. -/
theorem readAll_spelling [Format ρ] [LawfulFormat ρ] {shape : Shape ρ} {v : Value} {text : List UInt8}
    (h : Spelling shape v text) :
    readAll shape text = if v.nesting ≤ nestingLimit then .ok v else .error .recursionLimit := by
  obtain ⟨ts, spells, spaced⟩ := h
  rw [← List.append_nil ts] at spaced
  have all := reads_readWithin nestingLimit _ _ _ spells _ _ closes_nil spaced
  unfold readAll
  by_cases hn : v.nesting ≤ nestingLimit
  · obtain ⟨rest, spaced, outcome⟩ := all.ok hn
    obtain ⟨_, read⟩ := Scanned.outcome_eq_ok_iff.mp outcome
    rw [if_pos hn, read]
    simp only [spaced.next?_nil]
  · rw [if_neg hn, Scanned.outcome_eq_error_iff.mp (all.limit hn)]

end ProgramInterchange.Wire
