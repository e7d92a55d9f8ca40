import ProgramInterchange.Proofs.Scan.Number

/-!
# Open brackets

How deep the brackets of a JSON text nest can be counted byte by byte, without a grammar: only what stands in
quotes has to be passed over. The text of a document nests as deep as the document.
-/

namespace ProgramInterchange.Json

open ProgramInterchange.Byte ProgramInterchange.Scan

/-- Where in a text a byte stands. -/
inductive Region where
  | outside
  | quoted
  /-- Behind a backslash between quotes. -/
  | escaped

/-- The most brackets that are open at once in a text before which `opened` ones have been opened. -/
def deepest : Region → Nat → List UInt8 → Nat
  | _, opened, [] => opened
  | .outside, opened, b :: rest =>
    if b = quote then deepest .quoted opened rest
    else if b = openBracket ∨ b = openBrace then deepest .outside (opened + 1) rest
    else if b = closeBracket ∨ b = closeBrace then max opened (deepest .outside (opened - 1) rest)
    else deepest .outside opened rest
  | .quoted, opened, b :: rest =>
    if b = quote then deepest .outside opened rest
    else if b = backslash then deepest .escaped opened rest
    else deepest .quoted opened rest
  | .escaped, opened, _ :: rest => deepest .quoted opened rest

/-- The most brackets and braces of a text that are open at once, those between quotes apart. -/
def bracketNesting (text : List UInt8) : Nat := deepest .outside 0 text

theorem le_deepest (region : Region) (opened : Nat) (text : List UInt8) :
    opened ≤ deepest region opened text := by
  induction text generalizing region opened with
  | nil => cases region <;> exact Nat.le_refl _
  | cons b rest ih =>
    cases region with
    | outside =>
      have deeper := ih .outside (opened + 1)
      simp only [deepest]
      split
      · exact ih .quoted opened
      · split
        · omega
        · split
          · exact Nat.le_max_left _ _
          · exact ih .outside opened
    | quoted =>
      simp only [deepest]
      split
      · exact ih .outside opened
      · split
        · exact ih .escaped opened
        · exact ih .quoted opened
    | escaped => exact ih .quoted opened

/-! ### Words and numbers -/

/-- The byte is no quote and no bracket. -/
def IsPlain (b : UInt8) : Prop :=
  b ≠ quote ∧ b ≠ openBracket ∧ b ≠ openBrace ∧ b ≠ closeBracket ∧ b ≠ closeBrace

instance (b : UInt8) : Decidable (IsPlain b) := inferInstanceAs (Decidable (_ ∧ _))

theorem forall_isPlain {bytes : List UInt8} (h : (bytes.all fun b => decide (IsPlain b)) = true) :
    ∀ b ∈ bytes, IsPlain b := by
  intro b hb
  exact of_decide_eq_true (List.all_eq_true.mp h b hb)

theorem deepest_plain {bytes : List UInt8} (h : ∀ b ∈ bytes, IsPlain b) (opened : Nat) (rest : List UInt8) :
    deepest .outside opened (bytes ++ rest) = deepest .outside opened rest := by
  induction bytes with
  | nil => rfl
  | cons b bytes ih =>
    obtain ⟨⟨hq, ho, hb, hc, he⟩, others⟩ := List.forall_mem_cons.mp h
    rw [List.cons_append, deepest, if_neg hq, if_neg (by simp [ho, hb]), if_neg (by simp [hc, he]), ih others]

theorem isPlain_of_mem_numberBytes {n : Nat} {b : UInt8} (h : b ∈ numberBytes n) : IsPlain b := by
  have all : ∀ d, d < 10 → IsPlain (digitByte d) := by decide
  rw [numberBytes_eq_map] at h
  obtain ⟨d, hd, rfl⟩ := List.mem_map.mp h
  exact all d (lt_of_mem_decimal hd)

/-! ### Texts in quotes -/

theorem deepest_escape (opened : Nat) (b : UInt8) (rest : List UInt8) :
    deepest .quoted opened (backslash :: b :: rest) = deepest .quoted opened rest := by
  rw [deepest, if_neg (by decide), if_pos rfl, deepest]

theorem deepest_quoted {b : UInt8} (hq : b ≠ quote) (hs : b ≠ backslash) (opened : Nat) (rest : List UInt8) :
    deepest .quoted opened (b :: rest) = deepest .quoted opened rest := by
  rw [deepest, if_neg hq, if_neg hs]

theorem deepest_hexDigit {n : Nat} (h : n < 16) (opened : Nat) (rest : List UInt8) :
    deepest .quoted opened (hexDigit n :: rest) = deepest .quoted opened rest := by
  have all : ∀ n, n < 16 → hexDigit n ≠ quote ∧ hexDigit n ≠ backslash := by decide
  exact deepest_quoted (all n h).1 (all n h).2 opened rest

theorem deepest_escapedByte (opened : Nat) (b : UInt8) (rest : List UInt8) :
    deepest .quoted opened (escapedByte b ++ rest) = deepest .quoted opened rest := by
  unfold escapedByte
  -- all but the last two forms are a backslash and one byte
  split
  · exact deepest_escape opened _ rest
  split
  · exact deepest_escape opened _ rest
  iterate 5
    split
    · exact deepest_escape opened _ rest
  split
  · have small : b.toNat < 32 := ‹b < 32›
    simp only [List.cons_append, List.nil_append]
    rw [deepest_escape, deepest_quoted (by decide) (by decide), deepest_quoted (by decide) (by decide),
      deepest_hexDigit (by omega), deepest_hexDigit (by omega)]
  · exact deepest_quoted ‹¬b = quote› ‹¬b = backslash› opened rest

theorem deepest_textBytes (opened : Nat) (s : String) (rest : List UInt8) :
    deepest .outside opened (textBytes s ++ rest) = deepest .outside opened rest := by
  have content (bytes : List UInt8) :
      deepest .quoted opened (bytes.flatMap escapedByte ++ quote :: rest) = deepest .outside opened rest := by
    induction bytes with
    | nil => rw [List.flatMap_nil, List.nil_append, deepest, if_pos rfl]
    | cons b bytes ih => rw [List.flatMap_cons, List.append_assoc, deepest_escapedByte, ih]
  have whole : textBytes s ++ rest = quote :: ((Text.utf8 s).flatMap escapedByte ++ quote :: rest) := by
    simp [textBytes, escapedText]
  rw [whole, deepest, if_pos rfl, content]

/-! ### Documents -/

/-- What holds of every scalar, and of an array or object whenever it holds of the documents in it, holds of
every document. -/
theorem induction {motive : Json → Prop} (null : motive null) (boolean : ∀ value, motive (boolean value))
    (number : ∀ value, motive (number value)) (text : ∀ value, motive (text value))
    (array : ∀ items, (∀ d ∈ items, motive d) → motive (array items))
    (object : ∀ members : List (String × Json), (∀ entry ∈ members, motive entry.2) → motive (object members))
    (d : Json) : motive d := by
  refine Json.rec (motive_1 := motive) (motive_2 := fun items => ∀ d ∈ items, motive d)
    (motive_3 := fun members => ∀ entry ∈ members, motive entry.2) (motive_4 := fun entry => motive entry.2)
    null boolean number text array object ?_ ?_ ?_ ?_ ?_ d
  · exact fun d hd => absurd hd List.not_mem_nil
  · exact fun d items hd hs => List.forall_mem_cons.mpr ⟨hd, hs⟩
  · exact fun entry he => absurd he List.not_mem_nil
  · exact fun entry members he hs => List.forall_mem_cons.mpr ⟨he, hs⟩
  · exact fun key value hv => hv

/-- The text of the document nests as deep as the document, from wherever it stands. -/
def Counted (d : Json) : Prop := ∀ opened rest,
  deepest .outside opened (d.render ++ rest) = max (opened + d.nesting) (deepest .outside opened rest)

theorem counted_of_plain {d : Json} (plain : ∀ b ∈ d.render, IsPlain b) (flat : d.nesting = 0) : Counted d := by
  intro opened rest
  have there := le_deepest .outside opened rest
  rw [deepest_plain plain, flat]
  omega

theorem deepest_separator (opened : Nat) (first : Bool) (rest : List UInt8) :
    deepest .outside opened ((if first then [] else [comma]) ++ rest) = deepest .outside opened rest := by
  cases first with
  | true => rfl
  | false => exact deepest_plain (forall_isPlain (by decide)) opened rest

theorem deepest_renderItems {items : List Json} (each : ∀ d ∈ items, Counted d) (first : Bool) (opened : Nat)
    (rest : List UInt8) : deepest .outside opened (renderItems first items ++ rest) =
      max (opened + nestingItems items) (deepest .outside opened rest) := by
  have there := le_deepest .outside opened rest
  induction items generalizing first with
  | nil =>
    rw [renderItems, nestingItems, List.nil_append]
    omega
  | cons d items ih =>
    obtain ⟨head, tail⟩ := List.forall_mem_cons.mp each
    rw [renderItems, nestingItems, List.append_assoc, List.append_assoc, deepest_separator,
      head opened, ih tail]
    omega

theorem deepest_renderMembers {members : List (String × Json)} (each : ∀ entry ∈ members, Counted entry.2)
    (first : Bool) (opened : Nat) (rest : List UInt8) :
    deepest .outside opened (renderMembers first members ++ rest) =
      max (opened + nestingMembers members) (deepest .outside opened rest) := by
  have there := le_deepest .outside opened rest
  induction members generalizing first with
  | nil =>
    rw [renderMembers, nestingMembers, List.nil_append]
    omega
  | cons entry members ih =>
    obtain ⟨key, d⟩ := entry
    obtain ⟨head, tail⟩ := List.forall_mem_cons.mp each
    have member (after : List UInt8) : deepest .outside opened (renderMember (key, d) ++ after) =
        max (opened + d.nesting) (deepest .outside opened after) := by
      have value := head opened after
      have plain : ∀ b ∈ [colon], IsPlain b := forall_isPlain (by decide)
      rw [renderMember, List.append_assoc, deepest_textBytes]
      exact (deepest_plain plain opened _).trans value
    rw [renderMembers, nestingMembers, nestingMember, List.append_assoc, List.append_assoc, deepest_separator,
      member, ih tail]
    omega

/-- An opening bracket, what is inside, and a closing bracket. -/
theorem deepest_enclosed {b c : UInt8} (hb : b = openBracket ∨ b = openBrace)
    (hc : c = closeBracket ∨ c = closeBrace) {inner : List UInt8} {depth : Nat}
    (inside : ∀ opened rest,
      deepest .outside opened (inner ++ rest) = max (opened + depth) (deepest .outside opened rest))
    (opened : Nat) (rest : List UInt8) :
    deepest .outside opened (b :: inner ++ [c] ++ rest) =
      max (opened + (depth + 1)) (deepest .outside opened rest) := by
  have opening : b ≠ quote := by rcases hb with rfl | rfl <;> decide
  have closing : c ≠ quote ∧ ¬(c = openBracket ∨ c = openBrace) := by rcases hc with rfl | rfl <;> decide
  have last : deepest .outside (opened + 1) (c :: rest) = max (opened + 1) (deepest .outside opened rest) := by
    rw [deepest, if_neg closing.1, if_neg closing.2, if_pos hc, Nat.add_sub_cancel]
  rw [List.cons_append, List.cons_append, deepest, if_neg opening, if_pos hb, List.append_assoc, inside,
    List.singleton_append, last]
  omega

theorem counted (d : Json) : Counted d := by
  induction d using Json.induction with
  | null => exact counted_of_plain (forall_isPlain (by decide)) rfl
  | boolean value => cases value <;> exact counted_of_plain (forall_isPlain (by decide)) rfl
  | number value =>
    have plain : ∀ b ∈ (number value).render, IsPlain b := by
      intro b hb
      rw [render] at hb
      exact isPlain_of_mem_numberBytes hb
    exact counted_of_plain plain rfl
  | text value =>
    intro opened rest
    have there := le_deepest .outside opened rest
    have flat : (Json.text value).nesting = 0 := rfl
    rw [render, flat, deepest_textBytes]
    omega
  | array items each =>
    intro opened rest
    rw [render, nesting]
    exact deepest_enclosed (.inl rfl) (.inl rfl) (deepest_renderItems each true) opened rest
  | object members each =>
    intro opened rest
    rw [render, nesting]
    exact deepest_enclosed (.inr rfl) (.inr rfl) (deepest_renderMembers each true) opened rest

/-- The brackets of the text of a document nest as deep as the document. -/
theorem bracketNesting_render (d : Json) : bracketNesting d.render = d.nesting := by
  have whole := counted d 0 []
  rw [List.append_nil, deepest, Nat.zero_add, Nat.max_zero] at whole
  exact whole

end ProgramInterchange.Json
