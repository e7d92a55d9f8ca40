import ProgramInterchange.Proofs.Scan.Skipped
import ProgramInterchange.Proofs.Wire.Conforms
import ProgramInterchange.Wire.Reader

/-!
# Spellings of a value

A record may be spelled as a list of its fields, or as an object with its members in any order, among members that
are unknown and without those that are absent. The reader gives the same value for every spelling if there are
brackets enough to be open at once, and otherwise stops at a bracket too many.
-/

namespace ProgramInterchange.Wire

open ProgramInterchange.Byte ProgramInterchange.Scan
open ProgramInterchange.Json (numberBytes)

variable {ρ : Type}

/-- A member of an object: its key and how that is spelled, the tokens of its value, and the field and the value that
they stand for if the record has one of that key. -/
structure Member (ρ : Type) where
  key : String
  spelled : Token
  entry : Option (Field ρ × Value)
  tokens : List Token

/-- The member stands for a field of the record under its key, or it is unknown and any value. -/
def Member.Keyed (fields : List (Field ρ)) (m : Member ρ) : Prop :=
  Quoted m.key m.spelled ∧
    match m.entry with
    | some (f, _) => f.key = m.key
    | none => m.key ∉ fields.map Field.key ∧ IsValue m.tokens

inductive Spells [Format ρ] : Shape ρ → Value → List Token → Prop
  | text {s : String} {t : Token} (h : Quoted s t) : Spells .text (.text s) [t]
  | flag (b : Bool) : Spells .flag (.flag b) [word (if b then "true" else "false")]
  | code (title : String) (c : UInt16) : Spells (.code title) (.code c) [numberBytes c.toNat]
  | count (n : UInt32) : Spells .count (.count n) [numberBytes n.toNat]
  | choice {variants : List String} {name : String} {index : Nat} {t : Token}
    (found : variants.idxOf? name = some index) (h : Quoted name t) :
    Spells (.choice variants) (.choice index) [t]
  | absent (shape : Shape ρ) : Spells (.nullable shape) .absent [word "null"]
  | present {shape : Shape ρ} {v : Value} {ts : List Token} (h : Spells shape v ts) (there : v ≠ .absent) :
    Spells (.nullable shape) v ts
  | list {item : Shape ρ} (items : List (Value × List Token)) (each : ∀ i ∈ items, Spells item i.1 i.2) :
    Spells (.list item) (.list (items.map Prod.fst)) (arrayTokens (items.map Prod.snd))
  | fields {name : ρ} (entries : List (Field ρ × Value × List Token))
    (complete : entries.map Prod.fst = (Format.layout name).fields)
    (each : ∀ e ∈ entries, Spells e.1.shape e.2.1 e.2.2) :
    Spells (.record name) (.record (entries.map fun e => e.2.1)) (arrayTokens (entries.map fun e => e.2.2))
  | members {name : ρ} {values : List Value} (members : List (Member ρ)) (leftOut : List (Field ρ × Value))
    (keyed : ∀ m ∈ members, m.Keyed (Format.layout name).fields)
    (each : ∀ m ∈ members, ∀ f v, m.entry = some (f, v) → Spells f.shape v m.tokens)
    (optional : ∀ e ∈ leftOut, e.2 = .absent ∧ e.1.isRequired = false)
    (length : values.length = (Format.layout name).fields.length)
    (complete : (members.filterMap Member.entry ++ leftOut).Perm ((Format.layout name).fields.zip values)) :
    Spells (.record name) (.record values)
      (objectTokens (members.map fun m => memberTokens m.spelled m.tokens))

/-- A value begins with a byte that closes no list, and with the one of `null` only if it is absent. -/
theorem Spells.begins [Format ρ] {shape : Shape ρ} {v : Value} {ts : List Token} (h : Spells shape v ts) :
    Begins ts fun b => b ≠ closeBracket ∧ (v ≠ .absent → b ≠ letterN) := by
  induction h with
  | text h =>
    obtain ⟨content, -, rfl⟩ := h
    exact ⟨quote, content ++ [quote], [], rfl, by decide, by decide, fun _ => by decide⟩
  | flag b =>
    cases b with
    | false => exact ⟨letterF, word "alse", [], rfl, by decide, by decide, fun _ => by decide⟩
    | true => exact ⟨letterT, word "rue", [], rfl, by decide, by decide, fun _ => by decide⟩
  | code title c =>
    obtain ⟨d, tail, hd, bytes⟩ := numberBytes_eq_cons c.toNat
    obtain ⟨blank, close, null, -⟩ := digitByte_first hd
    exact ⟨digitByte d, tail, [], by rw [bytes], blank, close, fun _ => null⟩
  | count n =>
    obtain ⟨d, tail, hd, bytes⟩ := numberBytes_eq_cons n.toNat
    obtain ⟨blank, close, null, -⟩ := digitByte_first hd
    exact ⟨digitByte d, tail, [], by rw [bytes], blank, close, fun _ => null⟩
  | choice found h =>
    obtain ⟨content, -, rfl⟩ := h
    exact ⟨quote, content ++ [quote], [], rfl, by decide, by decide, fun _ => by decide⟩
  | absent shape => exact ⟨letterN, word "ull", [], rfl, by decide, by decide, fun there => absurd rfl there⟩
  | present h there ih => exact ih
  | list items each => exact ⟨openBracket, [], _, rfl, by decide, by decide, fun _ => by decide⟩
  | fields entries complete each => exact ⟨openBracket, [], _, rfl, by decide, by decide, fun _ => by decide⟩
  | members => exact ⟨openBrace, [], _, rfl, by decide, by decide, fun _ => by decide⟩

/-! ### Scalars -/

theorem readText_quoted {s : String} {t : Token} (h : Quoted s t) {more : List Token} {text : List UInt8}
    (spaced : Spaced (t :: more) text) : ∃ rest, Spaced more rest ∧ (readText text).outcome = .ok (s, rest) := by
  obtain ⟨content, hc, rfl⟩ := h
  obtain ⟨rest, _, first, spaced⟩ := spaced.next?_quote
  refine ⟨rest, spaced, ?_⟩
  simp only [readText, first, if_true, Scanned.outcome_widen, text_spelled hc]

theorem outcome_afterWord {input letters rest : List UInt8} (value : Value) {r : Rest input}
    (h : r.val = letters ++ rest) : (afterWord value letters r).outcome = .ok (value, rest) := by
  obtain ⟨left, hl⟩ := r
  obtain rfl : left = letters ++ rest := h
  simp only [afterWord, dropWord_append]
  rfl

theorem readFlag_word (b : Bool) {more : List Token} {text : List UInt8}
    (spaced : Spaced (word (if b then "true" else "false") :: more) text) :
    ∃ rest, Spaced more rest ∧ (readFlag text).outcome = .ok (.flag b, rest) := by
  cases b with
  | false =>
    have spaced : Spaced ((letterF :: word "alse") :: more) text := spaced
    obtain ⟨rest, _, first, spaced⟩ := spaced.next? (by decide)
    have other : letterF ≠ letterT := by decide
    refine ⟨rest, spaced, ?_⟩
    simp only [readFlag, first, if_neg other, if_true]
    exact outcome_afterWord _ rfl
  | true =>
    have spaced : Spaced ((letterT :: word "rue") :: more) text := spaced
    obtain ⟨rest, _, first, spaced⟩ := spaced.next? (by decide)
    refine ⟨rest, spaced, ?_⟩
    simp only [readFlag, first, if_true]
    exact outcome_afterWord _ rfl

theorem readBounded_numberBytes (expected : Expected) {bound n : Nat} (hn : n < bound) (hb : bound ≤ UInt64.size)
    {more : List Token} {text : List UInt8} (closes : Closes more) (spaced : Spaced (numberBytes n :: more) text) :
    ∃ rest, Spaced more rest ∧ (readBounded expected bound text).outcome = .ok (n, rest) := by
  obtain ⟨d, tail, hd, bytes⟩ := numberBytes_eq_cons n
  rw [bytes] at spaced
  obtain ⟨blank, -, -, sign⟩ := digitByte_first hd
  obtain ⟨rest, _, first, spaced⟩ := spaced.next? blank
  have all := number_numberBytes (Nat.lt_of_lt_of_le hn hb) (spaced.endsNumber closes)
  rw [bytes, List.cons_append] at all
  obtain ⟨_, number⟩ := Scanned.outcome_eq_ok_iff.mp all
  have bounded : boundedNumber expected bound (.integer n) = .ok n := by
    have range : (0 : Int) ≤ n ∧ (n : Int) < bound := by omega
    simp only [boundedNumber, if_pos range, Int.toNat_natCast]
  refine ⟨rest, spaced, ?_⟩
  simp only [readBounded, first, if_neg sign, isDigit_digitByte hd, if_true, number, bounded]
  rfl

/-! ### Lists -/

/-- The reader gives the value of every spelling if it nests within the budget. -/
def Reads [Format ρ] (read : Shape ρ → Reader Value) (budget : Nat) : Prop :=
  ∀ shape v ts, Spells shape v ts → ∀ more text, Closes more → Spaced (ts ++ more) text →
    Gives (read shape text).outcome (v.nesting ≤ budget) v more

theorem nextItem_close (first : Bool) {more : List Token} {text : List UInt8}
    (spaced : Spaced ([closeBracket] :: more) text) :
    ∃ rest shorter, nextItem first text = .ok (.closed ⟨rest, shorter⟩) ∧ Spaced more rest := by
  obtain ⟨rest, shorter, next, spaced⟩ := spaced.next? (by decide)
  refine ⟨rest, shorter, ?_, spaced⟩
  simp only [nextItem, next, if_true]
  rfl

theorem nextItem_item (first : Bool) {ts more : List Token} {text : List UInt8} {kind : UInt8 → Prop}
    (begins : Begins ts fun b => b ≠ closeBracket ∧ kind b)
    (spaced : Spaced ((if first then [] else [[comma]]) ++ (ts ++ more)) text) :
    ∃ start shorter, nextItem first text = .ok (.item ⟨start, shorter⟩) ∧ Spaced (ts ++ more) start := by
  obtain ⟨b, t, others, rfl, blank, close, -⟩ := begins
  cases first with
  | true =>
    have here := spaced
    obtain ⟨rest, _, next, -⟩ := spaced.next? blank
    refine ⟨text, Nat.le_refl _, ?_, here⟩
    simp only [nextItem, next, if_neg close, if_true]
  | false =>
    obtain ⟨start, shorter, next, spaced⟩ := spaced.next? (by decide)
    have here := spaced
    obtain ⟨rest, _, next', -⟩ := spaced.next? blank
    have other : comma ≠ closeBracket := by decide
    refine ⟨start, Nat.le_of_lt shorter, ?_, here⟩
    have next : next? text = some (comma, ⟨start, shorter⟩) := next
    simp only [nextItem, next, next', if_neg other, if_neg close, Bool.false_eq_true, if_false, if_true]

theorem readItems_item {α : Type} (item : Reader α) {first : Bool} {input start : List UInt8}
    {h : start.length ≤ input.length} (next : nextItem first input = .ok (.item ⟨start, h⟩)) :
    (readItems item first input).outcome = (item start).outcome.bind fun head =>
      (readItems item false head.2).outcome.map fun tail => (head.1 :: tail.1, tail.2) := by
  rw [readItems, next]
  cases hs : item start with
  | error fault => simp only [hs, Scanned.outcome, Except.bind]
  | ok head =>
    obtain ⟨value, behind, hl⟩ := head
    simp only [hs, Scanned.outcome_widen, Scanned.outcome_map]
    rfl

theorem readItems_spelled [Format ρ] {read : Shape ρ → Reader Value} {budget : Nat} (hread : Reads read budget)
    {item : Shape ρ} {items : List (Value × List Token)} (each : ∀ i ∈ items, Spells item i.1 i.2) (first : Bool)
    {more : List Token} {text : List UInt8}
    (spaced : Spaced (separated first (items.map Prod.snd) ++ [closeBracket] :: more) text) :
    Gives (readItems (read item) first text).outcome (∀ v ∈ items.map Prod.fst, v.nesting ≤ budget)
      (items.map Prod.fst) more := by
  induction items generalizing first text with
  | nil =>
    obtain ⟨rest, _, next, spaced⟩ := nextItem_close first spaced
    refine .of_ok spaced ?_ nofun
    rw [readItems, next]
    rfl
  | cons i items ih =>
    obtain ⟨hi, hitems⟩ := List.forall_mem_cons.mp each
    simp only [List.map_cons, separated, List.append_assoc] at spaced
    obtain ⟨start, _, next, spaced⟩ := nextItem_item first hi.begins spaced
    have head := hread _ _ _ hi _ _ (closes_separated (.inl rfl) _ _) spaced
    rw [readItems_item _ next]
    refine (head.bind fun rest spaced => (ih hitems false spaced).map (i.1 :: ·)).congr ?_
    rw [List.map_cons, List.forall_mem_cons]

/-! ### Records as lists -/

theorem readFields_item (read : Shape ρ → Reader Value) (layout : Layout ρ) (index : Nat) (f : Field ρ)
    (fields : List (Field ρ)) {first : Bool} {input start : List UInt8} {h : start.length ≤ input.length}
    (next : nextItem first input = .ok (.item ⟨start, h⟩)) :
    (readFields read layout index (f :: fields) first input).outcome = (read f.shape start).outcome.bind fun head =>
      (readFields read layout (index + 1) fields false head.2).outcome.map fun tail =>
        (head.1 :: tail.1, tail.2) := by
  rw [readFields, next]
  cases hs : read f.shape start with
  | error fault => simp only [hs, Scanned.outcome, Except.bind]
  | ok head =>
    obtain ⟨value, behind, hl⟩ := head
    simp only [hs, Scanned.outcome_widen, Scanned.outcome_map]
    rfl

theorem readFields_spelled [Format ρ] {read : Shape ρ → Reader Value} {budget : Nat} (hread : Reads read budget)
    (layout : Layout ρ) (index : Nat) {entries : List (Field ρ × Value × List Token)}
    (each : ∀ e ∈ entries, Spells e.1.shape e.2.1 e.2.2) (first : Bool) {more : List Token} {text : List UInt8}
    (spaced : Spaced (separated first (entries.map fun e => e.2.2) ++ [closeBracket] :: more) text) :
    Gives (readFields read layout index (entries.map Prod.fst) first text).outcome
      (∀ v ∈ entries.map fun e => e.2.1, v.nesting ≤ budget) (entries.map fun e => e.2.1) more := by
  induction entries generalizing index first text with
  | nil =>
    obtain ⟨rest, _, next, spaced⟩ := spaced.next? (by decide)
    refine .of_ok spaced ?_ nofun
    simp only [List.map_nil, readFields, endOfList, next, if_true]
    rfl
  | cons e entries ih =>
    obtain ⟨he, hentries⟩ := List.forall_mem_cons.mp each
    simp only [List.map_cons, separated, List.append_assoc] at spaced
    obtain ⟨start, _, next, spaced⟩ := nextItem_item first he.begins spaced
    have head := hread _ _ _ he _ _ (closes_separated (.inl rfl) _ _) spaced
    rw [List.map_cons, readFields_item read layout index e.1 _ next]
    refine (head.bind fun rest spaced => (ih (index + 1) hentries false spaced).map (e.2.1 :: ·)).congr ?_
    rw [List.map_cons, List.forall_mem_cons]

end ProgramInterchange.Wire
