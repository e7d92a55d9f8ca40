import ProgramInterchange.Proofs.Scan.Number
import ProgramInterchange.Proofs.Scan.Text
import ProgramInterchange.Scan.Skip

/-!
# Values that are passed over

Any JSON value is passed over, however deep it nests, and whether or not its texts and numbers could be read.
-/

namespace ProgramInterchange.Scan

open ProgramInterchange.Byte

/-! ### JSON values -/

/-- What may stand between the quotes of a text. Surrogates need not be paired. -/
inductive IsContent : List UInt8 → Prop
  | nil : IsContent []
  | plain {b : UInt8} {content : List UInt8} (hq : b ≠ quote) (hs : b ≠ backslash) (hc : ¬b < 32)
    (more : IsContent content) : IsContent (b :: content)
  | letter {letter : UInt8} {content : List UInt8} (h : (escapeOf? letter).isSome = true)
    (more : IsContent content) : IsContent (backslash :: letter :: content)
  | number {n : Nat} {digits content : List UInt8} (h : HexSpelled n digits) (more : IsContent content) :
    IsContent (backslash :: letterU :: (digits ++ content))

def IsText (t : Token) : Prop := ∃ content, IsContent content ∧ t = quote :: (content ++ [quote])

inductive IsScalar : Token → Prop
  | null : IsScalar (word "null")
  | boolean (b : Bool) : IsScalar (word (if b then "true" else "false"))
  | number {t : Token} (h : IsNumber t) : IsScalar t
  | text {t : Token} (h : IsText t) : IsScalar t

inductive IsValue : List Token → Prop
  | scalar {t : Token} (h : IsScalar t) : IsValue [t]
  | array {items : List (List Token)} (each : ∀ ts ∈ items, IsValue ts) : IsValue (arrayTokens items)
  | object {members : List (Token × List Token)} (keys : ∀ m ∈ members, IsText m.1)
    (each : ∀ m ∈ members, IsValue m.2) : IsValue (objectTokens (members.map fun m => memberTokens m.1 m.2))

/-! ### Tokens that are passed over -/

theorem skipText_content {content : List UInt8} (h : IsContent content) (rest : List UInt8) :
    ∃ shorter, skipText (content ++ quote :: rest) = .ok ⟨rest, shorter⟩ := by
  induction h with
  | nil =>
    refine ⟨Nat.lt_succ_self _, ?_⟩
    show skipText (quote :: rest) = _
    rw [skipText.eq_def]
    rfl
  | @plain b content hq hs hc more ih =>
    obtain ⟨shorter, behind⟩ := ih
    refine ⟨Nat.lt_succ_of_lt shorter, ?_⟩
    show skipText (b :: (content ++ quote :: rest)) = _
    rw [skipText.eq_def]
    simp only [if_neg hq, if_neg hs, if_neg hc, behind]
  | @letter letter content h more ih =>
    obtain ⟨shorter, behind⟩ := ih
    refine ⟨Nat.lt_succ_of_lt (Nat.lt_succ_of_lt shorter), ?_⟩
    show skipText (backslash :: letter :: (content ++ quote :: rest)) = _
    have other : backslash ≠ quote := by decide
    rw [skipText.eq_def]
    simp only [if_neg other, if_true, if_pos h, behind]
  | @number n digits content h more ih =>
    obtain ⟨shorter, behind⟩ := ih
    obtain ⟨longer, hex⟩ := Scanned.outcome_eq_ok_iff.mp (fourHex_spelled h (content ++ quote :: rest))
    have input : backslash :: letterU :: (digits ++ content) ++ quote :: rest =
        backslash :: letterU :: (digits ++ (content ++ quote :: rest)) := by simp
    rw [input]
    refine ⟨by simp only [List.length_cons]; omega, ?_⟩
    have other : backslash ≠ quote := by decide
    have number : ¬(escapeOf? letterU).isSome = true := by decide
    rw [skipText.eq_def]
    simp only [if_neg other, if_true, if_neg number, hex, behind]

theorem skipNumber_spelled {t : NumberText} {bytes rest : List UInt8} (h : NumberSpelled t bytes)
    (hr : EndsNumber rest) : ∃ shorter, skipNumber (bytes ++ rest) = .ok ⟨rest, shorter⟩ := by
  obtain ⟨shorter, text⟩ := Scanned.outcome_eq_ok_iff.mp (numberText_spelled h hr)
  exact ⟨shorter, by rw [skipNumber, text]⟩

theorem NumberSpelled.eq_cons {t : NumberText} {bytes : List UInt8} (h : NumberSpelled t bytes) :
    ∃ d tail, d < 10 ∧ bytes = digitByte d :: tail := by
  cases h with
  | mk hw hf he =>
    obtain ⟨d, ds, rfl⟩ := List.exists_cons_of_ne_nil hw.1.1
    exact ⟨d, _, hw.1.2 d (List.mem_cons_self ..), rfl⟩

/-- A value of one token is passed over; its first byte is neither a bracket nor white space. -/
theorem skipScalar_scalar {t : Token} (h : IsScalar t) :
    ∃ b tail, t = b :: tail ∧ (isBlank b = false ∧ b ≠ openBracket ∧ b ≠ openBrace ∧ b ≠ closeBracket) ∧
      ∀ rest, EndsNumber rest → ∃ shorter, skipScalar b (tail ++ rest) = .ok ⟨rest, shorter⟩ := by
  cases h with
  | null => exact ⟨letterN, word "ull", by decide, by decide, fun rest _ => ⟨_, dropWord_append _ rest⟩⟩
  | boolean b =>
    cases b with
    | false => exact ⟨letterF, word "alse", by decide, by decide, fun rest _ => ⟨_, dropWord_append _ rest⟩⟩
    | true => exact ⟨letterT, word "rue", by decide, by decide, fun rest _ => ⟨_, dropWord_append _ rest⟩⟩
  | text h =>
    obtain ⟨content, hc, rfl⟩ := h
    refine ⟨quote, content ++ [quote], rfl, by decide, fun rest _ => ?_⟩
    obtain ⟨shorter, skipped⟩ := skipText_content hc rest
    rw [List.append_assoc]
    refine ⟨Nat.le_of_lt shorter, ?_⟩
    show (skipText (content ++ quote :: rest)).map Rest.tail = _
    rw [skipped]
    rfl
  | number h =>
    obtain ⟨text, bytes, hb, rfl | rfl⟩ := h
    · obtain ⟨d, tail, hd, rfl⟩ := hb.eq_cons
      have first : ∀ d, d < 10 → (isBlank (digitByte d) = false ∧ digitByte d ≠ openBracket ∧
          digitByte d ≠ openBrace ∧ digitByte d ≠ closeBracket) ∧ digitByte d ≠ letterN ∧
          digitByte d ≠ letterT ∧ digitByte d ≠ letterF ∧ digitByte d ≠ minus ∧ digitByte d ≠ quote := by
        decide
      obtain ⟨plain, hn, ht, hf, hm, hq⟩ := first d hd
      refine ⟨digitByte d, tail, rfl, plain, fun rest hr => ?_⟩
      obtain ⟨shorter, skipped⟩ := skipNumber_spelled hb hr
      refine ⟨Nat.le_of_lt_succ shorter, ?_⟩
      rw [skipScalar, if_neg hn, if_neg ht, if_neg hf, if_neg hm, if_neg hq, if_pos (isDigit_digitByte hd)]
      show (skipNumber (digitByte d :: tail ++ rest)).map Rest.afterFirst = _
      rw [skipped]
      rfl
    · refine ⟨minus, bytes, rfl, by decide, fun rest hr => ?_⟩
      obtain ⟨shorter, skipped⟩ := skipNumber_spelled hb hr
      refine ⟨Nat.le_of_lt shorter, ?_⟩
      show (skipNumber (bytes ++ rest)).map Rest.tail = _
      rw [skipped]
      rfl

theorem skipKey_text {key : Token} (h : IsText key) {more : List Token} {text : List UInt8}
    (spaced : Spaced (key :: [colon] :: more) text) :
    ∃ rest shorter, skipKey text = .ok ⟨rest, shorter⟩ ∧ Spaced more rest := by
  obtain ⟨content, hc, rfl⟩ := h
  obtain ⟨behind, h, first, spaced⟩ := spaced.next?_quote
  obtain ⟨rest, h', second, spaced⟩ := spaced.next? (by decide)
  obtain ⟨h'', skipped⟩ := skipText_content hc behind
  simp only [skipKey, first, if_true, skipped, second]
  exact ⟨rest, Nat.lt_trans h' (Nat.lt_trans h'' h), rfl, spaced⟩

/-! ### Values that are passed over -/

def passed {input : List UInt8} (scan : Except WireFault (Tail input)) : Except WireFault (List UInt8) :=
  scan.map Subtype.val

theorem passed_within {input : List UInt8} (t : Tail input) (scan : Except WireFault (Tail t.val)) :
    passed (scan.map t.within) = passed scan := by
  cases scan <;> rfl

/-- With `pending` before these tokens, the scan gets to what follows a value behind them. -/
def Passes (pending : Pending) (frames : List Frame) (ts : List Token) (frames' : List Frame) : Prop :=
  ∀ more text, Closes more → Spaced (ts ++ more) text → ∃ rest, Spaced more rest ∧
    passed (skipPending pending frames text) = passed (skipPending (.separator true) frames' rest)

theorem passes_scalar {t : Token} (h : IsScalar t) (frames : List Frame) : Passes .value frames [t] frames := by
  intro more text closes spaced
  obtain ⟨b, tail, rfl, ⟨blank, bracket, brace, -⟩, skips⟩ := skipScalar_scalar h
  obtain ⟨rest, _, first, spaced⟩ := spaced.next? blank
  obtain ⟨_, skipped⟩ := skips rest (spaced.endsNumber closes)
  refine ⟨rest, spaced, ?_⟩
  rw [skipPending, first]
  simp only [if_neg bracket, if_neg brace, skipped, passed_within]

theorem passes_open {b : UInt8} {frame : Frame} (hb : b = openBracket ∧ frame = .list ∨ b = openBrace ∧ frame = .object)
    {frames : List Frame} {ts : List Token} (inside : Passes (.separator false) (frame :: frames) ts frames) :
    Passes .value frames ([b] :: ts) frames := by
  intro more text closes spaced
  have blank : isBlank b = false := by rcases hb with ⟨rfl, -⟩ | ⟨rfl, -⟩ <;> decide
  obtain ⟨rest, _, first, spaced⟩ := spaced.next? blank
  obtain ⟨left, leftSpaced, scan⟩ := inside more rest closes spaced
  refine ⟨left, leftSpaced, scan ▸ ?_⟩
  have other : openBrace ≠ openBracket := by decide
  rw [skipPending, first]
  rcases hb with ⟨rfl, rfl⟩ | ⟨rfl, rfl⟩
  · simp only [if_true, passed_within]
    rfl
  · simp only [if_neg other, if_true, passed_within]
    rfl

theorem passes_item {frames : List Frame} {ts : List Token} (h : Passes .value (.list :: frames) ts (.list :: frames)) :
    Passes .member (.list :: frames) ts (.list :: frames) := by
  intro more text closes spaced
  obtain ⟨left, leftSpaced, scan⟩ := h more text closes spaced
  refine ⟨left, leftSpaced, Eq.trans ?_ scan⟩
  conv => lhs; rw [skipPending.eq_def]

theorem passes_member {key : Token} (hk : IsText key) {frames : List Frame} {ts : List Token}
    (h : Passes .value (.object :: frames) ts (.object :: frames)) :
    Passes .member (.object :: frames) (memberTokens key ts) (.object :: frames) := by
  intro more text closes spaced
  obtain ⟨rest, _, skipped, spaced⟩ := skipKey_text hk spaced
  obtain ⟨left, leftSpaced, scan⟩ := h more rest closes spaced
  refine ⟨left, leftSpaced, Eq.trans ?_ scan⟩
  conv => lhs; rw [skipPending]
  simp only [skipped, passed_within]

theorem Frame.isBlank_close (frame : Frame) : isBlank frame.close = false ∧ frame.close ≠ comma := by
  cases frame <;> decide

theorem Passes.append {pending : Pending} {frames frames' frames'' : List Frame} {ts ts' : List Token}
    (h : Passes pending frames ts frames') (h' : Passes (.separator true) frames' ts' frames'')
    (closes : ∀ more, Closes (ts' ++ more)) : Passes pending frames (ts ++ ts') frames'' := by
  intro more text moreCloses spaced
  rw [List.append_assoc] at spaced
  obtain ⟨rest, spaced, scan⟩ := h (ts' ++ more) text (closes more) spaced
  obtain ⟨left, leftSpaced, scans⟩ := h' more rest moreCloses spaced
  exact ⟨left, leftSpaced, scan.trans scans⟩

/-- The first part may stand where the bracket might close, each other one behind a comma. -/
theorem passes_part (first : Bool) {frame : Frame} {frames : List Frame} {part : List Token}
    (begins : Begins part (· ≠ frame.close)) (passes : Passes .member (frame :: frames) part (frame :: frames)) :
    Passes (.separator (!first)) (frame :: frames) ((if first then [] else [[comma]]) ++ part) (frame :: frames) := by
  obtain ⟨b, t, others, rfl, blank, other⟩ := begins
  intro more text closes spaced
  cases first with
  | true =>
    have here := spaced
    obtain ⟨_, _, next, -⟩ := here.next? blank
    obtain ⟨left, leftSpaced, scan⟩ := passes more text closes spaced
    refine ⟨left, leftSpaced, Eq.trans ?_ scan⟩
    conv => lhs; rw [skipPending]
    simp [next, other]
  | false =>
    obtain ⟨start, _, next, spaced⟩ := spaced.next? (by decide)
    obtain ⟨left, leftSpaced, scan⟩ := passes more start closes spaced
    refine ⟨left, leftSpaced, Eq.trans ?_ scan⟩
    conv => lhs; rw [skipPending]
    simp [next, passed_within]

/-- The parts inside a bracket are passed over one after the other, and then the closing bracket is. -/
theorem passes_separated (frame : Frame) {frames : List Frame} {parts : List (List Token)}
    (each : ∀ part ∈ parts, Begins part (· ≠ frame.close) ∧
      Passes .member (frame :: frames) part (frame :: frames)) (first : Bool) :
    Passes (.separator (!first)) (frame :: frames) (separated first parts ++ [[frame.close]]) frames := by
  induction parts generalizing first with
  | nil =>
    obtain ⟨blank, notComma⟩ := frame.isBlank_close
    intro more text closes spaced
    obtain ⟨rest, _, next, spaced⟩ := spaced.next? blank
    refine ⟨rest, spaced, ?_⟩
    rw [skipPending, next]
    simp only [notComma, and_false, if_false, if_true, passed_within]
    rfl
  | cons part parts ih =>
    obtain ⟨⟨begins, passes⟩, later⟩ := List.forall_mem_cons.mp each
    have closes (more : List Token) : Closes (separated false parts ++ [[frame.close]] ++ more) := by
      rw [List.append_assoc]
      cases frame
      · exact closes_separated (.inl rfl) parts more
      · exact closes_separated (.inr rfl) parts more
    rw [separated, ← List.append_assoc, List.append_assoc]
    exact (passes_part first begins passes).append (ih later false) closes

theorem begins_value {ts : List Token} (h : IsValue ts) : Begins ts (· ≠ closeBracket) := by
  cases h with
  | scalar h =>
    obtain ⟨b, tail, rfl, ⟨blank, -, -, close⟩, -⟩ := skipScalar_scalar h
    exact ⟨b, tail, [], rfl, blank, close⟩
  | array each => exact ⟨openBracket, [], _, rfl, by decide, by decide⟩
  | object keys each => exact ⟨openBrace, [], _, rfl, by decide, by decide⟩

theorem passes_value {ts : List Token} (h : IsValue ts) (frames : List Frame) : Passes .value frames ts frames := by
  induction h generalizing frames with
  | scalar h => exact passes_scalar h frames
  | @array items each ih =>
    refine passes_open (.inl ⟨rfl, rfl⟩) (passes_separated .list (fun ts hts => ?_) true)
    exact ⟨begins_value (each ts hts), passes_item (ih ts hts _)⟩
  | @object members keys each ih =>
    refine passes_open (.inr ⟨rfl, rfl⟩) (passes_separated .object (fun ts hts => ?_) true)
    obtain ⟨m, hm, rfl⟩ := List.mem_map.mp hts
    refine ⟨?_, passes_member (keys m hm) (ih m hm _)⟩
    obtain ⟨content, -, hkey⟩ := keys m hm
    exact ⟨quote, content ++ [quote], _, by rw [memberTokens, hkey], by decide, by decide⟩

/-- Any value is passed over, up to what follows it. -/
theorem skipValue_value {ts : List Token} (h : IsValue ts) {more : List Token} {text : List UInt8}
    (closes : Closes more) (spaced : Spaced (ts ++ more) text) :
    ∃ rest shorter, skipValue text = .ok ⟨rest, shorter⟩ ∧ Spaced more rest := by
  obtain ⟨rest, restSpaced, scan⟩ := passes_value h [] more text closes spaced
  have done : passed (skipPending (.separator true) [] rest) = .ok rest := by
    rw [skipPending]
    rfl
  rw [done] at scan
  show ∃ rest shorter, skipPending .value [] text = .ok ⟨rest, shorter⟩ ∧ Spaced more rest
  cases hs : skipPending .value [] text with
  | error fault =>
    rw [hs] at scan
    cases scan
  | ok left =>
    rw [hs] at scan
    obtain rfl := Except.ok.inj scan
    exact ⟨left.val, left.property, rfl, restSpaced⟩

end ProgramInterchange.Scan
