import ProgramInterchange.Scan.Basic

/-!
# Tokens and white space

Readers pass over white space where they look for the next byte, so to them a text is the list of its tokens.
-/

namespace ProgramInterchange.Scan

open ProgramInterchange.Byte

/-! ### Outcomes -/

namespace Scanned

variable {α β : Type} {input middle : List UInt8}

/-- What has been read and what is left, without the bound on its length. -/
def outcome (s : Scanned input α) : Except WireFault (α × List UInt8) :=
  match s with
  | .error fault => .error fault
  | .ok (a, rest) => .ok (a, rest.val)

theorem outcome_widen (h : middle.length ≤ input.length) (s : Scanned middle α) :
    (s.widen h).outcome = s.outcome := by
  cases s <;> rfl

theorem outcome_map (f : α → β) (s : Scanned input α) :
    (s.map f).outcome = s.outcome.map fun result => (f result.1, result.2) := by
  cases s <;> rfl

theorem outcome_eq_ok_iff {s : Scanned input α} {a : α} {rest : List UInt8} :
    s.outcome = .ok (a, rest) ↔ ∃ h, s = .ok (a, ⟨rest, h⟩) := by
  constructor
  · intro h
    cases s with
    | error fault => cases h
    | ok result =>
      obtain ⟨b, left, hl⟩ := result
      cases h
      exact ⟨hl, rfl⟩
  · rintro ⟨h, rfl⟩
    rfl

theorem outcome_eq_error_iff {s : Scanned input α} {fault : WireFault} :
    s.outcome = .error fault ↔ s = .error fault := by
  cases s with
  | error other => simp [outcome]
  | ok result => simp [outcome]

end Scanned

/-! ### Words -/

theorem dropWord_append (letters rest : List UInt8) :
    dropWord letters (letters ++ rest) =
      .ok ⟨rest, (List.sublist_append_right letters rest).length_le⟩ := by
  induction letters with
  | nil => rfl
  | cons letter letters ih => simp only [List.cons_append, dropWord, if_pos, ih]

/-! ### White space -/

/-- Bytes of a text with no white space to be passed over between them. -/
abbrev Token := List UInt8

/-- The text is made of the tokens, with any white space before, between and behind them. -/
inductive Spaced : List Token → List UInt8 → Prop
  | done {blank : List UInt8} (h : ∀ b ∈ blank, isBlank b = true) : Spaced [] blank
  | token (blank : List UInt8) {rest : List UInt8} {t : Token} {ts : List Token} (h : ∀ b ∈ blank, isBlank b = true)
    (more : Spaced ts rest) : Spaced (t :: ts) (blank ++ (t ++ rest))

/-! ### The next byte -/

theorem next?_of_blank {blank : List UInt8} (h : ∀ b ∈ blank, isBlank b = true) : next? blank = none := by
  induction blank with
  | nil => rfl
  | cons b blank ih =>
    obtain ⟨hb, hblank⟩ := List.forall_mem_cons.mp h
    simp only [next?, hb, if_true, ih hblank]

theorem next?_blank_append {blank : List UInt8} (h : ∀ b ∈ blank, isBlank b = true) {b : UInt8}
    (hb : isBlank b = false) (rest : List UInt8) :
    ∃ shorter, next? (blank ++ b :: rest) = some (b, ⟨rest, shorter⟩) := by
  induction blank with
  | nil => exact ⟨_, next?_cons_of_not_blank hb⟩
  | cons c blank ih =>
    obtain ⟨hc, hblank⟩ := List.forall_mem_cons.mp h
    obtain ⟨shorter, first⟩ := ih hblank
    refine ⟨Nat.lt_succ_of_lt shorter, ?_⟩
    show next? (c :: (blank ++ b :: rest)) = _
    simp only [next?, hc, if_true, first]

namespace Spaced

theorem flatten (ts : List Token) : Spaced ts ts.flatten := by
  induction ts with
  | nil => exact .done nofun
  | cons t ts ih => exact .token [] nofun ih

theorem next?_nil {text : List UInt8} (h : Spaced [] text) : next? text = none := by
  cases h with
  | done h => exact next?_of_blank h

/-- The next byte is the first one of the next token. -/
theorem next? {b : UInt8} {t : Token} {ts : List Token} {text : List UInt8} (hb : isBlank b = false)
    (h : Spaced ((b :: t) :: ts) text) :
    ∃ rest shorter, Scan.next? text = some (b, ⟨t ++ rest, shorter⟩) ∧ Spaced ts rest := by
  cases h with
  | @token blank rest t ts h more =>
    obtain ⟨shorter, first⟩ := next?_blank_append h hb (t ++ rest)
    exact ⟨rest, shorter, first, more⟩

/-- Behind the opening quote of a text are its bytes and the closing quote. -/
theorem next?_quote {content : List UInt8} {ts : List Token} {text : List UInt8}
    (h : Spaced ((quote :: (content ++ [quote])) :: ts) text) :
    ∃ rest shorter, Scan.next? text = some (quote, ⟨content ++ quote :: rest, shorter⟩) ∧ Spaced ts rest := by
  obtain ⟨rest, shorter, first, more⟩ := h.next? (by decide)
  have behind : content ++ [quote] ++ rest = content ++ quote :: rest := by simp
  simp only [behind] at first
  exact ⟨rest, behind ▸ shorter, first, more⟩

end Spaced

/-! ### Lists of tokens -/

/-- The tokens of several parts; a comma stands before each one but the `first`. -/
def separated (first : Bool) : List (List Token) → List Token
  | [] => []
  | part :: parts => (if first then [] else [[comma]]) ++ (part ++ separated false parts)

def arrayTokens (items : List (List Token)) : List Token :=
  [openBracket] :: (separated true items ++ [[closeBracket]])

def objectTokens (members : List (List Token)) : List Token :=
  [openBrace] :: (separated true members ++ [[closeBrace]])

def memberTokens (key : Token) (value : List Token) : List Token := key :: [colon] :: value

/-- There is a first byte, which is no white space and of the kind. -/
def Begins (ts : List Token) (kind : UInt8 → Prop) : Prop :=
  ∃ b t more, ts = (b :: t) :: more ∧ isBlank b = false ∧ kind b

/-- A value ends before these tokens. -/
def Closes (ts : List Token) : Prop := ∀ t ∈ ts.head?, t = [comma] ∨ t = [closeBracket] ∨ t = [closeBrace]

theorem closes_nil : Closes [] := nofun

theorem closes_cons {b : UInt8} (h : b = comma ∨ b = closeBracket ∨ b = closeBrace) (ts : List Token) :
    Closes ([b] :: ts) := by
  rintro t ⟨⟩
  simpa only [List.cons.injEq, and_true] using h

/-- A part that has been read ends before the next one and before the closing bracket. -/
theorem closes_separated {b : UInt8} (h : b = closeBracket ∨ b = closeBrace) (parts : List (List Token))
    (more : List Token) : Closes (separated false parts ++ [b] :: more) := by
  cases parts with
  | nil => exact closes_cons (.inr h) more
  | cons part parts => exact closes_cons (.inl rfl) _

/-! ### Outcomes that depend on the brackets -/

section

variable {α β : Type}

/-- What is read is `a`, with these tokens left, if it fits; otherwise too many brackets are open. -/
structure Gives (outcome : Except WireFault (α × List UInt8)) (fits : Prop) (a : α) (more : List Token) : Prop where
  ok : fits → ∃ rest, Spaced more rest ∧ outcome = .ok (a, rest)
  limit : ¬fits → outcome = .error .recursionLimit

namespace Gives

variable {outcome : Except WireFault (α × List UInt8)} {fits : Prop} {a : α} {more : List Token}

theorem of_ok {rest : List UInt8} (spaced : Spaced more rest) (h : outcome = .ok (a, rest)) (holds : fits) :
    Gives outcome fits a more :=
  ⟨fun _ => ⟨rest, spaced, h⟩, fun not => absurd holds not⟩

theorem congr {fits' : Prop} (h : Gives outcome fits a more) (same : fits ↔ fits') :
    Gives outcome fits' a more :=
  ⟨fun holds => h.ok (same.mpr holds), fun not => h.limit fun holds => not (same.mp holds)⟩

theorem bind {next : α × List UInt8 → Except WireFault (β × List UInt8)} {fits' : Prop} {b : β}
    {behind : List Token} (h : Gives outcome fits a behind)
    (hn : ∀ rest, Spaced behind rest → Gives (next (a, rest)) fits' b more) :
    Gives (outcome.bind next) (fits ∧ fits') b more := by
  constructor
  · rintro ⟨first, second⟩
    obtain ⟨rest, spaced, rfl⟩ := h.ok first
    exact (hn rest spaced).ok second
  · intro not
    by_cases first : fits
    · obtain ⟨rest, spaced, rfl⟩ := h.ok first
      exact (hn rest spaced).limit fun second => not ⟨first, second⟩
    · rw [h.limit first]
      rfl

theorem map (f : α → β) (h : Gives outcome fits a more) :
    Gives (outcome.map fun result => (f result.1, result.2)) fits (f a) more := by
  constructor
  · intro holds
    obtain ⟨rest, spaced, rfl⟩ := h.ok holds
    exact ⟨rest, spaced, rfl⟩
  · intro not
    rw [h.limit not]
    rfl

end Gives

end

end ProgramInterchange.Scan
