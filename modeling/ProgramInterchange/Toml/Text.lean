import ProgramInterchange.Scan.Basic

/-!
# Texts in configuration

Four ways to quote a text: on one line or on several, with escapes or without. Readers start behind the
opening quotes.
-/

namespace ProgramInterchange.Toml

open ProgramInterchange.Scan (Rest Tail)

/-- Reads an `α` off the front of any text, or refuses. -/
abbrev Reader (α : Type) := (input : List Char) → Option (α × Rest input)

/-- A character that may stand in a text or comment: a tab, or no control. -/
def isPlain (c : Char) : Bool := c = '\t' || (decide (32 ≤ c.toNat) && decide (c.toNat ≠ 127))

def hexValue? (c : Char) : Option Nat :=
  if c.toNat < 128 then Byte.hexValue? c.toNat.toUInt8 else none

def hexNumber : (count value : Nat) → (input : List Char) → Option (Nat × Tail input)
  | 0, value, input => some (value, ⟨input, Nat.le_refl _⟩)
  | _ + 1, _, [] => none
  | count + 1, value, c :: rest =>
    match hexValue? c with
    | none => none
    | some d =>
      match hexNumber count (value * 16 + d) rest with
      | none => none
      | some (n, ⟨after, h⟩) => some (n, ⟨after, Nat.le_succ_of_le h⟩)

def escapeOf? (c : Char) : Option Char :=
  if c = '"' ∨ c = '\\' then some c
  else if c = 'b' then some (Char.ofNat 8)
  else if c = 't' then some '\t'
  else if c = 'n' then some '\n'
  else if c = 'f' then some (Char.ofNat 12)
  else if c = 'r' then some '\r'
  else if c = 'e' then some (Char.ofNat 27)
  else none

def escapeDigits? (c : Char) : Option Nat :=
  if c = 'x' then some 2
  else if c = 'u' then some 4
  else if c = 'U' then some 8
  else none

/-- The character with a number, surrogates and numbers beyond the last character excluded. -/
def character? (n : Nat) : Option Char :=
  if n.isValidChar then some (Char.ofNat n) else none

/-- What an escape stands for, behind its backslash. -/
def escape : Reader Char
  | [] => none
  | c :: rest =>
    match escapeOf? c, escapeDigits? c with
    | some d, _ => some (d, ⟨rest, Nat.lt_succ_self _⟩)
    | none, some count =>
      match hexNumber count 0 rest with
      | none => none
      | some (n, ⟨after, h⟩) => (character? n).map fun d => (d, ⟨after, Nat.lt_succ_of_le h⟩)
    | none, none => none

def skipBlanks : (input : List Char) → Tail input
  | [] => ⟨[], Nat.le_refl _⟩
  | c :: rest =>
    if c = ' ' ∨ c = '\t' then
      match skipBlanks rest with
      | ⟨after, h⟩ => ⟨after, Nat.le_succ_of_le h⟩
    else ⟨c :: rest, Nat.le_refl _⟩

/-- Drops the end of a line, if there is one. -/
def newline? : (input : List Char) → Option (Rest input)
  | '\n' :: rest => some ⟨rest, Nat.lt_succ_self _⟩
  | '\r' :: '\n' :: rest => some ⟨rest, by simp only [List.length_cons]; omega⟩
  | _ => none

/-- Drops spaces, tabs and ends of lines. -/
def skipSpace (input : List Char) : Tail input :=
  match skipBlanks input with
  | ⟨behind, h⟩ =>
    match newline? behind with
    | none => ⟨behind, h⟩
    | some ⟨rest, h'⟩ =>
      match skipSpace rest with
      | ⟨after, h''⟩ => ⟨after, by omega⟩
termination_by input.length

/-- A backslash at the end of a line joins it with the next text: what follows is dropped up to there. -/
def joinLines? (input : List Char) : Option (Tail input) :=
  match skipBlanks input with
  | ⟨behind, h⟩ =>
    match newline? behind with
    | none => none
    | some ⟨rest, h'⟩ =>
      match skipSpace rest with
      | ⟨after, h''⟩ => some ⟨after, by omega⟩

/-- A text with escapes on one line. -/
def basicText (input : List Char) : Option (List Char × Rest input) :=
  match input with
  | [] => none
  | c :: rest =>
    if c = '"' then some ([], ⟨rest, Nat.lt_succ_self _⟩)
    else if c = '\\' then
      match escape rest with
      | none => none
      | some (d, ⟨behind, h⟩) =>
        match basicText behind with
        | none => none
        | some (ds, ⟨after, h'⟩) => some (d :: ds, ⟨after, by simp only [List.length_cons]; omega⟩)
    else if isPlain c then
      match basicText rest with
      | none => none
      | some (ds, ⟨after, h'⟩) => some (c :: ds, ⟨after, Nat.lt_succ_of_lt h'⟩)
    else none
termination_by input.length

/-- A text without escapes on one line. -/
def literalText : Reader (List Char)
  | [] => none
  | c :: rest =>
    if c = '\'' then some ([], ⟨rest, Nat.lt_succ_self _⟩)
    else if isPlain c then
      match literalText rest with
      | none => none
      | some (ds, ⟨after, h⟩) => some (c :: ds, ⟨after, Nat.lt_succ_of_lt h⟩)
    else none

/-- The closing quotes of a text on several lines; up to two more quotes in front of them belong to the
text. -/
def closingQuotes? (quote : Char) : (input : List Char) → Option (List Char × Rest input)
  | a :: b :: c :: d :: e :: rest =>
    if a = quote ∧ b = quote ∧ c = quote then
      if d = quote then
        if e = quote then some ([quote, quote], ⟨rest, by simp only [List.length_cons]; omega⟩)
        else some ([quote], ⟨e :: rest, by simp only [List.length_cons]; omega⟩)
      else some ([], ⟨d :: e :: rest, by simp only [List.length_cons]; omega⟩)
    else none
  | [a, b, c, d] =>
    if a = quote ∧ b = quote ∧ c = quote then
      if d = quote then some ([quote], ⟨[], by simp⟩) else some ([], ⟨[d], by simp⟩)
    else none
  | [a, b, c] => if a = quote ∧ b = quote ∧ c = quote then some ([], ⟨[], by simp⟩) else none
  | _ => none

/-- A text with escapes on several lines. -/
def basicLines (input : List Char) : Option (List Char × Rest input) :=
  match closingQuotes? '"' input with
  | some result => some result
  | none =>
    match input with
    | [] => none
    | c :: rest =>
      if c = '\\' then
        match joinLines? rest with
        | some ⟨behind, h⟩ =>
          match basicLines behind with
          | none => none
          | some (ds, ⟨after, h'⟩) => some (ds, ⟨after, by simp only [List.length_cons]; omega⟩)
        | none =>
          match escape rest with
          | none => none
          | some (d, ⟨behind, h⟩) =>
            match basicLines behind with
            | none => none
            | some (ds, ⟨after, h'⟩) => some (d :: ds, ⟨after, by simp only [List.length_cons]; omega⟩)
      else
        match newline? (c :: rest) with
        | some ⟨behind, h⟩ =>
          match basicLines behind with
          | none => none
          | some (ds, ⟨after, h'⟩) => some ('\n' :: ds, ⟨after, Nat.lt_trans h' h⟩)
        | none =>
          if isPlain c then
            match basicLines rest with
            | none => none
            | some (ds, ⟨after, h'⟩) => some (c :: ds, ⟨after, Nat.lt_succ_of_lt h'⟩)
          else none
termination_by input.length
decreasing_by
  all_goals simp only [List.length_cons] at *
  all_goals omega

/-- A text without escapes on several lines. -/
def literalLines (input : List Char) : Option (List Char × Rest input) :=
  match closingQuotes? '\'' input with
  | some result => some result
  | none =>
    match input with
    | [] => none
    | c :: rest =>
      match newline? (c :: rest) with
      | some ⟨behind, h⟩ =>
        match literalLines behind with
        | none => none
        | some (ds, ⟨after, h'⟩) => some ('\n' :: ds, ⟨after, Nat.lt_trans h' h⟩)
      | none =>
        if isPlain c then
          match literalLines rest with
          | none => none
          | some (ds, ⟨after, h'⟩) => some (c :: ds, ⟨after, Nat.lt_succ_of_lt h'⟩)
        else none
termination_by input.length
decreasing_by
  all_goals simp only [List.length_cons] at *
  all_goals omega

/-- The first end of line behind the opening quotes of a text on several lines is no part of it. -/
def skipFirstNewline (input : List Char) : Tail input :=
  match newline? input with
  | none => ⟨input, Nat.le_refl _⟩
  | some ⟨rest, h⟩ => ⟨rest, Nat.le_of_lt h⟩

/-- A text on one line, behind its opening quote. -/
def textOnLine (quote : Char) : Reader (List Char) :=
  if quote = '"' then basicText else literalText

/-- A text on several lines, behind its opening quotes. -/
def textOnLines (quote : Char) : Reader (List Char) :=
  if quote = '"' then basicLines else literalLines

/-- A quoted text of any kind, of which one quote has been read. -/
def quotedText (quote : Char) : Reader (List Char)
  | a :: b :: rest =>
    if a = quote ∧ b = quote then
      match skipFirstNewline rest with
      | ⟨start, h⟩ =>
        match textOnLines quote start with
        | none => none
        | some (ds, ⟨after, h'⟩) => some (ds, ⟨after, by simp only [List.length_cons]; omega⟩)
    else textOnLine quote (a :: b :: rest)
  | [a] => textOnLine quote [a]
  | [] => none

end ProgramInterchange.Toml
