import ProgramInterchange.Proofs.Json.Brackets
import ProgramInterchange.Proofs.Scan.Number
import ProgramInterchange.Proofs.Scan.Text

/-!
# The document of a text

A text is that of one document only. Its first byte tells what kind of document it is, and where a document ends
shows in what follows it, as long as that does not go on with a number.
-/

namespace ProgramInterchange.Json

open ProgramInterchange.Byte ProgramInterchange.Scan

/-! ### Texts and numbers -/

theorem textBytes_append_inj {s t : String} {rest rest' : List UInt8}
    (h : textBytes s ++ rest = textBytes t ++ rest') : s = t ∧ rest = rest' := by
  obtain ⟨spelled, bytes, whole⟩ := quoted_textBytes s
  obtain ⟨spelled', bytes', whole'⟩ := quoted_textBytes t
  have same : spelled ++ quote :: rest = spelled' ++ quote :: rest' := by
    rw [whole, whole'] at h
    simpa using h
  have read := text_spelled bytes rest
  rw [same, text_spelled bytes' rest'] at read
  obtain ⟨text, left⟩ := Prod.mk.inj (Except.ok.inj read)
  exact ⟨text.symm, left.symm⟩

theorem isDigit_of_mem_numberBytes {n : Nat} {b : UInt8} (h : b ∈ numberBytes n) : isDigit b = true := by
  rw [numberBytes_eq_map, List.mem_map] at h
  obtain ⟨d, hd, rfl⟩ := h
  exact isDigit_digitByte (lt_of_mem_decimal hd)

/-- A number is what its digits say. -/
theorem foldl_numberBytes (n : Nat) :
    ((numberBytes n).map digitValue).foldl (fun m d => m * 10 + d) 0 = n := by
  have digits : (numberBytes n).map digitValue = decimal n := by
    rw [numberBytes_eq_map, List.map_map]
    have each : ∀ d ∈ decimal n, (digitValue ∘ digitByte) d = d := fun d hd =>
      digitValue_digitByte (lt_of_mem_decimal hd)
    rw [List.map_congr_left each, List.map_id']
  rw [digits, foldl_decimal]

theorem takeWhile_dropWhile_numberBytes (n : Nat) {rest : List UInt8} (hr : EndsNumber rest) :
    (numberBytes n ++ rest).takeWhile isDigit = numberBytes n ∧
      (numberBytes n ++ rest).dropWhile isDigit = rest := by
  have digits : ∀ b ∈ numberBytes n, isDigit b = true := fun b => isDigit_of_mem_numberBytes
  rw [List.takeWhile_append_of_pos digits, List.dropWhile_append_of_pos digits]
  cases rest with
  | nil => simp
  | cons b rest =>
    have stop : isDigit b = false := (hr b rfl).1
    simp [stop]

theorem numberBytes_append_inj {n m : Nat} {rest rest' : List UInt8} (hr : EndsNumber rest)
    (hr' : EndsNumber rest') (h : numberBytes n ++ rest = numberBytes m ++ rest') : n = m ∧ rest = rest' := by
  obtain ⟨digits, left⟩ := takeWhile_dropWhile_numberBytes n hr
  obtain ⟨digits', left'⟩ := takeWhile_dropWhile_numberBytes m hr'
  have same : numberBytes n = numberBytes m := by rw [← digits, ← digits', h]
  refine ⟨?_, by rw [← left, ← left', h]⟩
  rw [← foldl_numberBytes n, same, foldl_numberBytes]

/-! ### The first byte -/

/-- The byte that a document begins with; the digit zero stands for all digits. -/
def initial : Json → UInt8
  | null => letterN
  | boolean value => if value then letterT else letterF
  | number _ => 48
  | text _ => quote
  | array _ => openBracket
  | object _ => openBrace

theorem render_eq_cons (d : Json) :
    ∃ b tail, d.render = b :: tail ∧ (if isDigit b then 48 else b) = d.initial := by
  cases d with
  | null => exact ⟨letterN, _, rfl, rfl⟩
  | boolean value => cases value <;> exact ⟨_, _, rfl, rfl⟩
  | number n =>
    obtain ⟨d, tail, small, bytes⟩ := numberBytes_eq_cons n
    refine ⟨digitByte d, tail, bytes, ?_⟩
    rw [isDigit_digitByte small]
    rfl
  | text s => exact ⟨quote, escapedText s ++ [quote], rfl, rfl⟩
  | array items => exact ⟨openBracket, renderItems true items ++ [closeBracket], rfl, rfl⟩
  | object members => exact ⟨openBrace, renderMembers true members ++ [closeBrace], rfl, rfl⟩

/-- What a document is that begins like this one. -/
def Alike : Json → Json → Prop
  | null, e => e = null
  | boolean value, e => e = boolean value
  | number _, e => ∃ n, e = number n
  | text _, e => ∃ s, e = text s
  | array _, e => ∃ items, e = array items
  | object _, e => ∃ members, e = object members

theorem alike_of_initial_eq {d e : Json} (h : d.initial = e.initial) : Alike d e := by
  rcases d with _ | (_ | _) | _ | _ | _ | _ <;> rcases e with _ | (_ | _) | _ | _ | _ | _ <;>
    simp_all [Alike, initial, letterN, letterT, letterF, quote, openBracket, openBrace]

theorem alike_of_append_eq {d e : Json} {rest rest' : List UInt8} (h : d.render ++ rest = e.render ++ rest') :
    Alike d e := by
  obtain ⟨b, tail, bytes, first⟩ := d.render_eq_cons
  obtain ⟨c, tail', bytes', first'⟩ := e.render_eq_cons
  rw [bytes, bytes'] at h
  obtain rfl : b = c := (List.cons.inj h).1
  exact alike_of_initial_eq (first.symm.trans first')

theorem initial_ne_closeBracket (d : Json) : d.initial ≠ closeBracket := by
  cases d with
  | boolean value => cases value <;> decide
  | _ => simp [initial, letterN, quote, openBracket, openBrace, closeBracket]

/-! ### Parts -/

section

variable {α : Type} {text : α → List UInt8}

/-- The text of `x` is the beginning of no other text of that kind, if what follows goes on with no number. -/
def SetsOff (text : α → List UInt8) (x : α) : Prop := ∀ y rest rest', EndsNumber rest → EndsNumber rest' →
  text x ++ rest = text y ++ rest' → x = y ∧ rest = rest'

/-- Texts with commas between them. -/
def joined (text : α → List UInt8) (first : Bool) : List α → List UInt8
  | [] => []
  | x :: xs => (if first then [] else [comma]) ++ text x ++ joined text false xs

theorem renderItems_eq_joined (first : Bool) (items : List Json) :
    renderItems first items = joined render first items := by
  induction items generalizing first with
  | nil => rfl
  | cons item items ih => rw [renderItems, joined, ih]

theorem renderMembers_eq_joined (first : Bool) (members : List (String × Json)) :
    renderMembers first members = joined renderMember first members := by
  induction members generalizing first with
  | nil => rfl
  | cons entry members ih => rw [renderMembers, joined, ih]

variable {close : UInt8}

theorem endsNumber_joined (hc : EndsNumber [close]) (xs : List α) (rest : List UInt8) :
    EndsNumber (joined text false xs ++ close :: rest) := by
  cases xs with
  | nil => exact endsNumber_of_head (hc close rfl) rest
  | cons x xs => exact endsNumber_of_head (by decide) _

theorem joined_cons_ne (hc : close ≠ comma) (other : ∀ x tail tail', text x ++ tail ≠ close :: tail')
    (first : Bool) (x : α) (xs : List α) (tail tail' : List UInt8) :
    joined text first (x :: xs) ++ tail ≠ close :: tail' := by
  intro h
  cases first with
  | true => exact other x _ tail' (by simpa [joined] using h)
  | false =>
    obtain ⟨same, -⟩ := List.cons.inj h
    exact hc same.symm

/-- Where the texts joined end shows in the byte that closes them. -/
theorem joined_append_inj (hc : close ≠ comma) (he : EndsNumber [close])
    (other : ∀ x tail tail', text x ++ tail ≠ close :: tail') {xs ys : List α} (each : ∀ x ∈ xs, SetsOff text x)
    {first : Bool} {rest rest' : List UInt8}
    (h : joined text first xs ++ close :: rest = joined text first ys ++ close :: rest') :
    xs = ys ∧ rest = rest' := by
  induction xs generalizing first ys with
  | nil =>
    cases ys with
    | nil => exact ⟨rfl, (List.cons.inj h).2⟩
    | cons y ys => exact absurd h.symm (joined_cons_ne hc other first y ys _ _)
  | cons x xs ih =>
    cases ys with
    | nil => exact absurd h (joined_cons_ne hc other first x xs _ _)
    | cons y ys =>
      obtain ⟨head, tail⟩ := List.forall_mem_cons.mp each
      have texts : text x ++ (joined text false xs ++ close :: rest) =
          text y ++ (joined text false ys ++ close :: rest') := by
        cases first <;> simpa [joined] using h
      obtain ⟨rfl, more⟩ := head y _ _ (endsNumber_joined he xs rest) (endsNumber_joined he ys rest') texts
      obtain ⟨rfl, left⟩ := ih tail more
      exact ⟨rfl, left⟩

end

theorem setsOff_renderMember {entry : String × Json} (h : SetsOff render entry.2) : SetsOff renderMember entry := by
  intro other rest rest' hr hr' same
  obtain ⟨key, value⟩ := entry
  obtain ⟨key', value'⟩ := other
  simp only [renderMember, List.append_assoc] at same
  obtain ⟨rfl, values⟩ := textBytes_append_inj same
  obtain ⟨rfl, left⟩ := h value' rest rest' hr hr' (List.cons.inj values).2
  exact ⟨rfl, left⟩

theorem render_ne_closeBracket (d : Json) (tail tail' : List UInt8) : d.render ++ tail ≠ closeBracket :: tail' := by
  intro h
  obtain ⟨b, more, bytes, first⟩ := d.render_eq_cons
  rw [bytes] at h
  obtain rfl : b = closeBracket := (List.cons.inj h).1
  exact d.initial_ne_closeBracket first.symm

theorem renderMember_ne_closeBrace (entry : String × Json) (tail tail' : List UInt8) :
    renderMember entry ++ tail ≠ closeBrace :: tail' := by
  intro h
  obtain ⟨key, value⟩ := entry
  have first : quote = closeBrace := (List.cons.inj h).1
  exact absurd first (by decide)

/-! ### Documents -/

theorem setsOff_render (d : Json) : SetsOff render d := by
  induction d using Json.induction with
  | null =>
    intro e rest rest' hr hr' h
    obtain rfl : e = null := alike_of_append_eq h
    exact ⟨rfl, List.append_cancel_left h⟩
  | boolean value =>
    intro e rest rest' hr hr' h
    obtain rfl : e = boolean value := alike_of_append_eq h
    exact ⟨rfl, List.append_cancel_left h⟩
  | number n =>
    intro e rest rest' hr hr' h
    obtain ⟨m, rfl⟩ : ∃ m, e = number m := alike_of_append_eq h
    obtain ⟨rfl, left⟩ := numberBytes_append_inj hr hr' h
    exact ⟨rfl, left⟩
  | text s =>
    intro e rest rest' hr hr' h
    obtain ⟨t, rfl⟩ : ∃ t, e = text t := alike_of_append_eq h
    obtain ⟨rfl, left⟩ := textBytes_append_inj h
    exact ⟨rfl, left⟩
  | array items ih =>
    intro e rest rest' hr hr' h
    obtain ⟨items', rfl⟩ : ∃ items, e = array items := alike_of_append_eq h
    have inside : joined render true items ++ closeBracket :: rest =
        joined render true items' ++ closeBracket :: rest' := by
      simpa [render, renderItems_eq_joined] using h
    obtain ⟨rfl, left⟩ := joined_append_inj (by decide) (endsNumber_of_head (by decide) [])
      render_ne_closeBracket ih inside
    exact ⟨rfl, left⟩
  | object members ih =>
    intro e rest rest' hr hr' h
    obtain ⟨members', rfl⟩ : ∃ members, e = object members := alike_of_append_eq h
    have inside : joined renderMember true members ++ closeBrace :: rest =
        joined renderMember true members' ++ closeBrace :: rest' := by
      simpa [render, renderMembers_eq_joined] using h
    obtain ⟨rfl, left⟩ := joined_append_inj (by decide) (endsNumber_of_head (by decide) [])
      renderMember_ne_closeBrace (fun entry he => setsOff_renderMember (ih entry he)) inside
    exact ⟨rfl, left⟩

theorem render_injective {d e : Json} (h : d.render = e.render) : d = e :=
  (setsOff_render d e [] [] nofun nofun (by rw [h])).1

end ProgramInterchange.Json
