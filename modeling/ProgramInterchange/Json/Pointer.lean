import ProgramInterchange.Json.Document

/-!
# Pointers into documents

A pointer names a part of a document by the keys and places that lead to it, each behind a slash. Inside a
key `~1` stands for a slash and `~0` for a tilde.
-/

namespace ProgramInterchange.Json

/-- The key of one step of a pointer. -/
def unescapeStep : List Char → List Char
  | '~' :: '1' :: cs => '/' :: unescapeStep cs
  | '~' :: '0' :: cs => '~' :: unescapeStep cs
  | c :: cs => c :: unescapeStep cs
  | [] => []

/-- The place in a list that a step names: a number without sign and leading zeros. -/
def placeOfStep? (step : List Char) : Option Nat :=
  if step.head? = some '0' ∧ step.length ≠ 1 then none
  else if step.isEmpty ∨ step.any (fun c => !c.isDigit) then none
  else some (step.foldl (fun n c => n * 10 + (c.toNat - '0'.toNat)) 0)

/-- The part of a document that one step leads to. -/
def step? (step : List Char) (j : Json) : Option Json :=
  match j with
  | object members => members.lookup (String.ofList (unescapeStep step))
  | array items => (placeOfStep? step).bind fun place => items[place]?
  | _ => none

/-- The text up to the next slash, and what follows it. -/
def nextStep : List Char → List Char × List Char
  | [] => ([], [])
  | '/' :: cs => ([], '/' :: cs)
  | c :: cs => (c :: (nextStep cs).1, (nextStep cs).2)

theorem length_nextStep_le (cs : List Char) : (nextStep cs).2.length ≤ cs.length := by
  fun_induction nextStep cs with
  | case1 => simp
  | case2 => simp
  | case3 c cs _ ih => exact Nat.le_succ_of_le ih

/-- The part of a document that a pointer leads to. -/
def pointer? (pointer : List Char) (j : Json) : Option Json :=
  match pointer with
  | [] => some j
  | '/' :: cs =>
    match step? (nextStep cs).1 j with
    | some part => pointer? (nextStep cs).2 part
    | none => none
  | _ => none
termination_by pointer.length
decreasing_by exact Nat.lt_succ_of_le (length_nextStep_le cs)

end ProgramInterchange.Json
