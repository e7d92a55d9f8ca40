import ProgramInterchange.Fault

/-!
# Qualified names

A name of a callable or type: its namespace and its local name, displayed with a dot between them.
`QualifiedName.parse?` splits at the last dot, so it undoes the display of every name whose local part
has no dot.
-/

namespace ProgramInterchange

/-- A namespace and a name in it. -/
structure QualifiedName where
  space : String
  name : String
  deriving DecidableEq, Repr

/-- An identifier has at least one character; `field` says where it stands. -/
def requireIdentifier (field value : String) : Except Fault String :=
  if value = "" then .error (.emptyIdentifier field) else .ok value

theorem requireIdentifier_eq_ok_iff {field value result : String} :
    requireIdentifier field value = .ok result ↔ value ≠ "" ∧ result = value := by
  unfold requireIdentifier
  split
  · simp_all
  · simp_all [eq_comm]

/-- Splits at the last dot. -/
def splitLastDot : List Char → Option (List Char × List Char)
  | [] => none
  | c :: cs =>
    match splitLastDot cs with
    | some (front, back) => some (c :: front, back)
    | none => if c = '.' then some ([], cs) else none

namespace QualifiedName

/-- The name with these components, if neither is empty. -/
def checked (space name : String) : Except Fault QualifiedName := do
  let space ← requireIdentifier "QualifiedName.namespace" space
  let name ← requireIdentifier "QualifiedName.name" name
  return ⟨space, name⟩

def display (q : QualifiedName) : String := q.space ++ "." ++ q.name

/-- Reads a displayed name, splitting at the last dot; both parts have to be non-empty. -/
def parse? (s : String) : Option QualifiedName :=
  match splitLastDot s.toList with
  | some (c :: front, d :: back) => some ⟨String.ofList (c :: front), String.ofList (d :: back)⟩
  | _ => none

/-! ### Order -/

/-- Order by namespace, then by name, each by code points. -/
def le (p q : QualifiedName) : Bool :=
  decide (p.space < q.space) || (decide (p.space = q.space) && decide (p.name ≤ q.name))

/-- Names in their order; equal names keep their places. -/
def sort (names : List QualifiedName) : List QualifiedName := names.mergeSort le

end QualifiedName

end ProgramInterchange
