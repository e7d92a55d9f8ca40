import ProgramInterchange.Walk.Tuple

/-!
# Recording a walk

A walk that keeps a list of the calls made of it and can fail at a chosen one. Payloads are texts.
It shows which payloads a walk visits, in which order, and where it stops.
-/

namespace ProgramInterchange.Walk

/-- A call of a walk: the kind of payload, and the payload. -/
structure Call where
  domain : String
  payload : String
  deriving DecidableEq, Repr

/-- A computation that keeps the calls made so far, also when it fails. -/
abbrev Recording := ExceptT Fault (StateM (List Call))

/-- Records a call; the one numbered `failAt`, counted from one, fails. -/
def record (failAt : Option Nat) (domain payload : String) : Recording String := do
  let calls ← getThe (List Call)
  set (calls ++ [⟨domain, payload⟩])
  if failAt = some (calls.length + 1) then throw (.unsupportedVariant "Walk" payload)
  else return domain ++ "<" ++ payload ++ ">"

def recorder (failAt : Option Nat) :
    PayloadWalk Recording String String String String String String String String :=
  ⟨record failAt "data", record failAt "udt", record failAt "param", record failAt "info"⟩

def Recording.finish {α : Type} (walk : Recording α) : Except Fault α × List Call :=
  (ExceptT.run walk).run []

end ProgramInterchange.Walk
