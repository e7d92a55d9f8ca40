import ProgramInterchange.Record.Tuple
import ProgramInterchange.Tree.Tuple
import ProgramInterchange.Walk.TypeKind

/-!
# Walking nested tuples

Both directions visit the items from left to right and stop at the first effect that fails.
-/

namespace ProgramInterchange

variable {m : Type → Type} [Monad m] {α β : Type}

mutual
/-- The record of a tuple, whose items are converted by `f`. -/
def Tree.Tuple.toRecordM (f : α → m β) : Tree.Tuple α → m (Record.Tuple β)
  | .item value => do
    let value ← f value
    return .single (.known .item) (some value)
  | .group members => do
    let members ← Tree.Tuple.toRecordsM f members
    return .grouped (.known .group) none members

def Tree.Tuple.toRecordsM (f : α → m β) : List (Tree.Tuple α) → m (List (Record.Tuple β))
  | [] => pure []
  | t :: ts => do
    let t ← Tree.Tuple.toRecordM f t
    let ts ← Tree.Tuple.toRecordsM f ts
    return t :: ts
end

/-- The tuple of a record whose field for a list of tuples plays no part: `group` stands for what that
field gives. -/
def Record.Tuple.selectM [MonadExceptOf Fault m] (f : β → m α) (kind : Tag Record.TupleTag)
    (item : Option β) (group : m (Tree.Tuple α)) : m (Tree.Tuple α) :=
  match kind with
  | .known .item =>
    withPayload "QsTuple" kind.display item fun value => do
      let value ← f value
      return .item value
  | .known .group => group
  | .unrecognized _ => throw (.unsupportedVariant "QsTuple" kind.display)

mutual
/-- The tuple of a record, whose items are converted by `f`. Only the payload field that the tag selects
is looked at, and it has to be present. -/
def Record.Tuple.toTreeM [MonadExceptOf Fault m] (f : β → m α) : Record.Tuple β → m (Tree.Tuple α)
  | .single kind item =>
    Record.Tuple.selectM f kind item (throw (.missingPayload "QsTuple" kind.display))
  | .grouped kind item items =>
    Record.Tuple.selectM f kind item do
      let members ← Record.Tuple.toTreesM f items
      return .group members

def Record.Tuple.toTreesM [MonadExceptOf Fault m] (f : β → m α) :
    List (Record.Tuple β) → m (List (Tree.Tuple α))
  | [] => pure []
  | t :: ts => do
    let t ← Record.Tuple.toTreeM f t
    let ts ← Record.Tuple.toTreesM f ts
    return t :: ts
end

theorem Tree.Tuple.toRecordsM_eq_mapM [LawfulMonad m] (f : α → m β) (ts : List (Tree.Tuple α)) :
    Tree.Tuple.toRecordsM f ts = ts.mapM (Tree.Tuple.toRecordM f) := by
  induction ts with
  | nil => simp only [toRecordsM, List.mapM_nil]
  | cons t ts ih => simp only [toRecordsM, ih, List.mapM_cons]

theorem Record.Tuple.toTreesM_eq_mapM [LawfulMonad m] [MonadExceptOf Fault m] (f : β → m α)
    (ts : List (Record.Tuple β)) :
    Record.Tuple.toTreesM f ts = ts.mapM (Record.Tuple.toTreeM f) := by
  induction ts with
  | nil => simp only [toTreesM, List.mapM_nil]
  | cons t ts ih => simp only [toTreesM, ih, List.mapM_cons]

end ProgramInterchange
