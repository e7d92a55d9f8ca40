/-!
# Nested tuples

A tree of items, such as the arguments of a callable. Two operations look at one: `items` lists its
items from left to right, and `map` changes them in place.
-/

namespace ProgramInterchange.Tree

/-- An item, or a group of tuples. -/
inductive Tuple (α : Type) where
  | item (value : α)
  | group (members : List (Tuple α))
  deriving Repr

namespace Tuple

variable {α β : Type}

def empty : Tuple α := group []

mutual
def items : Tuple α → List α
  | item value => [value]
  | group members => itemsOf members

def itemsOf : List (Tuple α) → List α
  | [] => []
  | t :: ts => items t ++ itemsOf ts
end

theorem itemsOf_eq_flatMap (ts : List (Tuple α)) : itemsOf ts = ts.flatMap items := by
  induction ts with
  | nil => rfl
  | cons t ts ih => simp only [itemsOf, ih, List.flatMap_cons]

theorem items_group (members : List (Tuple α)) : (group members).items = members.flatMap items := by
  simp only [items, itemsOf_eq_flatMap]

mutual
def map (f : α → β) : Tuple α → Tuple β
  | item value => item (f value)
  | group members => group (mapList f members)

def mapList (f : α → β) : List (Tuple α) → List (Tuple β)
  | [] => []
  | t :: ts => map f t :: mapList f ts
end

theorem mapList_eq_map (f : α → β) (ts : List (Tuple α)) : mapList f ts = ts.map (map f) := by
  induction ts with
  | nil => rfl
  | cons t ts ih => simp only [mapList, ih, List.map_cons]

theorem map_group (f : α → β) (members : List (Tuple α)) :
    (group members).map f = group (members.map (map f)) := by
  simp only [map, mapList_eq_map]

/-- What holds of an item, and of a group whenever it holds of its members, holds of every tuple. -/
theorem induction {motive : Tuple α → Prop} (item : ∀ value, motive (item value))
    (group : ∀ members, (∀ t ∈ members, motive t) → motive (group members)) (t : Tuple α) : motive t := by
  refine Tuple.rec (motive_1 := motive) (motive_2 := fun ts => ∀ t ∈ ts, motive t) item group ?nil ?cons t
  case nil => intro t ht; simp at ht
  case cons =>
    intro t ts h hs u hu
    rcases List.mem_cons.mp hu with rfl | hu
    · exact h
    · exact hs u hu

/-! ### Equality -/

section

variable [DecidableEq α]

mutual
def beq : Tuple α → Tuple α → Bool
  | item a, item b => decide (a = b)
  | group ts, group us => beqList ts us
  | _, _ => false

def beqList : List (Tuple α) → List (Tuple α) → Bool
  | [], [] => true
  | t :: ts, u :: us => beq t u && beqList ts us
  | _, _ => false
end

theorem beqList_iff {ts : List (Tuple α)} (h : ∀ t ∈ ts, ∀ u, beq t u = true ↔ t = u)
    (us : List (Tuple α)) : beqList ts us = true ↔ ts = us := by
  induction ts generalizing us with
  | nil => cases us <;> simp [beqList]
  | cons t ts ih =>
    cases us with
    | nil => simp [beqList]
    | cons u us =>
      simp only [beqList, Bool.and_eq_true, List.cons.injEq]
      rw [h t (by simp), ih fun x hx => h x (by simp [hx])]

theorem beq_iff (t u : Tuple α) : beq t u = true ↔ t = u := by
  induction t using Tuple.induction generalizing u with
  | item value => cases u <;> simp [beq]
  | group members ih => cases u <;> simp [beq, beqList_iff ih]

instance : DecidableEq (Tuple α) := fun t u => decidable_of_iff _ (beq_iff t u)

end

end Tuple

end ProgramInterchange.Tree
