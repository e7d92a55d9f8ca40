import ProgramInterchange.Record.Tag

/-!
# Tuple records

The portable form of nested tuples: a tag, and one payload field for an item and one for a list of
tuples. A well-formed record fills the field that its tag selects, but a record may fill both or none.
-/

namespace ProgramInterchange.Record

inductive Tuple (α : Type) where
  /-- A record in which the field for a list of tuples is absent. -/
  | single (kind : Tag TupleTag) (item : Option α)
  /-- A record in which it is present. -/
  | grouped (kind : Tag TupleTag) (item : Option α) (items : List (Tuple α))

namespace Tuple

variable {α β : Type}

def kind : Tuple α → Tag TupleTag
  | single kind _ => kind
  | grouped kind _ _ => kind

def item : Tuple α → Option α
  | single _ item => item
  | grouped _ item _ => item

def items : Tuple α → Option (List (Tuple α))
  | single _ _ => none
  | grouped _ _ items => some items

/-- What holds of records without a list of tuples, and of records with one whenever it holds of all
members of the list, holds of every tuple record. -/
theorem induction {motive : Tuple α → Prop} (single : ∀ kind item, motive (single kind item))
    (grouped : ∀ kind item items, (∀ t ∈ items, motive t) → motive (grouped kind item items))
    (t : Tuple α) : motive t := by
  refine Tuple.rec (motive_1 := motive) (motive_2 := fun ts => ∀ t ∈ ts, motive t) single grouped
    ?nil ?cons t
  case nil => intro t ht; simp at ht
  case cons =>
    intro t ts h hs u hu
    rcases List.mem_cons.mp hu with rfl | hu
    · exact h
    · exact hs u hu

/-! ### Equality -/

section

variable [DecidableEq α]

mutual
def beq : Tuple α → Tuple α → Bool
  | single kind item, single kind' item' => decide (kind = kind') && decide (item = item')
  | grouped kind item items, grouped kind' item' items' =>
    decide (kind = kind') && decide (item = item') && beqList items items'
  | _, _ => false

def beqList : List (Tuple α) → List (Tuple α) → Bool
  | [], [] => true
  | t :: ts, u :: us => beq t u && beqList ts us
  | _, _ => false
end

theorem beqList_iff {ts : List (Tuple α)} (h : ∀ t ∈ ts, ∀ u, beq t u = true ↔ t = u)
    (us : List (Tuple α)) : beqList ts us = true ↔ ts = us := by
  induction ts generalizing us with
  | nil => cases us <;> simp [beqList]
  | cons t ts ih =>
    cases us with
    | nil => simp [beqList]
    | cons u us =>
      simp only [beqList, Bool.and_eq_true, List.cons.injEq]
      rw [h t (by simp), ih fun x hx => h x (by simp [hx])]

theorem beq_iff (t u : Tuple α) : beq t u = true ↔ t = u := by
  induction t using Tuple.induction generalizing u with
  | single kind item => cases u <;> simp [beq]
  | grouped kind item items ih => cases u <;> simp [beq, beqList_iff ih, and_assoc]

instance : DecidableEq (Tuple α) := fun t u => decidable_of_iff _ (beq_iff t u)

end

end Tuple

end ProgramInterchange.Record
