import ProgramInterchange.Proofs.Wire.Conforms
import ProgramInterchange.Wire.Reader

/-!
# What is read nests within the budget

However a text spells its records, and whatever other members it has, a value read from it nests in no more
brackets than might be open at once.
-/

namespace ProgramInterchange.Wire

open ProgramInterchange.Byte ProgramInterchange.Scan

variable {α β ρ : Type}

/-- All that the reader gives has the property. -/
def Yields (read : Reader α) (P : α → Prop) : Prop := ∀ input a rest, read input = .ok (a, rest) → P a

/-! ### Outcomes taken apart -/

theorem exists_of_widen {input middle : List UInt8} {h : middle.length ≤ input.length} {s : Scanned middle α}
    {a : α} {rest : Rest input} (hs : s.widen h = .ok (a, rest)) : ∃ left, s = .ok (a, left) := by
  cases s with
  | error fault => cases hs
  | ok result =>
    obtain ⟨b, left⟩ := result
    cases hs
    exact ⟨left, rfl⟩

theorem exists_of_map {input : List UInt8} {f : α → β} {s : Scanned input α} {b : β} {rest : Rest input}
    (hs : s.map f = .ok (b, rest)) : ∃ a left, s = .ok (a, left) ∧ b = f a := by
  cases s with
  | error fault => cases hs
  | ok result =>
    cases hs
    exact ⟨_, _, rfl, rfl⟩

/-! ### Lists and records -/

theorem readItems_yields {item : Reader α} {P : α → Prop} (each : Yields item P) {first : Bool}
    {input : List UInt8} {as : List α} {rest : Rest input} (h : readItems item first input = .ok (as, rest)) :
    ∀ a ∈ as, P a := by
  fun_induction readItems item first input generalizing as with
  | case2 =>
    cases h
    intro a ha
    cases ha
  | case4 first input start hs next value behind hb head ih =>
    obtain ⟨left, h⟩ := exists_of_widen h
    obtain ⟨values, left, hv, rfl⟩ := exists_of_map h
    exact List.forall_mem_cons.mpr ⟨each _ _ _ head, ih hv⟩
  | _ => cases h

variable {P : Value → Prop}

theorem readFields_yields {read : Shape ρ → Reader Value} (absent : P .absent)
    (each : ∀ shape, Yields (read shape) P) {layout : Layout ρ} {index : Nat} {fields : List (Field ρ)}
    {first : Bool} {input : List UInt8} {vs : List Value} {rest : Rest input}
    (h : readFields read layout index fields first input = .ok (vs, rest)) : ∀ v ∈ vs, P v := by
  fun_induction readFields read layout index fields first input generalizing vs with
  | case2 =>
    cases h
    intro v hv
    cases hv
  | case4 index f fs first input left closed defaulted ih =>
    -- the list ends before a field that may be absent
    obtain ⟨values, left, hv, rfl⟩ := exists_of_map h
    exact List.forall_mem_cons.mpr ⟨absent, ih hv⟩
  | case7 index f fs first input start hs next value behind hb head ih =>
    -- a field is read
    obtain ⟨left, h⟩ := exists_of_widen h
    obtain ⟨values, left, hv, rfl⟩ := exists_of_map h
    exact List.forall_mem_cons.mpr ⟨each _ _ _ _ head, ih hv⟩
  | _ => cases h

theorem readMembers_yields {read : Shape ρ → Reader Value} (each : ∀ shape, Yields (read shape) P)
    {fields : List (Field ρ)} {seen members : List (String × Value)} {first : Bool} {input : List UInt8}
    {rest : Rest input} (hseen : ∀ entry ∈ seen, P entry.2)
    (h : readMembers read fields seen first input = .ok (members, rest)) : ∀ entry ∈ members, P entry.2 := by
  fun_induction readMembers read fields seen first input generalizing members with
  | case2 =>
    cases h
    exact hseen
  | case6 seen first input start hs next key behindKey hk text other behindColon hc colon behind hb skipped
      ih =>
    -- an unknown member leaves nothing behind, however deep it nests
    obtain ⟨left, h⟩ := exists_of_widen h
    exact ih hseen h
  | case10 seen first input start hs next key behindKey hk text f known new behindColon hc colon value
      behind hb head ih =>
    -- a known member is read
    obtain ⟨left, h⟩ := exists_of_widen h
    have more : ∀ entry ∈ seen ++ [(key, value)], P entry.2 := by
      intro entry he
      rcases List.mem_append.mp he with he | he
      · exact hseen entry he
      · obtain rfl := List.mem_singleton.mp he
        exact each _ _ _ _ head
    exact ih more h
  | _ => cases h

theorem mem_of_lookup {γ : Type} {key : String} {seen : List (String × γ)} {v : γ}
    (h : seen.lookup key = some v) : (key, v) ∈ seen := by
  obtain ⟨before, after, rfl, -⟩ := List.lookup_eq_some_iff.mp h
  exact List.mem_append_right before (List.mem_cons_self ..)

theorem exists_of_except_map {f : α → β} {x : Except WireFault α} {b : β} (h : x.map f = .ok b) :
    ∃ a, x = .ok a ∧ b = f a := by
  cases x with
  | error fault => cases h
  | ok a =>
    cases h
    exact ⟨a, rfl, rfl⟩

theorem arrange_yields (absent : P .absent) {fields : List (Field ρ)} {seen : List (String × Value)}
    {vs : List Value} (hseen : ∀ entry ∈ seen, P entry.2) (h : arrange fields seen = .ok vs) :
    ∀ v ∈ vs, P v := by
  induction fields generalizing vs with
  | nil =>
    cases h
    intro v hv
    cases hv
  | cons f fs ih =>
    rw [arrange] at h
    cases hl : seen.lookup f.key with
    | some value =>
      rw [hl] at h
      obtain ⟨values, hv, rfl⟩ := exists_of_except_map h
      exact List.forall_mem_cons.mpr ⟨hseen _ (mem_of_lookup hl), ih hv⟩
    | none =>
      rw [hl] at h
      by_cases required : f.isRequired = true
      · simp [required] at h
      · simp only [required, Bool.false_eq_true, if_false] at h
        obtain ⟨values, hv, rfl⟩ := exists_of_except_map h
        exact List.forall_mem_cons.mpr ⟨absent, ih hv⟩

theorem readObject_yields {read : Shape ρ → Reader Value} (absent : P .absent)
    (each : ∀ shape, Yields (read shape) P) {layout : Layout ρ} :
    Yields (readObject read layout) fun vs => ∀ v ∈ vs, P v := by
  intro input vs rest h
  unfold readObject at h
  split at h
  · cases h
  · split at h
    · cases h
    · rename_i members left hm result values ha
      cases h
      have none : ∀ entry ∈ ([] : List (String × Value)), P entry.2 := fun _ he => by cases he
      exact arrange_yields absent (readMembers_yields each none hm) ha

/-! ### All shapes -/

theorem eq_of_afterWord {input letters : List UInt8} {value v : Value} {r rest : Rest input}
    (h : afterWord value letters r = .ok (v, rest)) : v = value := by
  unfold afterWord at h
  split at h
  · cases h
  · cases h
    rfl

theorem readFlag_flat : Yields readFlag fun v => v.nesting = 0 := by
  intro input v rest h
  unfold readFlag at h
  split at h
  · cases h
  · split at h
    · rw [eq_of_afterWord h]
      rfl
    · split at h
      · rw [eq_of_afterWord h]
        rfl
      · cases h

theorem readTaggedChoice_flat (variants : List String) :
    Yields (readTaggedChoice variants) fun v => v.nesting = 0 := by
  intro input v rest h
  unfold readTaggedChoice at h
  repeat' split at h
  all_goals cases h
  rfl

/-- What is read inside a bracket nests within one bracket fewer, if there may be one. -/
def NestsInside (inside : Option (Shape ρ → Reader Value)) (budget : Nat) : Prop :=
  match inside with
  | none => True
  | some read => ∃ n, budget = n + 1 ∧ ∀ shape, Yields (read shape) fun v => v.nesting ≤ n

variable [Format ρ]

theorem readShape_yields {inside : Option (Shape ρ → Reader Value)} {budget : Nat}
    (hin : NestsInside inside budget) (shape : Shape ρ) :
    Yields (readShape inside shape) fun v => v.nesting ≤ budget := by
  intro input v rest h
  induction shape with
  | text =>
    obtain ⟨s, left, -, rfl⟩ := exists_of_map h
    exact Nat.zero_le budget
  | flag =>
    have flat := readFlag_flat _ _ _ h
    omega
  | code title =>
    obtain ⟨n, left, -, rfl⟩ := exists_of_map h
    exact Nat.zero_le budget
  | count =>
    obtain ⟨n, left, -, rfl⟩ := exists_of_map h
    exact Nat.zero_le budget
  | choice variants =>
    have flat : v.nesting = 0 := by
      simp only [readShape] at h
      repeat' split at h
      all_goals first
        | cases h; rfl
        | cases h
        | obtain ⟨left, h⟩ := exists_of_widen h
          exact readTaggedChoice_flat variants _ _ _ h
    omega
  | nullable shape ih =>
    simp only [readShape] at h
    split at h
    · cases h
    · split at h
      · rw [eq_of_afterWord h]
        exact Nat.zero_le budget
      · exact ih h
  | list item =>
    simp only [readShape] at h
    split at h
    · cases h
    · split at h
      · cases inside with
        | none => cases h
        | some read =>
          obtain ⟨n, rfl, each⟩ := hin
          obtain ⟨left, h⟩ := exists_of_widen h
          obtain ⟨items, left, hi, rfl⟩ := exists_of_map h
          exact Value.nesting_list_le_iff.mpr (readItems_yields (each item) hi)
      · cases h
  | record name =>
    simp only [readShape] at h
    split at h
    · cases h
    · split at h
      · cases inside with
        | none => cases h
        | some read =>
          obtain ⟨n, rfl, each⟩ := hin
          obtain ⟨left, h⟩ := exists_of_widen h
          obtain ⟨values, left, hv, rfl⟩ := exists_of_map h
          exact Value.nesting_record_le_iff.mpr (readFields_yields (Nat.zero_le n) each hv)
      · split at h
        · cases inside with
          | none => cases h
          | some read =>
            obtain ⟨n, rfl, each⟩ := hin
            obtain ⟨left, h⟩ := exists_of_widen h
            obtain ⟨values, left, hv, rfl⟩ := exists_of_map h
            exact Value.nesting_record_le_iff.mpr (readObject_yields (Nat.zero_le n) each _ _ _ hv)
        · cases h

/-- A value that is read nests within the budget. -/
theorem readWithin_yields (budget : Nat) (shape : Shape ρ) :
    Yields (readWithin budget shape) fun v => v.nesting ≤ budget := by
  induction budget generalizing shape with
  | zero =>
    have inside : NestsInside (none : Option (Shape ρ → Reader Value)) 0 := trivial
    exact readShape_yields inside shape
  | succ budget ih =>
    have inside : NestsInside (some (readWithin budget : Shape ρ → Reader Value)) (budget + 1) :=
      ⟨budget, rfl, ih⟩
    exact readShape_yields inside shape

theorem nesting_le_of_readAll {shape : Shape ρ} {input : List UInt8} {v : Value}
    (h : readAll shape input = .ok v) : v.nesting ≤ nestingLimit := by
  unfold readAll at h
  split at h
  · cases h
  · split at h
    · cases h
      exact readWithin_yields nestingLimit shape _ _ _ ‹_›
    · cases h

end ProgramInterchange.Wire
