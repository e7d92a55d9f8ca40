import ProgramInterchange.Wire.Writer

/-!
# Values of a shape

Which values belong to a shape, how deep they nest, and what their documents look like.
-/

namespace ProgramInterchange.Wire

/-! ### Nesting -/

mutual
/-- How many lists and records of a value are open at once, at most. -/
def Value.nesting : Value → Nat
  | .list items => Value.nestingOf items + 1
  | .record fields => Value.nestingOf fields + 1
  | _ => 0

def Value.nestingOf : List Value → Nat
  | [] => 0
  | v :: vs => max v.nesting (nestingOf vs)
end

theorem Value.nestingOf_cons_le_iff {v : Value} {vs : List Value} {n : Nat} :
    nestingOf (v :: vs) ≤ n ↔ v.nesting ≤ n ∧ nestingOf vs ≤ n := by
  rw [nestingOf, Nat.max_le]

theorem Value.nestingOf_le_iff {vs : List Value} {n : Nat} :
    nestingOf vs ≤ n ↔ ∀ v ∈ vs, v.nesting ≤ n := by
  induction vs with
  | nil => simp [nestingOf]
  | cons v vs ih => rw [nestingOf_cons_le_iff, ih, List.forall_mem_cons]

theorem Value.nesting_list_le_iff {vs : List Value} {n : Nat} :
    (list vs).nesting ≤ n + 1 ↔ ∀ v ∈ vs, v.nesting ≤ n := by
  rw [nesting, Nat.add_le_add_iff_right, nestingOf_le_iff]

theorem Value.nesting_record_le_iff {vs : List Value} {n : Nat} :
    (record vs).nesting ≤ n + 1 ↔ ∀ v ∈ vs, v.nesting ≤ n := by
  rw [nesting, Nat.add_le_add_iff_right, nestingOf_le_iff]

/-! ### Fields that are written -/

variable {ρ : Type}

/-- Whether a field is left out because it is absent. -/
def leftOut (f : Field ρ) (v : Value) : Bool :=
  match v with
  | .absent => f.omitted
  | _ => false

/-- The fields of a record that are written, with their values. -/
def written (fs : List (Field ρ)) (vs : List Value) : List (Field ρ × Value) :=
  (fs.zip vs).filter fun entry => !leftOut entry.1 entry.2

theorem written_cons (f : Field ρ) (fs : List (Field ρ)) (v : Value) (vs : List Value) :
    written (f :: fs) (v :: vs) =
      if leftOut f v then written fs vs else (f, v) :: written fs vs := by
  rw [written, List.zip_cons_cons, List.filter_cons, ← written]
  cases leftOut f v <;> rfl

theorem mem_of_mem_written {fs : List (Field ρ)} {vs : List Value} {entry : Field ρ × Value}
    (h : entry ∈ written fs vs) : entry ∈ fs.zip vs :=
  (List.mem_filter.mp h).1

theorem eq_absent_of_leftOut {f : Field ρ} {v : Value} (h : leftOut f v = true) : v = .absent := by
  cases v with
  | absent => rfl
  | _ => simp [leftOut] at h

/-- What is left out nests in nothing. -/
theorem nestingOf_written {fs : List (Field ρ)} {vs : List Value} (h : vs.length = fs.length) :
    Value.nestingOf ((written fs vs).map Prod.snd) = Value.nestingOf vs := by
  induction fs generalizing vs with
  | nil =>
    have none := List.eq_nil_of_length_eq_zero h
    rw [none]
    rfl
  | cons f fs ih =>
    cases vs with
    | nil => simp at h
    | cons v vs =>
      have tail := ih (Nat.succ.inj h)
      rw [written_cons, Value.nestingOf, ← tail]
      by_cases hl : leftOut f v
      · rw [if_pos hl, eq_absent_of_leftOut hl]
        exact (Nat.zero_max _).symm
      · rw [if_neg hl]
        rfl

/-! ### Shapes -/

variable [Format ρ]

inductive Conforms : Shape ρ → Value → Prop
  | text (s : String) : Conforms .text (.text s)
  | flag (b : Bool) : Conforms .flag (.flag b)
  | code (title : String) (c : UInt16) : Conforms (.code title) (.code c)
  | count (n : UInt32) : Conforms .count (.count n)
  | choice {variants : List String} {name : String} {index : Nat}
    (found : variants.idxOf? name = some index) : Conforms (.choice variants) (.choice index)
  | absent (shape : Shape ρ) : Conforms (.nullable shape) .absent
  | present {shape : Shape ρ} {v : Value} (known : Conforms shape v) (there : v ≠ .absent) :
    Conforms (.nullable shape) v
  | list {item : Shape ρ} {items : List Value} (each : ∀ v ∈ items, Conforms item v) :
    Conforms (.list item) (.list items)
  | record {name : ρ} {values : List Value}
    (complete : values.length = (Format.layout name).fields.length)
    (each : ∀ entry ∈ (Format.layout name).fields.zip values, Conforms entry.1.shape entry.2) :
    Conforms (.record name) (.record values)

theorem Conforms.isNullable {shape : Shape ρ} (h : Conforms shape .absent) : shape.isNullable = true := by
  cases h <;> rfl

/-! ### Documents -/

theorem document_nullable (shape : Shape ρ) (v : Value) :
    document (.nullable shape) v = document shape v := by
  cases v <;> simp only [document, Shape.base]

theorem document_base (shape : Shape ρ) (v : Value) : document shape.base v = document shape v := by
  induction shape with
  | nullable shape ih => rw [Shape.base, ih, document_nullable]
  | _ => rfl

theorem documents_eq_map (item : Shape ρ) (vs : List Value) : documents item vs = vs.map (document item) := by
  induction vs with
  | nil => rfl
  | cons v vs ih => rw [documents, ih, List.map_cons]

theorem members_eq_map (fs : List (Field ρ)) (vs : List Value) :
    members fs vs = (written fs vs).map fun entry => (entry.1.key, document entry.1.shape entry.2) := by
  induction fs generalizing vs with
  | nil => simp only [members, written, List.zip_nil_left, List.filter_nil, List.map_nil]
  | cons f fs ih =>
    cases vs with
    | nil => simp only [members, written, List.zip_nil_right, List.filter_nil, List.map_nil]
    | cons v vs =>
      rw [written_cons]
      cases v with
      | absent =>
        rw [members, ih, leftOut]
        cases f.omitted <;> rfl
      | _ => simp only [members, ih, leftOut, Bool.false_eq_true, if_false, List.map_cons]

theorem nestingItems_documents {item : Shape ρ} {vs : List Value}
    (each : ∀ v ∈ vs, (document item v).nesting = v.nesting) :
    Json.nestingItems (documents item vs) = Value.nestingOf vs := by
  induction vs with
  | nil => rfl
  | cons v vs ih =>
    obtain ⟨head, tail⟩ := List.forall_mem_cons.mp each
    rw [documents, Json.nestingItems, Value.nestingOf, head, ih tail]

theorem nestingMembers_map {entries : List (Field ρ × Value)}
    (each : ∀ entry ∈ entries, (document entry.1.shape entry.2).nesting = entry.2.nesting) :
    Json.nestingMembers (entries.map fun entry => (entry.1.key, document entry.1.shape entry.2)) =
      Value.nestingOf (entries.map Prod.snd) := by
  induction entries with
  | nil => rfl
  | cons entry entries ih =>
    obtain ⟨head, tail⟩ := List.forall_mem_cons.mp each
    rw [List.map_cons, List.map_cons, Json.nestingMembers, Json.nestingMember, Value.nestingOf, head, ih tail]

/-- A value nests as deep as its document. -/
theorem nesting_document {shape : Shape ρ} {v : Value} (h : Conforms shape v) :
    (document shape v).nesting = v.nesting := by
  induction h with
  | present known there ih => rwa [document_nullable]
  | @list item items each ih =>
    have inside := nestingItems_documents ih
    simp only [document, Shape.base, Json.nesting, Value.nesting, inside]
  | @record name values complete each ih =>
    have inside : Json.nestingMembers (members (Format.layout name).fields values) = Value.nestingOf values := by
      rw [members_eq_map, nestingMembers_map fun entry he => ih entry (mem_of_mem_written he),
        nestingOf_written complete]
    simp only [document, Shape.base, Json.nesting, Value.nesting, inside]
  | _ => simp only [document, Shape.base, Json.nesting, Value.nesting]

end ProgramInterchange.Wire
