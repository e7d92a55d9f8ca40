import ProgramInterchange.Proofs.Wire.Spelled

/-!
# Reading what has been written

The text of the document of a value is one of the spellings of the value, so it is read as the value if there are
brackets enough to be open at once.
-/

namespace ProgramInterchange.Wire

open ProgramInterchange.Byte ProgramInterchange.Scan
open ProgramInterchange.Json (renderItems renderMember renderMembers textBytes)

variable {ρ : Type} [Format ρ]

/-! ### The written text is a spelling -/

/-- The text is tokens that spell the value, without white space. -/
def SpelledBy (shape : Shape ρ) (v : Value) (text : List UInt8) : Prop :=
  ∃ ts, Spells shape v ts ∧ ts.flatten = text

theorem spelledBy_token {shape : Shape ρ} {v : Value} {t : Token} (h : Spells shape v [t]) : SpelledBy shape v t :=
  ⟨[t], h, List.append_nil t⟩

/-- How a field and its value are written. -/
def memberOf (entry : Field ρ × Value) : String × Json := (entry.1.key, document entry.1.shape entry.2)

theorem exists_items {item : Shape ρ} {vs : List Value}
    (each : ∀ v ∈ vs, SpelledBy item v (document item v).render) :
    ∃ items : List (Value × List Token), items.map Prod.fst = vs ∧ (∀ i ∈ items, Spells item i.1 i.2) ∧
      ∀ first, (separated first (items.map Prod.snd)).flatten = renderItems first (documents item vs) := by
  induction vs with
  | nil => exact ⟨[], rfl, nofun, fun first => by simp [separated, documents, renderItems]⟩
  | cons v vs ih =>
    obtain ⟨⟨ts, head, text⟩, tail⟩ := List.forall_mem_cons.mp each
    obtain ⟨items, same, spelled, texts⟩ := ih tail
    refine ⟨(v, ts) :: items, by rw [List.map_cons, same], List.forall_mem_cons.mpr ⟨head, spelled⟩, ?_⟩
    intro first
    rw [documents, renderItems, ← texts, ← text]
    cases first <;> simp [separated]

theorem exists_members (fields : List (Field ρ)) {entries : List (Field ρ × Value)}
    (each : ∀ e ∈ entries, SpelledBy e.1.shape e.2 (document e.1.shape e.2).render) :
    ∃ members : List (Member ρ), members.filterMap Member.entry = entries ∧ (∀ m ∈ members, m.Keyed fields) ∧
      (∀ m ∈ members, ∀ f v, m.entry = some (f, v) → Spells f.shape v m.tokens) ∧
      ∀ first, (separated first (members.map fun m => memberTokens m.spelled m.tokens)).flatten =
        renderMembers first (entries.map memberOf) := by
  induction entries with
  | nil => exact ⟨[], rfl, nofun, nofun, fun first => by simp [separated, renderMembers]⟩
  | cons e entries ih =>
    obtain ⟨⟨ts, head, text⟩, tail⟩ := List.forall_mem_cons.mp each
    obtain ⟨members, same, keyed, spelled, texts⟩ := ih tail
    let m : Member ρ := ⟨e.1.key, textBytes e.1.key, some e, ts⟩
    refine ⟨m :: members, ?_, List.forall_mem_cons.mpr ⟨⟨quoted_textBytes _, rfl⟩, keyed⟩,
      List.forall_mem_cons.mpr ⟨?_, spelled⟩, ?_⟩
    · have entry : m.entry = some e := rfl
      rw [List.filterMap_cons_some entry, same]
    · rintro f v ⟨⟩
      exact head
    · intro first
      simp only [List.map_cons, renderMembers, memberOf, renderMember, ← texts, ← text]
      cases first <;> simp [m, separated, memberTokens]

/-- The text that is written for a value is a spelling of it. -/
theorem spelledBy_document {shape : Shape ρ} {v : Value} (h : Conforms shape v) :
    SpelledBy shape v (document shape v).render := by
  induction h with
  | text s => exact spelledBy_token (.text (quoted_textBytes s))
  | flag b => exact spelledBy_token (.flag b)
  | code title c => exact spelledBy_token (.code title c)
  | count n => exact spelledBy_token (.count n)
  | @choice variants name index found =>
    obtain ⟨hi, hname, -⟩ := List.idxOf?_eq_some_iff.mp found
    have written : (document (.choice variants : Shape ρ) (.choice index)).render = textBytes name := by
      simp [document, Shape.base, Json.render, hi, hname]
    rw [written]
    exact spelledBy_token (.choice found (quoted_textBytes name))
  | absent shape => exact spelledBy_token (.absent shape)
  | present known there ih =>
    obtain ⟨ts, spelled, text⟩ := ih
    rw [document_nullable]
    exact ⟨ts, .present spelled there, text⟩
  | @list item vs each ih =>
    obtain ⟨items, rfl, spelled, texts⟩ := exists_items ih
    refine ⟨_, .list items spelled, ?_⟩
    simp [arrayTokens, texts, document, Shape.base, Json.render]
  | @record name values complete each ih =>
    have parts : ∀ e ∈ written (Format.layout name).fields values,
        SpelledBy e.1.shape e.2 (document e.1.shape e.2).render := fun e he => ih e (mem_of_mem_written he)
    obtain ⟨members, same, keyed, spelled, texts⟩ := exists_members (Format.layout name).fields parts
    have optional : ∀ e ∈ ((Format.layout name).fields.zip values).filter fun e => leftOut e.1 e.2,
        e.2 = .absent ∧ e.1.isRequired = false := by
      intro e he
      obtain ⟨there, left⟩ := List.mem_filter.mp he
      have absent := eq_absent_of_leftOut left
      have conforms := each e there
      rw [absent] at conforms
      exact ⟨absent, by rw [Field.isRequired, conforms.isNullable]; rfl⟩
    have all : (members.filterMap Member.entry ++
        ((Format.layout name).fields.zip values).filter fun e => leftOut e.1 e.2).Perm
          ((Format.layout name).fields.zip values) := by
      rw [same]
      exact List.perm_append_comm.trans (List.filter_append_perm ..)
    refine ⟨_, .members members _ keyed spelled optional complete all, ?_⟩
    have object : Wire.members (Format.layout name).fields values =
        (written (Format.layout name).fields values).map memberOf := members_eq_map _ _
    simp [objectTokens, texts, document, Shape.base, Json.render, object]

theorem spelling_document {shape : Shape ρ} {v : Value} (h : Conforms shape v) :
    Spelling shape v (document shape v).render := by
  obtain ⟨ts, spells, text⟩ := spelledBy_document h
  exact ⟨ts, spells, text ▸ Spaced.flatten ts⟩

/-! ### Reading -/

variable [LawfulFormat ρ]

/-- No two values of a shape are written alike, however deep they nest. -/
theorem eq_of_render_eq {shape : Shape ρ} {v w : Value} (hv : Conforms shape v) (hw : Conforms shape w)
    (h : (document shape v).render = (document shape w).render) : v = w := by
  -- both are read back where the reader follows brackets as deep as either of them goes
  have back (u : Value) (hu : Conforms shape u) (deep : u.nesting ≤ max v.nesting w.nesting) :
      ∃ rest, (readWithin (max v.nesting w.nesting) shape (document shape u).render).outcome = .ok (u, rest) := by
    obtain ⟨ts, spelled, spaced⟩ := spelling_document hu
    rw [← List.append_nil ts] at spaced
    obtain ⟨rest, -, outcome⟩ := (reads_readWithin _ _ _ _ spelled _ _ closes_nil spaced).ok deep
    exact ⟨rest, outcome⟩
  obtain ⟨rest, first⟩ := back v hv (Nat.le_max_left ..)
  obtain ⟨rest', second⟩ := back w hw (Nat.le_max_right ..)
  rw [h, second] at first
  exact (Prod.mk.inj (Except.ok.inj first)).1.symm

theorem readAll_render {shape : Shape ρ} {v : Value} (hc : Conforms shape v) :
    readAll shape (document shape v).render =
      if v.nesting ≤ nestingLimit then .ok v else .error .recursionLimit :=
  readAll_spelling (spelling_document hc)

end ProgramInterchange.Wire
