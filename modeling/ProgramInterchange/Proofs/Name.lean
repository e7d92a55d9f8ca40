import Mathlib.Data.Set.Function
import ProgramInterchange.Proofs.Tree.WellFormed

/-!
# Names and their display

A display is read back by splitting it at its last dot. So a name comes back from its display exactly if both
parts are identifiers and the local one has no dot, and a text is the display of such a name unless it has no
dot or nothing on one side of its last dot.
-/

namespace ProgramInterchange

/-! ### The last dot -/

theorem splitLastDot_eq_none_iff {cs : List Char} : splitLastDot cs = none ↔ '.' ∉ cs := by
  induction cs with
  | nil => simp [splitLastDot]
  | cons c cs ih =>
    rw [splitLastDot, List.mem_cons, not_or, ← ih]
    cases h : splitLastDot cs with
    | some parts => simp
    | none => by_cases hc : c = '.' <;> simp [hc, eq_comm]

/-- Of the dots of a text the one with no dot behind it is found. -/
theorem splitLastDot_append {front back : List Char} (h : '.' ∉ back) :
    splitLastDot (front ++ '.' :: back) = some (front, back) := by
  have behind : splitLastDot back = none := splitLastDot_eq_none_iff.mpr h
  induction front with
  | nil =>
    rw [List.nil_append, splitLastDot, behind]
    rfl
  | cons c front ih => rw [List.cons_append, splitLastDot, ih]

theorem splitLastDot_eq_some_iff {cs front back : List Char} :
    splitLastDot cs = some (front, back) ↔ cs = front ++ '.' :: back ∧ '.' ∉ back := by
  constructor
  · intro h
    have dotted : '.' ∈ cs := by
      by_contra hn
      rw [splitLastDot_eq_none_iff.mpr hn] at h
      cases h
    -- the text behind the last dot is found from the right, where the first dot stands
    obtain ⟨left, right, hcs, hright⟩ := List.eq_append_cons_of_mem (List.mem_reverse.mpr dotted)
    have split : cs = right.reverse ++ '.' :: left.reverse := by
      rw [← List.reverse_reverse cs, hcs]
      simp
    have last : '.' ∉ left.reverse := by rwa [List.mem_reverse]
    rw [split, splitLastDot_append last] at h
    obtain ⟨rfl, rfl⟩ := Prod.mk.inj (Option.some.inj h)
    exact ⟨split, last⟩
  · rintro ⟨rfl, h⟩
    exact splitLastDot_append h

namespace QualifiedName

/-! ### Names that are read back -/

/-- Both parts are identifiers, and the local one has no dot. -/
def Readable (q : QualifiedName) : Prop := q.WellFormed ∧ '.' ∉ q.name.toList

theorem toList_display (q : QualifiedName) : q.display.toList = q.space.toList ++ '.' :: q.name.toList := by
  simp [display]

theorem parse?_display {q : QualifiedName} (h : q.Readable) : parse? q.display = some q := by
  obtain ⟨⟨hspace, hname⟩, hdot⟩ := h
  obtain ⟨c, front, hfront⟩ := List.exists_cons_of_ne_nil (mt String.toList_eq_nil_iff.mp hspace)
  obtain ⟨d, back, hback⟩ := List.exists_cons_of_ne_nil (mt String.toList_eq_nil_iff.mp hname)
  have split : splitLastDot q.display.toList = some (c :: front, d :: back) := by
    rw [toList_display, splitLastDot_append hdot, hfront, hback]
  have space : String.ofList (c :: front) = q.space := by rw [← hfront, String.ofList_toList]
  have name : String.ofList (d :: back) = q.name := by rw [← hback, String.ofList_toList]
  rw [parse?, split]
  simp only [space, name]

theorem display_of_parse? {s : String} {q : QualifiedName} (h : parse? s = some q) :
    q.Readable ∧ q.display = s := by
  unfold parse? at h
  split at h
  case h_1 c front d back split =>
    obtain rfl := Option.some.inj h
    obtain ⟨text, last⟩ := splitLastDot_eq_some_iff.mp split
    refine ⟨⟨⟨by simp, by simp⟩, by simpa using last⟩, ?_⟩
    apply String.toList_inj.mp
    rw [toList_display, String.toList_ofList, String.toList_ofList, text]
  case h_2 => cases h

theorem parse?_eq_some_iff {s : String} {q : QualifiedName} :
    parse? s = some q ↔ q.Readable ∧ q.display = s := by
  constructor
  · exact display_of_parse?
  · rintro ⟨h, rfl⟩
    exact parse?_display h

/-- No name is read from a text without dots, and from one in which its last dot is the first character or the
last one. -/
theorem parse?_eq_none_iff {s : String} :
    parse? s = none ↔ '.' ∉ s.toList ∨
      ∃ front back, s.toList = front ++ '.' :: back ∧ '.' ∉ back ∧ (front = [] ∨ back = []) := by
  rw [← splitLastDot_eq_none_iff]
  simp only [← and_assoc, ← splitLastDot_eq_some_iff]
  unfold parse?
  cases split : splitLastDot s.toList with
  | none => simp
  | some parts =>
    obtain ⟨front, back⟩ := parts
    cases front <;> cases back <;> simp

/-- Names that are read back are told apart by their displays. -/
theorem display_injOn : Set.InjOn display {q | q.Readable} := by
  intro q hq r hr h
  have back := parse?_display hq
  rw [h, parse?_display hr] at back
  exact (Option.some.inj back).symm

theorem checked_of_readable {q : QualifiedName} (h : q.Readable) : checked q.space q.name = .ok q := by
  obtain ⟨⟨hspace, hname⟩, -⟩ := h
  rw [checked, requireIdentifier, if_neg hspace]
  show (requireIdentifier "QualifiedName.name" q.name >>= _) = _
  rw [requireIdentifier, if_neg hname]
  rfl

/-- What is read from texts are the names with non-empty parts and without a dot in the local one, each from its
display and from no other text. -/
theorem parse?_inverts_display (s : String) (q : QualifiedName) :
    (parse? s = some q ↔ (q.space ≠ "" ∧ q.name ≠ "") ∧ '.' ∉ q.name.toList ∧ q.display = s) ∧
      (parse? q.display = some q ↔ (q.space ≠ "" ∧ q.name ≠ "") ∧ '.' ∉ q.name.toList) ∧
      Set.InjOn display {r | (r.space ≠ "" ∧ r.name ≠ "") ∧ '.' ∉ r.name.toList} ∧
      (parse? s = some q → checked q.space q.name = .ok q) ∧
      (parse? s = none ↔ '.' ∉ s.toList ∨
        ∃ front back, s.toList = front ++ '.' :: back ∧ '.' ∉ back ∧ (front = [] ∨ back = [])) := by
  refine ⟨?_, ?_, display_injOn, ?_, parse?_eq_none_iff⟩
  · rw [parse?_eq_some_iff, Readable, and_assoc]
    rfl
  · constructor
    · intro h
      exact (display_of_parse? h).1
    · exact parse?_display
  · intro h
    exact checked_of_readable (display_of_parse? h).1

theorem parse?_nested_namespace :
    let q : QualifiedName := ⟨"Microsoft..Quantum", "H"⟩
    parse? "Microsoft..Quantum.H" = some q ∧ q.display = "Microsoft..Quantum.H" ∧
      checked q.space q.name = .ok q ∧ parse? "Microsoft." = none := by
  intro q
  have read : parse? "Microsoft..Quantum.H" = some q := by decide
  obtain ⟨accepted, -, -, kept, -⟩ := parse?_inverts_display "Microsoft..Quantum.H" q
  exact ⟨read, (accepted.mp read).2.2, kept read, by decide⟩

end QualifiedName

end ProgramInterchange
