import ProgramInterchange.Proofs.Wire.Spelling

/-!
# Objects

The members of an object are read in any order. Unknown ones are passed over, and the fields that are left out are
absent.
-/

namespace ProgramInterchange.Wire

open ProgramInterchange.Byte ProgramInterchange.Scan

variable {ρ : Type}

/-! ### Members -/

theorem nextMember_close (first : Bool) {more : List Token} {text : List UInt8}
    (spaced : Spaced ([closeBrace] :: more) text) :
    ∃ rest shorter, nextMember first text = .ok (.closed ⟨rest, shorter⟩) ∧ Spaced more rest := by
  obtain ⟨rest, shorter, next, spaced⟩ := spaced.next? (by decide)
  refine ⟨rest, shorter, ?_, spaced⟩
  simp only [nextMember, next, if_true]
  rfl

theorem nextMember_quote (first : Bool) {content : List UInt8} {more : List Token} {text : List UInt8}
    (spaced : Spaced ((if first then [] else [[comma]]) ++ ((quote :: (content ++ [quote])) :: more)) text) :
    ∃ rest shorter, nextMember first text = .ok (.item ⟨content ++ quote :: rest, shorter⟩) ∧ Spaced more rest := by
  have other : quote ≠ closeBrace := by decide
  cases first with
  | true =>
    obtain ⟨rest, shorter, next, spaced⟩ := spaced.next?_quote
    refine ⟨rest, Nat.le_of_lt shorter, ?_, spaced⟩
    simp only [nextMember, next, if_neg other, if_true]
  | false =>
    obtain ⟨start, shorter, next, spaced⟩ := spaced.next? (by decide)
    obtain ⟨rest, shorter', next', spaced⟩ := spaced.next?_quote
    have otherComma : comma ≠ closeBrace := by decide
    have next : next? text = some (comma, ⟨start, shorter⟩) := next
    refine ⟨rest, Nat.le_of_lt (Nat.lt_trans shorter' shorter), ?_, spaced⟩
    simp only [nextMember, next, next', if_neg otherComma, Bool.false_eq_true, if_false, if_true]

theorem afterColon_colon {more : List Token} {text : List UInt8} (spaced : Spaced ([colon] :: more) text) :
    ∃ rest shorter, afterColon text = .ok ⟨rest, shorter⟩ ∧ Spaced more rest := by
  obtain ⟨rest, shorter, next, spaced⟩ := spaced.next? (by decide)
  refine ⟨rest, shorter, ?_, spaced⟩
  simp only [afterColon, next, if_true]
  rfl

theorem readMembers_unknown (read : Shape ρ → Reader Value) {fields : List (Field ρ)}
    (seen : List (String × Value)) (first : Bool) {key : String} {spelled : Token} {ts more : List Token}
    {text : List UInt8} (hk : Quoted key spelled) (unknown : key ∉ fields.map Field.key) (value : IsValue ts)
    (closes : Closes more)
    (spaced : Spaced ((if first then [] else [[comma]]) ++ (memberTokens spelled ts ++ more)) text) :
    ∃ rest, Spaced more rest ∧ (readMembers read fields seen first text).outcome =
      (readMembers read fields seen false rest).outcome := by
  obtain ⟨content, hc, rfl⟩ := hk
  obtain ⟨behind, _, next, spaced⟩ := nextMember_quote first spaced
  obtain ⟨_, keyRead⟩ := Scanned.outcome_eq_ok_iff.mp (text_spelled hc behind)
  obtain ⟨start, _, colonRead, spaced⟩ := afterColon_colon spaced
  obtain ⟨rest, _, skipped, spaced⟩ := skipValue_value value closes spaced
  have notFound : (fields.find? fun f => f.key = key) = none := by
    rw [List.find?_eq_none]
    intro f hf same
    exact unknown (of_decide_eq_true same ▸ List.mem_map_of_mem hf)
  refine ⟨rest, spaced, ?_⟩
  conv => lhs; rw [readMembers]
  simp only [next, keyRead, notFound, colonRead, skipped, Scanned.outcome_widen]

theorem readMembers_known (read : Shape ρ → Reader Value) {fields : List (Field ρ)} {f : Field ρ}
    {seen : List (String × Value)} (first : Bool) {spelled : Token} {ts more : List Token} {text : List UInt8}
    (hk : Quoted f.key spelled) (found : (fields.find? fun g => g.key = f.key) = some f)
    (fresh : seen.lookup f.key = none)
    (spaced : Spaced ((if first then [] else [[comma]]) ++ (memberTokens spelled ts ++ more)) text) :
    ∃ start, Spaced (ts ++ more) start ∧ (readMembers read fields seen first text).outcome =
      (read f.shape start).outcome.bind fun head =>
        (readMembers read fields (seen ++ [(f.key, head.1)]) false head.2).outcome := by
  obtain ⟨content, hc, rfl⟩ := hk
  obtain ⟨behind, _, next, spaced⟩ := nextMember_quote first spaced
  obtain ⟨_, keyRead⟩ := Scanned.outcome_eq_ok_iff.mp (text_spelled hc behind)
  obtain ⟨start, _, colonRead, spaced⟩ := afterColon_colon spaced
  have new : (seen.lookup f.key).isSome = false := by rw [fresh, Option.isSome_none]
  refine ⟨start, spaced, ?_⟩
  conv => lhs; rw [readMembers]
  simp only [next, keyRead, found, new, Bool.false_eq_true, if_false, colonRead]
  cases hv : read f.shape start with
  | error fault => simp only [Scanned.outcome, Except.bind]
  | ok head =>
    obtain ⟨value, left, hl⟩ := head
    simp only [Scanned.outcome_widen]
    rfl

/-- What the reader of members keeps of a field that it has read. -/
def keyed (entry : Field ρ × Value) : String × Value := (entry.1.key, entry.2)

theorem find?_key {fields : List (Field ρ)} {f : Field ρ} (nodup : (fields.map Field.key).Nodup)
    (hf : f ∈ fields) : (fields.find? fun g => g.key = f.key) = some f := by
  obtain ⟨before, after, rfl⟩ := List.append_of_mem hf
  rw [List.map_append, List.map_cons] at nodup
  refine List.find?_eq_some_iff_append.mpr ⟨decide_eq_true rfl, before, after, rfl, fun g hg => ?_⟩
  have apart := (List.nodup_append.mp nodup).2.2 _ (List.mem_map_of_mem hg) _ (List.mem_cons_self ..)
  rw [decide_eq_false apart]
  rfl

theorem lookup_eq_none {γ : Type} {key : String} {seen : List (String × γ)} (h : key ∉ seen.map Prod.fst) :
    seen.lookup key = none := by
  rw [List.lookup_eq_none_iff]
  intro entry he
  exact bne_iff_ne.mpr fun same => h (same ▸ List.mem_map_of_mem he)

theorem lookup_of_mem {γ : Type} {seen : List (String × γ)} (nodup : (seen.map Prod.fst).Nodup) {key : String}
    {v : γ} (h : (key, v) ∈ seen) : seen.lookup key = some v := by
  obtain ⟨before, after, rfl⟩ := List.append_of_mem h
  rw [List.map_append, List.map_cons] at nodup
  refine List.lookup_eq_some_iff.mpr ⟨before, after, rfl, fun entry he => bne_iff_ne.mpr ?_⟩
  exact ((List.nodup_append.mp nodup).2.2 _ (List.mem_map_of_mem he) _ (List.mem_cons_self ..)).symm

theorem readMembers_spelled [Format ρ] {read : Shape ρ → Reader Value} {budget : Nat} (hread : Reads read budget)
    {fields : List (Field ρ)} (nodup : (fields.map Field.key).Nodup) {members : List (Member ρ)}
    (hkeyed : ∀ m ∈ members, m.Keyed fields)
    (known : ∀ e ∈ members.filterMap Member.entry, e.1 ∈ fields)
    (each : ∀ m ∈ members, ∀ f v, m.entry = some (f, v) → Spells f.shape v m.tokens)
    {seen : List (String × Value)}
    (fresh : (seen.map Prod.fst ++ (members.filterMap Member.entry).map fun e => e.1.key).Nodup) (first : Bool)
    {more : List Token} {text : List UInt8}
    (spaced : Spaced (separated first (members.map fun m => memberTokens m.spelled m.tokens) ++
      [closeBrace] :: more) text) :
    Gives (readMembers read fields seen first text).outcome
      (∀ e ∈ members.filterMap Member.entry, e.2.nesting ≤ budget)
      (seen ++ (members.filterMap Member.entry).map keyed) more := by
  induction members generalizing seen first text with
  | nil =>
    obtain ⟨rest, _, next, spaced⟩ := nextMember_close first spaced
    refine .of_ok spaced ?_ nofun
    simp only [List.filterMap_nil, List.map_nil, List.append_nil]
    rw [readMembers, next]
    rfl
  | cons m members ih =>
    obtain ⟨⟨key, stands⟩, hmembers⟩ := List.forall_mem_cons.mp hkeyed
    obtain ⟨hm, hrest⟩ := List.forall_mem_cons.mp each
    have closes := closes_separated (.inr rfl) (members.map fun m => memberTokens m.spelled m.tokens) more
    simp only [List.map_cons, separated, List.append_assoc] at spaced
    cases entry : m.entry with
    | none =>
      rw [entry] at stands
      rw [List.filterMap_cons_none entry] at known fresh ⊢
      obtain ⟨rest, spaced, same⟩ := readMembers_unknown read seen first key stands.1 stands.2 closes spaced
      rw [same]
      exact ih hmembers known hrest fresh false spaced
    | some e =>
      obtain ⟨f, v⟩ := e
      rw [entry] at stands
      rw [List.filterMap_cons_some entry] at known fresh ⊢
      obtain ⟨hf, hknown⟩ := List.forall_mem_cons.mp known
      have unseen : f.key ∉ seen.map Prod.fst := by
        intro h
        exact (List.nodup_append.mp fresh).2.2 _ h _ (List.mem_cons_self ..) rfl
      have later : ((seen ++ [(f.key, v)]).map Prod.fst ++
          (members.filterMap Member.entry).map fun e => e.1.key).Nodup := by
        rwa [List.map_append, List.append_assoc]
      have hk : Quoted f.key m.spelled := by rwa [stands]
      obtain ⟨start, spaced, same⟩ := readMembers_known read first hk (find?_key nodup hf) (lookup_eq_none unseen) spaced
      have value := hread _ _ _ (hm f v entry) _ _ closes spaced
      have kept : seen ++ ((f, v) :: members.filterMap Member.entry).map keyed =
          seen ++ [(f.key, v)] ++ (members.filterMap Member.entry).map keyed := by
        rw [List.append_assoc]
        rfl
      rw [same, kept]
      refine (value.bind fun rest spaced => ih hmembers hknown hrest later false spaced).congr ?_
      rw [List.forall_mem_cons]

/-! ### The fields in their order -/

theorem arrange_of_lookup {fields : List (Field ρ)} {vs : List Value} {seen : List (String × Value)}
    (length : vs.length = fields.length)
    (each : ∀ e ∈ fields.zip vs, seen.lookup e.1.key = some e.2 ∨
      (seen.lookup e.1.key = none ∧ e.2 = .absent ∧ e.1.isRequired = false)) :
    arrange fields seen = .ok vs := by
  induction fields generalizing vs with
  | nil =>
    obtain rfl := List.eq_nil_of_length_eq_zero length
    rfl
  | cons f fields ih =>
    cases vs with
    | nil => cases length
    | cons v vs =>
      rw [List.zip_cons_cons, List.forall_mem_cons] at each
      obtain ⟨here, later⟩ := each
      have tail := ih (Nat.succ.inj length) later
      rcases here with found | ⟨missing, rfl, optional⟩
      · rw [arrange, found]
        simp only [tail]
        rfl
      · rw [arrange, missing]
        simp only [optional, Bool.false_eq_true, if_false, tail]
        rfl

/-- The members that were there, and those left out, are the fields of the record. -/
theorem arrange_keyed {fields : List (Field ρ)} (nodup : (fields.map Field.key).Nodup) {vs : List Value}
    {entries leftOut : List (Field ρ × Value)} (length : vs.length = fields.length)
    (optional : ∀ e ∈ leftOut, e.2 = .absent ∧ e.1.isRequired = false)
    (complete : (entries ++ leftOut).Perm (fields.zip vs)) :
    (entries.map fun e => e.1.key).Nodup ∧ arrange fields (entries.map keyed) = .ok vs := by
  have keys : (fields.zip vs).map (fun e => e.1.key) = fields.map Field.key := by
    have firsts : (fields.zip vs).map Prod.fst = fields := List.map_fst_zip (Nat.le_of_eq length.symm)
    have both := congrArg (List.map Field.key) firsts
    rwa [List.map_map] at both
  have distinct : ((entries ++ leftOut).map fun e => e.1.key).Nodup := by
    rw [(complete.map _).nodup_iff, keys]
    exact nodup
  rw [List.map_append] at distinct
  obtain ⟨own, -, apart⟩ := List.nodup_append.mp distinct
  have seenKeys : (entries.map keyed).map Prod.fst = entries.map fun e => e.1.key := List.map_map
  refine ⟨own, arrange_of_lookup length fun e he => ?_⟩
  rcases List.mem_append.mp (complete.mem_iff.mpr he) with there | left
  · have nodupSeen : ((entries.map keyed).map Prod.fst).Nodup := by rwa [seenKeys]
    exact .inl (lookup_of_mem nodupSeen (List.mem_map_of_mem there))
  · have missing : e.1.key ∉ (entries.map keyed).map Prod.fst := by
      rw [seenKeys]
      intro h
      exact apart _ h _ (List.mem_map_of_mem left) rfl
    exact .inr ⟨lookup_eq_none missing, optional e left⟩

/-- The keys of every record differ. -/
class LawfulFormat (ρ : Type) [Format ρ] : Prop where
  nodup_keys : ∀ name : ρ, ((Format.layout name).fields.map Field.key).Nodup

theorem readObject_spelled [Format ρ] [LawfulFormat ρ] {read : Shape ρ → Reader Value} {budget : Nat}
    (hread : Reads read budget) {name : ρ} {members : List (Member ρ)} {values : List Value}
    {leftOut : List (Field ρ × Value)} (hkeyed : ∀ m ∈ members, m.Keyed (Format.layout name).fields)
    (each : ∀ m ∈ members, ∀ f v, m.entry = some (f, v) → Spells f.shape v m.tokens)
    (optional : ∀ e ∈ leftOut, e.2 = .absent ∧ e.1.isRequired = false)
    (length : values.length = (Format.layout name).fields.length)
    (complete : (members.filterMap Member.entry ++ leftOut).Perm ((Format.layout name).fields.zip values))
    {more : List Token} {text : List UInt8}
    (spaced : Spaced (separated true (members.map fun m => memberTokens m.spelled m.tokens) ++
      [closeBrace] :: more) text) :
    Gives (readObject read (Format.layout name) text).outcome (∀ v ∈ values, v.nesting ≤ budget) values more := by
  have nodup := LawfulFormat.nodup_keys name
  obtain ⟨own, arranged⟩ := arrange_keyed nodup length optional complete
  have known : ∀ e ∈ members.filterMap Member.entry, e.1 ∈ (Format.layout name).fields := fun e he =>
    (List.of_mem_zip (complete.mem_iff.mp (List.mem_append_left _ he))).1
  have fresh : (([] : List (String × Value)).map Prod.fst ++
      (members.filterMap Member.entry).map fun e => e.1.key).Nodup := own
  -- a field that is left out is absent, and nests in nothing
  have fits : (∀ e ∈ members.filterMap Member.entry, e.2.nesting ≤ budget) ↔ ∀ v ∈ values, v.nesting ≤ budget := by
    have values : values = ((Format.layout name).fields.zip values).map Prod.snd :=
      (List.map_snd_zip (Nat.le_of_eq length)).symm
    rw [values, List.forall_mem_map]
    constructor
    · intro h e he
      rcases List.mem_append.mp (complete.mem_iff.mpr he) with there | left
      · exact h e there
      · rw [(optional e left).1]
        exact Nat.zero_le budget
    · intro h e he
      exact h e (complete.mem_iff.mp (List.mem_append_left _ he))
  have all := (readMembers_spelled hread nodup hkeyed known each fresh true spaced).congr fits
  rw [List.nil_append] at all
  constructor
  · intro holds
    obtain ⟨rest, spaced, outcome⟩ := all.ok holds
    obtain ⟨_, read⟩ := Scanned.outcome_eq_ok_iff.mp outcome
    refine ⟨rest, spaced, ?_⟩
    simp only [readObject, read, arranged]
    rfl
  · intro not
    simp only [readObject, Scanned.outcome_eq_error_iff.mp (all.limit not)]
    rfl

end ProgramInterchange.Wire
