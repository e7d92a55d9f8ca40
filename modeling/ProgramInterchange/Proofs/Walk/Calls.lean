import ProgramInterchange.Fault

/-!
# The calls of a computation

A computation that is made of calls may carry a state along and may fail in any of them. `Calls` says what it means
to make some calls one after the other, up to the first that fails. `Follows` says of a computation that it does
just that; it follows the steps of the computation, so a walk gets its law from the laws of its steps. `FollowsUpTo`
says it of a computation that may also come to faults between its calls.
-/

namespace ProgramInterchange.Walk

variable {σ α β γ δ : Type}

/-- A computation with a state, which a failure leaves as it was then. -/
abbrev Stateful (σ : Type) := ExceptT Fault (StateM σ)

/-- What the computation gives in a state, and the state it leaves. -/
def Stateful.outcome (x : Stateful σ α) (s : σ) : Except Fault α × σ := (ExceptT.run x).run s

/-- The same computation, which also puts `c` behind the list that is kept beside the state. -/
def listing (c : γ) (x : Stateful σ α) : Stateful (σ × List γ) α :=
  ExceptT.mk fun s => ((x.outcome s.1).1, ((x.outcome s.1).2, s.2 ++ [c]))

theorem outcome_pure (a : α) (s : σ) : Stateful.outcome (pure a : Stateful σ α) s = (.ok a, s) := rfl

theorem outcome_bind_of_ok {x : Stateful σ α} {next : α → Stateful σ β} {a : α} {s s' : σ}
    (h : x.outcome s = (.ok a, s')) : (x >>= next).outcome s = (next a).outcome s' := by
  have first : (ExceptT.run x).run s = (.ok a, s') := h
  unfold Stateful.outcome
  rw [ExceptT.run_bind, StateT.run_bind, first]
  rfl

theorem outcome_bind_of_error {x : Stateful σ α} {next : α → Stateful σ β} {fault : Fault} {s s' : σ}
    (h : x.outcome s = (.error fault, s')) : (x >>= next).outcome s = (.error fault, s') := by
  have first : (ExceptT.run x).run s = (.error fault, s') := h
  unfold Stateful.outcome
  rw [ExceptT.run_bind, StateT.run_bind, first]
  rfl

/-! ### Calls one after the other -/

/-- From a state, calls are made for the arguments of a list from left to right, each in the state that the one
before has left. The calls made are those up to the first that fails, whose fault is the outcome; when none fails,
the outcome is what they give. -/
inductive Calls (call : γ → Stateful σ δ) :
    σ → List γ → (made : List γ) → Except Fault (List δ) → σ → Prop
  | done (s : σ) : Calls call s [] [] (.ok []) s
  | failed {s s' : σ} {c : γ} {cs : List γ} {fault : Fault} (first : (call c).outcome s = (.error fault, s')) :
    Calls call s (c :: cs) [c] (.error fault) s'
  | next {s s' s'' : σ} {c : γ} {cs made : List γ} {d : δ} {outcome : Except Fault (List δ)}
    (first : (call c).outcome s = (.ok d, s')) (rest : Calls call s' cs made outcome s'') :
    Calls call s (c :: cs) (c :: made) (outcome.map (d :: ·)) s''

namespace Calls

variable {call : γ → Stateful σ δ}

theorem one {c : γ} {d : δ} {s s' : σ} (h : (call c).outcome s = (.ok d, s')) :
    Calls call s [c] [c] (.ok [d]) s' :=
  .next h (.done s')

theorem append {s s' s'' : σ} {cs cs' made made' : List γ} {ds : List δ} {outcome : Except Fault (List δ)}
    (h : Calls call s cs made (.ok ds) s') (h' : Calls call s' cs' made' outcome s'') :
    Calls call s (cs ++ cs') (made ++ made') (outcome.map (ds ++ ·)) s'' := by
  generalize first : (Except.ok ds : Except Fault (List δ)) = result at h
  induction h generalizing ds with
  | done s =>
    cases first
    cases outcome <;> exact h'
  | failed head => cases first
  | @next s s₁ s₂ c cs made d result head rest ih =>
    cases result with
    | error fault => cases first
    | ok rest' =>
      cases first
      have more := ih h' rfl
      cases outcome with
      | error fault => exact .next head more
      | ok ds' => exact .next head more

theorem append_of_error {s s' : σ} {cs made : List γ} {fault : Fault} (cs' : List γ)
    (h : Calls call s cs made (.error fault) s') : Calls call s (cs ++ cs') made (.error fault) s' := by
  generalize first : (Except.error fault : Except Fault (List δ)) = result at h
  induction h with
  | done s => cases first
  | failed head =>
    cases first
    exact .failed head
  | @next s s₁ s₂ c cs made d result head rest ih =>
    cases result with
    | ok ds => cases first
    | error other =>
      cases first
      exact .next head (ih rfl)

end Calls

/-! ### Computations made of calls -/

/-- The computation does what making the calls does: it fails as they do, and what it gives is related to what they
give. With the list kept beside the state, the list goes on with the calls that are made. -/
def Follows (call : γ → Stateful σ δ) (cs : List γ) (x : Stateful σ α) (listed : Stateful (σ × List γ) α)
    (R : α → List δ → Prop) : Prop :=
  ∀ s before, ∃ made outcome s', x.outcome s = (outcome, s') ∧
    listed.outcome (s, before) = (outcome, (s', before ++ made)) ∧
    match outcome with
    | .ok a => ∃ ds, Calls call s cs made (.ok ds) s' ∧ R a ds
    | .error fault => Calls call s cs made (.error fault) s'

namespace Follows

variable {call : γ → Stateful σ δ} {cs cs' : List γ}

theorem mono {x : Stateful σ α} {listed : Stateful (σ × List γ) α} {R R' : α → List δ → Prop}
    (h : Follows call cs x listed R) (weaker : ∀ a ds, R a ds → R' a ds) : Follows call cs x listed R' := by
  intro s before
  obtain ⟨made, outcome, s', hx, hl, calls⟩ := h s before
  refine ⟨made, outcome, s', hx, hl, ?_⟩
  cases outcome with
  | error fault => exact calls
  | ok a =>
    obtain ⟨ds, hd, hR⟩ := calls
    exact ⟨ds, hd, weaker a ds hR⟩

theorem pure {a : α} {R : α → List δ → Prop} (h : R a []) :
    Follows call [] (Pure.pure a) (Pure.pure a) R := by
  intro s before
  refine ⟨[], .ok a, s, rfl, ?_, [], .done s, h⟩
  rw [List.append_nil, outcome_pure]

/-- One call, of which `x` gives the result without its constructor `f`. -/
theorem one {c : γ} {f : α → δ} {x : Stateful σ α} (h : call c = f <$> x) :
    Follows call [c] x (listing c x) fun a ds => ds = [f a] := by
  intro s before
  obtain ⟨outcome, s', hx⟩ : ∃ outcome s', x.outcome s = (outcome, s') := ⟨_, _, rfl⟩
  have called : (call c).outcome s = (outcome.map f, s') := by
    rw [h, map_eq_pure_bind]
    cases outcome with
    | error fault => exact outcome_bind_of_error hx
    | ok a => exact outcome_bind_of_ok hx
  refine ⟨[c], outcome, s', hx, ?_, ?_⟩
  · show ((x.outcome s).1, ((x.outcome s).2, before ++ [c])) = _
    rw [hx]
  · cases outcome with
    | error fault => exact .failed called
    | ok a => exact ⟨[f a], .one called, rfl⟩

theorem bind {x : Stateful σ α} {listed : Stateful (σ × List γ) α} {R : α → List δ → Prop}
    {next : α → Stateful σ β} {listedNext : α → Stateful (σ × List γ) β} {R' : α → β → List δ → Prop}
    (hx : Follows call cs x listed R) (hn : ∀ a, Follows call cs' (next a) (listedNext a) (R' a)) :
    Follows call (cs ++ cs') (x >>= next) (listed >>= listedNext) fun b ds =>
      ∃ a first rest, R a first ∧ R' a b rest ∧ ds = first ++ rest := by
  intro s before
  obtain ⟨made, outcome, s', hx, hl, calls⟩ := hx s before
  cases outcome with
  | error fault =>
    exact ⟨made, .error fault, s', outcome_bind_of_error hx, outcome_bind_of_error hl, calls.append_of_error cs'⟩
  | ok a =>
    obtain ⟨ds, hd, hR⟩ := calls
    obtain ⟨made', outcome', s'', hx', hl', calls'⟩ := hn a s' (before ++ made)
    refine ⟨made ++ made', outcome', s'', (outcome_bind_of_ok hx).trans hx', ?_, ?_⟩
    · rw [outcome_bind_of_ok hl, hl', List.append_assoc]
    · cases outcome' with
      | error fault => exact hd.append calls'
      | ok b =>
        obtain ⟨ds', hd', hR'⟩ := calls'
        exact ⟨ds ++ ds', hd.append hd', a, ds, ds', hR, hR', rfl⟩

/-- A last step that makes no call. -/
theorem map {x : Stateful σ α} {listed : Stateful (σ × List γ) α} {R : α → List δ → Prop} (g : α → β)
    (hx : Follows call cs x listed R) :
    Follows call cs (x >>= fun a => Pure.pure (g a)) (listed >>= fun a => Pure.pure (g a)) fun b ds =>
      ∃ a, R a ds ∧ b = g a := by
  have last (a : α) : Follows call [] (Pure.pure (g a)) (Pure.pure (g a)) fun b ds => b = g a ∧ ds = [] :=
    .pure ⟨rfl, rfl⟩
  have all := hx.bind last
  rw [List.append_nil] at all
  refine all.mono ?_
  rintro b ds ⟨a, first, rest, hR, ⟨rfl, rfl⟩, rfl⟩
  rw [List.append_nil]
  exact ⟨a, hR, rfl⟩

theorem mapM {g : α → γ} {f : β → δ} {x : α → Stateful σ β} (h : ∀ a, call (g a) = f <$> x a) (as : List α) :
    Follows call (as.map g) (as.mapM x) (as.mapM fun a => listing (g a) (x a)) fun bs ds => ds = bs.map f := by
  induction as with
  | nil =>
    rw [List.mapM_nil, List.mapM_nil]
    exact .pure rfl
  | cons a as ih =>
    rw [List.mapM_cons, List.mapM_cons]
    refine ((one (h a)).bind fun b => ih.map (b :: ·)).mono ?_
    rintro bs ds ⟨b, first, rest, rfl, ⟨bs', rfl, rfl⟩, rfl⟩
    rfl

end Follows

/-! ### Faults on the way -/

/-- The first fault among the places of a way, each of which holds the argument of a call or a fault. -/
def firstFault : List (Except Fault γ) → Option Fault
  | [] => none
  | .ok _ :: places => firstFault places
  | .error fault :: _ => some fault

/-- The arguments up to the first fault. -/
def argumentsBefore : List (Except Fault γ) → List γ
  | .ok c :: places => c :: argumentsBefore places
  | _ => []

theorem firstFault_append_of_none {places : List (Except Fault γ)} (h : firstFault places = none)
    (more : List (Except Fault γ)) : firstFault (places ++ more) = firstFault more := by
  induction places with
  | nil => rfl
  | cons place places ih =>
    cases place with
    | error fault => cases h
    | ok c => exact ih h

theorem argumentsBefore_append_of_none {places : List (Except Fault γ)} (h : firstFault places = none)
    (more : List (Except Fault γ)) :
    argumentsBefore (places ++ more) = argumentsBefore places ++ argumentsBefore more := by
  induction places with
  | nil => rfl
  | cons place places ih =>
    cases place with
    | error fault => cases h
    | ok c => exact congrArg (c :: ·) (ih h)

theorem append_of_some {places : List (Except Fault γ)} {fault : Fault} (h : firstFault places = some fault)
    (more : List (Except Fault γ)) :
    firstFault (places ++ more) = some fault ∧ argumentsBefore (places ++ more) = argumentsBefore places := by
  induction places with
  | nil => cases h
  | cons place places ih =>
    cases place with
    | error other => exact ⟨h, rfl⟩
    | ok c => exact ⟨(ih h).1, congrArg (c :: ·) (ih h).2⟩

/-- The computation does what making the calls does, and fails with `fault` when none of them fails. -/
def Halts (call : γ → Stateful σ δ) (cs : List γ) (fault : Fault) (x : Stateful σ α)
    (listed : Stateful (σ × List γ) α) : Prop :=
  ∀ s before, ∃ made last s', x.outcome s = (.error last, s') ∧
    listed.outcome (s, before) = (.error last, (s', before ++ made)) ∧
    (Calls call s cs made (.error last) s' ∨ last = fault ∧ ∃ ds, Calls call s cs made (.ok ds) s')

theorem Halts.throw (call : γ → Stateful σ δ) (fault : Fault) :
    Halts call [] fault (MonadExcept.throw fault : Stateful σ α) (MonadExcept.throw fault) := by
  intro s before
  refine ⟨[], fault, s, rfl, ?_, .inr ⟨rfl, [], .done s⟩⟩
  rw [List.append_nil]
  rfl

theorem Halts.bind {call : γ → Stateful σ δ} {cs : List γ} {fault : Fault} {x : Stateful σ α}
    {listed : Stateful (σ × List γ) α} (hx : Halts call cs fault x listed) (next : α → Stateful σ β)
    (listedNext : α → Stateful (σ × List γ) β) :
    Halts call cs fault (x >>= next) (listed >>= listedNext) := by
  intro s before
  obtain ⟨made, last, s', hx, hl, calls⟩ := hx s before
  exact ⟨made, last, s', outcome_bind_of_error hx, outcome_bind_of_error hl, calls⟩

theorem Follows.bind_halts {call : γ → Stateful σ δ} {cs cs' : List γ} {x : Stateful σ α}
    {listed : Stateful (σ × List γ) α} {R : α → List δ → Prop} {next : α → Stateful σ β}
    {listedNext : α → Stateful (σ × List γ) β} {fault : Fault} (hx : Follows call cs x listed R)
    (hn : ∀ a, Halts call cs' fault (next a) (listedNext a)) :
    Halts call (cs ++ cs') fault (x >>= next) (listed >>= listedNext) := by
  intro s before
  obtain ⟨made, outcome, s', hx, hl, calls⟩ := hx s before
  cases outcome with
  | error last =>
    exact ⟨made, last, s', outcome_bind_of_error hx, outcome_bind_of_error hl, .inl (calls.append_of_error cs')⟩
  | ok a =>
    obtain ⟨ds, hd, -⟩ := calls
    obtain ⟨made', last, s'', hx', hl', calls'⟩ := hn a s' (before ++ made)
    refine ⟨made ++ made', last, s'', (outcome_bind_of_ok hx).trans hx', ?_, ?_⟩
    · rw [outcome_bind_of_ok hl, hl', List.append_assoc]
    · obtain calls' | ⟨rfl, ds', calls'⟩ := calls'
      · exact .inl (hd.append calls')
      · exact .inr ⟨rfl, ds ++ ds', hd.append calls'⟩

/-- The computation makes a call for every argument on the way. If there is a fault on the way, the calls are those
up to the first, and unless one of them fails the computation fails with that fault. -/
def FollowsUpTo (call : γ → Stateful σ δ) (places : List (Except Fault γ)) (x : Stateful σ α)
    (listed : Stateful (σ × List γ) α) (R : α → List δ → Prop) : Prop :=
  match firstFault places with
  | none => Follows call (argumentsBefore places) x listed R
  | some fault => Halts call (argumentsBefore places) fault x listed

namespace FollowsUpTo

variable {call : γ → Stateful σ δ} {places more : List (Except Fault γ)}

theorem mono {x : Stateful σ α} {listed : Stateful (σ × List γ) α} {R R' : α → List δ → Prop}
    (h : FollowsUpTo call places x listed R) (weaker : ∀ a ds, R a ds → R' a ds) :
    FollowsUpTo call places x listed R' := by
  unfold FollowsUpTo at h ⊢
  split at h
  · exact h.mono weaker
  · exact h

theorem bind {x : Stateful σ α} {listed : Stateful (σ × List γ) α} {R : α → List δ → Prop}
    {next : α → Stateful σ β} {listedNext : α → Stateful (σ × List γ) β} {R' : α → β → List δ → Prop}
    (hx : FollowsUpTo call places x listed R)
    (hn : ∀ a, FollowsUpTo call more (next a) (listedNext a) (R' a)) :
    FollowsUpTo call (places ++ more) (x >>= next) (listed >>= listedNext) fun b ds =>
      ∃ a first rest, R a first ∧ R' a b rest ∧ ds = first ++ rest := by
  unfold FollowsUpTo at hx ⊢
  cases hp : firstFault places with
  | some fault =>
    rw [hp] at hx
    obtain ⟨fault_append, arguments_append⟩ := append_of_some hp more
    rw [fault_append, arguments_append]
    exact hx.bind next listedNext
  | none =>
    rw [hp] at hx
    rw [firstFault_append_of_none hp, argumentsBefore_append_of_none hp]
    unfold FollowsUpTo at hn
    cases hm : firstFault more with
    | none =>
      rw [hm] at hn
      exact Follows.bind hx hn
    | some fault =>
      rw [hm] at hn
      exact Follows.bind_halts hx hn

/-- A last step that makes no call. -/
theorem map {x : Stateful σ α} {listed : Stateful (σ × List γ) α} {R : α → List δ → Prop} (g : α → β)
    (hx : FollowsUpTo call places x listed R) :
    FollowsUpTo call places (x >>= fun a => Pure.pure (g a)) (listed >>= fun a => Pure.pure (g a)) fun b ds =>
      ∃ a, R a ds ∧ b = g a := by
  unfold FollowsUpTo at hx ⊢
  split at hx
  · exact hx.map g
  · exact hx.bind _ _

end FollowsUpTo

end ProgramInterchange.Walk
