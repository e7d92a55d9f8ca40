import ProgramInterchange.Interchange
import ProgramInterchange.Proofs.Computation

/-!
# The events of the conversions

Writing a program is reported once, and then each of its namespaces in turn. Reading one is reported likewise, up
to the namespace that stops it: the last event is about the namespace whose fault is returned.
-/

namespace ProgramInterchange

variable {α β : Type}

/-! ### What is shown -/

/-- What an event shows beside its message. -/
def Event.shown (e : Event) : Level × List (String × EventValue) := (e.level, e.fields)

/-- What is shown of a namespace of this name that has so many elements. -/
def shownNamespace (name : String) (elements : Nat) : Level × List (String × EventValue) :=
  (.trace, [("namespace", .text name), ("elements", .count elements)])

/-! ### Traversals -/

theorem events_mapM (f : α → Logged β) (as : List α) :
    (as.mapM f).events = as.flatMap fun a => (f a).events := by
  induction as with
  | nil => rfl
  | cons a as ih =>
    rw [List.mapM_cons, Logged.events_bind, Logged.events_bind, Logged.events_pure, List.append_nil, ih,
      List.flatMap_cons]

/-- The items that a traversal comes to: those up to the first that fails. -/
def reached (f : α → Except Fault β) : List α → List α
  | [] => []
  | a :: as =>
    match f a with
    | .ok _ => a :: reached f as
    | .error _ => [a]

theorem reached_of_ok {f : α → Except Fault β} {as : List α} {bs : List β} (h : as.mapM f = .ok bs) :
    reached f as = as := by
  induction as generalizing bs with
  | nil => rfl
  | cons a as ih =>
    obtain ⟨b, hb, cs, hcs, -⟩ := mapM_cons_eq_ok_iff.mp h
    rw [reached, hb]
    exact congrArg (a :: ·) (ih hcs)

/-- Where a traversal fails, all items before have succeeded and the one that is reached last has its fault. -/
theorem reached_of_error {f : α → Except Fault β} {as : List α} {fault : Fault}
    (h : as.mapM f = .error fault) :
    ∃ front a back, as = front ++ a :: back ∧ reached f as = front ++ [a] ∧
      (∀ b ∈ front, ∃ c, f b = .ok c) ∧ f a = .error fault := by
  induction as with
  | nil => cases h
  | cons a as ih =>
    rw [List.mapM_cons] at h
    cases first : f a with
    | error other =>
      rw [first] at h
      cases h
      exact ⟨[], a, as, rfl, by rw [reached, first]; rfl, List.forall_mem_nil _, first⟩
    | ok b =>
      cases rest : as.mapM f with
      | ok bs =>
        rw [first, rest] at h
        cases h
      | error other =>
        rw [first, rest] at h
        cases h
        obtain ⟨front, c, back, split, came, before, failed⟩ := ih rest
        refine ⟨a :: front, c, back, congrArg (a :: ·) split, ?_, ?_, failed⟩
        · rw [reached, first]
          exact congrArg (a :: ·) came
        · exact List.forall_mem_cons.mpr ⟨⟨b, first⟩, before⟩

/-! ### Writing -/

theorem Tree.Program.events_toRecordLogged (profile : Profile) (p : Tree.Program) :
    (p.toRecordLogged profile).events =
      .encodingProgram p.namespaces.length p.entryPoints.length profile ::
        p.namespaces.map fun n => .encodingNamespace n.name n.elements.length := by
  have namespaces : (p.namespaces.mapM (Tree.Namespace.toRecordLogged profile)).events =
      p.namespaces.map fun n => .encodingNamespace n.name n.elements.length := by
    rw [events_mapM, List.map_eq_flatMap]
    rfl
  rw [toRecordLogged, Logged.events_bind, Logged.events_bind, namespaces, Logged.events_pure, List.append_nil]
  rfl

/-! ### Reading -/

namespace Record

theorem events_run_bind (x : LoggedExcept α) (g : α → LoggedExcept β) :
    (ExceptT.run (x >>= g)).events =
      (ExceptT.run x).events ++
        match (ExceptT.run x).value with
        | .ok a => (ExceptT.run (g a)).events
        | .error _ => [] := by
  obtain ⟨result, events⟩ := x
  cases result with
  | error fault => rfl
  | ok a => rfl

/-- A last step that does not fail shows nothing. -/
theorem events_run_map (x : LoggedExcept α) (g : α → β) :
    (ExceptT.run (x >>= fun a => pure (g a))).events = (ExceptT.run x).events := by
  rw [events_run_bind]
  cases (ExceptT.run x).value with
  | error fault => exact List.append_nil _
  | ok a => exact List.append_nil _

theorem events_run_mapM (f : α → LoggedExcept β) (as : List α) :
    (ExceptT.run (as.mapM f)).events =
      (reached (fun a => (ExceptT.run (f a)).value) as).flatMap fun a => (ExceptT.run (f a)).events := by
  induction as with
  | nil => rfl
  | cons a as ih =>
    rw [List.mapM_cons, events_run_bind, reached]
    cases first : (ExceptT.run (f a)).value with
    | error fault => rw [List.flatMap_singleton, List.append_nil]
    | ok b =>
      have rest : (ExceptT.run (as.mapM f >>= fun bs => pure (b :: bs))).events =
          (ExceptT.run (as.mapM f)).events := events_run_map _ _
      rw [List.flatMap_cons]
      exact congrArg _ (rest.trans ih)

theorem Program.events_toTreeLogged (p : Program) :
    (ExceptT.run p.toTreeLogged).events =
      .decodingProgram p.namespaces.length ::
        ((if p.entryPoints = [] then [] else [.discardingEntryPoints p.entryPoints.length]) ++
          (reached Namespace.toTree p.namespaces).map fun n => .decodingNamespace n.name n.elements.length) := by
  have namespaces : (ExceptT.run (p.namespaces.mapM Namespace.toTreeLogged)).events =
      (reached Namespace.toTree p.namespaces).map fun n => .decodingNamespace n.name n.elements.length := by
    rw [events_run_mapM, List.map_eq_flatMap]
    rfl
  have last : (ExceptT.run (do
      let namespaces ← p.namespaces.mapM Namespace.toTreeLogged
      return (⟨namespaces, []⟩ : Tree.Program))).events =
        (ExceptT.run (p.namespaces.mapM Namespace.toTreeLogged)).events := events_run_map _ _
  rw [← namespaces, ← last, toTreeLogged]
  by_cases h : p.entryPoints = []
  · rw [if_pos h, if_neg (not_not_intro h)]
    rfl
  · rw [if_neg h, if_pos h]
    rfl

/-- Namespaces of a program: all of them if it has a tree, else those up to and including the first one that has
none, whose fault is the fault of the program. -/
def Program.Visits (p : Program) (visited : List Namespace) : Prop :=
  match p.toTree with
  | .ok _ => visited = p.namespaces
  | .error fault => ∃ front n back, p.namespaces = front ++ n :: back ∧ visited = front ++ [n] ∧
      (∀ m ∈ front, ∃ t, m.toTree = .ok t) ∧ n.toTree = .error fault

theorem Program.visits_reached (p : Program) : p.Visits (reached Namespace.toTree p.namespaces) := by
  unfold Visits
  rw [toTree_eq]
  cases h : p.namespaces.mapM Namespace.toTree with
  | ok namespaces => exact reached_of_ok h
  | error fault => exact reached_of_error h

end Record

/-- A program is shown when it is written, then each of its namespaces in order. When it is read, it is shown, its
entry points if it has any, then the namespaces up to the first one that has no tree; a text that cannot be read
shows nothing. -/
theorem conversions_show_namespaces (profile : Profile) (p : Tree.Program) (r : Record.Program)
    (input : List UInt8) :
    (p.toRecordLogged profile).events.map Event.shown =
        (.debug, [("namespaces", .count p.namespaces.length), ("entry_points", .count p.entryPoints.length),
            ("profile", .text profile.title)]) ::
          p.namespaces.map (fun n => shownNamespace n.name n.elements.length) ∧
      (∃ visited, r.Visits visited ∧
        (ExceptT.run r.toTreeLogged).events.map Event.shown =
          (.debug, [("namespaces", .count r.namespaces.length)]) ::
            ((if r.entryPoints = [] then [] else [(.debug, [("entry_points", .count r.entryPoints.length)])]) ++
              visited.map fun n => shownNamespace n.name n.elements.length)) ∧
      (∀ fault, r.toTree = .error fault → ∃ n ∈ r.namespaces, n.toTree = .error fault ∧
        ((ExceptT.run r.toTreeLogged).events.map Event.shown).getLast? =
          some (shownNamespace n.name n.elements.length)) ∧
      (ExceptT.run (deserializeLogged input)).events =
        match (Record.read input : Except WireFault Record.Program) with
        | .ok q => (ExceptT.run q.toTreeLogged).events
        | .error _ => [] := by
  have shown : (ExceptT.run r.toTreeLogged).events.map Event.shown =
      (.debug, [("namespaces", .count r.namespaces.length)]) ::
        ((if r.entryPoints = [] then [] else [(.debug, [("entry_points", .count r.entryPoints.length)])]) ++
          (reached Record.Namespace.toTree r.namespaces).map fun n =>
            shownNamespace n.name n.elements.length) := by
    rw [Record.Program.events_toTreeLogged, List.map_cons, List.map_append, List.map_map]
    by_cases h : r.entryPoints = []
    · rw [if_pos h, if_pos h]
      rfl
    · rw [if_neg h, if_neg h]
      rfl
  refine ⟨?_, ⟨_, r.visits_reached, shown⟩, ?_, ?_⟩
  · rw [Tree.Program.events_toRecordLogged, List.map_cons, List.map_map]
    rfl
  · intro fault failed
    have visits := r.visits_reached
    unfold Record.Program.Visits at visits
    rw [failed] at visits
    obtain ⟨front, n, back, split, came, -, stopped⟩ := visits
    refine ⟨n, by simp [split], stopped, ?_⟩
    rw [shown, came, List.map_append, ← List.append_assoc, ← List.cons_append]
    exact List.getLast?_concat
  · unfold deserializeLogged
    cases (Record.read input : Except WireFault Record.Program) <;> rfl

/-- A program with an entry point, of whose namespaces the second has an element of an unknown kind. -/
def stopped : Record.Program where
  namespaces := [⟨"A", [], []⟩, ⟨"B", [⟨.unrecognized 7, none, none⟩], []⟩, ⟨"", [], []⟩]
  entryPoints := [⟨"A", "F"⟩]

theorem conversions_show_stopped :
    let fault : Fault := .unsupportedVariant "NamespaceElement" "Unrecognized(7)"
    let shown := (ExceptT.run stopped.toTreeLogged).events.map Event.shown
    stopped.toTree = .error fault ∧ stopped.Visits (stopped.namespaces.take 2) ∧
      shown = [(.debug, [("namespaces", .count 3)]), (.debug, [("entry_points", .count 1)]),
        shownNamespace "A" 0, shownNamespace "B" 1] ∧
      ∃ n ∈ stopped.namespaces, n.toTree = .error fault ∧
        shown.getLast? = some (shownNamespace n.name n.elements.length) := by
  intro fault shown
  have failed : stopped.toTree = .error fault := rfl
  obtain ⟨-, -, last, -⟩ := conversions_show_namespaces .full .empty stopped []
  exact ⟨failed, stopped.visits_reached, by decide, last fault failed⟩

end ProgramInterchange
