import ProgramInterchange.Conversion.ToRecord
import ProgramInterchange.Conversion.ToTree

/-!
# Computations that may fail

Two ways to say all that a failing computation does. `Succeeds x P v`: it gives `v` exactly when `P`
holds. `Reports x faults`: it fails with the first of the faults, and succeeds when there are none. Both
follow the steps of a computation, so a conversion gets its law from the laws of its parts.
-/

namespace ProgramInterchange

variable {α β : Type}

theorem bind_eq_ok_iff {x : Except Fault α} {g : α → Except Fault β} {b : β} :
    x >>= g = .ok b ↔ ∃ a, x = .ok a ∧ g a = .ok b := by
  cases x with
  | error fault => simp [bind, Except.bind]
  | ok a => simp [bind, Except.bind]

theorem pure_eq_ok_iff {a b : α} : (pure a : Except Fault α) = .ok b ↔ a = b := by
  simp only [pure, Except.pure, Except.ok.injEq]

theorem mapM_cons_eq_ok_iff {f : α → Except Fault β} {a : α} {as : List α} {bs : List β} :
    (a :: as).mapM f = .ok bs ↔ ∃ b, f a = .ok b ∧ ∃ cs, as.mapM f = .ok cs ∧ b :: cs = bs := by
  rw [List.mapM_cons, bind_eq_ok_iff]
  simp only [bind_eq_ok_iff, pure_eq_ok_iff]

/-- What one step gives from each item, seen through `g`, the whole traversal gives from the list. -/
theorem map_eq_of_mapM_eq_ok {γ : Type} {f : α → Except Fault β} {g : β → γ} {h : α → γ} {as : List α}
    {bs : List β} (step : ∀ a ∈ as, ∀ b, f a = .ok b → g b = h a) (hm : as.mapM f = .ok bs) :
    bs.map g = as.map h := by
  induction as generalizing bs with
  | nil =>
    have hb : [] = bs := pure_eq_ok_iff.mp hm
    rw [← hb]
    rfl
  | cons a as ih =>
    obtain ⟨b, hb, cs, hcs, rfl⟩ := mapM_cons_eq_ok_iff.mp hm
    have head := step a (List.mem_cons_self ..) b hb
    have tail := ih (fun x hx => step x (List.mem_cons_of_mem _ hx)) hcs
    rw [List.map_cons, List.map_cons, head, tail]

/-- What holds of all that one step gives holds of all items that the traversal gives. -/
theorem forall_mem_of_mapM_eq_ok {f : α → Except Fault β} {P : β → Prop} {as : List α} {bs : List β}
    (step : ∀ a b, f a = .ok b → P b) (h : as.mapM f = .ok bs) : ∀ b ∈ bs, P b := by
  induction as generalizing bs with
  | nil =>
    obtain rfl := pure_eq_ok_iff.mp h
    exact List.forall_mem_nil P
  | cons a as ih =>
    obtain ⟨b, hb, cs, hcs, rfl⟩ := mapM_cons_eq_ok_iff.mp h
    exact List.forall_mem_cons.mpr ⟨step a b hb, ih hcs⟩

/-! ### Success under a condition -/

/-- The computation succeeds exactly when `P` holds, and then gives `v`. -/
def Succeeds (x : Except Fault α) (P : Prop) (v : α) : Prop := ∀ a, x = .ok a ↔ P ∧ a = v

namespace Succeeds

theorem ok (v : α) : Succeeds (.ok v) True v := by
  intro a
  simp only [Except.ok.injEq, true_and, eq_comm]

theorem error (fault : Fault) (v : α) : Succeeds (.error fault) False v := by
  intro a
  simp only [reduceCtorEq, false_and]

theorem congr {x : Except Fault α} {P Q : Prop} {v w : α} (h : Succeeds x P v) (hP : P ↔ Q) (hv : v = w) :
    Succeeds x Q w := by
  intro a
  rw [h a, hP, hv]

theorem bind {x : Except Fault α} {g : α → Except Fault β} {P Q : Prop} {v : α} {w : β}
    (hx : Succeeds x P v) (hg : Succeeds (g v) Q w) : Succeeds (x >>= g) (P ∧ Q) w := by
  intro b
  rw [bind_eq_ok_iff]
  constructor
  · rintro ⟨a, ha, hb⟩
    obtain ⟨hP, rfl⟩ := (hx a).mp ha
    obtain ⟨hQ, rfl⟩ := (hg b).mp hb
    exact ⟨⟨hP, hQ⟩, rfl⟩
  · rintro ⟨⟨hP, hQ⟩, rfl⟩
    exact ⟨v, (hx v).mpr ⟨hP, rfl⟩, (hg b).mpr ⟨hQ, rfl⟩⟩

theorem map {x : Except Fault α} {P : Prop} {v : α} (g : α → β) (hx : Succeeds x P v) :
    Succeeds (x >>= fun a => pure (g a)) P (g v) :=
  (hx.bind (ok (g v))).congr (iff_of_eq (and_true P)) rfl

theorem mapM {f : α → Except Fault β} {P : α → Prop} {g : α → β} {as : List α}
    (h : ∀ a ∈ as, Succeeds (f a) (P a) (g a)) : Succeeds (as.mapM f) (∀ a ∈ as, P a) (as.map g) := by
  induction as with
  | nil => exact (ok []).congr (by simp) rfl
  | cons a as ih =>
    have head := h a (List.mem_cons_self ..)
    have tail := ih fun x hx => h x (List.mem_cons_of_mem _ hx)
    rw [List.mapM_cons]
    exact (head.bind (tail.map _)).congr List.forall_mem_cons.symm rfl

theorem mapM_option {f : α → Except Fault β} {P : α → Prop} {g : α → β} {o : Option α}
    (h : ∀ a ∈ o, Succeeds (f a) (P a) (g a)) : Succeeds (o.mapM f) (∀ a ∈ o, P a) (o.map g) := by
  cases o with
  | none => exact (ok none).congr (by simp) rfl
  | some a => exact ((h a rfl).map some).congr (by simp) rfl

end Succeeds

/-! ### The first fault -/

/-- The computation fails with the first of the faults, and succeeds when there are none. -/
def Reports (x : Except Fault α) (faults : List Fault) : Prop :=
  match faults with
  | [] => ∃ a, x = .ok a
  | fault :: _ => x = .error fault

namespace Reports

theorem ok (a : α) : Reports (.ok a) [] := ⟨a, rfl⟩

theorem error (fault : Fault) (faults : List Fault) :
    Reports (.error fault : Except Fault α) (fault :: faults) := rfl

theorem bind {x : Except Fault α} {g : α → Except Fault β} {first second : List Fault}
    (hx : Reports x first) (hg : ∀ a, x = .ok a → Reports (g a) second) :
    Reports (x >>= g) (first ++ second) := by
  cases first with
  | nil =>
    obtain ⟨a, ha⟩ := hx
    rw [ha]
    exact hg a ha
  | cons fault faults =>
    have hf : x = .error fault := hx
    rw [hf]
    rfl

theorem map {x : Except Fault α} {faults : List Fault} (g : α → β) (hx : Reports x faults) :
    Reports (x >>= fun a => pure (g a)) faults := by
  have h : Reports (x >>= fun a => pure (g a)) (faults ++ []) := hx.bind fun a _ => ok (g a)
  rwa [List.append_nil] at h

theorem mapM {f : α → Except Fault β} {faults : α → List Fault} {as : List α}
    (h : ∀ a ∈ as, Reports (f a) (faults a)) : Reports (as.mapM f) (as.flatMap faults) := by
  induction as with
  | nil => exact ok []
  | cons a as ih =>
    have head := h a (List.mem_cons_self ..)
    have tail := ih fun x hx => h x (List.mem_cons_of_mem _ hx)
    rw [List.mapM_cons, List.flatMap_cons]
    exact head.bind fun _ _ => tail.map _

theorem iff {x : Except Fault α} {faults : List Fault} (h : Reports x faults) :
    ((∃ a, x = .ok a) ↔ faults = []) ∧ ∀ fault, x = .error fault ↔ faults.head? = some fault := by
  cases faults with
  | nil =>
    obtain ⟨a, ha⟩ := h
    rw [ha]
    simp
  | cons first faults =>
    have hf : x = .error first := h
    rw [hf]
    simp

end Reports

/-! ### Conversions without their events -/

theorem value_mapM {f : α → Logged β} (as : List α) :
    (as.mapM f).value = as.map fun a => (f a).value := by
  induction as with
  | nil => rfl
  | cons a as ih =>
    rw [List.mapM_cons, Logged.value_bind, Logged.value_bind, Logged.value_pure, ih, List.map_cons]

theorem Tree.Program.toRecord_eq (profile : Profile) (p : Tree.Program) :
    p.toRecord profile = ⟨p.namespaces.map (Tree.Namespace.toRecord profile), p.entryPoints⟩ := by
  have h : (p.namespaces.mapM (Tree.Namespace.toRecordLogged profile)).value =
      p.namespaces.map (Tree.Namespace.toRecord profile) := value_mapM p.namespaces
  simp only [Tree.Program.toRecord, Tree.Program.toRecordLogged, Logged.value_bind, Logged.value_pure, h]

namespace Record

theorem value_run_bind (x : LoggedExcept α) (g : α → LoggedExcept β) :
    (ExceptT.run (x >>= g)).value = (ExceptT.run x).value >>= fun a => (ExceptT.run (g a)).value := by
  obtain ⟨result, events⟩ := x
  cases result with
  | error fault => rfl
  | ok a => rfl

theorem value_run_mapM {f : α → LoggedExcept β} (as : List α) :
    (ExceptT.run (as.mapM f)).value = as.mapM fun a => (ExceptT.run (f a)).value := by
  induction as with
  | nil => rfl
  | cons a as ih =>
    simp only [List.mapM_cons, value_run_bind, ih]
    rfl

theorem Program.toTree_eq (p : Program) :
    p.toTree = (do
      let namespaces ← p.namespaces.mapM Namespace.toTree
      return ⟨namespaces, []⟩) := by
  have h : (ExceptT.run (p.namespaces.mapM Namespace.toTreeLogged)).value =
      p.namespaces.mapM Namespace.toTree := value_run_mapM p.namespaces
  rw [toTree, toTreeLogged]
  split <;> simp only [value_run_bind, h] <;> rfl

end Record

end ProgramInterchange
