import ProgramInterchange.Proofs.Walk.Payload

/-!
# Walks there and back

A walk from the node that another walk has made converts the payloads by both, one after the other. So a walk undoes
another one on a node whenever it does on the payloads, but for a tuple without items, which makes a record node
that is refused.
-/

namespace ProgramInterchange

open ProgramInterchange.Tree (TypeKind)
open ProgramInterchange.Record (TypeNode)

variable {D U P C D' U' P' C' D'' U'' P'' C'' : Type}

/-! ### Results of payloads -/

section

variable {α β γ : Type}

theorem map_eq_ok_iff {f : α → β} (hf : Function.Injective f) {x : Except Fault α} {a : α} :
    f <$> x = .ok (f a) ↔ x = .ok a := by
  cases x with
  | error fault => exact iff_of_false nofun nofun
  | ok b =>
    show Except.ok (f b) = Except.ok (f a) ↔ _
    rw [Except.ok.injEq, Except.ok.injEq, hf.eq_iff]

/-- The fault of a result, if there is one. -/
def faultsOf : Except Fault α → List Fault
  | .ok _ => []
  | .error fault => [fault]

theorem reports_of_map (f : α → β) (x : Except Fault α) : Reports x (faultsOf (f <$> x)) := by
  cases x with
  | error fault => exact .error fault []
  | ok a => exact .ok a

theorem mapM_of_mapM_eq_ok {f : α → Except Fault β} {g : β → Except Fault γ} {as : List α} {bs : List β}
    (h : as.mapM f = .ok bs) : bs.mapM g = as.mapM fun a => f a >>= g := by
  induction as generalizing bs with
  | nil =>
    obtain rfl := pure_eq_ok_iff.mp h
    rfl
  | cons a as ih =>
    obtain ⟨b, hb, cs, hcs, rfl⟩ := mapM_cons_eq_ok_iff.mp h
    rw [List.mapM_cons, List.mapM_cons, hb, ih hcs]
    rfl

theorem mapM_eq_ok_self {f : α → Except Fault α} {as : List α} (each : ∀ a ∈ as, f a = .ok a) :
    as.mapM f = .ok as := by
  have same : as.map (fun a => a) = as := List.map_id' as
  have succeeds : Succeeds (as.mapM f) (∀ a ∈ as, True) (as.map fun a => a) :=
    .mapM fun a ha => by
      rw [each a ha]
      exact .ok a
  exact (succeeds as).mpr ⟨fun _ _ => trivial, same.symm⟩

end

namespace PayloadWalk

theorem call_andThen {m : Type → Type} [Monad m] [LawfulMonad m] (f : PayloadWalk m D U P C D' U' P' C')
    (g : PayloadWalk m D' U' P' C' D'' U'' P'' C'') (p : Payload D U P C) :
    (f.andThen g).call p = f.call p >>= g.call := by
  cases p <;> simp only [call, andThen, map_bind, bind_map_left]

variable {f : PayloadWalk (Except Fault) D U P C D' U' P' C'}
  {g : PayloadWalk (Except Fault) D' U' P' C' D'' U'' P'' C''}

/-! ### Changes in place -/

/-- The first payload that cannot be converted is reported. -/
theorem inPlace_reports (k : TypeKind D U P C) :
    Reports (f.inPlace k) (k.payloads.flatMap fun p => faultsOf (f.call p)) := by
  have data (d : D) : Reports (f.data d) (faultsOf (f.call (.data d))) := reports_of_map Payload.data _
  have userDefined (u : U) : Reports (f.userDefined u) (faultsOf (f.call (.userDefined u))) :=
    reports_of_map Payload.userDefined _
  have parameter (p : P) : Reports (f.parameter p) (faultsOf (f.call (.parameter p))) :=
    reports_of_map Payload.parameter _
  have information (c : C) : Reports (f.information c) (faultsOf (f.call (.information c))) :=
    reports_of_map Payload.information _
  cases k with
  | leaf type => exact .ok _
  | array item =>
    rw [TypeKind.payloads, List.flatMap_singleton]
    exact (data item).map _
  | tuple items =>
    rw [TypeKind.payloads, List.flatMap_map]
    exact (Reports.mapM fun d (_ : d ∈ items) => data d).map _
  | userDefined reference =>
    rw [TypeKind.payloads, List.flatMap_singleton]
    exact (userDefined reference).map _
  | parameter reference =>
    rw [TypeKind.payloads, List.flatMap_singleton]
    exact (parameter reference).map _
  | operation domain codomain characteristics =>
    rw [TypeKind.payloads, List.flatMap_cons, List.flatMap_cons, List.flatMap_singleton]
    exact (data domain).bind fun _ _ => (data codomain).bind fun _ _ => (information characteristics).map _
  | function domain codomain =>
    rw [TypeKind.payloads, List.flatMap_cons, List.flatMap_singleton]
    exact (data domain).bind fun _ _ => (data codomain).map _

theorem exists_inPlace {k : TypeKind D U P C} (each : ∀ p ∈ k.payloads, ∃ q, f.call p = .ok q) :
    ∃ k', f.inPlace k = .ok k' := by
  refine (inPlace_reports k).iff.1.mpr ?_
  rw [List.flatMap_eq_nil_iff]
  intro p hp
  obtain ⟨q, hq⟩ := each p hp
  rw [hq]
  rfl

/-- The node `k'` holds what `f` makes of the payloads of `k`. -/
inductive Converts (f : PayloadWalk (Except Fault) D U P C D' U' P' C') :
    TypeKind D U P C → TypeKind D' U' P' C' → Prop
  | leaf (type) : Converts f (.leaf type) (.leaf type)
  | array {d d'} (item : f.data d = .ok d') : Converts f (.array d) (.array d')
  | tuple {ds ds'} (items : ds.mapM f.data = .ok ds') : Converts f (.tuple ds) (.tuple ds')
  | userDefined {u u'} (reference : f.userDefined u = .ok u') : Converts f (.userDefined u) (.userDefined u')
  | parameter {p p'} (reference : f.parameter p = .ok p') : Converts f (.parameter p) (.parameter p')
  | operation {d d' e e' c c'} (domain : f.data d = .ok d') (codomain : f.data e = .ok e')
    (information : f.information c = .ok c') : Converts f (.operation d e c) (.operation d' e' c')
  | function {d d' e e'} (domain : f.data d = .ok d') (codomain : f.data e = .ok e') :
    Converts f (.function d e) (.function d' e')

theorem converts_of_inPlace {k : TypeKind D U P C} {k' : TypeKind D' U' P' C'} (h : f.inPlace k = .ok k') :
    Converts f k k' := by
  cases k with
  | leaf type =>
    obtain rfl := pure_eq_ok_iff.mp h
    exact .leaf type
  | array item =>
    obtain ⟨d, hd, h⟩ := bind_eq_ok_iff.mp h
    obtain rfl := pure_eq_ok_iff.mp h
    exact .array hd
  | tuple items =>
    obtain ⟨ds, hds, h⟩ := bind_eq_ok_iff.mp h
    obtain rfl := pure_eq_ok_iff.mp h
    exact .tuple hds
  | userDefined reference =>
    obtain ⟨u, hu, h⟩ := bind_eq_ok_iff.mp h
    obtain rfl := pure_eq_ok_iff.mp h
    exact .userDefined hu
  | parameter reference =>
    obtain ⟨p, hp, h⟩ := bind_eq_ok_iff.mp h
    obtain rfl := pure_eq_ok_iff.mp h
    exact .parameter hp
  | operation domain codomain information =>
    obtain ⟨d, hd, h⟩ := bind_eq_ok_iff.mp h
    obtain ⟨e, he, h⟩ := bind_eq_ok_iff.mp h
    obtain ⟨c, hc, h⟩ := bind_eq_ok_iff.mp h
    obtain rfl := pure_eq_ok_iff.mp h
    exact .operation hd he hc
  | function domain codomain =>
    obtain ⟨d, hd, h⟩ := bind_eq_ok_iff.mp h
    obtain ⟨e, he, h⟩ := bind_eq_ok_iff.mp h
    obtain rfl := pure_eq_ok_iff.mp h
    exact .function hd he

theorem Converts.inPlace {k : TypeKind D U P C} {k' : TypeKind D' U' P' C'} (h : Converts f k k') :
    f.inPlace k = .ok k' := by
  cases h with
  | leaf type => rfl
  | array item =>
    rw [PayloadWalk.inPlace, item]
    rfl
  | tuple items =>
    rw [PayloadWalk.inPlace, items]
    rfl
  | userDefined reference =>
    rw [PayloadWalk.inPlace, reference]
    rfl
  | parameter reference =>
    rw [PayloadWalk.inPlace, reference]
    rfl
  | operation domain codomain information =>
    rw [PayloadWalk.inPlace, domain, codomain, information]
    rfl
  | function domain codomain =>
    rw [PayloadWalk.inPlace, domain, codomain]
    rfl

/-- Two changes in place are one. -/
theorem inPlace_inPlace {k : TypeKind D U P C} {k' : TypeKind D' U' P' C'} (h : f.inPlace k = .ok k') :
    g.inPlace k' = (f.andThen g).inPlace k := by
  cases converts_of_inPlace h with
  | leaf type => rfl
  | tuple items => simp only [inPlace, andThen, mapM_of_mapM_eq_ok items]
  | _ =>
    simp only [inPlace, andThen, *]
    rfl

theorem inPlace_eq_ok_self {w : PayloadWalk (Except Fault) D U P C D U P C} {k : TypeKind D U P C}
    (each : ∀ p ∈ k.payloads, w.call p = .ok p) : w.inPlace k = .ok k := by
  have data (d : D) (hd : .data d ∈ k.payloads) : w.data d = .ok d :=
    (map_eq_ok_iff fun _ _ => Payload.data.inj).mp (each (.data d) hd)
  have userDefined (u : U) (hu : .userDefined u ∈ k.payloads) : w.userDefined u = .ok u :=
    (map_eq_ok_iff fun _ _ => Payload.userDefined.inj).mp (each (.userDefined u) hu)
  have parameter (p : P) (hp : .parameter p ∈ k.payloads) : w.parameter p = .ok p :=
    (map_eq_ok_iff fun _ _ => Payload.parameter.inj).mp (each (.parameter p) hp)
  have information (c : C) (hc : .information c ∈ k.payloads) : w.information c = .ok c :=
    (map_eq_ok_iff fun _ _ => Payload.information.inj).mp (each (.information c) hc)
  refine Converts.inPlace ?_
  cases k with
  | leaf type => exact .leaf type
  | array item => exact .array (data item (by simp [TypeKind.payloads]))
  | tuple items => exact .tuple (mapM_eq_ok_self fun d hd => data d (List.mem_map_of_mem hd))
  | userDefined reference => exact .userDefined (userDefined reference (by simp [TypeKind.payloads]))
  | parameter reference => exact .parameter (parameter reference (by simp [TypeKind.payloads]))
  | operation domain codomain characteristics =>
    exact .operation (data domain (by simp [TypeKind.payloads])) (data codomain (by simp [TypeKind.payloads]))
      (information characteristics (by simp [TypeKind.payloads]))
  | function domain codomain =>
    exact .function (data domain (by simp [TypeKind.payloads])) (data codomain (by simp [TypeKind.payloads]))

theorem eq_tuple_nil_of_inPlace {k : TypeKind D U P C} (h : f.inPlace k = .ok (.tuple [])) : k = .tuple [] := by
  cases converts_of_inPlace h with
  | @tuple items _ converted =>
    cases items with
    | nil => rfl
    | cons item items =>
      obtain ⟨d, -, ds, -, none⟩ := mapM_cons_eq_ok_iff.mp converted
      nomatch none

/-! ### Nodes in between -/

/-- The payloads of a record node are those of the tree node, but for the empty tuple. -/
theorem content_node (k : TypeKind D U P C) (h : k ≠ .tuple []) : k.node.content = .ok k := by
  cases k with
  | tuple items =>
    rw [TypeKind.node_tuple, TypeNode.content_tuple _ rfl]
    cases items with
    | nil => exact absurd rfl h
    | cons item items => rfl
  | _ => rfl

theorem toNode_eq_ok_iff {k : TypeKind D U P C} {n : TypeNode D' U' P' C'} :
    f.toNode k = .ok n ↔ ∃ k', f.inPlace k = .ok k' ∧ k'.node = n := by
  rw [toNode_eq_inPlace, bind_eq_ok_iff]
  simp only [pure_eq_ok_iff]

theorem toKind_eq_content (n : TypeNode D U P C) : f.toKind n = n.content >>= f.inPlace := by
  rw [toKind_eq_inPlace]
  cases n.content <;> rfl

/-- The walk by `g` from the node that the walk by `f` makes converts every payload by both in place. -/
theorem toKind_of_toNode {k : TypeKind D U P C} {n : TypeNode D' U' P' C'} (hk : k ≠ .tuple [])
    (h : f.toNode k = .ok n) : g.toKind n = (f.andThen g).inPlace k := by
  obtain ⟨k', hk', rfl⟩ := toNode_eq_ok_iff.mp h
  have filled : k' ≠ .tuple [] := by
    rintro rfl
    exact hk (eq_tuple_nil_of_inPlace hk')
  rw [toKind_eq_content, content_node k' filled]
  exact inPlace_inPlace hk'

theorem toKind_of_toNode_nil {n : TypeNode D' U' P' C'} (h : f.toNode (.tuple []) = .ok n) :
    g.toKind n = .error (.missingPayload "TypeKind" "TupleType") := by
  obtain rfl := Except.ok.inj h
  rfl

theorem toNode_of_toKind {g : PayloadWalk (Except Fault) D' U' P' C' D U P C} {c : TypeNode D' U' P' C'}
    {k : TypeKind D U P C} (h : g.toKind c = .ok k)
    (undone : ∀ payloads, c.selection = .ok payloads → ∀ p ∈ payloads, g.call p >>= f.call = .ok p) :
    f.toNode k = .ok c.selected := by
  obtain ⟨k', hk', h⟩ := bind_eq_ok_iff.mp ((toKind_eq_content c).symm.trans h)
  have content := c.content_eq
  cases hs : c.selection with
  | error fault =>
    rw [hs, hk'] at content
    nomatch content
  | ok payloads =>
    rw [hs, hk'] at content
    obtain ⟨_, same, -, selects, selected⟩ := content
    obtain rfl := Except.ok.inj same
    refine toNode_eq_ok_iff.mpr ⟨k', ?_, selected⟩
    rw [inPlace_inPlace h]
    refine inPlace_eq_ok_self fun p hp => ?_
    rw [call_andThen]
    exact undone payloads hs p (selects ▸ hp)

/-- A walk by `g` from what a walk by `f` makes of a node is a change in place by both, one after the other, which
reports the first failure of `g` in the order of the payloads; the empty tuple is refused. So it gives the node
again when `g` undoes `f` on the payloads. The other way round, the record node comes back without what its tag does
not select. -/
theorem walks_fuse_and_invert (f : PayloadWalk (Except Fault) D U P C D' U' P' C') :
    (∀ (D'' U'' P'' C'' : Type) (g : PayloadWalk (Except Fault) D' U' P' C' D'' U'' P'' C'')
      (k : TypeKind D U P C),
      (∀ p ∈ k.payloads, ∃ q, f.call p = .ok q) → ∃ n, f.toNode k = .ok n ∧
        (k ≠ .tuple [] → g.toKind n = (f.andThen g).inPlace k ∧
          Reports (g.toKind n) (k.payloads.flatMap fun p => faultsOf (f.call p >>= g.call))) ∧
        (k = .tuple [] → g.toKind n = .error (.missingPayload "TypeKind" "TupleType"))) ∧
    (∀ (g : PayloadWalk (Except Fault) D' U' P' C' D U P C) (k : TypeKind D U P C), k ≠ .tuple [] →
      (∀ p ∈ k.payloads, f.call p >>= g.call = .ok p) → ∃ n, f.toNode k = .ok n ∧ g.toKind n = .ok k) ∧
    ∀ (g : PayloadWalk (Except Fault) D' U' P' C' D U P C) (c : TypeNode D' U' P' C') (k : TypeKind D U P C),
      g.toKind c = .ok k →
      (∀ payloads, c.selection = .ok payloads → ∀ p ∈ payloads, g.call p >>= f.call = .ok p) →
      f.toNode k = .ok c.selected := by
  refine ⟨fun D'' U'' P'' C'' g k each => ?_, fun g k hk undone => ?_, fun g c k => toNode_of_toKind⟩
  · obtain ⟨k', hk'⟩ := exists_inPlace each
    have made : f.toNode k = .ok k'.node := toNode_eq_ok_iff.mpr ⟨k', hk', rfl⟩
    refine ⟨k'.node, made, fun hk => ?_, ?_⟩
    · have fused : g.toKind k'.node = (f.andThen g).inPlace k := toKind_of_toNode hk made
      refine ⟨fused, ?_⟩
      rw [fused]
      simpa only [call_andThen] using inPlace_reports (f := f.andThen g) k
    · rintro rfl
      exact toKind_of_toNode_nil made
  · have each (p) (hp : p ∈ k.payloads) : ∃ q, f.call p = .ok q := by
      obtain ⟨q, hq, -⟩ := bind_eq_ok_iff.mp (undone p hp)
      exact ⟨q, hq⟩
    obtain ⟨k', hk'⟩ := exists_inPlace each
    have made : f.toNode k = .ok k'.node := toNode_eq_ok_iff.mpr ⟨k', hk', rfl⟩
    refine ⟨k'.node, made, ?_⟩
    rw [toKind_of_toNode hk made]
    refine inPlace_eq_ok_self fun p hp => ?_
    rw [call_andThen]
    exact undone p hp

/-- The walk that converts the payloads of all kinds alike. -/
def alike {α β : Type} (convert : α → Except Fault β) : PayloadWalk (Except Fault) α α α α β β β β :=
  ⟨convert, convert, convert, convert⟩

theorem walks_fuse_and_invert_pred_succ :
    let up := alike fun n : Nat => .ok (n + 1)
    let down := alike fun n : Nat => if n = 0 then .error (.emptyIdentifier "Zero") else .ok (n - 1)
    let node : TypeNode Nat Nat Nat Nat := ⟨.known .array, some 4, some [8], none, some 1, none, none⟩
    (∃ n, up.toNode (.function 3 0) = .ok n ∧ down.toKind n = .ok (.function 3 0)) ∧
      up.toNode (.array 3) = .ok node.selected ∧
      ∃ n, down.toNode (.operation 2 1 6) = .ok n ∧ down.toKind n = .error (.emptyIdentifier "Zero") := by
  intro up down node
  have undone : ∀ p ∈ [Payload.data 3, .data 0], up.call p >>= down.call = .ok p := by
    simp only [List.forall_mem_cons]
    exact ⟨rfl, rfl, nofun⟩
  have redone : ∀ payloads, node.selection = .ok payloads →
      ∀ p ∈ payloads, down.call p >>= up.call = .ok p := by
    rintro _ ⟨⟩
    simp only [List.forall_mem_cons]
    exact ⟨rfl, nofun⟩
  have each : ∀ p ∈ [Payload.data 2, .data 1, .information 6], ∃ q, down.call p = .ok q := by
    simp only [List.forall_mem_cons]
    exact ⟨⟨_, rfl⟩, ⟨_, rfl⟩, ⟨_, rfl⟩, nofun⟩
  refine ⟨(walks_fuse_and_invert up).2.1 down _ nofun undone,
    (walks_fuse_and_invert up).2.2 down node _ rfl redone, ?_⟩
  obtain ⟨n, hn, fused, -⟩ := (walks_fuse_and_invert down).1 _ _ _ _ down (.operation 2 1 6) each
  exact ⟨n, hn, (fused nofun).1⟩

end PayloadWalk

end ProgramInterchange
