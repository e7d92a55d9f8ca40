import ProgramInterchange.Proofs.Conversion.RoundTrip
import ProgramInterchange.Proofs.Record.Pruned
import ProgramInterchange.Proofs.Walk.Calls

/-!
# The calls of a walk through a tuple

Both directions of a walk through a tuple convert its items from left to right and keep its shape. A record may lack
what its tags call for; the walk comes to such a fault between the items, after the calls for the items before it.
-/

namespace ProgramInterchange

open ProgramInterchange.Walk
open ProgramInterchange.Record (TupleTag)

variable {σ α β : Type}

/-! ### Tuples of trees -/

namespace Tree.Tuple

/-- How the tuple is grouped, whatever its items are. -/
def shape (t : Tuple α) : Tuple Unit := t.map fun _ => ()

theorem shape_group (members : List (Tuple α)) : (group members).shape = .group (members.map shape) :=
  map_group _ members

end Tree.Tuple

/-! ### Tuples of records -/

namespace Record.Tuple

/-- The places at a node of a tuple record: its item, those of its members, or a fault instead. -/
def nodePlaces (kind : Tag TupleTag) (item : Option β) (members : List (Except Fault β)) :
    List (Except Fault β) :=
  match kind, item with
  | .known .item, some value => [.ok value]
  | .known .item, none => [.error (.missingPayload "QsTuple" kind.display)]
  | .known .group, _ => members
  | .unrecognized _, _ => [.error (.unsupportedVariant "QsTuple" kind.display)]

mutual
/-- The selected items from left to right, and among them the faults: unknown tags and absent payloads. -/
def places : Tuple β → List (Except Fault β)
  | .single kind item => nodePlaces kind item [.error (.missingPayload "QsTuple" kind.display)]
  | .grouped kind item items => nodePlaces kind item (placesOf items)

def placesOf : List (Tuple β) → List (Except Fault β)
  | [] => []
  | t :: ts => t.places ++ placesOf ts
end

mutual
/-- How the tags group the record. What they do not make a group stands for an item. -/
def shape : Tuple β → Tree.Tuple Unit
  | .single _ _ => .item ()
  | .grouped kind _ items => if kind = .known .group then .group (shapes items) else .item ()

def shapes : List (Tuple β) → List (Tree.Tuple Unit)
  | [] => []
  | t :: ts => t.shape :: shapes ts
end

theorem placesOf_eq_flatMap (ts : List (Tuple β)) : placesOf ts = ts.flatMap places := by
  induction ts with
  | nil => rfl
  | cons t ts ih => rw [placesOf, ih, List.flatMap_cons]

theorem shapes_eq_map (ts : List (Tuple β)) : shapes ts = ts.map shape := by
  induction ts with
  | nil => rfl
  | cons t ts ih => rw [shapes, ih, List.map_cons]

end Record.Tuple

/-! ### The record of a tuple -/

namespace Tree.Tuple

theorem places_toRecord (f : α → β) (t : Tuple α) : (t.toRecord f).places = (t.items.map f).map .ok := by
  induction t using Tuple.induction with
  | item value => rfl
  | group members ih =>
    rw [toRecord_group, items_group, Record.Tuple.places, Record.Tuple.placesOf_eq_flatMap, List.flatMap_map,
      List.map_map, List.map_flatMap, List.flatMap_def, List.map_congr_left ih]
    simp only [List.map_map, ← List.flatMap_def]
    rfl

theorem shape_toRecord (f : α → β) (t : Tuple α) : (t.toRecord f).shape = t.shape := by
  induction t using Tuple.induction with
  | item value => rfl
  | group members ih =>
    rw [toRecord_group, shape_group, Record.Tuple.shape, if_pos rfl, Record.Tuple.shapes_eq_map, List.map_map]
    exact congrArg group (List.map_congr_left ih)

theorem pruned_toRecord (f : α → β) (t : Tuple α) : (t.toRecord f).pruned id = t.toRecord f := by
  induction t using Tuple.induction with
  | item value => rfl
  | group members ih =>
    rw [toRecord_group, Record.Tuple.pruned, if_pos rfl, Record.Tuple.prunedOf_eq_map, List.map_map]
    exact congrArg _ (List.map_congr_left ih)

/-! ### From a tuple to its record -/

section

variable (f : α → Stateful σ β)

theorem toRecords_follows {ts : List (Tuple α)}
    (each : ∀ t ∈ ts, Follows f t.items (t.toRecordM f) (t.toRecordM fun a => listing a (f a)) fun r bs =>
      ∃ u : Tuple β, u.shape = t.shape ∧ u.items = bs ∧ u.toRecord id = r) :
    Follows f (ts.flatMap items) (ts.mapM (toRecordM f)) (ts.mapM (toRecordM fun a => listing a (f a))) fun rs bs =>
      ∃ us : List (Tuple β), us.map shape = ts.map shape ∧ us.flatMap items = bs ∧ us.map (toRecord id) = rs := by
  induction ts with
  | nil =>
    rw [List.mapM_nil, List.mapM_nil]
    exact .pure ⟨[], rfl, rfl, rfl⟩
  | cons t ts ih =>
    have head := each t (List.mem_cons_self ..)
    have tail := ih fun t ht => each t (List.mem_cons_of_mem _ ht)
    rw [List.flatMap_cons, List.mapM_cons, List.mapM_cons]
    refine (head.bind fun r => tail.map (r :: ·)).mono ?_
    rintro _ _ ⟨_, _, _, ⟨u, shape, rfl, rfl⟩, ⟨_, ⟨us, shapes, rfl, rfl⟩, rfl⟩, rfl⟩
    exact ⟨u :: us, by rw [List.map_cons, List.map_cons, shape, shapes], List.flatMap_cons, List.map_cons⟩

/-- The walk gives the record of the tuple that has what the calls give in the places of the items. -/
theorem toRecordM_follows (t : Tuple α) :
    Follows f t.items (t.toRecordM f) (t.toRecordM fun a => listing a (f a)) fun r bs =>
      ∃ u : Tuple β, u.shape = t.shape ∧ u.items = bs ∧ u.toRecord id = r := by
  induction t using Tuple.induction with
  | item value =>
    have one : f value = id <$> f value := (id_map _).symm
    refine ((Follows.one one).map _).mono ?_
    rintro _ _ ⟨b, rfl, rfl⟩
    exact ⟨.item b, rfl, rfl, rfl⟩
  | group members ih =>
    rw [items_group, toRecordM, toRecordM, toRecordsM_eq_mapM, toRecordsM_eq_mapM]
    refine ((toRecords_follows f ih).map _).mono ?_
    rintro _ _ ⟨_, ⟨us, shapes, rfl, rfl⟩, rfl⟩
    exact ⟨.group us, by rw [shape_group, shape_group, shapes], items_group us, toRecord_group id us⟩

end

end Tree.Tuple

/-! ### From a record to its tuple -/

namespace Record.Tuple

section

variable (g : β → Stateful σ α)

theorem toTrees_follows {ts : List (Tuple β)}
    (each : ∀ t ∈ ts, FollowsUpTo g t.places (t.toTreeM g) (t.toTreeM fun b => listing b (g b)) fun u as =>
      u.shape = t.shape ∧ u.items = as) :
    FollowsUpTo g (ts.flatMap places) (ts.mapM (toTreeM g)) (ts.mapM (toTreeM fun b => listing b (g b))) fun us as =>
      us.map Tree.Tuple.shape = ts.map shape ∧ us.flatMap Tree.Tuple.items = as := by
  induction ts with
  | nil =>
    rw [List.mapM_nil, List.mapM_nil]
    exact Follows.pure ⟨rfl, rfl⟩
  | cons t ts ih =>
    have head := each t (List.mem_cons_self ..)
    have tail := ih fun t ht => each t (List.mem_cons_of_mem _ ht)
    rw [List.flatMap_cons, List.mapM_cons, List.mapM_cons]
    refine (head.bind fun u => tail.map (u :: ·)).mono ?_
    rintro _ _ ⟨u, _, _, ⟨shape, rfl⟩, ⟨us, ⟨shapes, rfl⟩, rfl⟩, rfl⟩
    exact ⟨by rw [List.map_cons, List.map_cons, shape, shapes], List.flatMap_cons⟩

/-- An item is converted by one call if its field is filled. -/
theorem item_follows (kind : Tag TupleTag) (i : Option β) (members : List (Except Fault β))
    (h : kind = .known .item) :
    FollowsUpTo g (nodePlaces kind i members)
      (withPayload "QsTuple" kind.display i fun value => do
        let value ← g value
        return Tree.Tuple.item value)
      (withPayload "QsTuple" kind.display i fun value => do
        let value ← listing value (g value)
        return Tree.Tuple.item value)
      fun u as => u.shape = .item () ∧ u.items = as := by
  subst h
  cases i with
  | none => exact Halts.throw g _
  | some value =>
    have one : g value = id <$> g value := (id_map _).symm
    refine Follows.mono ((Follows.one one).map _) ?_
    rintro _ _ ⟨a, rfl, rfl⟩
    exact ⟨rfl, rfl⟩

theorem toTreeM_follows (t : Tuple β) :
    FollowsUpTo g t.places (t.toTreeM g) (t.toTreeM fun b => listing b (g b)) fun u as =>
      u.shape = t.shape ∧ u.items = as := by
  induction t using Tuple.induction with
  | single kind i =>
    obtain (_ | _) | code := kind
    · exact item_follows g _ i _ rfl
    · exact Halts.throw g _
    · exact Halts.throw g _
  | grouped kind i items ih =>
    obtain (_ | _) | code := kind
    · exact item_follows g _ i _ rfl
    · have members := toTrees_follows g ih
      rw [← placesOf_eq_flatMap, ← toTreesM_eq_mapM, ← toTreesM_eq_mapM] at members
      refine (members.map Tree.Tuple.group).mono ?_
      rintro _ _ ⟨us, ⟨shapes, rfl⟩, rfl⟩
      rw [shape, if_pos rfl, shapes_eq_map, ← shapes]
      exact ⟨Tree.Tuple.shape_group us, Tree.Tuple.items_group us⟩
    · exact Halts.throw g _

end

end Record.Tuple

/-! ### There and back -/

theorem mapM_bind_mapM_eq_ok {f : α → Except Fault β} {g : β → Except Fault α} {as : List α}
    (undone : ∀ a ∈ as, f a >>= g = .ok a) : as.mapM f >>= List.mapM g = .ok as := by
  induction as with
  | nil => rfl
  | cons a as ih =>
    obtain ⟨b, hb, ha⟩ := bind_eq_ok_iff.mp (undone a (List.mem_cons_self ..))
    obtain ⟨bs, hbs, has⟩ := bind_eq_ok_iff.mp (ih fun a ha => undone a (List.mem_cons_of_mem _ ha))
    have there : (a :: as).mapM f = .ok (b :: bs) := mapM_cons_eq_ok_iff.mpr ⟨b, hb, bs, hbs, rfl⟩
    have back : (b :: bs).mapM g = .ok (a :: as) := mapM_cons_eq_ok_iff.mpr ⟨a, ha, as, has, rfl⟩
    exact bind_eq_ok_iff.mpr ⟨b :: bs, there, back⟩

theorem Tree.Tuple.toTreeM_of_toRecordM {f : α → Except Fault β} {g : β → Except Fault α} (t : Tuple α)
    (undone : ∀ a ∈ t.items, f a >>= g = .ok a) : t.toRecordM f >>= Record.Tuple.toTreeM g = .ok t := by
  induction t using Tuple.induction with
  | item value =>
    obtain ⟨b, hb, ha⟩ := bind_eq_ok_iff.mp (undone value (List.mem_singleton_self value))
    refine bind_eq_ok_iff.mpr ⟨.single (.known .item) (some b), ?_, ?_⟩
    · rw [toRecordM, hb]
      rfl
    · show (g b >>= fun value => pure (item value)) = .ok (item value)
      rw [ha]
      rfl
  | group members ih =>
    have each (t) (ht : t ∈ members) : t.toRecordM f >>= Record.Tuple.toTreeM g = .ok t := by
      refine ih t ht fun a ha => undone a ?_
      rw [items_group]
      exact List.mem_flatMap_of_mem ht ha
    obtain ⟨rs, there, back⟩ := bind_eq_ok_iff.mp (mapM_bind_mapM_eq_ok each)
    refine bind_eq_ok_iff.mpr ⟨.grouped (.known .group) none rs, ?_, ?_⟩
    · rw [toRecordM, toRecordsM_eq_mapM, there]
      rfl
    · show (Record.Tuple.toTreesM g rs >>= fun members => pure (group members)) = .ok (group members)
      rw [Record.Tuple.toTreesM_eq_mapM, back]
      rfl

/-- The walk from a tuple to its record makes a call for every item in order, up to the first that fails, and gives a
record of the same shape with the results as its items and nothing else. The walk back makes a call for every item
that the tags of the record select, up to the first that fails, the first unknown tag or the first absent payload, and
gives a tuple of the same shape with the results as its items. The second walk undoes the first whenever its calls
undo those of the first. -/
theorem walks_convert_items_in_order {σ α β : Type} :
    (∀ (f : α → Stateful σ β) (t : Tree.Tuple α),
      Follows f t.items (t.toRecordM f) (t.toRecordM fun a => listing a (f a)) fun r bs =>
        r.shape = t.shape ∧ r.places = bs.map .ok ∧ r.pruned id = r) ∧
    (∀ (g : β → Stateful σ α) (r : Record.Tuple β),
      FollowsUpTo g r.places (r.toTreeM g) (r.toTreeM fun b => listing b (g b)) fun t as =>
        t.shape = r.shape ∧ t.items = as) ∧
    ∀ (f : α → Except Fault β) (g : β → Except Fault α) (t : Tree.Tuple α),
      (∀ a ∈ t.items, f a >>= g = .ok a) → t.toRecordM f >>= Record.Tuple.toTreeM g = .ok t := by
  refine ⟨fun f t => ?_, Record.Tuple.toTreeM_follows, fun f g t => t.toTreeM_of_toRecordM⟩
  refine (t.toRecordM_follows f).mono ?_
  rintro _ _ ⟨u, shape, rfl, rfl⟩
  exact ⟨(u.shape_toRecord id).trans shape, by rw [u.places_toRecord, List.map_id], u.pruned_toRecord id⟩

theorem walks_convert_items_succ_pred :
    let up : Nat → Except Fault Nat := fun n => .ok (n + 1)
    let down : Nat → Except Fault Nat := fun n => if n = 0 then .error (.emptyIdentifier "Zero") else .ok (n - 1)
    let t : Tree.Tuple Nat := .group [.item 3, .group [], .group [.item 0, .group [.group []]]]
    (∀ a ∈ t.items, up a >>= down = .ok a) ∧ t.toRecordM up >>= Record.Tuple.toTreeM down = .ok t := by
  intro up down t
  have undone : ∀ a ∈ t.items, up a >>= down = .ok a := fun a _ => rfl
  exact ⟨undone, (@walks_convert_items_in_order Unit Nat Nat).2.2 up down t undone⟩

end ProgramInterchange
