import ProgramInterchange.Proofs.Walk.Calls
import ProgramInterchange.Proofs.Walk.Payload

/-!
# The calls of a walk through a type node

Both directions of a walk convert the payloads of a node one by one from left to right, each as its kind is
converted, and stop at the first that fails. What a record node lacks is found before any payload is converted.
-/

namespace ProgramInterchange

open ProgramInterchange.Tree (TypeKind)
open ProgramInterchange.Record (TypeNode TypeTag)
open ProgramInterchange.Walk

namespace PayloadWalk

variable {σ D U P C D' U' P' C' : Type}

/-- The walk that keeps a list of the payloads it has been called for. -/
def listed (w : PayloadWalk (Stateful σ) D U P C D' U' P' C') :
    PayloadWalk (Stateful (σ × List (Payload D U P C))) D U P C D' U' P' C' where
  data d := listing (.data d) (w.data d)
  userDefined u := listing (.userDefined u) (w.userDefined u)
  parameter p := listing (.parameter p) (w.parameter p)
  information c := listing (.information c) (w.information c)

variable (w : PayloadWalk (Stateful σ) D U P C D' U' P' C')

theorem data_follows (d : D) :
    Follows w.call [.data d] (w.data d) (w.listed.data d) fun d' qs => qs = [.data d'] :=
  .one rfl

theorem information_follows (c : C) :
    Follows w.call [.information c] (w.information c) (w.listed.information c) fun c' qs => qs = [.information c'] :=
  .one rfl

theorem inPlace_follows (k : TypeKind D U P C) :
    Follows w.call k.payloads (w.inPlace k) (w.listed.inPlace k) fun k' qs => k'.tag = k.tag ∧ k'.payloads = qs := by
  cases k with
  | leaf type => exact .pure ⟨rfl, rfl⟩
  | array item =>
    refine ((w.data_follows item).map _).mono ?_
    rintro k' qs ⟨d, rfl, rfl⟩
    exact ⟨rfl, rfl⟩
  | tuple items =>
    have each (d : D) : w.call (.data d) = Payload.data <$> w.data d := rfl
    refine ((Follows.mapM each items).map _).mono ?_
    rintro k' qs ⟨ds, rfl, rfl⟩
    exact ⟨rfl, rfl⟩
  | userDefined reference =>
    have one : w.call (.userDefined reference) = Payload.userDefined <$> w.userDefined reference := rfl
    refine ((Follows.one one).map _).mono ?_
    rintro k' qs ⟨u, rfl, rfl⟩
    exact ⟨rfl, rfl⟩
  | parameter reference =>
    have one : w.call (.parameter reference) = Payload.parameter <$> w.parameter reference := rfl
    refine ((Follows.one one).map _).mono ?_
    rintro k' qs ⟨p, rfl, rfl⟩
    exact ⟨rfl, rfl⟩
  | operation domain codomain information =>
    refine ((w.data_follows domain).bind fun d => (w.data_follows codomain).bind fun c =>
      (w.information_follows information).map _).mono ?_
    rintro k' qs ⟨d, first, rest, rfl, ⟨c, second, third, rfl, ⟨i, rfl, rfl⟩, rfl⟩, rfl⟩
    exact ⟨rfl, rfl⟩
  | function domain codomain =>
    refine ((w.data_follows domain).bind fun d => (w.data_follows codomain).map _).mono ?_
    rintro k' qs ⟨d, first, rest, rfl, ⟨c, rfl, rfl⟩, rfl⟩
    exact ⟨rfl, rfl⟩

theorem toNode_follows (k : TypeKind D U P C) :
    Follows w.call k.payloads (w.toNode k) (w.listed.toNode k) fun n qs => n.Holds k.tag qs := by
  rw [toNode_eq_inPlace, toNode_eq_inPlace]
  refine ((w.inPlace_follows k).map TypeKind.node).mono ?_
  rintro n qs ⟨k', ⟨tag, rfl⟩, rfl⟩
  rw [← tag]
  exact k'.holds_node

/-- Both directions of a walk convert the payloads of a node in their order, each as its kind is converted, up to the
first that fails. On success the record node holds what they have become in the field of its tag, and nothing else,
and the tree node is the one of the tag. A record node that selects no payloads is refused without a call. -/
theorem converts_payloads_in_order :
    (∀ k : TypeKind D U P C,
      Follows w.call k.payloads (w.toNode k) (w.listed.toNode k) fun n qs => n.Holds k.tag qs) ∧
    ∀ n : TypeNode D U P C,
      match n.selection with
      | .error fault => w.toKind n = throw fault ∧ w.listed.toKind n = throw fault
      | .ok payloads => Follows w.call payloads (w.toKind n) (w.listed.toKind n) fun k qs =>
          n.kind = .known k.tag ∧ k.payloads = qs := by
  refine ⟨w.toNode_follows, fun n => ?_⟩
  have content := n.content_eq
  rw [toKind_eq_inPlace, toKind_eq_inPlace]
  cases hs : n.selection with
  | error fault =>
    rw [hs] at content
    rw [content]
    exact ⟨rfl, rfl⟩
  | ok payloads =>
    rw [hs] at content
    obtain ⟨k, hk, tag, rfl, -⟩ := content
    rw [hk]
    refine (w.inPlace_follows k).mono ?_
    rintro k' qs ⟨same, converted⟩
    exact ⟨same ▸ tag, converted⟩

end PayloadWalk

end ProgramInterchange
