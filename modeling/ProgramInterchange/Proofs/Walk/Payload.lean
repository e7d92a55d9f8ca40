import ProgramInterchange.Proofs.Computation
import ProgramInterchange.Proofs.Record.Pruned

/-!
# The payloads of a type node

A walk through a type node is a change of its payloads in place, before the node of a record is made or after the
node of a tree is found. Which payloads there are is said by lists, from left to right.
-/

namespace ProgramInterchange

open ProgramInterchange.Tree (TypeKind)
open ProgramInterchange.Record (TypeNode TypeTag)

variable {D U P C D' U' P' C' D'' U'' P'' C'' : Type}

inductive Payload (D U P C : Type) where
  | data (type : D)
  | userDefined (reference : U)
  | parameter (reference : P)
  | information (information : C)
  deriving DecidableEq, Repr

/-! ### Nodes of trees -/

namespace Tree.TypeKind

def tag : TypeKind D U P C → TypeTag
  | leaf type => .leaf type
  | array _ => .array
  | tuple _ => .tuple
  | userDefined _ => .userDefined
  | parameter _ => .parameter
  | operation .. => .operation
  | function .. => .function

def payloads : TypeKind D U P C → List (Payload D U P C)
  | leaf _ => []
  | array item => [.data item]
  | tuple items => items.map .data
  | userDefined reference => [.userDefined reference]
  | parameter reference => [.parameter reference]
  | operation domain codomain information => [.data domain, .data codomain, .information information]
  | function domain codomain => [.data domain, .data codomain]

end Tree.TypeKind

/-! ### Nodes of records -/

namespace Record.TypeNode

/-- The payloads in the field that the tag names; nothing if there is no such field or it is absent. -/
def payloads? (n : TypeNode D U P C) : Option (List (Payload D U P C)) :=
  match n.kind with
  | .known (.leaf _) => some []
  | .known .array => n.arrayType.map fun item => [.data item]
  | .known .tuple => n.tupleType.map fun items => items.map .data
  | .known .userDefined => n.userDefinedType.map fun reference => [.userDefined reference]
  | .known .parameter => n.typeParameter.map fun reference => [.parameter reference]
  | .known .operation =>
    n.operation.map fun o => [.data o.arrow.domain, .data o.arrow.codomain, .information o.characteristics]
  | .known .function => n.function.map fun a => [.data a.domain, .data a.codomain]
  | .unrecognized _ => none

/-- The payloads that the tag selects, or why there are none to convert: a tag that is unknown, a field that is
absent, a tuple without items. -/
def selection (n : TypeNode D U P C) : Except Fault (List (Payload D U P C)) :=
  match n.kind, n.payloads? with
  | .unrecognized _, _ => .error (.unsupportedVariant "TypeKind" n.kind.display)
  | .known _, none => .error (.missingPayload "TypeKind" n.kind.display)
  | .known .tuple, some [] => .error (.missingPayload "TypeKind" n.kind.display)
  | .known _, some payloads => .ok payloads

/-- The node holds the payloads of a tree node in the field of its tag, and nothing else. -/
structure Holds (n : TypeNode D' U' P' C') (tag : TypeTag) (payloads : List (Payload D' U' P' C')) : Prop where
  kind : n.kind = .known tag
  payloads : n.payloads? = some payloads
  alone : n.selected = n

end Record.TypeNode

/-! ### Walks -/

namespace PayloadWalk

variable {m : Type → Type}

def call [Functor m] (w : PayloadWalk m D U P C D' U' P' C') : Payload D U P C → m (Payload D' U' P' C')
  | .data d => .data <$> w.data d
  | .userDefined u => .userDefined <$> w.userDefined u
  | .parameter p => .parameter <$> w.parameter p
  | .information c => .information <$> w.information c

variable [Monad m]

/-- Converts every payload in place, from left to right. -/
def inPlace (w : PayloadWalk m D U P C D' U' P' C') : TypeKind D U P C → m (TypeKind D' U' P' C')
  | .leaf type => pure (.leaf type)
  | .array item => do
    let item ← w.data item
    return .array item
  | .tuple items => do
    let items ← items.mapM w.data
    return .tuple items
  | .userDefined reference => do
    let reference ← w.userDefined reference
    return .userDefined reference
  | .parameter reference => do
    let reference ← w.parameter reference
    return .parameter reference
  | .operation domain codomain information => do
    let domain ← w.data domain
    let codomain ← w.data codomain
    let information ← w.information information
    return .operation domain codomain information
  | .function domain codomain => do
    let domain ← w.data domain
    let codomain ← w.data codomain
    return .function domain codomain

def keep : PayloadWalk m D U P C D U P C := ⟨pure, pure, pure, pure⟩

/-- Converts by `f`, and what comes out by `g`. -/
def andThen (f : PayloadWalk m D U P C D' U' P' C') (g : PayloadWalk m D' U' P' C' D'' U'' P'' C'') :
    PayloadWalk m D U P C D'' U'' P'' C'' where
  data d := f.data d >>= g.data
  userDefined u := f.userDefined u >>= g.userDefined
  parameter p := f.parameter p >>= g.parameter
  information c := f.information c >>= g.information

end PayloadWalk

/-- The record node of the same payloads. -/
def Tree.TypeKind.node (k : TypeKind D U P C) : TypeNode D U P C := Id.run (PayloadWalk.keep.toNode k)

/-- The tree node of the payloads that are selected. -/
def Record.TypeNode.content (n : TypeNode D U P C) : Except Fault (TypeKind D U P C) := PayloadWalk.keep.toKind n

theorem Tree.TypeKind.node_tuple (items : List D) :
    (tuple items : TypeKind D U P C).node = ⟨.known .tuple, none, some items, none, none, none, none⟩ := by
  simp [node, PayloadWalk.toNode, PayloadWalk.keep]

theorem Record.TypeNode.content_tuple (n : TypeNode D U P C) (h : n.kind = .known .tuple) :
    n.content = match n.tupleType with
      | none | some [] => .error (.missingPayload "TypeKind" n.kind.display)
      | some items => .ok (.tuple items) := by
  obtain ⟨kind, arrayType, tupleType, userDefinedType, typeParameter, operation, function⟩ := n
  obtain rfl : kind = .known .tuple := h
  rcases tupleType with _ | _ | ⟨item, items⟩
  · rfl
  · rfl
  · have kept : (item :: items).mapM (pure : D → Except Fault D) = .ok ((item :: items).map id) :=
      List.mapM_pure
    rw [List.map_id] at kept
    show ((item :: items).mapM pure >>= fun items => pure (TypeKind.tuple items)) = _
    rw [kept]
    rfl

namespace PayloadWalk

variable {m : Type → Type} [Monad m]

theorem toNode_eq_inPlace [LawfulMonad m] (w : PayloadWalk m D U P C D' U' P' C') (k : TypeKind D U P C) :
    w.toNode k = w.inPlace k >>= fun k' => pure k'.node := by
  cases k with
  | tuple items => simp only [toNode, inPlace, bind_assoc, pure_bind, TypeKind.node_tuple]
  | _ =>
    simp only [toNode, inPlace, bind_assoc, pure_bind]
    rfl

theorem toKind_eq_inPlace [MonadExceptOf Fault m] (w : PayloadWalk m D U P C D' U' P' C')
    (n : TypeNode D U P C) :
    w.toKind n = match n.content with
      | .error fault => throw fault
      | .ok k => w.inPlace k := by
  by_cases h : n.kind = .known .tuple
  · rw [n.content_tuple h]
    obtain ⟨kind, arrayType, tupleType, userDefinedType, typeParameter, operation, function⟩ := n
    obtain rfl : kind = .known .tuple := h
    rcases tupleType with _ | _ | ⟨item, items⟩ <;> rfl
  · obtain ⟨kind, arrayType, tupleType, userDefinedType, typeParameter, operation, function⟩ := n
    obtain (type | _ | _ | _ | _ | _ | _) | code := kind
    · rfl
    · cases arrayType <;> rfl
    · exact absurd rfl h
    · cases userDefinedType <;> rfl
    · cases typeParameter <;> rfl
    · cases operation <;> rfl
    · cases function <;> rfl
    · rfl

end PayloadWalk

/-! ### Nodes of the same payloads -/

theorem Tree.TypeKind.holds_node (k : TypeKind D U P C) : k.node.Holds k.tag k.payloads := by
  cases k with
  | tuple items =>
    rw [node_tuple]
    exact ⟨rfl, rfl, rfl⟩
  | _ => exact ⟨rfl, rfl, rfl⟩

namespace Record.TypeNode

theorem content_eq (n : TypeNode D U P C) :
    match n.selection with
    | .error fault => n.content = .error fault
    | .ok payloads => ∃ k, n.content = .ok k ∧ n.kind = .known k.tag ∧ k.payloads = payloads ∧ k.node = n.selected := by
  by_cases h : n.kind = .known .tuple
  · rw [n.content_tuple h]
    obtain ⟨kind, arrayType, tupleType, userDefinedType, typeParameter, operation, function⟩ := n
    obtain rfl : kind = .known .tuple := h
    rcases tupleType with _ | _ | ⟨item, items⟩
    · rfl
    · rfl
    · exact ⟨_, rfl, rfl, rfl, TypeKind.node_tuple _⟩
  · obtain ⟨kind, arrayType, tupleType, userDefinedType, typeParameter, operation, function⟩ := n
    obtain (type | _ | _ | _ | _ | _ | _) | code := kind
    · exact ⟨_, rfl, rfl, rfl, rfl⟩
    · cases arrayType with
      | none => rfl
      | some item => exact ⟨_, rfl, rfl, rfl, rfl⟩
    · exact absurd rfl h
    · cases userDefinedType with
      | none => rfl
      | some reference => exact ⟨_, rfl, rfl, rfl, rfl⟩
    · cases typeParameter with
      | none => rfl
      | some reference => exact ⟨_, rfl, rfl, rfl, rfl⟩
    · cases operation with
      | none => rfl
      | some o => exact ⟨_, rfl, rfl, rfl, rfl⟩
    · cases function with
      | none => rfl
      | some a => exact ⟨_, rfl, rfl, rfl, rfl⟩
    · rfl

end Record.TypeNode

end ProgramInterchange
