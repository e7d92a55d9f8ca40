import ProgramInterchange.Record.Type

/-!
# Walking one type node

A type node of a tree and a node of a record hold payloads of four kinds. A `PayloadWalk` says how each
kind is converted; `toNode` and `toKind` place the converted payloads. They visit payloads from left to
right and stop at the first effect that fails. Which tag goes with which payload field is said here only.
-/

namespace ProgramInterchange

open ProgramInterchange.Tree (TypeKind)
open ProgramInterchange.Record (TypeNode TypeTag)

/-- Goes on with a payload, which has to be present because the tag selects it. -/
def withPayload {m : Type → Type} [MonadExceptOf Fault m] {α β : Type} (kind variant : String)
    (payload : Option α) (next : α → m β) : m β :=
  match payload with
  | some value => next value
  | none => throw (.missingPayload kind variant)

/-- How payloads are converted: nested types, type references, type parameters, and what is known about
an operation. -/
structure PayloadWalk (m : Type → Type) (D U P C D' U' P' C' : Type) where
  data : D → m D'
  userDefined : U → m U'
  parameter : P → m P'
  information : C → m C'

namespace PayloadWalk

variable {m : Type → Type} [Monad m] {D E U P C D' U' P' C' : Type}

/-- The record node of a tree node: its tag, and the converted payload in the field of that tag. -/
def toNode (w : PayloadWalk m D U P C D' U' P' C') : TypeKind D U P C → m (TypeNode D' U' P' C')
  | .leaf type => pure ⟨.known (.leaf type), none, none, none, none, none, none⟩
  | .array item => do
    let item ← w.data item
    return ⟨.known .array, some item, none, none, none, none, none⟩
  | .tuple items => do
    let items ← items.mapM w.data
    return ⟨.known .tuple, none, some items, none, none, none, none⟩
  | .userDefined reference => do
    let reference ← w.userDefined reference
    return ⟨.known .userDefined, none, none, some reference, none, none, none⟩
  | .parameter reference => do
    let reference ← w.parameter reference
    return ⟨.known .parameter, none, none, none, some reference, none, none⟩
  | .operation domain codomain information => do
    let domain ← w.data domain
    let codomain ← w.data codomain
    let information ← w.information information
    return ⟨.known .operation, none, none, none, none, some ⟨⟨domain, codomain⟩, information⟩, none⟩
  | .function domain codomain => do
    let domain ← w.data domain
    let codomain ← w.data codomain
    return ⟨.known .function, none, none, none, none, none, some ⟨domain, codomain⟩⟩

/-- The tree node of a record node. Only the payload field that the tag selects is looked at; it has to be
present, and a tuple needs an item. -/
def toKind [MonadExceptOf Fault m] (w : PayloadWalk m D U P C D' U' P' C') (n : TypeNode D U P C) :
    m (TypeKind D' U' P' C') :=
  match n.kind with
  | .known (.leaf type) => pure (.leaf type)
  | .known .array =>
    withPayload "TypeKind" n.kind.display n.arrayType fun item => do
      let item ← w.data item
      return .array item
  | .known .tuple =>
    withPayload "TypeKind" n.kind.display n.tupleType fun items =>
      if items.isEmpty then throw (.missingPayload "TypeKind" n.kind.display)
      else do
        let items ← items.mapM w.data
        return .tuple items
  | .known .userDefined =>
    withPayload "TypeKind" n.kind.display n.userDefinedType fun reference => do
      let reference ← w.userDefined reference
      return .userDefined reference
  | .known .parameter =>
    withPayload "TypeKind" n.kind.display n.typeParameter fun reference => do
      let reference ← w.parameter reference
      return .parameter reference
  | .known .operation =>
    withPayload "TypeKind" n.kind.display n.operation fun operation => do
      let domain ← w.data operation.arrow.domain
      let codomain ← w.data operation.arrow.codomain
      let information ← w.information operation.characteristics
      return .operation domain codomain information
  | .known .function =>
    withPayload "TypeKind" n.kind.display n.function fun arrow => do
      let domain ← w.data arrow.domain
      let codomain ← w.data arrow.codomain
      return .function domain codomain
  | .unrecognized _ => throw (.unsupportedVariant "TypeKind" n.kind.display)

/-- The walk that first changes nested types by `f`. -/
def comap (f : E → D) (w : PayloadWalk m D U P C D' U' P' C') : PayloadWalk m E U P C D' U' P' C' :=
  ⟨fun e => w.data (f e), w.userDefined, w.parameter, w.information⟩

/-- Nested types may be changed before the walk or in it. -/
theorem toNode_mapParts [LawfulMonad m] (w : PayloadWalk m D U P C D' U' P' C') (f : E → D)
    (k : TypeKind E U P C) : w.toNode (k.mapParts f) = (w.comap f).toNode k := by
  cases k <;>
    simp [toNode, comap, TypeKind.mapParts, TypeKind.map, List.mapM_map, Function.comp_def]

theorem toKind_mapParts [LawfulMonad m] [MonadExceptOf Fault m] (w : PayloadWalk m D U P C D' U' P' C')
    (f : E → D) (n : TypeNode E U P C) : w.toKind (n.mapParts f) = (w.comap f).toKind n := by
  obtain ⟨kind, a, i, u, p, o, r⟩ := n
  obtain (_ | _ | _ | _ | _ | _ | _) | _ := kind <;>
    simp only [toKind, comap, TypeNode.mapParts, TypeNode.map, Option.map_id, id]
  · cases a <;> rfl
  · cases i <;> simp [withPayload, List.mapM_map, Function.comp_def]
  · rcases o with _ | ⟨⟨_, _⟩, _⟩ <;> rfl
  · cases r <;> rfl

end PayloadWalk

end ProgramInterchange
