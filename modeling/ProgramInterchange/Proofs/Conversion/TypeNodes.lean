import ProgramInterchange.Proofs.Conversion.WellTagged
import ProgramInterchange.Proofs.Tree.WellFormed
import ProgramInterchange.Proofs.Walk.Payload

/-!
# The nodes of a type and of its record

Messages name a node of a type by its kind and a node of a record by its tag, each from a table of its own. The nodes
of the record of a type are the records of its nodes, in the same order, so a walk through both in pre-order meets
the same name on either side, and the leaves of the type are the nodes without payload.
-/

namespace ProgramInterchange

open ProgramInterchange.Tree (TypeKind)
open ProgramInterchange.Record (TypeNode)

variable {D E U P C D' U' P' C' : Type}

/-! ### Names and leaves -/

namespace Tree.TypeKind

/-- A tag has the name of the tree nodes that it stands for. -/
theorem name_tag (k : TypeKind D U P C) : Coded.name k.tag = k.tagName := by
  -- The two tables are independent, so they are compared line by line.
  cases k with
  | leaf type => cases type <;> rfl
  | _ => rfl

theorem isLeaf_iff_tag (k : TypeKind D U P C) : k.isLeaf = true ↔ ∃ type, k.tag = .leaf type := by
  cases k <;> simp [isLeaf, tag]

end Tree.TypeKind

namespace Record.TypeNode

/-- None of the six payload fields is filled. -/
@[mk_iff]
structure Bare (n : TypeNode D U P C) : Prop where
  arrayType : n.arrayType = none
  tupleType : n.tupleType = none
  userDefinedType : n.userDefinedType = none
  typeParameter : n.typeParameter = none
  operation : n.operation = none
  function : n.function = none

/-- The record node shows what the tree node is: the tag is known and displayed under its name, payload fields are
filled unless it is a leaf, and there are as many nested types, so that a walk goes on through both. -/
structure Describes (n : TypeNode D' U' P' C') (k : TypeKind D U P C) : Prop where
  name : n.kind.display = k.tagName
  known : n.kind.IsKnown
  leaf : k.isLeaf = true ↔ n.Bare
  nested : n.parts.length = k.parts.length

theorem Filled.bare_iff_leaf {n : TypeNode D U P C} (h : n.Filled) :
    n.Bare ↔ ∃ type, n.kind = .known (.leaf type) := by
  obtain ⟨tag, known⟩ := h.kind
  rw [bare_iff, h.arrayType.eq_none_iff, h.tupleType.eq_none_iff, h.userDefinedType.eq_none_iff,
    h.typeParameter.eq_none_iff, h.operation.eq_none_iff, h.function.eq_none_iff, known]
  cases tag <;> simp

end Record.TypeNode

/-! ### One node -/

namespace PayloadWalk

variable (w : PayloadWalk Id D U P C D' U' P' C')

theorem kind_toNode (k : TypeKind D U P C) : (Id.run (w.toNode k)).kind = .known k.tag := by
  cases k <;> rfl

theorem describes_toNode (k : TypeKind D U P C) : (Id.run (w.toNode k)).Describes k where
  name := by
    rw [kind_toNode]
    exact k.name_tag
  known := (w.filled_toNode k).kind
  leaf := by
    rw [(w.filled_toNode k).bare_iff_leaf, kind_toNode, k.isLeaf_iff_tag]
    simp only [Tag.known.injEq]
  nested := by rw [parts_toNode, List.length_map]

end PayloadWalk

/-! ### All nodes -/

/-- The nodes of a type record in pre-order, the nested types of all payload fields in the order of the fields. -/
def Record.ResolvedType.nodes :
    Record.ResolvedType → List (TypeNode Unit UserDefinedType TypeParameter Record.Information) :=
  fold fun n => n.mapParts (fun _ => ()) :: n.parts.flatten

theorem Record.ResolvedType.nodes_mk (n : Record.ResolvedTypeNode) :
    (mk n).nodes = n.mapParts (fun _ => ()) :: n.parts.flatMap nodes := by
  rw [nodes, fold_mk, ← nodes, TypeNode.parts_mapParts, List.flatMap_def, TypeNode.mapParts, TypeNode.mapParts,
    TypeNode.map_map]
  rfl

namespace Tree

/-- Nested types may be changed in the record, or where they are written. -/
theorem mapParts_typeWriter (data : D → D') (f : D' → E)
    (k : TypeKind D UserDefinedType TypeParameter (CallableInformation Characteristics)) :
    (Id.run ((typeWriter data).toNode k)).mapParts f = Id.run ((typeWriter fun d => f (data d)).toNode k) := by
  cases k with
  | tuple items =>
    simp [PayloadWalk.toNode, typeWriter, TypeNode.mapParts, TypeNode.map]
  | _ => rfl

/-- The nodes of the record of a type are the records of its nodes, in the same order. -/
theorem ResolvedType.nodes_toRecord (t : ResolvedType) :
    t.toRecord.nodes = t.nodes.map fun k => Id.run ((typeWriter id).toNode k) := by
  induction t using ResolvedType.induction with
  | node kind ih =>
    have node : (Id.run ((typeWriter toRecord).toNode kind)).mapParts (fun _ => ()) =
        Id.run ((typeWriter id).toNode (kind.mapParts fun _ => ())) := by
      rw [mapParts_typeWriter, PayloadWalk.toNode_mapParts]
      rfl
    have nested : (kind.parts.map toRecord).flatMap Record.ResolvedType.nodes =
        (kind.parts.flatMap nodes).map fun k => Id.run ((typeWriter id).toNode k) := by
      rw [List.flatMap_map, List.map_flatMap]
      exact List.flatMap_congr ih
    rw [toRecord_mk, Record.ResolvedType.nodes_mk, nodes_mk, List.map_cons, node, PayloadWalk.parts_toNode]
    exact congrArg (_ :: ·) nested

/-- A type and its record are walked together in pre-order: at every node the tag of the record is known and displayed
under the name of the kind, and none of the payload fields is filled exactly if the type is a leaf there. -/
theorem ResolvedType.nodes_described (t : ResolvedType) :
    List.Forall₂ (fun k n => n.Describes k) t.nodes t.toRecord.nodes := by
  rw [nodes_toRecord, List.forall₂_map_right_iff, List.forall₂_same]
  exact fun k _ => (typeWriter id).describes_toNode k

example :
    let pair := ResolvedType.mk (.tuple [.leaf .bool, .leaf .qubit])
    let t := ResolvedType.mk (.operation (.mk (.array (.leaf .int))) pair plainInformation)
    t.toRecord.nodes.map (fun n => n.kind.display) =
      ["Operation", "ArrayType", "Int", "TupleType", "Bool", "Qubit"] := by
  decide

end Tree

end ProgramInterchange
