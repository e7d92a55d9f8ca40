import ProgramInterchange.Proofs.Computation
import ProgramInterchange.Proofs.Record.Canonical

/-!
# What a record's tree depends on

Rebuilding a tree looks at the selected payloads only, an absent field of the full profile means its
placeholder, and documentation is brought together file by file. So the canonical form of a record gives the
same tree as the record, or fails with the same fault. `Tree.Program.minimal` is the tree with all of these
placeholders.
-/

namespace ProgramInterchange

variable {α β : Type}

theorem mapM_map_congr {f : α → Except Fault β} {g : α → α} {as : List α} (h : ∀ a ∈ as, f (g a) = f a) :
    (as.map g).mapM f = as.mapM f := by
  induction as with
  | nil => rfl
  | cons a as ih =>
    obtain ⟨first, rest⟩ := List.forall_mem_cons.mp h
    rw [List.map_cons, List.mapM_cons, List.mapM_cons, first, ih rest]

theorem withPayload_map {kind variant : String} {next : α → Except Fault β} {g : α → α} {payload : Option α}
    (h : ∀ a ∈ payload, next (g a) = next a) :
    withPayload kind variant (payload.map g) next = withPayload kind variant payload next := by
  cases payload with
  | none => rfl
  | some a => exact h a rfl

/-! ### Trees with placeholders -/

namespace Tree

/-- The callable with placeholders for what only the full profile writes. -/
def Callable.minimal (c : Callable) : Callable :=
  { c with
    attributes := []
    modifiers := .placeholder
    signature := signaturePlaceholder
    argumentTuple := .empty }

def CustomType.minimal (t : CustomType) : CustomType :=
  { t with
    attributes := []
    modifiers := .placeholder
    underlyingType := .invalid
    typeItems := .empty }

def NamespaceElement.minimal : NamespaceElement → NamespaceElement
  | callable declaration => callable declaration.minimal
  | customType declaration => customType declaration.minimal

def Namespace.minimal (n : Namespace) : Namespace :=
  { n with elements := n.elements.map NamespaceElement.minimal }

/-- The program whose declarations have placeholders for what only the full profile writes. -/
def Program.minimal (p : Program) : Program :=
  { p with namespaces := p.namespaces.map Namespace.minimal }

end Tree

namespace Record

/-! ### Types -/

theorem Characteristics.toTree_pruned (c : Characteristics) : c.pruned.toTree = c.toTree := by
  induction c with
  | single kind simpleSet => obtain (_ | _ | _ | _ | _) | code := kind <;> rfl
  | combined kind simpleSet lhs rhs ihl ihr =>
    obtain (_ | _ | _ | _ | _) | code := kind
    · rfl
    · rfl
    · show (do return Tree.Characteristics.union (← lhs.pruned.toTree) (← rhs.pruned.toTree)) = _
      rw [ihl, ihr]
      rfl
    · show (do return Tree.Characteristics.intersection (← lhs.pruned.toTree) (← rhs.pruned.toTree)) = _
      rw [ihl, ihr]
      rfl
    · rfl
    · rfl

theorem informationToTree_pruned (i : Information) : informationToTree i.pruned = informationToTree i := by
  simp only [informationToTree, CallableInformation.mapM, Information.pruned, CallableInformation.map,
    Characteristics.toTree_pruned]

theorem toKind_selected (n : ResolvedTypeNode) :
    (typeReader ResolvedType.toTree).toKind n.selected = (typeReader ResolvedType.toTree).toKind n := by
  obtain ⟨(_ | _ | _ | _ | _ | _ | _) | code, _, _, _, _, _, _⟩ := n <;> rfl

theorem toKind_pruned {n : ResolvedTypeNode} (parts : ∀ t ∈ n.parts, t.pruned.toTree = t.toTree) :
    (typeReader ResolvedType.toTree).toKind
        (n.selected.map ResolvedType.pruned id id Information.pruned) =
      (typeReader ResolvedType.toTree).toKind n := by
  obtain ⟨arrays, tuples, operations, functions⟩ := TypeNode.forall_mem_parts.mp parts
  -- with the other fields out of the way, one payload is left for each tag
  rw [← TypeNode.selected_map, toKind_selected]
  obtain ⟨(type | _ | _ | _ | _ | _ | _) | code, arrayType, tupleType, _, _, operation, function⟩ := n
  · rfl
  · refine withPayload_map fun item hi => ?_
    simp only [typeReader, arrays item hi]
  · refine withPayload_map fun items hi => ?_
    simp only [typeReader, List.isEmpty_map, mapM_map_congr (tuples items hi)]
  · exact withPayload_map fun _ _ => rfl
  · exact withPayload_map fun _ _ => rfl
  · refine withPayload_map fun o ho => ?_
    have domain := operations o ho o.arrow.domain (by simp [Arrow.parts])
    have codomain := operations o ho o.arrow.codomain (by simp [Arrow.parts])
    simp only [typeReader, OperationType.map, Arrow.map, domain, codomain, informationToTree_pruned]
  · refine withPayload_map fun r hr => ?_
    have domain := functions r hr r.domain (by simp [Arrow.parts])
    have codomain := functions r hr r.codomain (by simp [Arrow.parts])
    simp only [typeReader, Arrow.map, domain, codomain]
  · rfl

theorem ResolvedType.toTree_pruned (t : ResolvedType) : t.pruned.toTree = t.toTree := by
  induction t using ResolvedType.induction with
  | node n ih => rw [pruned_mk, toTree_mk, toTree_mk, toKind_pruned ih]

/-! ### Tuples -/

theorem Tuple.toTreeM_pruned {f : β → Except Fault α} {p : β → β} (each : ∀ b, f (p b) = f b) (t : Tuple β) :
    (t.pruned p).toTreeM f = t.toTreeM f := by
  have item (kind : Tag TupleTag) (i : Option β) (rest : Except Fault (Tree.Tuple α))
      (h : kind ≠ .known .group) :
      selectM f kind (kind.selected .item (i.map p)) rest = selectM f kind i rest := by
    obtain (_ | _) | code := kind
    · exact withPayload_map fun b _ => by rw [each]
    · exact absurd rfl h
    · rfl
  induction t using Tuple.induction with
  | single kind i =>
    rw [pruned, toTreeM, toTreeM]
    by_cases h : kind = .known .group
    · rw [h]
      rfl
    · exact item kind i _ h
  | grouped kind i items ih =>
    rw [pruned]
    by_cases h : kind = .known .group
    · have members : (prunedOf p items).mapM (toTreeM f) = items.mapM (toTreeM f) := by
        rw [prunedOf_eq_map, mapM_map_congr ih]
      rw [if_pos h, toTreeM, toTreeM, toTreesM_eq_mapM, toTreesM_eq_mapM, members, h]
      rfl
    · rw [if_neg h, toTreeM, toTreeM, item kind i _ h]
      obtain (_ | _) | code := kind
      · rfl
      · exact absurd rfl h
      · rfl

/-! ### Parts of declarations -/

theorem LocalSymbol.toTree_pruned (s : LocalSymbol) : s.pruned.toTree = s.toTree := by
  obtain ⟨(_ | _) | code, name⟩ := s <;> rfl

theorem argumentToTree_argumentPruned (v : LocalVariable LocalSymbol ResolvedType) :
    argumentToTree (argumentPruned v) = argumentToTree v := by
  simp only [argumentToTree, argumentPruned, LocalVariable.map, LocalVariable.mapM, LocalSymbol.toTree_pruned,
    ResolvedType.toTree_pruned]

theorem TypeItem.toTree_pruned (i : TypeItem) : i.pruned.toTree = i.toTree := by
  have declaration (v : LocalVariable String ResolvedType) :
      (v.map id ResolvedType.pruned).mapM (requireIdentifier "TypeItem.named") ResolvedType.toTree =
        v.mapM (requireIdentifier "TypeItem.named") ResolvedType.toTree := by
    simp only [LocalVariable.map, LocalVariable.mapM, ResolvedType.toTree_pruned, id]
  obtain ⟨(_ | _) | code, named, anonymous⟩ := i
  · exact withPayload_map fun v _ => by rw [declaration]
  · exact withPayload_map fun t _ => by rw [t.toTree_pruned]
  · rfl

theorem signatureToTree_signaturePruned (s : ResolvedSignature) :
    signatureToTree (signaturePruned s) = signatureToTree s := by
  simp only [signatureToTree, signaturePruned, Signature.map, Signature.mapM, CallableInformation.map,
    CallableInformation.mapM, mapM_map_congr fun s _ => LocalSymbol.toTree_pruned s,
    ResolvedType.toTree_pruned, Characteristics.toTree_pruned]

/-! ### Declarations -/

theorem orPlaceholder_map {placeholder : β} {f : α → Except Fault β} {g : α → α} (h : ∀ a, f (g a) = f a)
    (o : Option α) : orPlaceholder placeholder f (o.map g) = orPlaceholder placeholder f o := by
  cases o with
  | none => rfl
  | some a => exact h a

theorem Callable.toTree_pruned (c : Callable) : c.pruned.toTree = c.toTree := by
  simp only [toTree, pruned, orPlaceholder_map signatureToTree_signaturePruned,
    orPlaceholder_map (Tuple.toTreeM_pruned argumentToTree_argumentPruned)]

theorem CustomType.toTree_pruned (t : CustomType) : t.pruned.toTree = t.toTree := by
  simp only [toTree, pruned, orPlaceholder_map ResolvedType.toTree_pruned,
    orPlaceholder_map (Tuple.toTreeM_pruned TypeItem.toTree_pruned)]

/-- A declaration may be changed in ways that its tree does not show. -/
theorem NamespaceElement.toTree_map {f : Callable → Callable} {g : CustomType → CustomType}
    (hf : ∀ c, (f c).toTree = c.toTree) (hg : ∀ t, (g t).toTree = t.toTree) (e : NamespaceElement) :
    toTree ⟨e.kind, e.callable.map f, e.customType.map g⟩ = e.toTree := by
  obtain ⟨(_ | _) | code, callable, customType⟩ := e
  · exact withPayload_map fun c _ => by rw [hf]
  · exact withPayload_map fun t _ => by rw [hg]
  · rfl

theorem NamespaceElement.toTree_pruned (e : NamespaceElement) : e.pruned.toTree = e.toTree := by
  have selected : e.pruned.toTree =
      toTree ⟨e.kind, e.callable.map Callable.pruned, e.customType.map CustomType.pruned⟩ := by
    obtain ⟨(_ | _) | code, callable, customType⟩ := e <;> rfl
  rw [selected, toTree_map Callable.toTree_pruned CustomType.toTree_pruned]

theorem Namespace.toTree_pruned (n : Namespace) : n.pruned.toTree = n.toTree := by
  simp only [toTree, pruned, mapM_map_congr fun e _ => NamespaceElement.toTree_pruned e]

theorem Program.toTree_pruned (p : Program) : p.pruned.toTree = p.toTree := by
  rw [toTree_eq, toTree_eq, pruned, mapM_map_congr fun n _ => n.toTree_pruned]

/-- Payloads that are not selected and entry points, whatever they hold, change neither the tree of a record nor
the fault with which it fails. -/
theorem Program.toTree_selected (p : Program) :
    p.pruned.toTree = p.toTree ∧ ∀ q : Program, q.pruned = p.pruned → q.toTree = p.toTree := by
  refine ⟨p.toTree_pruned, fun q h => ?_⟩
  calc q.toTree
    _ = q.pruned.toTree := q.toTree_pruned.symm
    _ = p.pruned.toTree := by rw [h]
    _ = p.toTree := p.toTree_pruned

/-- A custom type of arrays without an item, which fills the fields of tuples and type references instead, and
beside which a callable is filled that has no name. -/
def misplaced : Program where
  namespaces := [{
    name := "N"
    elements := [{
      kind := .known .customType
      callable := some {
        kind := .unrecognized 9
        fullName := ⟨"", ""⟩
        attributes := none
        modifiers := none
        sourceFile := ""
        location := none
        signature := none
        argumentTuple := none
        documentation := []
        comments := ⟨[], []⟩ }
      customType := some {
        fullName := ⟨"N", "T"⟩
        attributes := none
        modifiers := none
        sourceFile := "n.qs"
        location := none
        underlyingType := some (.mk ⟨.known .array, none, some [], some ⟨"", "", none⟩, none, none, none⟩)
        typeItems := none
        documentation := []
        comments := ⟨[], []⟩ } }]
    documentation := [] }]
  entryPoints := [⟨"", ""⟩]

theorem toTree_misplaced :
    misplaced.toTree = .error (.missingPayload "TypeKind" "ArrayType") ∧ misplaced.pruned ≠ misplaced ∧
      misplaced.pruned.toTree = misplaced.toTree ∧
      Program.toTree ⟨misplaced.namespaces, []⟩ = misplaced.toTree := by
  obtain ⟨pruned, others⟩ := misplaced.toTree_selected
  exact ⟨rfl, by decide, pruned, others ⟨misplaced.namespaces, []⟩ rfl⟩

/-! ### Complete declarations -/

/-- An absent field and a field with what stands for the placeholder give the same. -/
theorem orPlaceholder_getD {placeholder : β} {f : α → Except Fault β} {a : α} (h : f a = .ok placeholder)
    (o : Option α) : orPlaceholder placeholder f (some (o.getD a)) = orPlaceholder placeholder f o := by
  cases o with
  | none => exact h
  | some b => rfl

theorem attributesToTree_getD (attributes : Option (List Attribute)) :
    attributesToTree (some (attributes.getD [])) = attributesToTree attributes := by
  have none : ([] : List Attribute).mapM Attribute.toTree = .ok [] := rfl
  exact orPlaceholder_getD none attributes

theorem orPlaceholder_modifiers (modifiers : Option Modifiers) :
    orPlaceholder Tree.Modifiers.placeholder Modifiers.toTree (some (modifiers.getD defaultModifiers)) =
      orPlaceholder Tree.Modifiers.placeholder Modifiers.toTree modifiers := by
  have default : defaultModifiers.toTree = .ok Tree.Modifiers.placeholder := rfl
  exact orPlaceholder_getD default modifiers

theorem signatureToTree_plainSignature : signatureToTree plainSignature = .ok Tree.signaturePlaceholder := rfl

theorem toTreeM_emptyTuple (f : β → Except Fault α) : emptyTuple.toTreeM f = .ok Tree.Tuple.empty := rfl

theorem toTree_invalidType : invalidType.toTree = .ok Tree.ResolvedType.invalid := rfl

theorem Callable.toTree_completed (c : Callable) : c.completed.toTree = c.toTree := by
  simp only [toTree, completed, orPlaceholder_getD signatureToTree_plainSignature,
    orPlaceholder_getD (toTreeM_emptyTuple argumentToTree), attributesToTree_getD, orPlaceholder_modifiers]

theorem CustomType.toTree_completed (t : CustomType) : t.completed.toTree = t.toTree := by
  simp only [toTree, completed, orPlaceholder_getD toTree_invalidType,
    orPlaceholder_getD (toTreeM_emptyTuple TypeItem.toTree), attributesToTree_getD, orPlaceholder_modifiers]

theorem NamespaceElement.toTree_completed (e : NamespaceElement) : e.completed.toTree = e.toTree :=
  e.toTree_map Callable.toTree_completed CustomType.toTree_completed

theorem documentationToTree_regrouped (items : List DocumentationItem) :
    documentationToTree (regrouped items) = documentationToTree items := by
  rw [← toRecord_documentationToTree, documentationToTree_toRecord, carried_documentationToTree]

theorem Namespace.toTree_completed (n : Namespace) : n.completed.toTree = n.toTree := by
  simp only [toTree, completed, documentationToTree_regrouped,
    mapM_map_congr fun e _ => NamespaceElement.toTree_completed e]

theorem Program.toTree_canonical (p : Program) : p.canonical.toTree = p.toTree := by
  have each (n : Namespace) : n.pruned.completed.toTree = n.toTree := by
    rw [Namespace.toTree_completed, Namespace.toTree_pruned]
  have all : p.canonical.namespaces = p.namespaces.map fun n => n.pruned.completed := List.map_map
  rw [toTree_eq, toTree_eq, all, mapM_map_congr fun n _ => each n]

end Record

end ProgramInterchange
