import ProgramInterchange.Record.Program

/-!
# Selected payloads

A tagged record may fill payload fields that its tag does not select. `pruned` clears them, in a record
and in all that is left of it.
-/

namespace ProgramInterchange

variable {α β γ : Type} [DecidableEq α]

/-- The payload of the alternative `a`, if the tag selects it. -/
def Tag.selected (t : Tag α) (a : α) (payload : Option β) : Option β :=
  if t = .known a then payload else none

theorem Tag.selected_known (a : α) (payload : Option β) : (known a).selected a payload = payload :=
  if_pos rfl

theorem Tag.selected_of_ne {t : Tag α} {a : α} (h : t ≠ .known a) (payload : Option β) :
    t.selected a payload = none :=
  if_neg h

theorem Tag.selected_selected (t : Tag α) (a : α) (payload : Option β) :
    t.selected a (t.selected a payload) = t.selected a payload := by
  by_cases h : t = .known a
  · rw [h, selected_known]
  · rw [selected_of_ne h, selected_of_ne h]

theorem Tag.map_selected (f : β → γ) (t : Tag α) (a : α) (payload : Option β) :
    (t.selected a payload).map f = t.selected a (payload.map f) := by
  unfold selected
  split <;> rfl

/-! ### Changes that need no repetition -/

theorem option_map_twice {f : β → β} (hf : ∀ b, f (f b) = f b) (o : Option β) :
    (o.map f).map f = o.map f := by
  rw [Option.map_map]
  exact Option.map_congr fun b _ => hf b

/-- Two changes of every item are one. -/
theorem list_map_map {δ : Type} {f : β → γ} {g : γ → δ} {h : β → δ} (each : ∀ b, g (f b) = h b)
    (bs : List β) : (bs.map f).map g = bs.map h := by
  rw [List.map_map]
  exact List.map_congr_left fun b _ => each b

theorem list_map_twice {f : β → β} (hf : ∀ b, f (f b) = f b) (bs : List β) :
    (bs.map f).map f = bs.map f :=
  list_map_map hf bs

theorem Tag.selected_map_twice {f : β → β} (hf : ∀ b, f (f b) = f b) (t : Tag α) (a : α)
    (payload : Option β) :
    t.selected a ((t.selected a (payload.map f)).map f) = t.selected a (payload.map f) := by
  rw [map_selected, selected_selected, option_map_twice hf]

namespace Record

open ProgramInterchange.Tree (OpProperty)

/-! ### Types -/

/-- The expression with the payloads that are selected. -/
def Characteristics.pruned : Characteristics → Characteristics
  | .single kind simpleSet => .single kind (kind.selected .simpleSet simpleSet)
  | .combined kind simpleSet lhs rhs =>
    if kind = .known .union ∨ kind = .known .intersection then .combined kind none lhs.pruned rhs.pruned
    else .single kind (kind.selected .simpleSet simpleSet)

def Information.pruned (i : Information) : Information := i.map Characteristics.pruned

/-- The node with the payload that is selected. -/
def TypeNode.selected {D U P C : Type} (n : TypeNode D U P C) : TypeNode D U P C where
  kind := n.kind
  arrayType := n.kind.selected .array n.arrayType
  tupleType := n.kind.selected .tuple n.tupleType
  userDefinedType := n.kind.selected .userDefined n.userDefinedType
  typeParameter := n.kind.selected .parameter n.typeParameter
  operation := n.kind.selected .operation n.operation
  function := n.kind.selected .function n.function

def ResolvedType.pruned : ResolvedType → ResolvedType :=
  ResolvedType.fold fun n => .mk (n.map id id id Information.pruned).selected

theorem Characteristics.pruned_pruned (c : Characteristics) : c.pruned.pruned = c.pruned := by
  induction c with
  | single kind simpleSet => rw [pruned, pruned, Tag.selected_selected]
  | combined kind simpleSet lhs rhs ihl ihr =>
    rw [pruned]
    by_cases h : kind = .known .union ∨ kind = .known .intersection
    · rw [if_pos h, pruned, if_pos h, ihl, ihr]
    · rw [if_neg h, pruned, Tag.selected_selected]

theorem Information.pruned_pruned (i : Information) : i.pruned.pruned = i.pruned := by
  simp only [pruned, CallableInformation.map, Characteristics.pruned_pruned]

namespace TypeNode

variable {D D' D'' U U' U'' P P' P'' C C' C'' : Type}

theorem selected_selected (n : TypeNode D U P C) : n.selected.selected = n.selected := by
  simp only [selected, Tag.selected_selected]

theorem selected_map (f : D → D') (g : U → U') (h : P → P') (i : C → C') (n : TypeNode D U P C) :
    (n.map f g h i).selected = n.selected.map f g h i := by
  simp only [selected, map, Tag.map_selected]

theorem forall_mem_parts {n : TypeNode D U P C} {q : D → Prop} :
    (∀ d ∈ n.parts, q d) ↔ (∀ d ∈ n.arrayType, q d) ∧ (∀ ts ∈ n.tupleType, ∀ d ∈ ts, q d) ∧
      (∀ o ∈ n.operation, ∀ d ∈ o.arrow.parts, q d) ∧ ∀ r ∈ n.function, ∀ d ∈ r.parts, q d := by
  obtain ⟨kind, a, t, u, p, o, r⟩ := n
  cases a <;> cases t <;> cases o <;> cases r <;> simp [parts, or_imp, forall_and]

theorem mem_parts_of_mem_parts_selected {n : TypeNode D U P C} {d : D} (h : d ∈ n.selected.parts) :
    d ∈ n.parts := by
  obtain ⟨kind, a, t, u, p, o, r⟩ := n
  simp only [selected, parts, Tag.selected, List.mem_append] at h ⊢
  rcases h with ((h | h) | h) | h <;> split at h <;> simp_all

theorem map_map (f : D → D') (g : D' → D'') (h : U → U') (h' : U' → U'') (k : P → P') (k' : P' → P'')
    (l : C → C') (l' : C' → C'') (n : TypeNode D U P C) :
    (n.map f h k l).map g h' k' l' =
      n.map (fun d => g (f d)) (fun u => h' (h u)) (fun p => k' (k p)) fun c => l' (l c) := by
  have lists (o : Option (List D)) : (o.map (List.map f)).map (List.map g) =
      o.map (List.map fun d => g (f d)) := by
    cases o <;> simp
  have operations (o : Option (OperationType D C)) :
      (o.map (OperationType.map f l)).map (OperationType.map g l') =
        o.map (OperationType.map (fun d => g (f d)) fun c => l' (l c)) := by
    cases o <;> rfl
  have arrows (o : Option (Arrow D)) :
      (o.map (Arrow.map f)).map (Arrow.map g) = o.map (Arrow.map fun d => g (f d)) := by
    cases o <;> rfl
  simp only [map, lists, operations, arrows, Option.map_map, Function.comp_def]

end TypeNode

theorem ResolvedType.pruned_mk (n : ResolvedTypeNode) :
    pruned (mk n) = mk (n.selected.map pruned id id Information.pruned) := by
  rw [pruned, fold_mk, ← pruned, TypeNode.mapParts, TypeNode.map_map, TypeNode.selected_map]
  rfl

theorem ResolvedType.pruned_pruned (t : ResolvedType) : t.pruned.pruned = t.pruned := by
  induction t using ResolvedType.induction with
  | node n ih =>
    have parts : ∀ t ∈ n.selected.parts, pruned (pruned t) = pruned t :=
      fun t ht => ih t (TypeNode.mem_parts_of_mem_parts_selected ht)
    rw [pruned_mk, pruned_mk, TypeNode.selected_map, TypeNode.selected_selected, TypeNode.map_map]
    exact congrArg mk (TypeNode.map_congr parts (fun _ => rfl) (fun _ => rfl) Information.pruned_pruned)

/-! ### Tuples -/

mutual
/-- The tuple record with the payloads that are selected, its items changed by `f`. -/
def Tuple.pruned (f : β → β) : Tuple β → Tuple β
  | .single kind item => .single kind (kind.selected .item (item.map f))
  | .grouped kind item items =>
    if kind = .known .group then .grouped kind none (prunedOf f items)
    else .single kind (kind.selected .item (item.map f))

def Tuple.prunedOf (f : β → β) : List (Tuple β) → List (Tuple β)
  | [] => []
  | t :: ts => t.pruned f :: prunedOf f ts
end

theorem Tuple.prunedOf_eq_map (f : β → β) (ts : List (Tuple β)) : prunedOf f ts = ts.map (pruned f) := by
  induction ts with
  | nil => rfl
  | cons t ts ih => rw [prunedOf, ih, List.map_cons]

theorem Tuple.pruned_pruned {f : β → β} (hf : ∀ b, f (f b) = f b) (t : Tuple β) :
    (t.pruned f).pruned f = t.pruned f := by
  induction t using Tuple.induction with
  | single kind i => rw [pruned, pruned, Tag.selected_map_twice hf]
  | grouped kind i items ih =>
    rw [pruned]
    by_cases h : kind = .known .group
    · rw [if_pos h, pruned, if_pos h, prunedOf_eq_map, prunedOf_eq_map, List.map_map]
      exact congrArg _ (List.map_congr_left ih)
    · rw [if_neg h, pruned, Tag.selected_map_twice hf]

/-! ### Declarations -/

def LocalSymbol.pruned (s : LocalSymbol) : LocalSymbol := ⟨s.kind, s.kind.selected .valid s.name⟩

def argumentPruned (v : LocalVariable LocalSymbol ResolvedType) : LocalVariable LocalSymbol ResolvedType :=
  v.map LocalSymbol.pruned ResolvedType.pruned

def TypeItem.pruned (i : TypeItem) : TypeItem where
  kind := i.kind
  named := i.kind.selected .named (i.named.map (LocalVariable.map id ResolvedType.pruned))
  anonymous := i.kind.selected .anonymous (i.anonymous.map ResolvedType.pruned)

def signaturePruned (s : ResolvedSignature) : ResolvedSignature :=
  s.map LocalSymbol.pruned ResolvedType.pruned Characteristics.pruned

def Callable.pruned (c : Callable) : Callable :=
  { c with
    signature := c.signature.map signaturePruned
    argumentTuple := c.argumentTuple.map (Tuple.pruned argumentPruned) }

def CustomType.pruned (t : CustomType) : CustomType :=
  { t with
    underlyingType := t.underlyingType.map ResolvedType.pruned
    typeItems := t.typeItems.map (Tuple.pruned TypeItem.pruned) }

def NamespaceElement.pruned (e : NamespaceElement) : NamespaceElement where
  kind := e.kind
  callable := e.kind.selected .callable (e.callable.map Callable.pruned)
  customType := e.kind.selected .customType (e.customType.map CustomType.pruned)

theorem LocalSymbol.pruned_pruned (s : LocalSymbol) : s.pruned.pruned = s.pruned := by
  simp only [pruned, Tag.selected_selected]

theorem argumentPruned_argumentPruned (v : LocalVariable LocalSymbol ResolvedType) :
    argumentPruned (argumentPruned v) = argumentPruned v := by
  simp only [argumentPruned, LocalVariable.map, LocalSymbol.pruned_pruned, ResolvedType.pruned_pruned]

theorem TypeItem.pruned_pruned (i : TypeItem) : i.pruned.pruned = i.pruned := by
  have named (v : LocalVariable String ResolvedType) :
      (v.map id ResolvedType.pruned).map id ResolvedType.pruned = v.map id ResolvedType.pruned := by
    simp only [LocalVariable.map, id, ResolvedType.pruned_pruned]
  simp only [pruned, Tag.selected_map_twice named, Tag.selected_map_twice ResolvedType.pruned_pruned]

theorem signaturePruned_signaturePruned (s : ResolvedSignature) :
    signaturePruned (signaturePruned s) = signaturePruned s := by
  simp only [signaturePruned, Signature.map, CallableInformation.map,
    list_map_twice LocalSymbol.pruned_pruned, ResolvedType.pruned_pruned, Characteristics.pruned_pruned]

theorem Callable.pruned_pruned (c : Callable) : c.pruned.pruned = c.pruned := by
  simp only [pruned, option_map_twice signaturePruned_signaturePruned,
    option_map_twice (Tuple.pruned_pruned argumentPruned_argumentPruned)]

theorem CustomType.pruned_pruned (t : CustomType) : t.pruned.pruned = t.pruned := by
  simp only [pruned, option_map_twice ResolvedType.pruned_pruned,
    option_map_twice (Tuple.pruned_pruned TypeItem.pruned_pruned)]

theorem NamespaceElement.pruned_pruned (e : NamespaceElement) : e.pruned.pruned = e.pruned := by
  simp only [pruned, Tag.selected_map_twice Callable.pruned_pruned,
    Tag.selected_map_twice CustomType.pruned_pruned]

/-! ### Programs -/

def Namespace.pruned (n : Namespace) : Namespace :=
  { n with elements := n.elements.map NamespaceElement.pruned }

def Program.pruned (p : Program) : Program := ⟨p.namespaces.map Namespace.pruned, []⟩

theorem Namespace.pruned_pruned (n : Namespace) : n.pruned.pruned = n.pruned := by
  simp only [pruned, list_map_twice NamespaceElement.pruned_pruned]

theorem Program.pruned_pruned (p : Program) : p.pruned.pruned = p.pruned := by
  simp only [pruned, list_map_twice Namespace.pruned_pruned]

end Record

end ProgramInterchange
