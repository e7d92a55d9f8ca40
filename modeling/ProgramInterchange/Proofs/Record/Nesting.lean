import ProgramInterchange.Proofs.Record.Canonical
import ProgramInterchange.Proofs.Record.Lawful.Program

/-!
# How deep canonical records nest

Clearing payloads and leaving fields out never makes a record nest deeper. Filling the fields of the full
profile may, but a program record whose depth that changes nests at most ten deep.
-/

namespace ProgramInterchange.Record

open ProgramInterchange.Wire

/-! ### Records, lists and optional parts -/

theorem nestingOf_le_max {k : Nat} {vs ws : List Value}
    (h : List.Forall₂ (fun v w => v.nesting ≤ max k w.nesting) vs ws) :
    Value.nestingOf vs ≤ max k (Value.nestingOf ws) := by
  induction h with
  | nil => exact Nat.zero_le _
  | cons head tail ih =>
    rw [Value.nestingOf, Value.nestingOf]
    omega

theorem nesting_record_le_max {k : Nat} {vs ws : List Value}
    (h : List.Forall₂ (fun v w => v.nesting ≤ max k w.nesting) vs ws) :
    (Value.record vs).nesting ≤ max (k + 1) (Value.record ws).nesting := by
  have inside := nestingOf_le_max h
  rw [Value.nesting, Value.nesting]
  omega

theorem nesting_record_le {vs ws : List Value}
    (h : List.Forall₂ (fun v w => v.nesting ≤ w.nesting) vs ws) :
    (Value.record vs).nesting ≤ (Value.record ws).nesting := by
  have inside := nestingOf_le_max (h.imp fun _ _ hvw => Nat.le_trans hvw (Nat.le_max_right 0 _))
  rw [Value.nesting, Value.nesting]
  omega

section

variable {α β γ : Type}

theorem nesting_list_le_max {k : Nat} {f : γ → Value} {g : β → Value} {p : β → γ} {bs : List β}
    (each : ∀ b ∈ bs, (f (p b)).nesting ≤ max k (g b).nesting) :
    (Value.list ((bs.map p).map f)).nesting ≤ max (k + 1) (Value.list (bs.map g)).nesting := by
  have inside : Value.nestingOf ((bs.map p).map f) ≤ max k (Value.nestingOf (bs.map g)) := by
    refine nestingOf_le_max ?_
    rw [List.map_map, List.forall₂_map_left_iff, List.forall₂_map_right_iff, List.forall₂_same]
    exact each
  rw [Value.nesting, Value.nesting]
  omega

theorem nesting_list_le {f : γ → Value} {g : β → Value} {p : β → γ} {bs : List β}
    (each : ∀ b ∈ bs, (f (p b)).nesting ≤ (g b).nesting) :
    (Value.list ((bs.map p).map f)).nesting ≤ (Value.list (bs.map g)).nesting := by
  have grown := nesting_list_le_max fun b hb => Nat.le_trans (each b hb) (Nat.le_max_right 0 _)
  have whole : 1 ≤ (Value.list (bs.map g)).nesting := Nat.succ_le_succ (Nat.zero_le _)
  omega

theorem nesting_optionValue_le_max {k : Nat} {f : γ → Value} {g : β → Value} {p : β → γ} {o : Option β}
    (each : ∀ b ∈ o, (f (p b)).nesting ≤ max k (g b).nesting) :
    (Wire.optionValue f (o.map p)).nesting ≤ max k (Wire.optionValue g o).nesting := by
  cases o with
  | none => exact Nat.zero_le _
  | some b => exact each b rfl

theorem nesting_optionValue_le {f : γ → Value} {g : β → Value} {p : β → γ} {o : Option β}
    (each : ∀ b ∈ o, (f (p b)).nesting ≤ (g b).nesting) :
    (Wire.optionValue f (o.map p)).nesting ≤ (Wire.optionValue g o).nesting := by
  have grown := nesting_optionValue_le_max fun b hb => Nat.le_trans (each b hb) (Nat.le_max_right 0 _)
  omega

/-- A payload that is not selected nests in nothing. -/
theorem nesting_selected [DecidableEq α] {f : β → Value} (t : Tag α) (a : α) (o : Option β) :
    (Wire.optionValue f (t.selected a o)).nesting ≤ (Wire.optionValue f o).nesting := by
  by_cases h : t = .known a
  · exact Nat.le_of_eq (by rw [h, Tag.selected_known])
  · rw [Tag.selected_of_ne h]
    exact Nat.zero_le _

theorem nesting_selected_map [DecidableEq α] {f : γ → Value} {g : β → Value} {p : β → γ} {o : Option β}
    (t : Tag α) (a : α) (each : ∀ b ∈ o, (f (p b)).nesting ≤ (g b).nesting) :
    (Wire.optionValue f ((t.selected a o).map p)).nesting ≤ (Wire.optionValue g o).nesting := by
  rw [Tag.map_selected]
  exact Nat.le_trans (nesting_selected t a _) (nesting_optionValue_le each)

end

/-! ### Types -/

theorem Characteristics.nesting_pruned (c : Characteristics) :
    (value c.pruned).nesting ≤ (value c).nesting := by
  have single (kind : Tag CharacteristicsTag) (simpleSet : Option (Tag Tree.OpProperty)) (rest : Value) :
      (single kind (kind.selected .simpleSet simpleSet)).toValue.nesting ≤
        (Value.record [.record [value kind, value simpleSet, rest]]).nesting :=
    nesting_record_le (.cons (nesting_record_le (.cons (Nat.le_refl _)
      (.cons (nesting_selected kind _ simpleSet) (.cons (Nat.zero_le _) .nil)))) .nil)
  show c.pruned.toValue.nesting ≤ c.toValue.nesting
  induction c with
  | single kind simpleSet => exact single kind simpleSet .absent
  | combined kind simpleSet lhs rhs ihl ihr =>
    rw [pruned]
    by_cases h : kind = .known .union ∨ kind = .known .intersection
    -- the operation is kept, or its field becomes absent and nests in nothing
    · have operation : (Value.record [lhs.pruned.toValue, rhs.pruned.toValue]).nesting ≤
          (Value.record [lhs.toValue, rhs.toValue]).nesting :=
        nesting_record_le (.cons ihl (.cons ihr .nil))
      rw [if_pos h]
      exact nesting_record_le (.cons (nesting_record_le (.cons (Nat.le_refl _) (.cons (Nat.zero_le _)
        (.cons operation .nil)))) .nil)
    · rw [if_neg h]
      exact single kind simpleSet _

theorem Information.nesting_pruned (i : Information) : (value i.pruned).nesting ≤ (value i).nesting :=
  nesting_record_le (.cons i.characteristics.nesting_pruned (.cons (Nat.le_refl _) .nil))

theorem Arrow.nesting_writeWith_map {D E : Type} {write : E → Value} {write' : D → Value} {change : D → E}
    {a : Arrow D} (each : ∀ d ∈ a.parts, (write (change d)).nesting ≤ (write' d).nesting) :
    ((a.map change).writeWith write).nesting ≤ (a.writeWith write').nesting := by
  have domain := each a.domain (by simp [parts])
  have codomain := each a.codomain (by simp [parts])
  exact nesting_record_le (.cons domain (.cons codomain .nil))

theorem ResolvedType.nesting_pruned (t : ResolvedType) : (value t.pruned).nesting ≤ (value t).nesting := by
  show t.pruned.toValue.nesting ≤ t.toValue.nesting
  induction t using ResolvedType.induction with
  | node n ih =>
    obtain ⟨arrays, tuples, operations, functions⟩ := TypeNode.forall_mem_parts.mp ih
    rw [pruned_mk, toValue_mk, toValue_mk, TypeNode.writeWith_eq_record, TypeNode.writeWith_eq_record]
    have array := nesting_selected_map n.kind .array arrays
    have tuple : (Wire.optionValue (fun ts => .list (ts.map toValue))
        ((n.kind.selected .tuple n.tupleType).map (List.map pruned))).nesting ≤
          (Wire.optionValue (fun ts => .list (ts.map toValue)) n.tupleType).nesting :=
      nesting_selected_map n.kind .tuple fun ts hts => nesting_list_le (tuples ts hts)
    have operation : (Wire.optionValue (OperationType.writeWith toValue)
        ((n.kind.selected .operation n.operation).map
          (OperationType.map pruned Information.pruned))).nesting ≤
          (Wire.optionValue (OperationType.writeWith toValue) n.operation).nesting :=
      nesting_selected_map n.kind .operation fun o ho => nesting_record_le
        (.cons (Arrow.nesting_writeWith_map (operations o ho))
          (.cons o.characteristics.nesting_pruned .nil))
    have function := nesting_selected_map n.kind .function fun r hr =>
      Arrow.nesting_writeWith_map (functions r hr)
    have userDefined : (value ((n.kind.selected .userDefined n.userDefinedType).map id)).nesting ≤
        (value n.userDefinedType).nesting :=
      nesting_selected_map n.kind .userDefined fun _ _ => Nat.le_refl _
    have parameter : (value ((n.kind.selected .parameter n.typeParameter).map id)).nesting ≤
        (value n.typeParameter).nesting :=
      nesting_selected_map n.kind .parameter fun _ _ => Nat.le_refl _
    exact nesting_record_le (.cons (nesting_record_le (.cons (Nat.le_refl _) (.cons array (.cons tuple
      (.cons userDefined (.cons parameter (.cons operation (.cons function .nil)))))))) .nil)

/-! ### Parts of declarations -/

theorem Tuple.nesting_pruned {α : Type} [Wire RecordName α] {f : α → α}
    (each : ∀ a, (value (f a)).nesting ≤ (value a).nesting) (t : Tuple α) :
    (value (t.pruned f)).nesting ≤ (value t).nesting := by
  have single (kind : Tag TupleTag) (item : Option α) (rest : Value) :
      (single kind (kind.selected .item (item.map f))).toValue.nesting ≤
        (Value.record [value kind, value item, rest]).nesting := by
    have payload : (value (kind.selected .item (item.map f))).nesting ≤ (value item).nesting :=
      Nat.le_trans (nesting_selected kind _ _) (nesting_optionValue_le fun a _ => each a)
    exact nesting_record_le (.cons (Nat.le_refl _) (.cons payload (.cons (Nat.zero_le _) .nil)))
  show (t.pruned f).toValue.nesting ≤ t.toValue.nesting
  induction t using Tuple.induction with
  | single kind item => exact single kind item .absent
  | grouped kind item items ih =>
    rw [pruned]
    by_cases h : kind = .known .group
    · have members : (Value.list (toValues (prunedOf f items))).nesting ≤
          (Value.list (toValues items)).nesting := by
        rw [prunedOf_eq_map, toValues_eq_map, toValues_eq_map]
        exact nesting_list_le ih
      rw [if_pos h]
      exact nesting_record_le (.cons (Nat.le_refl _) (.cons (Nat.zero_le _) (.cons members .nil)))
    · rw [if_neg h]
      exact single kind item _

theorem LocalSymbol.nesting_pruned (s : LocalSymbol) : (value s.pruned).nesting ≤ (value s).nesting :=
  nesting_record_le (.cons (Nat.le_refl _) (.cons (nesting_selected s.kind _ s.name) .nil))

theorem nesting_variable {S : Type} [Wire RecordName S] {f : S → S} (v : LocalVariable S ResolvedType)
    (name : (value (f v.variableName)).nesting ≤ (value v.variableName).nesting) :
    (value (v.map f ResolvedType.pruned)).nesting ≤ (value v).nesting :=
  nesting_record_le (.cons name (.cons v.resolvedType.nesting_pruned (.cons (Nat.le_refl _)
    (.cons (Nat.le_refl _) (.cons (Nat.le_refl _) .nil)))))

theorem nesting_argumentPruned (v : LocalVariable LocalSymbol ResolvedType) :
    (value (argumentPruned v)).nesting ≤ (value v).nesting :=
  nesting_variable v v.variableName.nesting_pruned

theorem TypeItem.nesting_pruned (i : TypeItem) : (value i.pruned).nesting ≤ (value i).nesting := by
  have named : (value i.pruned.named).nesting ≤ (value i.named).nesting :=
    Nat.le_trans (nesting_selected i.kind _ _)
      (nesting_optionValue_le fun v _ => nesting_variable v (Nat.le_refl _))
  have anonymous : (value i.pruned.anonymous).nesting ≤ (value i.anonymous).nesting :=
    Nat.le_trans (nesting_selected i.kind _ _) (nesting_optionValue_le fun t _ => t.nesting_pruned)
  exact nesting_record_le (.cons (Nat.le_refl _) (.cons named (.cons anonymous .nil)))

theorem nesting_signaturePruned (s : ResolvedSignature) :
    (value (signaturePruned s)).nesting ≤ (value s).nesting := by
  have parameters : (value (s.typeParameters.map LocalSymbol.pruned)).nesting ≤
      (value s.typeParameters).nesting := nesting_list_le fun p _ => p.nesting_pruned
  have information : (value (s.information.map Characteristics.pruned)).nesting ≤
      (value s.information).nesting := Information.nesting_pruned s.information
  exact nesting_record_le (.cons parameters (.cons s.argumentType.nesting_pruned
    (.cons s.returnType.nesting_pruned (.cons information .nil))))

/-! ### Declarations -/

/-- A field of the full profile nests no deeper than before, or than what it is filled with. -/
theorem nesting_getD {α : Type} [Wire RecordName α] {k : Nat} {a : α} (h : (value a).nesting ≤ k)
    (o : Option α) : (value (some (o.getD a))).nesting ≤ max k (value o).nesting := by
  cases o with
  | none => exact Nat.le_trans h (Nat.le_max_left _ _)
  | some b => exact Nat.le_max_right _ _

theorem nesting_map_getD {α : Type} [Wire RecordName α] {k : Nat} {a : α} {f : α → α}
    (h : (value a).nesting ≤ k) (each : ∀ b, (value (f b)).nesting ≤ (value b).nesting) (o : Option α) :
    (value (some ((o.map f).getD a))).nesting ≤ max k (value o).nesting := by
  have filled := nesting_getD h (o.map f)
  have changed : (value (o.map f)).nesting ≤ (value o).nesting := nesting_optionValue_le fun b _ => each b
  omega

theorem nesting_kept {α : Type} [Wire RecordName α] (k : Nat) (a : α) :
    (value a).nesting ≤ max k (value a).nesting :=
  Nat.le_max_right _ _

theorem Callable.nesting_canonical (c : Callable) :
    (value c.pruned.completed).nesting ≤ max 5 (value c).nesting := by
  have none : (value ([] : List Attribute)).nesting ≤ 4 := by decide
  have default : (value defaultModifiers).nesting ≤ 4 := by decide
  have plain : (value plainSignature).nesting ≤ 4 := by decide
  have empty : (value (emptyTuple : ArgumentTuple)).nesting ≤ 4 := by decide
  exact nesting_record_le_max (.cons (nesting_kept 4 c.kind) (.cons (nesting_kept 4 c.fullName)
    (.cons (nesting_getD none c.attributes) (.cons (nesting_getD default c.modifiers)
    (.cons (nesting_kept 4 c.sourceFile) (.cons (nesting_kept 4 c.location)
    (.cons (nesting_map_getD plain nesting_signaturePruned c.signature)
    (.cons (nesting_map_getD empty (Tuple.nesting_pruned nesting_argumentPruned) c.argumentTuple)
    (.cons (nesting_kept 4 c.documentation) (.cons (nesting_kept 4 c.comments) .nil))))))))))

theorem CustomType.nesting_canonical (t : CustomType) :
    (value t.pruned.completed).nesting ≤ max 5 (value t).nesting := by
  have none : (value ([] : List Attribute)).nesting ≤ 4 := by decide
  have default : (value defaultModifiers).nesting ≤ 4 := by decide
  have invalid : (value invalidType).nesting ≤ 4 := by decide
  have empty : (value (emptyTuple : Tuple TypeItem)).nesting ≤ 4 := by decide
  exact nesting_record_le_max (.cons (nesting_kept 4 t.fullName)
    (.cons (nesting_getD none t.attributes) (.cons (nesting_getD default t.modifiers)
    (.cons (nesting_kept 4 t.sourceFile) (.cons (nesting_kept 4 t.location)
    (.cons (nesting_map_getD invalid ResolvedType.nesting_pruned t.underlyingType)
    (.cons (nesting_map_getD empty (Tuple.nesting_pruned TypeItem.nesting_pruned) t.typeItems)
    (.cons (nesting_kept 4 t.documentation) (.cons (nesting_kept 4 t.comments) .nil)))))))))

theorem nesting_selected_canonical {α β : Type} [DecidableEq α] [Wire RecordName β] {k : Nat} {f g : β → β}
    (each : ∀ b, (value (g (f b))).nesting ≤ max k (value b).nesting) (t : Tag α) (a : α) (o : Option β) :
    (value ((t.selected a (o.map f)).map g)).nesting ≤ max k (value o).nesting := by
  rw [Tag.map_selected, Option.map_map]
  exact Nat.le_trans (nesting_selected t a _) (nesting_optionValue_le_max fun b _ => each b)

theorem NamespaceElement.nesting_canonical (e : NamespaceElement) :
    (value e.pruned.completed).nesting ≤ max 6 (value e).nesting := by
  have callable := nesting_selected_canonical Callable.nesting_canonical e.kind .callable e.callable
  have customType := nesting_selected_canonical CustomType.nesting_canonical e.kind .customType e.customType
  exact nesting_record_le_max (.cons (nesting_kept 5 e.kind) (.cons callable (.cons customType .nil)))

/-! ### Programs -/

theorem mem_of_mem_regrouped {item : DocumentationItem} {items : List DocumentationItem}
    (h : item ∈ regrouped items) : item ∈ items := by
  obtain ⟨file, -, hi⟩ := List.mem_flatMap.mp h
  exact (List.mem_filter.mp hi).1

theorem nesting_regrouped (items : List DocumentationItem) :
    (value (regrouped items)).nesting ≤ (value items).nesting := by
  refine Nat.succ_le_succ (Value.nestingOf_le_iff.mpr fun v hv => ?_)
  obtain ⟨item, hi, rfl⟩ := List.mem_map.mp hv
  exact Value.nestingOf_le_iff.mp (Nat.le_refl _) _ (List.mem_map_of_mem (mem_of_mem_regrouped hi))

theorem Namespace.nesting_canonical (n : Namespace) :
    (value n.pruned.completed).nesting ≤ max 8 (value n).nesting := by
  have elements : (value ((n.elements.map NamespaceElement.pruned).map NamespaceElement.completed)).nesting ≤
      max 7 (value n.elements).nesting := by
    rw [List.map_map]
    exact nesting_list_le_max fun e _ => e.nesting_canonical
  have documentation : (value (regrouped n.documentation)).nesting ≤ max 7 (value n.documentation).nesting :=
    Nat.le_trans (nesting_regrouped n.documentation) (Nat.le_max_right _ _)
  exact nesting_record_le_max (.cons (nesting_kept 7 n.name) (.cons elements (.cons documentation .nil)))

/-- The canonical form of a program nests no deeper than the program, or at most ten deep. -/
theorem Program.nesting_canonical (p : Program) :
    (value p.canonical).nesting ≤ max 10 (value p).nesting := by
  have namespaces : (value ((p.namespaces.map Namespace.pruned).map Namespace.completed)).nesting ≤
      max 9 (value p.namespaces).nesting := by
    rw [List.map_map]
    exact nesting_list_le_max fun n _ => n.nesting_canonical
  have entryPoints : (value ([] : List QualifiedName)).nesting ≤ max 9 (value p.entryPoints).nesting :=
    Nat.le_trans (by decide) (Nat.le_max_left _ _)
  exact nesting_record_le_max (.cons namespaces (.cons entryPoints .nil))

/-! ### Minimal declarations -/

theorem Callable.nesting_minimal (c : Callable) : (value c.minimal).nesting ≤ (value c).nesting :=
  nesting_record_le (.cons (Nat.le_refl _) (.cons (Nat.le_refl _) (.cons (Nat.zero_le _)
    (.cons (Nat.zero_le _) (.cons (Nat.le_refl _) (.cons (Nat.le_refl _) (.cons (Nat.zero_le _)
    (.cons (Nat.zero_le _) (.cons (Nat.le_refl _) (.cons (Nat.le_refl _) .nil))))))))))

theorem CustomType.nesting_minimal (t : CustomType) : (value t.minimal).nesting ≤ (value t).nesting :=
  nesting_record_le (.cons (Nat.le_refl _) (.cons (Nat.zero_le _) (.cons (Nat.zero_le _)
    (.cons (Nat.le_refl _) (.cons (Nat.le_refl _) (.cons (Nat.zero_le _) (.cons (Nat.zero_le _)
    (.cons (Nat.le_refl _) (.cons (Nat.le_refl _) .nil)))))))))

theorem NamespaceElement.nesting_minimal (e : NamespaceElement) :
    (value e.minimal).nesting ≤ (value e).nesting :=
  nesting_record_le (.cons (Nat.le_refl _)
    (.cons (nesting_optionValue_le fun c _ => c.nesting_minimal)
    (.cons (nesting_optionValue_le fun t _ => t.nesting_minimal) .nil)))

theorem Namespace.nesting_minimal (n : Namespace) : (value n.minimal).nesting ≤ (value n).nesting :=
  nesting_record_le (.cons (Nat.le_refl _) (.cons (nesting_list_le fun e _ => e.nesting_minimal)
    (.cons (Nat.le_refl _) .nil)))

theorem Program.nesting_minimal (p : Program) : (value p.minimal).nesting ≤ (value p).nesting :=
  nesting_record_le (.cons (nesting_list_le fun n _ => n.nesting_minimal) (.cons (Nat.le_refl _) .nil))

end ProgramInterchange.Record
