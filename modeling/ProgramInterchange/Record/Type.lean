import ProgramInterchange.Record.Tag

/-!
# Type records

The portable form of types. A `TypeNode` has a tag and six payload fields; a well-formed node fills the
one field that its tag selects, but a record may fill any of them. `ResolvedType.fold` recurses through
all payload fields, `ResolvedType.induction` is the induction principle that goes with it.
-/

namespace ProgramInterchange.Record

open ProgramInterchange.Tree (OpProperty)

/-! ### Characteristics -/

/-- A characteristics expression: its tag and its two payload fields, one for simple sets and one for
set operations. -/
inductive Characteristics where
  /-- An expression in which the field for set operations is absent. -/
  | single (kind : Tag CharacteristicsTag) (simpleSet : Option (Tag OpProperty))
  /-- An expression in which it is present. -/
  | combined (kind : Tag CharacteristicsTag) (simpleSet : Option (Tag OpProperty))
    (lhs rhs : Characteristics)
  deriving DecidableEq, Repr

namespace Characteristics

def kind : Characteristics → Tag CharacteristicsTag
  | single kind _ => kind
  | combined kind _ _ _ => kind

def simpleSet : Characteristics → Option (Tag OpProperty)
  | single _ simpleSet => simpleSet
  | combined _ simpleSet _ _ => simpleSet

def setOperation : Characteristics → Option (Characteristics × Characteristics)
  | single _ _ => none
  | combined _ _ lhs rhs => some (lhs, rhs)

end Characteristics

/-! ### Type nodes -/

structure Arrow (D : Type) where
  domain : D
  codomain : D
  deriving DecidableEq, Repr

/-- An operation: its arrow, and what is known about it. -/
structure OperationType (D C : Type) where
  arrow : Arrow D
  characteristics : C
  deriving DecidableEq, Repr

/-- A type node over nested types `D`, type references `U`, type parameters `P` and characteristics
`C`. -/
structure TypeNode (D U P C : Type) where
  kind : Tag TypeTag
  arrayType : Option D
  tupleType : Option (List D)
  userDefinedType : Option U
  typeParameter : Option P
  operation : Option (OperationType D C)
  function : Option (Arrow D)
  deriving DecidableEq, Repr

namespace Arrow

variable {D D' : Type}

def map (f : D → D') (a : Arrow D) : Arrow D' := ⟨f a.domain, f a.codomain⟩

def parts (a : Arrow D) : List D := [a.domain, a.codomain]

end Arrow

namespace OperationType

variable {D D' C C' : Type}

def map (f : D → D') (g : C → C') (o : OperationType D C) : OperationType D' C' :=
  ⟨o.arrow.map f, g o.characteristics⟩

end OperationType

namespace TypeNode

variable {D D' U U' P P' C C' : Type}

def tagged (kind : Tag TypeTag) : TypeNode D U P C := ⟨kind, none, none, none, none, none, none⟩

def map (f : D → D') (g : U → U') (h : P → P') (i : C → C') (n : TypeNode D U P C) :
    TypeNode D' U' P' C' :=
  ⟨n.kind, n.arrayType.map f, n.tupleType.map (List.map f), n.userDefinedType.map g,
    n.typeParameter.map h, n.operation.map (OperationType.map f i), n.function.map (Arrow.map f)⟩

def mapParts (f : D → D') (n : TypeNode D U P C) : TypeNode D' U P C := n.map f id id id

/-- The nested types of all payload fields, in the order of the fields. -/
def parts (n : TypeNode D U P C) : List D :=
  n.arrayType.toList ++ n.tupleType.getD [] ++
    (n.operation.map fun o => o.arrow.parts).getD [] ++ (n.function.map Arrow.parts).getD []

theorem parts_mapParts (f : D → D') (n : TypeNode D U P C) : (n.mapParts f).parts = n.parts.map f := by
  obtain ⟨kind, a, t, u, p, o, r⟩ := n
  cases a <;> cases t <;> cases o <;> cases r <;>
    simp [parts, mapParts, map, OperationType.map, Arrow.map, Arrow.parts]

theorem map_congr {f f' : D → D'} {g g' : U → U'} {h h' : P → P'} {i i' : C → C'}
    {n : TypeNode D U P C} (hf : ∀ d ∈ n.parts, f d = f' d) (hg : ∀ u, g u = g' u)
    (hh : ∀ p, h p = h' p) (hi : ∀ c, i c = i' c) : n.map f g h i = n.map f' g' h' i' := by
  obtain ⟨kind, a, t, u, p, o, r⟩ := n
  obtain rfl : g = g' := funext hg
  obtain rfl : h = h' := funext hh
  obtain rfl : i = i' := funext hi
  simp only [parts, List.mem_append] at hf
  simp only [map, mk.injEq, true_and]
  refine ⟨?_, ?_, ?_, ?_⟩
  · cases a <;> simp_all
  · cases t with
    | none => rfl
    | some items => simp_all
  · cases o <;> simp_all [OperationType.map, Arrow.map, Arrow.parts]
  · cases r <;> simp_all [Arrow.map, Arrow.parts]

theorem mapParts_id (n : TypeNode D U P C) : n.mapParts (fun d => d) = n := by
  obtain ⟨kind, a, t, u, p, o, r⟩ := n
  simp only [mapParts, map, mk.injEq, true_and, Option.map_id, Option.map_id', id]
  refine ⟨?_, ?_, ?_⟩
  · cases t <;> simp
  · cases o <;> rfl
  · cases r <;> rfl

end TypeNode

/-! ### Resolved types -/

abbrev Information := CallableInformation Characteristics

/-- A type whose nested types are type records again. -/
inductive ResolvedType where
  | mk (typeKind : TypeNode ResolvedType UserDefinedType TypeParameter Information)

abbrev ResolvedTypeNode := TypeNode ResolvedType UserDefinedType TypeParameter Information

namespace ResolvedType

/-- The node of the type itself. -/
def typeKind : ResolvedType → ResolvedTypeNode
  | mk typeKind => typeKind

variable {β : Type}

mutual
/-- Recursion over a type record: `f` gets a node in which the nested types of all payload fields are
replaced by their results. -/
def fold (f : TypeNode β UserDefinedType TypeParameter Information → β) : ResolvedType → β
  | mk node => f (foldNode f node)

def foldNode (f : TypeNode β UserDefinedType TypeParameter Information → β) :
    ResolvedTypeNode → TypeNode β UserDefinedType TypeParameter Information
  | ⟨kind, arrayType, tupleType, userDefinedType, typeParameter, operation, function⟩ =>
    ⟨kind, foldOption f arrayType, foldOptionList f tupleType, userDefinedType, typeParameter,
      foldOptionOperation f operation, foldOptionArrow f function⟩

def foldOption (f : TypeNode β UserDefinedType TypeParameter Information → β) :
    Option ResolvedType → Option β
  | none => none
  | some t => some (fold f t)

def foldOptionList (f : TypeNode β UserDefinedType TypeParameter Information → β) :
    Option (List ResolvedType) → Option (List β)
  | none => none
  | some ts => some (foldList f ts)

def foldList (f : TypeNode β UserDefinedType TypeParameter Information → β) :
    List ResolvedType → List β
  | [] => []
  | t :: ts => fold f t :: foldList f ts

def foldOptionOperation (f : TypeNode β UserDefinedType TypeParameter Information → β) :
    Option (OperationType ResolvedType Information) → Option (OperationType β Information)
  | none => none
  | some operation => some (foldOperation f operation)

def foldOperation (f : TypeNode β UserDefinedType TypeParameter Information → β) :
    OperationType ResolvedType Information → OperationType β Information
  | ⟨arrow, characteristics⟩ => ⟨foldArrow f arrow, characteristics⟩

def foldOptionArrow (f : TypeNode β UserDefinedType TypeParameter Information → β) :
    Option (Arrow ResolvedType) → Option (Arrow β)
  | none => none
  | some arrow => some (foldArrow f arrow)

def foldArrow (f : TypeNode β UserDefinedType TypeParameter Information → β) :
    Arrow ResolvedType → Arrow β
  | ⟨domain, codomain⟩ => ⟨fold f domain, fold f codomain⟩
end

theorem foldList_eq_map (f : TypeNode β UserDefinedType TypeParameter Information → β)
    (ts : List ResolvedType) : foldList f ts = ts.map (fold f) := by
  induction ts with
  | nil => rfl
  | cons t ts ih => simp only [foldList, ih, List.map_cons]

theorem fold_mk (f : TypeNode β UserDefinedType TypeParameter Information → β)
    (node : ResolvedTypeNode) : fold f (mk node) = f (node.mapParts (fold f)) := by
  simp only [fold]
  congr 1
  obtain ⟨kind, a, t, u, p, o, r⟩ := node
  simp only [foldNode, TypeNode.mapParts, TypeNode.map, TypeNode.mk.injEq, true_and, Option.map_id, id]
  refine ⟨?_, ?_, ?_, ?_⟩
  · cases a <;> rfl
  · cases t <;> simp [foldOptionList, foldList_eq_map]
  · rcases o with _ | ⟨⟨domain, codomain⟩, characteristics⟩ <;> rfl
  · rcases r with _ | ⟨domain, codomain⟩ <;> rfl

/-- What holds of a node whenever it holds of the nested types of all its payload fields holds of every
type record. -/
theorem induction {motive : ResolvedType → Prop}
    (node : ∀ n : ResolvedTypeNode, (∀ t ∈ n.parts, motive t) → motive (mk n))
    (t : ResolvedType) : motive t := by
  refine ResolvedType.rec (motive_1 := motive)
    (motive_2 := fun n => ∀ t ∈ n.parts, motive t)
    (motive_3 := fun o => ∀ t ∈ o, motive t)
    (motive_4 := fun o => ∀ ts ∈ o, ∀ t ∈ ts, motive t)
    (motive_5 := fun o => ∀ a ∈ o, ∀ t ∈ a.arrow.parts, motive t)
    (motive_6 := fun o => ∀ a ∈ o, ∀ t ∈ a.parts, motive t)
    (motive_7 := fun ts => ∀ t ∈ ts, motive t)
    (motive_8 := fun a => ∀ t ∈ a.arrow.parts, motive t)
    (motive_9 := fun a => ∀ t ∈ a.parts, motive t)
    ?_ ?_ ?_ ?_ ?_ ?_ ?_ ?_ ?_ ?_ ?_ ?_ ?_ ?_ t
  · exact fun n h => node n h
  · intro kind a t u p o r ha ht ho hr x hx
    simp only [TypeNode.parts, List.mem_append] at hx
    rcases hx with ((hx | hx) | hx) | hx
    · exact ha x (by simpa using hx)
    · cases t with
      | none => simp at hx
      | some ts => exact ht ts rfl x hx
    · cases o with
      | none => simp at hx
      | some o => exact ho o rfl x hx
    · cases r with
      | none => simp at hx
      | some r => exact hr r rfl x hx
  all_goals simp_all [Arrow.parts]

end ResolvedType

/-! ### Equality -/

/-- Whether a value passes a test, both being absent or both present. -/
def passOption {E : Type} : Option (E → Bool) → Option E → Bool
  | none, none => true
  | some test, some e => test e
  | _, _ => false

/-- Whether the values of a list pass the tests of another one, one by one. -/
def passList {E : Type} : List (E → Bool) → List E → Bool
  | [], [] => true
  | test :: tests, e :: es => test e && passList tests es
  | _, _ => false

def passArrow {E : Type} (tests : Arrow (E → Bool)) (a : Arrow E) : Bool :=
  tests.domain a.domain && tests.codomain a.codomain

/-- Whether a node has the payload fields of another one, its nested types passing the tests there. -/
def passNode {E U P C : Type} [DecidableEq U] [DecidableEq P] [DecidableEq C]
    (tests : TypeNode (E → Bool) U P C) (n : TypeNode E U P C) : Bool :=
  decide (tests.kind = n.kind) && passOption tests.arrayType n.arrayType &&
    passOption (tests.tupleType.map passList) n.tupleType &&
    decide (tests.userDefinedType = n.userDefinedType) &&
    decide (tests.typeParameter = n.typeParameter) &&
    passOption (tests.operation.map fun t o =>
      passArrow t.arrow o.arrow && decide (t.characteristics = o.characteristics)) n.operation &&
    passOption (tests.function.map passArrow) n.function

theorem passList_map_iff {D E : Type} {r : D → E → Bool} {s : D → E} {ds : List D}
    (h : ∀ d ∈ ds, ∀ e, r d e = true ↔ s d = e) (es : List E) :
    passList (ds.map r) es = true ↔ ds.map s = es := by
  induction ds generalizing es with
  | nil => cases es <;> simp [passList]
  | cons d ds ih =>
    cases es with
    | nil => simp [passList]
    | cons e es =>
      simp only [List.map_cons, passList, Bool.and_eq_true, List.cons.injEq]
      rw [h d (by simp), ih fun x hx => h x (by simp [hx])]

theorem passArrow_map_iff {D E : Type} {r : D → E → Bool} {s : D → E} {a : Arrow D}
    (h : ∀ d ∈ a.parts, ∀ e, r d e = true ↔ s d = e) (b : Arrow E) :
    passArrow (a.map r) b = true ↔ a.map s = b := by
  obtain ⟨domain, codomain⟩ := a
  obtain ⟨domain', codomain'⟩ := b
  simp only [Arrow.parts, List.mem_cons, List.not_mem_nil, or_false, forall_eq_or_imp,
    forall_eq] at h
  simp only [passArrow, Arrow.map, Bool.and_eq_true, Arrow.mk.injEq, h.1, h.2]

theorem passNode_mapParts_iff {D E U P C : Type} [DecidableEq U] [DecidableEq P] [DecidableEq C]
    {r : D → E → Bool} {s : D → E} {n : TypeNode D U P C}
    (h : ∀ d ∈ n.parts, ∀ e, r d e = true ↔ s d = e) (m : TypeNode E U P C) :
    passNode (n.mapParts r) m = true ↔ n.mapParts s = m := by
  obtain ⟨kind, a, t, u, p, o, f⟩ := n
  obtain ⟨kind', a', t', u', p', o', f'⟩ := m
  simp only [TypeNode.parts, List.mem_append] at h
  have ha : passOption (a.map r) a' = true ↔ a.map s = a' := by
    cases a <;> cases a' <;> simp_all [passOption]
  have ht : passOption ((t.map (List.map r)).map passList) t' = true ↔ t.map (List.map s) = t' := by
    cases t <;> cases t' <;> simp [passOption]
    exact passList_map_iff (fun d hd => h d (by simp [hd])) _
  have ho : passOption ((o.map (OperationType.map r id)).map fun t o =>
      passArrow t.arrow o.arrow && decide (t.characteristics = o.characteristics)) o' = true ↔
      o.map (OperationType.map s id) = o' := by
    rcases o with _ | ⟨arrow, c⟩ <;> rcases o' with _ | ⟨arrow', c'⟩ <;>
      simp [passOption, OperationType.map]
    intro _
    exact passArrow_map_iff (fun d hd => h d (by simp [hd])) _
  have hf : passOption ((f.map (Arrow.map r)).map passArrow) f' = true ↔ f.map (Arrow.map s) = f' := by
    cases f <;> cases f' <;> simp [passOption]
    exact passArrow_map_iff (fun d hd => h d (by simp [hd])) _
  simp only [passNode, TypeNode.mapParts, TypeNode.map, Bool.and_eq_true, decide_eq_true_eq,
    Option.map_id, id, TypeNode.mk.injEq, ha, ht, ho, hf, and_assoc]

namespace ResolvedType

def beq : ResolvedType → ResolvedType → Bool :=
  fold fun tests other => passNode tests other.typeKind

theorem beq_iff (a b : ResolvedType) : beq a b = true ↔ a = b := by
  induction a using ResolvedType.induction generalizing b with
  | node n ih =>
    obtain ⟨m⟩ := b
    rw [beq, fold_mk, ← beq]
    rw [typeKind, passNode_mapParts_iff ih m, TypeNode.mapParts_id, mk.injEq]

instance : DecidableEq ResolvedType := fun a b => decidable_of_iff _ (beq_iff a b)

end ResolvedType

end ProgramInterchange.Record
