import ProgramInterchange.Signature

/-!
# Resolved types of a program tree

`TypeKind` is one node of a type, over any representation of its four kinds of payload. A
`ResolvedType` is a node whose nested types are resolved types again; `fold` is its recursion and
`induction` its induction principle.
-/

namespace ProgramInterchange.Tree

/-! ### Characteristics -/

inductive OpProperty where
  | adjointable
  | controllable
  deriving DecidableEq, Repr

/-- The set of functors that an operation supports, as an expression. -/
inductive Characteristics where
  | emptySet
  | simpleSet (property : OpProperty)
  | union (lhs rhs : Characteristics)
  | intersection (lhs rhs : Characteristics)
  | invalid
  deriving DecidableEq, Repr

/-- Nothing is supported and nothing has been inferred. -/
def plainInformation : CallableInformation Characteristics := ⟨.emptySet, ⟨false, false⟩⟩

/-! ### Type nodes -/

inductive LeafType where
  | unit
  | int
  | bigInt
  | double
  | bool
  | string
  | qubit
  | result
  | pauli
  | range
  /-- The type of something ill-typed. -/
  | invalid
  /-- A type that was never written. -/
  | missing
  /-- A type that inference has not reached. -/
  | placeholder
  deriving DecidableEq, Repr

/-- A type node over nested types `D`, type references `U`, type parameters `P` and the information `C`
that an operation carries. -/
inductive TypeKind (D U P C : Type) where
  | leaf (type : LeafType)
  | array (item : D)
  | tuple (items : List D)
  | userDefined (reference : U)
  | parameter (reference : P)
  | operation (domain codomain : D) (information : C)
  | function (domain codomain : D)
  deriving DecidableEq, Repr

def LeafType.name : LeafType → String
  | .unit => "UnitType"
  | .int => "Int"
  | .bigInt => "BigInt"
  | .double => "Double"
  | .bool => "Bool"
  | .string => "String"
  | .qubit => "Qubit"
  | .result => "Result"
  | .pauli => "Pauli"
  | .range => "Range"
  | .invalid => "InvalidType"
  | .missing => "MissingType"
  | .placeholder => "PlaceholderType"

namespace TypeKind

variable {D D' U U' P P' C C' : Type}

def tagName : TypeKind D U P C → String
  | leaf type => type.name
  | array _ => "ArrayType"
  | tuple _ => "TupleType"
  | userDefined _ => "UserDefinedType"
  | parameter _ => "TypeParameter"
  | operation _ _ _ => "Operation"
  | function _ _ => "Function"

def isLeaf : TypeKind D U P C → Bool
  | leaf _ => true
  | _ => false

/-- The nested types, from left to right. -/
def parts : TypeKind D U P C → List D
  | array item => [item]
  | tuple items => items
  | operation domain codomain _ => [domain, codomain]
  | function domain codomain => [domain, codomain]
  | _ => []

def map (f : D → D') (g : U → U') (h : P → P') (i : C → C') : TypeKind D U P C → TypeKind D' U' P' C'
  | leaf type => leaf type
  | array item => array (f item)
  | tuple items => tuple (items.map f)
  | userDefined reference => userDefined (g reference)
  | parameter reference => parameter (h reference)
  | operation domain codomain information => operation (f domain) (f codomain) (i information)
  | function domain codomain => function (f domain) (f codomain)

def mapParts (f : D → D') (k : TypeKind D U P C) : TypeKind D' U P C := k.map f id id id

theorem parts_mapParts (f : D → D') (k : TypeKind D U P C) : (k.mapParts f).parts = k.parts.map f := by
  cases k <;> rfl

end TypeKind

/-! ### Resolved types -/

/-- A type all of whose nested types are resolved. -/
inductive ResolvedType where
  | mk (kind : TypeKind ResolvedType UserDefinedType TypeParameter (CallableInformation Characteristics))

abbrev ResolvedTypeKind :=
  TypeKind ResolvedType UserDefinedType TypeParameter (CallableInformation Characteristics)

namespace ResolvedType

/-- The node of the type itself. -/
def kind : ResolvedType → ResolvedTypeKind
  | mk kind => kind

def leaf (type : LeafType) : ResolvedType := mk (.leaf type)

/-- The type of something ill-typed, which also stands in for a type that is not known. -/
def invalid : ResolvedType := leaf .invalid

variable {β : Type}

mutual
/-- Recursion over a type: `f` gets a node in which the nested types are replaced by their results. -/
def fold (f : TypeKind β UserDefinedType TypeParameter (CallableInformation Characteristics) → β) :
    ResolvedType → β
  | mk kind => f (foldKind f kind)

def foldKind (f : TypeKind β UserDefinedType TypeParameter (CallableInformation Characteristics) → β) :
    ResolvedTypeKind → TypeKind β UserDefinedType TypeParameter (CallableInformation Characteristics)
  | .leaf type => .leaf type
  | .array item => .array (fold f item)
  | .tuple items => .tuple (foldList f items)
  | .userDefined reference => .userDefined reference
  | .parameter reference => .parameter reference
  | .operation domain codomain information =>
    .operation (fold f domain) (fold f codomain) information
  | .function domain codomain => .function (fold f domain) (fold f codomain)

def foldList (f : TypeKind β UserDefinedType TypeParameter (CallableInformation Characteristics) → β) :
    List ResolvedType → List β
  | [] => []
  | item :: items => fold f item :: foldList f items
end

theorem foldList_eq_map
    (f : TypeKind β UserDefinedType TypeParameter (CallableInformation Characteristics) → β)
    (items : List ResolvedType) : foldList f items = items.map (fold f) := by
  induction items with
  | nil => rfl
  | cons item items ih => simp only [foldList, ih, List.map_cons]

theorem fold_mk
    (f : TypeKind β UserDefinedType TypeParameter (CallableInformation Characteristics) → β)
    (kind : ResolvedTypeKind) : fold f (mk kind) = f (kind.mapParts (fold f)) := by
  simp only [fold]
  congr 1
  cases kind <;>
    simp only [foldKind, foldList_eq_map, TypeKind.mapParts, TypeKind.map, id_eq]

/-- What holds of a node whenever it holds of its nested types holds of every type. -/
theorem induction {motive : ResolvedType → Prop}
    (node : ∀ kind : ResolvedTypeKind, (∀ t ∈ kind.parts, motive t) → motive (mk kind))
    (t : ResolvedType) : motive t := by
  refine ResolvedType.rec (motive_1 := motive)
    (motive_2 := fun kind => ∀ t ∈ kind.parts, motive t)
    (motive_3 := fun items => ∀ t ∈ items, motive t)
    ?mk ?leaf ?array ?tuple ?userDefined ?parameter ?operation ?function ?nil ?cons t
  case mk => exact fun kind h => node kind h
  case leaf => intro type t ht; simp [TypeKind.parts] at ht
  case array => intro item h t ht; simp [TypeKind.parts] at ht; exact ht ▸ h
  case tuple => exact fun items h => h
  case userDefined => intro reference t ht; simp [TypeKind.parts] at ht
  case parameter => intro reference t ht; simp [TypeKind.parts] at ht
  case operation =>
    intro domain codomain information hd hc t ht
    simp only [TypeKind.parts, List.mem_cons, List.not_mem_nil, or_false] at ht
    rcases ht with rfl | rfl <;> assumption
  case function =>
    intro domain codomain hd hc t ht
    simp only [TypeKind.parts, List.mem_cons, List.not_mem_nil, or_false] at ht
    rcases ht with rfl | rfl <;> assumption
  case nil => intro t ht; simp at ht
  case cons =>
    intro item items h hs t ht
    rcases List.mem_cons.mp ht with rfl | ht
    · exact h
    · exact hs t ht

/-- The nodes of a type in pre-order: array items, tuple items, domain and codomain are visited. -/
def nodes : ResolvedType → List (TypeKind Unit UserDefinedType TypeParameter
    (CallableInformation Characteristics)) :=
  fold fun kind => kind.mapParts (fun _ => ()) :: kind.parts.flatten

/-! ### Equality -/

mutual
def beq : ResolvedType → ResolvedType → Bool
  | mk a, mk b => beqKind a b

def beqKind : ResolvedTypeKind → ResolvedTypeKind → Bool
  | .leaf a, .leaf b => decide (a = b)
  | .array a, .array b => beq a b
  | .tuple a, .tuple b => beqList a b
  | .userDefined a, .userDefined b => decide (a = b)
  | .parameter a, .parameter b => decide (a = b)
  | .operation a a' i, .operation b b' j => beq a b && beq a' b' && decide (i = j)
  | .function a a', .function b b' => beq a b && beq a' b'
  | _, _ => false

def beqList : List ResolvedType → List ResolvedType → Bool
  | [], [] => true
  | a :: as, b :: bs => beq a b && beqList as bs
  | _, _ => false
end

theorem beqList_iff {as : List ResolvedType} (h : ∀ a ∈ as, ∀ b, beq a b = true ↔ a = b)
    (bs : List ResolvedType) : beqList as bs = true ↔ as = bs := by
  induction as generalizing bs with
  | nil => cases bs <;> simp [beqList]
  | cons a as ih =>
    cases bs with
    | nil => simp [beqList]
    | cons b bs =>
      simp only [beqList, Bool.and_eq_true, List.cons.injEq]
      rw [h a (by simp), ih fun x hx => h x (by simp [hx])]

theorem beq_iff (a b : ResolvedType) : beq a b = true ↔ a = b := by
  induction a using ResolvedType.induction generalizing b with
  | node kind ih =>
    obtain ⟨kind'⟩ := b
    cases kind <;> cases kind' <;>
      simp_all [beq, beqKind, TypeKind.parts, beqList_iff, and_assoc]

instance : DecidableEq ResolvedType := fun a b => decidable_of_iff _ (beq_iff a b)

end ResolvedType

end ProgramInterchange.Tree
