import ProgramInterchange.Reference

/-!
# Signatures and local variables

These structures look alike in a program tree and in its record; only their parts differ. They are
parametric in the representation of symbols `S`, types `T` and characteristics `C`. `map` changes the
parts, `mapM` does so with effects, in the order in which the parts are written down.
-/

namespace ProgramInterchange

structure InferredCallableInformation where
  isSelfAdjoint : Bool
  isIntrinsic : Bool
  deriving DecidableEq, Repr, Inhabited

structure InferredExpressionInformation where
  isMutable : Bool
  hasLocalQuantumDependency : Bool
  deriving DecidableEq, Repr, Inhabited

structure CallableInformation (C : Type) where
  characteristics : C
  inferred : InferredCallableInformation
  deriving DecidableEq, Repr

/-- The declaration of a local variable; `position` is the offset of its statement, if it has one. -/
structure LocalVariable (S T : Type) where
  variableName : S
  resolvedType : T
  inferred : InferredExpressionInformation
  position : Option Position
  range : Range
  deriving DecidableEq, Repr

structure Signature (S T C : Type) where
  typeParameters : List S
  argumentType : T
  returnType : T
  information : CallableInformation C
  deriving DecidableEq, Repr

/-! ### Changing the parts -/

variable {S S' T T' C C' : Type} {m : Type → Type} [Monad m]

def CallableInformation.map (f : C → C') (i : CallableInformation C) : CallableInformation C' :=
  ⟨f i.characteristics, i.inferred⟩

/-- Changes the characteristics, with effects. -/
def CallableInformation.mapM (f : C → m C') (i : CallableInformation C) :
    m (CallableInformation C') := do
  let characteristics ← f i.characteristics
  return ⟨characteristics, i.inferred⟩

def LocalVariable.map (f : S → S') (g : T → T') (v : LocalVariable S T) : LocalVariable S' T' :=
  ⟨f v.variableName, g v.resolvedType, v.inferred, v.position, v.range⟩

/-- Changes name and type, with effects: the name first. -/
def LocalVariable.mapM (f : S → m S') (g : T → m T') (v : LocalVariable S T) :
    m (LocalVariable S' T') := do
  let variableName ← f v.variableName
  let resolvedType ← g v.resolvedType
  return ⟨variableName, resolvedType, v.inferred, v.position, v.range⟩

/-- Changes symbols, types and characteristics. -/
def Signature.map (f : S → S') (g : T → T') (h : C → C') (s : Signature S T C) : Signature S' T' C' :=
  ⟨s.typeParameters.map f, g s.argumentType, g s.returnType, s.information.map h⟩

/-- Changes symbols, types and characteristics, with effects: type parameters, argument type, return
type, characteristics. -/
def Signature.mapM (f : S → m S') (g : T → m T') (h : C → m C') (s : Signature S T C) :
    m (Signature S' T' C') := do
  let typeParameters ← s.typeParameters.mapM f
  let argumentType ← g s.argumentType
  let returnType ← g s.returnType
  let information ← s.information.mapM h
  return ⟨typeParameters, argumentType, returnType, information⟩

end ProgramInterchange
