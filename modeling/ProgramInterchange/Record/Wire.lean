import ProgramInterchange.Record.Format
import ProgramInterchange.Record.Program
import ProgramInterchange.Wire.Codec

/-!
# Records on the wire

How each record becomes a value of its layout and is got back from one. Most records are written and read field by
field, which is said once for all of them.
-/

namespace ProgramInterchange.Record

open ProgramInterchange.Wire (Value Shape)

/-- The value of a member of any type with a wire form in this format. -/
def value {α : Type} [Wire RecordName α] (a : α) : Value := Wire.toValue RecordName a

/-- The member that a value stands for. -/
def member? {α : Type} [Wire RecordName α] (v : Value) : Option α := Wire.ofValue? RecordName v

abbrev shapeOf (α : Type) [Wire RecordName α] : Shape RecordName := Wire.shape α

/-! ### Records field by field -/

/-- The fields of a record in their order, as nested pairs that end in `Unit`. -/
class Fields (F : Type) where
  shapes : List (Shape RecordName)
  toValues : F → List Value
  /-- The fields that values stand for, one for each. -/
  ofValues? : List Value → Option F

instance : Fields Unit where
  shapes := []
  toValues _ := []
  ofValues?
    | [] => some ()
    | _ => none

instance {A F : Type} [Wire RecordName A] [Fields F] : Fields (A × F) where
  shapes := shapeOf A :: Fields.shapes F
  toValues f := value f.1 :: Fields.toValues f.2
  ofValues?
    | v :: vs => do return (← member? v, ← Fields.ofValues? vs)
    | [] => none

/-- A type of records that consist of the fields of their layout. -/
class Fielded (α : Type) (F : outParam Type) [Fields F] where
  name : RecordName
  toFields : α → F
  ofFields : F → α
  ofFields_toFields : ∀ a, ofFields (toFields a) = a := by exact fun _ => rfl
  toFields_ofFields : ∀ f, toFields (ofFields f) = f := by exact fun _ => rfl
  shapes_eq : (layout name).fields.map (fun field => field.shape) = Fields.shapes F := by rfl

/-- A record is written as the values of its fields, and got back from as many values. -/
@[reducible]
def Fielded.wire {α F : Type} [Fields F] [Fielded α F] : Wire RecordName α where
  shape := .record (Fielded.name α)
  toValue a := .record (Fields.toValues (Fielded.toFields a))
  ofValue?
    | .record values => (Fields.ofValues? values).map Fielded.ofFields
    | _ => none

/-! ### Places and names -/

instance : Fielded Position (UInt32 × UInt32 × Unit) where
  name := .position
  toFields r := (r.line, r.column, ())
  ofFields := fun (line, column, ()) => ⟨line, column⟩

instance : Wire RecordName Position := Fielded.wire

instance : Fielded Range (Position × Position × Unit) where
  name := .range
  toFields r := (r.start, r.stop, ())
  ofFields := fun (start, stop, ()) => ⟨start, stop⟩

instance : Wire RecordName Range := Fielded.wire

instance : Fielded Location (Position × Range × Unit) where
  name := .location
  toFields r := (r.offset, r.range, ())
  ofFields := fun (offset, range, ()) => ⟨offset, range⟩

instance : Wire RecordName Location := Fielded.wire

instance : Fielded Comments (List String × List String × Unit) where
  name := .comments
  toFields r := (r.opening, r.closing, ())
  ofFields := fun (opening, closing, ()) => ⟨opening, closing⟩

instance : Wire RecordName Comments := Fielded.wire

instance : Fielded QualifiedName (String × String × Unit) where
  name := .qualifiedName
  toFields r := (r.space, r.name, ())
  ofFields := fun (space, name, ()) => ⟨space, name⟩

instance : Wire RecordName QualifiedName := Fielded.wire

instance : Fielded UserDefinedType (String × String × Option Range × Unit) where
  name := .userDefinedType
  toFields r := (r.space, r.name, r.range, ())
  ofFields := fun (space, name, range, ()) => ⟨space, name, range⟩

instance : Wire RecordName UserDefinedType := Fielded.wire

instance : Fielded TypeParameter (QualifiedName × String × Option Range × Unit) where
  name := .typeParameter
  toFields r := (r.origin, r.typeName, r.range, ())
  ofFields := fun (origin, typeName, range, ()) => ⟨origin, typeName, range⟩

instance : Wire RecordName TypeParameter := Fielded.wire

instance : Fielded InferredCallableInformation (Bool × Bool × Unit) where
  name := .inferredCallable
  toFields r := (r.isSelfAdjoint, r.isIntrinsic, ())
  ofFields := fun (isSelfAdjoint, isIntrinsic, ()) => ⟨isSelfAdjoint, isIntrinsic⟩

instance : Wire RecordName InferredCallableInformation := Fielded.wire

instance : Fielded InferredExpressionInformation (Bool × Bool × Unit) where
  name := .inferredExpression
  toFields r := (r.isMutable, r.hasLocalQuantumDependency, ())
  ofFields := fun (isMutable, hasLocalQuantumDependency, ()) => ⟨isMutable, hasLocalQuantumDependency⟩

instance : Wire RecordName InferredExpressionInformation := Fielded.wire

/-! ### Characteristics -/

def Characteristics.toValue : Characteristics → Value
  | .single kind simpleSet => .record [.record [value kind, value simpleSet, .absent]]
  | .combined kind simpleSet lhs rhs =>
    .record [.record [value kind, value simpleSet, .record [lhs.toValue, rhs.toValue]]]

def Characteristics.ofValue? : Value → Option Characteristics
  | .record [.record [kind, simpleSet, .absent]] => do
    return .single (← member? kind) (← member? simpleSet)
  | .record [.record [kind, simpleSet, .record [lhs, rhs]]] => do
    let kind ← member? kind
    let simpleSet ← member? simpleSet
    let lhs ← Characteristics.ofValue? lhs
    let rhs ← Characteristics.ofValue? rhs
    return .combined kind simpleSet lhs rhs
  | _ => none

instance : Wire RecordName Characteristics where
  shape := .record .characteristics
  toValue := Characteristics.toValue
  ofValue? := Characteristics.ofValue?

instance : Fielded Information (Characteristics × InferredCallableInformation × Unit) where
  name := .information
  toFields r := (r.characteristics, r.inferred, ())
  ofFields := fun (characteristics, inferred, ()) => ⟨characteristics, inferred⟩

instance : Wire RecordName Information := Fielded.wire

/-! ### Types -/

def Arrow.toValue (a : Arrow Value) : Value := .record [a.domain, a.codomain]

def OperationType.toValue (o : OperationType Value Value) : Value :=
  .record [o.arrow.toValue, o.characteristics]

def TypeNode.toValue (n : TypeNode Value Value Value Value) : Value :=
  .record [value n.kind, Wire.optionValue id n.arrayType, Wire.optionValue .list n.tupleType,
    Wire.optionValue id n.userDefinedType, Wire.optionValue id n.typeParameter,
    Wire.optionValue OperationType.toValue n.operation, Wire.optionValue Arrow.toValue n.function]

section

variable {D U P C : Type}

/-- The arrow that a value stands for; `data` reads the nested types inside it. -/
def Arrow.ofValue? (v : Value) (data : (w : Value) → sizeOf w < sizeOf v → Option D) :
    Option (Arrow D) :=
  match v, data with
  | .record [domain, codomain], data => do
    let domain ← data domain (by decreasing_tactic)
    let codomain ← data codomain (by decreasing_tactic)
    return ⟨domain, codomain⟩
  | _, _ => none

def OperationType.ofValue? [Wire RecordName C] (v : Value)
    (data : (w : Value) → sizeOf w < sizeOf v → Option D) : Option (OperationType D C) :=
  match v, data with
  | .record [arrow, characteristics], data => do
    let arrow ← Arrow.ofValue? arrow fun w h => data w (by
      simp only [Value.record.sizeOf_spec, List.cons.sizeOf_spec]; omega)
    let characteristics ← member? characteristics
    return ⟨arrow, characteristics⟩
  | _, _ => none

def optionalOf? {α : Type} (v : Value) (part : (w : Value) → sizeOf w ≤ sizeOf v → Option α) :
    Option (Option α) :=
  match v, part with
  | .absent, _ => some none
  | v, part => (part v (Nat.le_refl _)).map some

def listedOf? {α : Type} (v : Value) (part : (w : Value) → sizeOf w < sizeOf v → Option α) :
    Option (List α) :=
  match v, part with
  | .list items, part =>
    items.attach.mapM fun w => part w.val (by
      have := List.sizeOf_lt_of_mem w.property
      simp only [Value.list.sizeOf_spec]
      omega)
  | _, _ => none

/-- The type node that a value stands for; `data` reads the nested types inside it. -/
def TypeNode.ofValue? [Wire RecordName U] [Wire RecordName P] [Wire RecordName C] (v : Value)
    (data : (w : Value) → sizeOf w < sizeOf v → Option D) : Option (TypeNode D U P C) :=
  match v, data with
  | .record [kind, arrayType, tupleType, userDefinedType, typeParameter, operation, function], data => do
    let kind ← member? kind
    let arrayType ← optionalOf? arrayType fun w h => data w (by
      simp only [Value.record.sizeOf_spec, List.cons.sizeOf_spec]; omega)
    let tupleType ← optionalOf? tupleType fun w h => listedOf? w fun x h' => data x (by
      simp only [Value.record.sizeOf_spec, List.cons.sizeOf_spec]; omega)
    let userDefinedType ← member? userDefinedType
    let typeParameter ← member? typeParameter
    let operation ← optionalOf? operation fun w h => OperationType.ofValue? w fun x h' => data x (by
      simp only [Value.record.sizeOf_spec, List.cons.sizeOf_spec]; omega)
    let function ← optionalOf? function fun w h => Arrow.ofValue? w fun x h' => data x (by
      simp only [Value.record.sizeOf_spec, List.cons.sizeOf_spec]; omega)
    return ⟨kind, arrayType, tupleType, userDefinedType, typeParameter, operation, function⟩
  | _, _ => none

end

def ResolvedType.toValue : ResolvedType → Value :=
  ResolvedType.fold fun node => .record [(node.map id value value value).toValue]

def ResolvedType.ofValue? (v : Value) : Option ResolvedType :=
  match v with
  | .record [node] => do
    let node ← TypeNode.ofValue? node fun w _ => ResolvedType.ofValue? w
    return .mk node
  | _ => none
termination_by sizeOf v
decreasing_by
  simp only [Value.record.sizeOf_spec, List.cons.sizeOf_spec]
  omega

instance : Wire RecordName ResolvedType where
  shape := .record .resolvedType
  toValue := ResolvedType.toValue
  ofValue? := ResolvedType.ofValue?

instance {D U P C : Type} [Wire RecordName D] [Wire RecordName U] [Wire RecordName P]
    [Wire RecordName C] : Wire RecordName (TypeNode D U P C) where
  shape := .record (.typeNode (shapeOf D) (shapeOf U) (shapeOf P) (shapeOf C))
  toValue n := (n.map value value value value).toValue
  ofValue? v := TypeNode.ofValue? v fun w _ => member? w

/-! ### Parts of declarations -/

instance : Fielded LocalSymbol (Tag SymbolTag × Option String × Unit) where
  name := .localSymbol
  toFields r := (r.kind, r.name, ())
  ofFields := fun (kind, name, ()) => ⟨kind, name⟩

instance : Wire RecordName LocalSymbol := Fielded.wire

instance {S : Type} [Wire RecordName S] : Fielded (LocalVariable S ResolvedType)
    (S × ResolvedType × InferredExpressionInformation × Option Position × Range × Unit) where
  name := .localVariable (shapeOf S)
  toFields r := (r.variableName, r.resolvedType, r.inferred, r.position, r.range, ())
  ofFields := fun (variableName, resolvedType, inferred, position, range, ()) =>
    ⟨variableName, resolvedType, inferred, position, range⟩

instance {S : Type} [Wire RecordName S] : Wire RecordName (LocalVariable S ResolvedType) := Fielded.wire

mutual
def Tuple.toValue {α : Type} [Wire RecordName α] : Tuple α → Value
  | .single kind item => .record [value kind, value item, .absent]
  | .grouped kind item items => .record [value kind, value item, .list (Tuple.toValues items)]

def Tuple.toValues {α : Type} [Wire RecordName α] : List (Tuple α) → List Value
  | [] => []
  | t :: ts => Tuple.toValue t :: Tuple.toValues ts
end

mutual
def Tuple.ofValue? {α : Type} [Wire RecordName α] : Value → Option (Tuple α)
  | .record [kind, item, .absent] => do
    return .single (← member? kind) (← member? item)
  | .record [kind, item, .list items] => do
    let kind ← member? kind
    let item ← member? item
    let items ← Tuple.ofValues? items
    return .grouped kind item items
  | _ => none

def Tuple.ofValues? {α : Type} [Wire RecordName α] : List Value → Option (List (Tuple α))
  | [] => some []
  | v :: vs => do
    let t ← Tuple.ofValue? v
    let ts ← Tuple.ofValues? vs
    return t :: ts
end

instance {α : Type} [Wire RecordName α] : Wire RecordName (Tuple α) where
  shape := .record (.tuple (shapeOf α))
  toValue := Tuple.toValue
  ofValue? := Tuple.ofValue?

instance : Fielded TypeItem
    (Tag ItemTag × Option (LocalVariable String ResolvedType) × Option ResolvedType × Unit) where
  name := .typeItem
  toFields r := (r.kind, r.named, r.anonymous, ())
  ofFields := fun (kind, named, anonymous, ()) => ⟨kind, named, anonymous⟩

instance : Wire RecordName TypeItem := Fielded.wire

instance : Fielded ResolvedSignature (List LocalSymbol × ResolvedType × ResolvedType × Information × Unit) where
  name := .signature
  toFields r := (r.typeParameters, r.argumentType, r.returnType, r.information, ())
  ofFields := fun (typeParameters, argumentType, returnType, information, ()) =>
    ⟨typeParameters, argumentType, returnType, information⟩

instance : Wire RecordName ResolvedSignature := Fielded.wire

instance : Fielded Modifiers (Tag Tree.Access × Unit) where
  name := .modifiers
  toFields r := (r.access, ())
  ofFields := fun (access, ()) => ⟨access⟩

instance : Wire RecordName Modifiers := Fielded.wire

instance : Fielded Attribute (Option UserDefinedType × Option Range × Position × Comments × Unit) where
  name := .attribute
  toFields r := (r.typeId, r.typeIdRange, r.offset, r.comments, ())
  ofFields := fun (typeId, typeIdRange, offset, comments, ()) => ⟨typeId, typeIdRange, offset, comments⟩

instance : Wire RecordName Attribute := Fielded.wire

/-! ### Declarations and programs -/

instance : Fielded Callable
    (Tag Tree.CallableKind × QualifiedName × Option (List Attribute) × Option Modifiers × String ×
      Option Location × Option ResolvedSignature × Option ArgumentTuple × List String × Comments × Unit) where
  name := .callable
  toFields r := (r.kind, r.fullName, r.attributes, r.modifiers, r.sourceFile, r.location, r.signature,
    r.argumentTuple, r.documentation, r.comments, ())
  ofFields := fun (kind, fullName, attributes, modifiers, sourceFile, location, signature, argumentTuple,
    documentation, comments, ()) =>
    ⟨kind, fullName, attributes, modifiers, sourceFile, location, signature, argumentTuple, documentation,
      comments⟩

instance : Wire RecordName Callable := Fielded.wire

instance : Fielded CustomType
    (QualifiedName × Option (List Attribute) × Option Modifiers × String × Option Location ×
      Option ResolvedType × Option (Tuple TypeItem) × List String × Comments × Unit) where
  name := .customType
  toFields r := (r.fullName, r.attributes, r.modifiers, r.sourceFile, r.location, r.underlyingType, r.typeItems,
    r.documentation, r.comments, ())
  ofFields := fun (fullName, attributes, modifiers, sourceFile, location, underlyingType, typeItems,
    documentation, comments, ()) =>
    ⟨fullName, attributes, modifiers, sourceFile, location, underlyingType, typeItems, documentation, comments⟩

instance : Wire RecordName CustomType := Fielded.wire

instance : Fielded NamespaceElement (Tag ElementTag × Option Callable × Option CustomType × Unit) where
  name := .namespaceElement
  toFields r := (r.kind, r.callable, r.customType, ())
  ofFields := fun (kind, callable, customType, ()) => ⟨kind, callable, customType⟩

instance : Wire RecordName NamespaceElement := Fielded.wire

instance : Fielded DocumentationItem (String × List String × Unit) where
  name := .documentationItem
  toFields r := (r.sourceFileName, r.documentationInstances, ())
  ofFields := fun (sourceFileName, documentationInstances, ()) => ⟨sourceFileName, documentationInstances⟩

instance : Wire RecordName DocumentationItem := Fielded.wire

instance : Fielded Namespace (String × List NamespaceElement × List DocumentationItem × Unit) where
  name := .namespace
  toFields r := (r.name, r.elements, r.documentation, ())
  ofFields := fun (name, elements, documentation, ()) => ⟨name, elements, documentation⟩

instance : Wire RecordName Namespace := Fielded.wire

/-- Entry points may be missing, which means that there are none. -/
instance : Wire RecordName Program where
  shape := .record .program
  toValue p := .record [value p.namespaces, value p.entryPoints]
  ofValue?
    | .record [namespaces, .absent] => do return ⟨← member? namespaces, []⟩
    | .record [namespaces, entryPoints] => do return ⟨← member? namespaces, ← member? entryPoints⟩
    | _ => none

/-! ### Wire texts -/

def write {α : Type} [Wire RecordName α] (a : α) : List UInt8 := Wire.write RecordName a

def read {α : Type} [Wire RecordName α] (input : List UInt8) : Except WireFault α :=
  Wire.read RecordName input

end ProgramInterchange.Record
