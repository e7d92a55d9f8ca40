import ProgramInterchange.Event
import ProgramInterchange.Record.Program
import ProgramInterchange.Tree.Program
import ProgramInterchange.Walk.Tuple

/-!
# From records to trees

A tree is rebuilt from the payloads that tags select; every other payload field is ignored. It fails at
the first unknown tag, absent payload, empty tuple type or empty identifier, in the order given with each
function. What a record does not carry is filled by placeholders. A type is read by one walk over its
nodes, `ResolvedType.toTree_mk` gives the equation.
-/

namespace ProgramInterchange.Record

/-- A tag that has to be known; `kind` is the name of the enumeration in faults. -/
def requireKnown {α : Type} [DecidableEq α] [Coded α] (kind : String) (t : Tag α) : Except Fault α :=
  match t with
  | .known a => .ok a
  | .unrecognized _ => .error (.unsupportedVariant kind t.display)

/-! ### Types -/

def Characteristics.toTree : Characteristics → Except Fault Tree.Characteristics
  | .single kind simpleSet =>
    match kind with
    | .known .emptySet => .ok .emptySet
    | .known .invalid => .ok .invalid
    | .known .simpleSet =>
      withPayload "ResolvedCharacteristics" kind.display simpleSet fun property => do
        let property ← requireKnown "OpProperty" property
        return .simpleSet property
    | .known .union => .error (.missingPayload "ResolvedCharacteristics" kind.display)
    | .known .intersection => .error (.missingPayload "ResolvedCharacteristics" kind.display)
    | .unrecognized _ => .error (.unsupportedVariant "ResolvedCharacteristics" kind.display)
  | .combined kind simpleSet lhs rhs =>
    match kind with
    | .known .emptySet => .ok .emptySet
    | .known .invalid => .ok .invalid
    | .known .simpleSet =>
      withPayload "ResolvedCharacteristics" kind.display simpleSet fun property => do
        let property ← requireKnown "OpProperty" property
        return .simpleSet property
    | .known .union => do
      let lhs ← lhs.toTree
      let rhs ← rhs.toTree
      return .union lhs rhs
    | .known .intersection => do
      let lhs ← lhs.toTree
      let rhs ← rhs.toTree
      return .intersection lhs rhs
    | .unrecognized _ => .error (.unsupportedVariant "ResolvedCharacteristics" kind.display)

def informationToTree (i : Information) : Except Fault (CallableInformation Tree.Characteristics) :=
  i.mapM Characteristics.toTree

/-- How the payloads of a type are read, given how its nested types are. -/
def typeReader {D D' : Type} (data : D → Except Fault D') :
    PayloadWalk (Except Fault) D UserDefinedType TypeParameter Information
      D' UserDefinedType TypeParameter (CallableInformation Tree.Characteristics) :=
  ⟨data, UserDefinedType.checked, TypeParameter.checked, informationToTree⟩

def ResolvedType.toTree : ResolvedType → Except Fault Tree.ResolvedType :=
  ResolvedType.fold fun node => do
    let kind ← (typeReader id).toKind node
    return .mk kind

theorem ResolvedType.toTree_mk (node : ResolvedTypeNode) :
    toTree (mk node) = (do
      let kind ← (typeReader toTree).toKind node
      return .mk kind) := by
  rw [toTree, fold_mk, ← toTree, PayloadWalk.toKind_mapParts]
  rfl

/-! ### Parts of declarations -/

def LocalSymbol.toTree (s : LocalSymbol) : Except Fault Tree.LocalSymbol :=
  match s.kind with
  | .known .valid =>
    withPayload "LocalSymbol" s.kind.display s.name fun name => do
      let name ← requireIdentifier "LocalSymbol.name" name
      return .valid name
  | .known .invalid => .ok .invalid
  | .unrecognized _ => .error (.unsupportedVariant "LocalSymbol" s.kind.display)

/-- The tree of an argument of a callable: name, then type. -/
def argumentToTree (v : LocalVariable LocalSymbol ResolvedType) :
    Except Fault (LocalVariable Tree.LocalSymbol Tree.ResolvedType) :=
  v.mapM LocalSymbol.toTree ResolvedType.toTree

def TypeItem.toTree (i : TypeItem) : Except Fault Tree.TypeItem :=
  match i.kind with
  | .known .named =>
    withPayload "TypeItem" i.kind.display i.named fun declaration => do
      let declaration ← declaration.mapM (requireIdentifier "TypeItem.named") ResolvedType.toTree
      return .named declaration
  | .known .anonymous =>
    withPayload "TypeItem" i.kind.display i.anonymous fun type => do
      let type ← type.toTree
      return .anonymous type
  | .unrecognized _ => .error (.unsupportedVariant "TypeItem" i.kind.display)

/-- The tree of an attribute; its argument becomes the placeholder. -/
def Attribute.toTree (a : Attribute) : Except Fault Tree.Attribute := do
  let typeId ← a.typeId.mapM UserDefinedType.checked
  return ⟨typeId, a.typeIdRange, .placeholder, a.offset, a.comments⟩

def Modifiers.toTree (m : Modifiers) : Except Fault Tree.Modifiers := do
  let access ← requireKnown "AccessModifier" m.access
  return ⟨access⟩

/-- The tree of a signature: type parameters, argument type, return type, characteristics. -/
def signatureToTree (s : ResolvedSignature) : Except Fault Tree.ResolvedSignature :=
  s.mapM LocalSymbol.toTree ResolvedType.toTree Characteristics.toTree

/-- The tree of a field that may be absent, which then takes the placeholder. -/
def orPlaceholder {α β : Type} (placeholder : β) (f : α → Except Fault β) :
    Option α → Except Fault β
  | some value => f value
  | none => .ok placeholder

def attributesToTree (attributes : Option (List Attribute)) : Except Fault (List Tree.Attribute) :=
  orPlaceholder [] (fun as => as.mapM Attribute.toTree) attributes

/-! ### Declarations -/

/-- The tree of a callable: signature, argument tuple, kind, full name, attributes, modifiers. -/
def Callable.toTree (c : Callable) : Except Fault Tree.Callable := do
  let signature ← orPlaceholder Tree.signaturePlaceholder signatureToTree c.signature
  let argumentTuple ← orPlaceholder Tree.Tuple.empty (Tuple.toTreeM argumentToTree) c.argumentTuple
  let kind ← requireKnown "CallableKind" c.kind
  let fullName ← QualifiedName.checked c.fullName.space c.fullName.name
  let attributes ← attributesToTree c.attributes
  let modifiers ← orPlaceholder Tree.Modifiers.placeholder Modifiers.toTree c.modifiers
  return {
    kind, fullName, attributes, modifiers, signature, argumentTuple
    sourceFile := c.sourceFile
    location := c.location
    specializations := []
    documentation := c.documentation
    comments := c.comments }

/-- The tree of a custom type: underlying type, type items, full name, attributes, modifiers. -/
def CustomType.toTree (t : CustomType) : Except Fault Tree.CustomType := do
  let underlyingType ← orPlaceholder Tree.ResolvedType.invalid ResolvedType.toTree t.underlyingType
  let typeItems ← orPlaceholder Tree.Tuple.empty (Tuple.toTreeM TypeItem.toTree) t.typeItems
  let fullName ← QualifiedName.checked t.fullName.space t.fullName.name
  let attributes ← attributesToTree t.attributes
  let modifiers ← orPlaceholder Tree.Modifiers.placeholder Modifiers.toTree t.modifiers
  return {
    fullName, attributes, modifiers, underlyingType, typeItems
    sourceFile := t.sourceFile
    location := t.location
    documentation := t.documentation
    comments := t.comments }

def NamespaceElement.toTree (e : NamespaceElement) : Except Fault Tree.NamespaceElement :=
  match e.kind with
  | .known .callable =>
    withPayload "NamespaceElement" e.kind.display e.callable fun declaration => do
      let declaration ← declaration.toTree
      return .callable declaration
  | .known .customType =>
    withPayload "NamespaceElement" e.kind.display e.customType fun declaration => do
      let declaration ← declaration.toTree
      return .customType declaration
  | .unrecognized _ => .error (.unsupportedVariant "NamespaceElement" e.kind.display)

/-! ### Programs -/

/-- The documentation index of a list of items: the groups of one file are brought together. -/
def documentationToTree (items : List DocumentationItem) : Tree.Documentation :=
  items.foldl (fun d item => d.add item.sourceFileName item.documentationInstances) .empty

/-- The tree of a namespace: name, then elements. -/
def Namespace.toTree (n : Namespace) : Except Fault Tree.Namespace := do
  let name ← requireIdentifier "Namespace.name" n.name
  let elements ← n.elements.mapM NamespaceElement.toTree
  return ⟨name, elements, documentationToTree n.documentation⟩

/-- A computation that reports events and may fail; the events up to the failure are kept. -/
abbrev LoggedExcept := ExceptT Fault Logged

/-- The tree of a namespace, with the events of reading it. -/
def Namespace.toTreeLogged (n : Namespace) : LoggedExcept Tree.Namespace := do
  Logged.report (.decodingNamespace n.name n.elements.length)
  liftExcept n.toTree
where
  /-- A computation without events. -/
  liftExcept {α : Type} (result : Except Fault α) : LoggedExcept α := ExceptT.mk (pure result)

/-- The tree of a program, with the events of reading it. Entry points are dropped. -/
def Program.toTreeLogged (p : Program) : LoggedExcept Tree.Program := do
  Logged.report (.decodingProgram p.namespaces.length)
  if p.entryPoints ≠ [] then
    Logged.report (.discardingEntryPoints p.entryPoints.length)
  let namespaces ← p.namespaces.mapM Namespace.toTreeLogged
  return ⟨namespaces, []⟩

def Program.toTree (p : Program) : Except Fault Tree.Program :=
  (ExceptT.run p.toTreeLogged).value

end ProgramInterchange.Record
