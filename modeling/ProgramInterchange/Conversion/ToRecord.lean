import ProgramInterchange.Event
import ProgramInterchange.Record.Program
import ProgramInterchange.Tree.Program
import ProgramInterchange.Walk.Tuple

/-!
# From trees to records

Every tree has a record: nothing is checked, and nothing fails. The profile decides which fields of a
declaration are filled; specializations and the arguments of attributes are never carried. A type is
written by one walk over its nodes, `ResolvedType.toRecord_mk` gives the equation.
-/

namespace ProgramInterchange.Tree

/-! ### Types -/

def Characteristics.toRecord : Characteristics → Record.Characteristics
  | .emptySet => .single (.known .emptySet) none
  | .simpleSet property => .single (.known .simpleSet) (some (.known property))
  | .union lhs rhs => .combined (.known .union) none lhs.toRecord rhs.toRecord
  | .intersection lhs rhs => .combined (.known .intersection) none lhs.toRecord rhs.toRecord
  | .invalid => .single (.known .invalid) none

def informationToRecord (i : CallableInformation Characteristics) : Record.Information :=
  i.map Characteristics.toRecord

/-- How the payloads of a type are written, given how its nested types are. -/
def typeWriter {D D' : Type} (data : D → D') :
    PayloadWalk Id D UserDefinedType TypeParameter (CallableInformation Characteristics)
      D' UserDefinedType TypeParameter Record.Information :=
  ⟨fun d => pure (data d), pure, pure, fun i => pure (informationToRecord i)⟩

def ResolvedType.toRecord : ResolvedType → Record.ResolvedType :=
  ResolvedType.fold fun kind => .mk (Id.run ((typeWriter id).toNode kind))

theorem ResolvedType.toRecord_mk (kind : ResolvedTypeKind) :
    toRecord (mk kind) = .mk (Id.run ((typeWriter toRecord).toNode kind)) := by
  rw [toRecord, fold_mk, ← toRecord, PayloadWalk.toNode_mapParts]
  rfl

/-! ### Parts of declarations -/

def LocalSymbol.toRecord : LocalSymbol → Record.LocalSymbol
  | .valid name => ⟨.known .valid, some name⟩
  | .invalid => ⟨.known .invalid, none⟩

def Tuple.toRecord {α β : Type} (f : α → β) (t : Tuple α) : Record.Tuple β :=
  Id.run (t.toRecordM fun value => pure (f value))

def argumentToRecord (v : LocalVariable LocalSymbol ResolvedType) :
    LocalVariable Record.LocalSymbol Record.ResolvedType :=
  v.map LocalSymbol.toRecord ResolvedType.toRecord

def TypeItem.toRecord : TypeItem → Record.TypeItem
  | .named declaration => ⟨.known .named, some (declaration.map id ResolvedType.toRecord), none⟩
  | .anonymous type => ⟨.known .anonymous, none, some type.toRecord⟩

/-- The record of an attribute; its argument is not carried. -/
def Attribute.toRecord (a : Attribute) : Record.Attribute :=
  ⟨a.typeId, a.typeIdRange, a.offset, a.comments⟩

def Modifiers.toRecord (m : Modifiers) : Record.Modifiers := ⟨.known m.access⟩

def signatureToRecord (s : ResolvedSignature) : Record.ResolvedSignature :=
  s.map LocalSymbol.toRecord ResolvedType.toRecord Characteristics.toRecord

/-! ### Declarations -/

def Callable.toRecord (profile : Profile) (c : Callable) : Record.Callable where
  kind := .known c.kind
  fullName := c.fullName
  attributes := profile.keep (c.attributes.map Attribute.toRecord)
  modifiers := profile.keep c.modifiers.toRecord
  sourceFile := c.sourceFile
  location := c.location
  signature := profile.keep (signatureToRecord c.signature)
  argumentTuple := profile.keep (c.argumentTuple.toRecord argumentToRecord)
  documentation := c.documentation
  comments := c.comments

def CustomType.toRecord (profile : Profile) (t : CustomType) : Record.CustomType where
  fullName := t.fullName
  attributes := profile.keep (t.attributes.map Attribute.toRecord)
  modifiers := profile.keep t.modifiers.toRecord
  sourceFile := t.sourceFile
  location := t.location
  underlyingType := profile.keep t.underlyingType.toRecord
  typeItems := profile.keep (t.typeItems.toRecord TypeItem.toRecord)
  documentation := t.documentation
  comments := t.comments

def NamespaceElement.toRecord (profile : Profile) : NamespaceElement → Record.NamespaceElement
  | .callable declaration => ⟨.known .callable, some (declaration.toRecord profile), none⟩
  | .customType declaration => ⟨.known .customType, none, some (declaration.toRecord profile)⟩

/-! ### Programs -/

/-- The documentation of a namespace, one item for each group, file by file. -/
def Documentation.toRecord (d : Documentation) : List Record.DocumentationItem :=
  d.entries.map fun entry => ⟨entry.1, entry.2⟩

def Namespace.toRecord (profile : Profile) (n : Namespace) : Record.Namespace :=
  ⟨n.name, n.elements.map (NamespaceElement.toRecord profile), n.documentation.toRecord⟩

/-- The record of a namespace, with the events of writing it. -/
def Namespace.toRecordLogged (profile : Profile) (n : Namespace) : Logged Record.Namespace := do
  Logged.report (.encodingNamespace n.name n.elements.length)
  return n.toRecord profile

/-- The record of a program, with the events of writing it. -/
def Program.toRecordLogged (profile : Profile) (p : Program) : Logged Record.Program := do
  Logged.report (.encodingProgram p.namespaces.length p.entryPoints.length profile)
  let namespaces ← p.namespaces.mapM (Namespace.toRecordLogged profile)
  return ⟨namespaces, p.entryPoints⟩

def Program.toRecord (profile : Profile) (p : Program) : Record.Program :=
  (p.toRecordLogged profile).value

end ProgramInterchange.Tree
