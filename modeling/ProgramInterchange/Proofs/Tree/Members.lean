import ProgramInterchange.Json.Document
import ProgramInterchange.Profile
import ProgramInterchange.Record.Tag
import ProgramInterchange.Tree.Program

/-!
# The objects of a program

Everything in a program that is written as an object, with its members under either profile: the keys in their
order, and what stands under each of them. A part that a program may lack is there as `null`; the payload of a tag,
and what only the full profile writes, is there or not there at all.
-/

namespace ProgramInterchange

/-! ### Parts of documents -/

/-- A document is part of another one: the document itself, or part of an item or of a member. -/
inductive Json.Contains : Json → Json → Prop
  | self (d : Json) : Contains d d
  | item {items : List Json} {d e : Json} (there : d ∈ items) (inside : Contains d e) : Contains (.array items) e
  | member {members : List (String × Json)} {entry : String × Json} {e : Json} (there : entry ∈ members)
    (inside : Contains entry.2 e) : Contains (.object members) e

namespace Tree

open ProgramInterchange.Record (TypeTag CharacteristicsTag ElementTag SymbolTag TupleTag ItemTag)

/-! ### Objects and their members -/

/-- What is written as an object. -/
inductive Node where
  | program (p : Program)
  | namespace (n : Namespace)
  | documentationItem (file : String) (group : DocumentationGroup)
  | element (e : NamespaceElement)
  | callable (c : Callable)
  | customType (t : CustomType)
  | attribute (a : Attribute)
  | modifiers (m : Modifiers)
  | signature (s : ResolvedSignature)
  | arguments (t : Tuple (LocalVariable LocalSymbol ResolvedType))
  | argument (v : LocalVariable LocalSymbol ResolvedType)
  | typeItems (t : Tuple TypeItem)
  | typeItem (i : TypeItem)
  | namedItem (v : LocalVariable String ResolvedType)
  | localSymbol (s : LocalSymbol)
  | type (t : ResolvedType)
  | typeKind (kind : ResolvedTypeKind)
  | operation (domain codomain : ResolvedType) (information : CallableInformation Characteristics)
  | arrow (domain codomain : ResolvedType)
  | information (i : CallableInformation Characteristics)
  | characteristics (c : Characteristics)
  | expression (c : Characteristics)
  | setOperation (lhs rhs : Characteristics)
  | inferredCallable (i : InferredCallableInformation)
  | inferredExpression (i : InferredExpressionInformation)
  | userDefinedType (u : UserDefinedType)
  | typeParameter (p : TypeParameter)
  | qualifiedName (q : QualifiedName)
  | comments (c : Comments)
  | location (l : Location)
  | range (r : Range)
  | position (p : Position)

/-- What stands under a key. -/
inductive Part where
  | text (value : String)
  | texts (lines : List String)
  | flag (value : Bool)
  | count (value : UInt32)
  | code (value : UInt16)
  | object (node : Node)
  | objects (nodes : List Node)
  /-- An object, or `null` where there is none. -/
  | nullable (node : Option Node)

/-- The number that a tag travels as. -/
def Part.tag {α : Type} [DecidableEq α] [Coded α] (a : α) : Part := .code (Coded.code a)

def variableMembers {S : Type} (name : Part) (v : LocalVariable S ResolvedType) : List (String × Part) :=
  [("variableName", name), ("type", .object (.type v.resolvedType)),
    ("inferredInformation", .object (.inferredExpression v.inferred)),
    ("position", .nullable (v.position.map .position)), ("range", .object (.range v.range))]

def tupleMembers {α : Type} (item : α → Node) (group : Tuple α → Node) : Tuple α → List (String × Part)
  | .item value => [("kind", .tag TupleTag.item), ("item", .object (item value))]
  | .group members => [("kind", .tag TupleTag.group), ("items", .objects (members.map group))]

def typeMembers : ResolvedTypeKind → List (String × Part)
  | .leaf type => [("kind", .tag (TypeTag.leaf type))]
  | .array item => [("kind", .tag TypeTag.array), ("arrayType", .object (.type item))]
  | .tuple items => [("kind", .tag TypeTag.tuple), ("tupleType", .objects (items.map .type))]
  | .userDefined reference =>
    [("kind", .tag TypeTag.userDefined), ("userDefinedType", .object (.userDefinedType reference))]
  | .parameter reference =>
    [("kind", .tag TypeTag.parameter), ("typeParameter", .object (.typeParameter reference))]
  | .operation domain codomain information =>
    [("kind", .tag TypeTag.operation), ("operation", .object (.operation domain codomain information))]
  | .function domain codomain =>
    [("kind", .tag TypeTag.function), ("function", .object (.arrow domain codomain))]

def characteristicsMembers : Characteristics → List (String × Part)
  | .emptySet => [("kind", .tag CharacteristicsTag.emptySet)]
  | .simpleSet property => [("kind", .tag CharacteristicsTag.simpleSet), ("simpleSet", .tag property)]
  | .union lhs rhs => [("kind", .tag CharacteristicsTag.union), ("setOperation", .object (.setOperation lhs rhs))]
  | .intersection lhs rhs =>
    [("kind", .tag CharacteristicsTag.intersection), ("setOperation", .object (.setOperation lhs rhs))]
  | .invalid => [("kind", .tag CharacteristicsTag.invalid)]

def Callable.members (c : Callable) : Profile → List (String × Part)
  | .minimal =>
    [("kind", .tag c.kind), ("fullName", .object (.qualifiedName c.fullName)), ("sourceFile", .text c.sourceFile),
      ("location", .nullable (c.location.map .location)), ("documentation", .texts c.documentation),
      ("comments", .object (.comments c.comments))]
  | .full =>
    [("kind", .tag c.kind), ("fullName", .object (.qualifiedName c.fullName)),
      ("attributes", .objects (c.attributes.map .attribute)), ("modifiers", .object (.modifiers c.modifiers)),
      ("sourceFile", .text c.sourceFile), ("location", .nullable (c.location.map .location)),
      ("signature", .object (.signature c.signature)), ("argumentTuple", .object (.arguments c.argumentTuple)),
      ("documentation", .texts c.documentation), ("comments", .object (.comments c.comments))]

def CustomType.members (t : CustomType) : Profile → List (String × Part)
  | .minimal =>
    [("fullName", .object (.qualifiedName t.fullName)), ("sourceFile", .text t.sourceFile),
      ("location", .nullable (t.location.map .location)), ("documentation", .texts t.documentation),
      ("comments", .object (.comments t.comments))]
  | .full =>
    [("fullName", .object (.qualifiedName t.fullName)), ("attributes", .objects (t.attributes.map .attribute)),
      ("modifiers", .object (.modifiers t.modifiers)), ("sourceFile", .text t.sourceFile),
      ("location", .nullable (t.location.map .location)), ("type", .object (.type t.underlyingType)),
      ("typeItems", .object (.typeItems t.typeItems)), ("documentation", .texts t.documentation),
      ("comments", .object (.comments t.comments))]

/-- The members of an object, in their order. -/
def Node.members (profile : Profile) : Node → List (String × Part)
  | .program p =>
    [("namespaces", .objects (p.namespaces.map .namespace)),
      ("entryPoints", .objects (p.entryPoints.map .qualifiedName))]
  | .namespace n =>
    [("name", .text n.name), ("elements", .objects (n.elements.map .element)),
      ("documentation", .objects (n.documentation.entries.map fun entry => .documentationItem entry.1 entry.2))]
  | .documentationItem file group => [("sourceFileName", .text file), ("documentationInstances", .texts group)]
  | .element (.callable c) => [("kind", .tag ElementTag.callable), ("callable", .object (.callable c))]
  | .element (.customType t) => [("kind", .tag ElementTag.customType), ("customType", .object (.customType t))]
  | .callable c => c.members profile
  | .customType t => t.members profile
  | .attribute a =>
    [("typeId", .nullable (a.typeId.map .userDefinedType)), ("typeIdRange", .nullable (a.typeIdRange.map .range)),
      ("offset", .object (.position a.offset)), ("comments", .object (.comments a.comments))]
  | .modifiers m => [("access", .tag m.access)]
  | .signature s =>
    [("typeParameters", .objects (s.typeParameters.map .localSymbol)),
      ("argumentType", .object (.type s.argumentType)), ("returnType", .object (.type s.returnType)),
      ("information", .object (.information s.information))]
  | .arguments t => tupleMembers .argument .arguments t
  | .argument v => variableMembers (.object (.localSymbol v.variableName)) v
  | .typeItems t => tupleMembers .typeItem .typeItems t
  | .typeItem (.named v) => [("kind", .tag ItemTag.named), ("named", .object (.namedItem v))]
  | .typeItem (.anonymous t) => [("kind", .tag ItemTag.anonymous), ("anonymous", .object (.type t))]
  | .namedItem v => variableMembers (.text v.variableName) v
  | .localSymbol (.valid name) => [("kind", .tag SymbolTag.valid), ("name", .text name)]
  | .localSymbol .invalid => [("kind", .tag SymbolTag.invalid)]
  | .type t => [("typeKind", .object (.typeKind t.kind))]
  | .typeKind kind => typeMembers kind
  | .operation domain codomain i =>
    [("arrow", .object (.arrow domain codomain)), ("characteristics", .object (.information i))]
  | .arrow domain codomain => [("domain", .object (.type domain)), ("codomain", .object (.type codomain))]
  | .information i =>
    [("characteristics", .object (.characteristics i.characteristics)),
      ("inferred", .object (.inferredCallable i.inferred))]
  | .characteristics c => [("expression", .object (.expression c))]
  | .expression c => characteristicsMembers c
  | .setOperation lhs rhs => [("lhs", .object (.characteristics lhs)), ("rhs", .object (.characteristics rhs))]
  | .inferredCallable i => [("isSelfAdjoint", .flag i.isSelfAdjoint), ("isIntrinsic", .flag i.isIntrinsic)]
  | .inferredExpression i =>
    [("isMutable", .flag i.isMutable), ("hasLocalQuantumDependency", .flag i.hasLocalQuantumDependency)]
  | .userDefinedType u =>
    [("namespace", .text u.space), ("name", .text u.name), ("range", .nullable (u.range.map .range))]
  | .typeParameter p =>
    [("origin", .object (.qualifiedName p.origin)), ("typeName", .text p.typeName),
      ("range", .nullable (p.range.map .range))]
  | .qualifiedName q => [("namespace", .text q.space), ("name", .text q.name)]
  | .comments c => [("openingComments", .texts c.opening), ("closingComments", .texts c.closing)]
  | .location l => [("offset", .object (.position l.offset)), ("range", .object (.range l.range))]
  | .range r => [("start", .object (.position r.start)), ("end", .object (.position r.stop))]
  | .position p => [("line", .count p.line), ("column", .count p.column)]

namespace Node

def keys (profile : Profile) (node : Node) : List String := (node.members profile).map Prod.fst

def parts (profile : Profile) (node : Node) : List Part := (node.members profile).map Prod.snd

/-- No object has a key twice. -/
theorem nodup_keys (profile : Profile) (node : Node) : (node.keys profile).Nodup := by
  cases node with
  | element e => cases e <;> simp [keys, members]
  | callable c => cases profile <;> simp [keys, members, Callable.members]
  | customType t => cases profile <;> simp [keys, members, CustomType.members]
  | arguments t => cases t <;> simp [keys, members, tupleMembers]
  | typeItems t => cases t <;> simp [keys, members, tupleMembers]
  | typeItem i => cases i <;> simp [keys, members]
  | localSymbol s => cases s <;> simp [keys, members]
  | typeKind kind => cases kind <;> simp [keys, members, typeMembers]
  | expression c => cases c <;> simp [keys, members, characteristicsMembers]
  | _ => simp [keys, members, variableMembers]

end Node

/-! ### Documents -/

/-- The documents that a part is written as. An object has the members of its node, key by key. -/
inductive Written (profile : Profile) : Part → Json → Prop
  | text (value : String) : Written profile (.text value) (.text value)
  | texts (lines : List String) : Written profile (.texts lines) (.array (lines.map .text))
  | flag (value : Bool) : Written profile (.flag value) (.boolean value)
  | count (value : UInt32) : Written profile (.count value) (.number value.toNat)
  | code (value : UInt16) : Written profile (.code value) (.number value.toNat)
  | object {node : Node} {members : List (String × Json)} (keys : members.map Prod.fst = node.keys profile)
    (each : ∀ entry ∈ (node.parts profile).zip (members.map Prod.snd), Written profile entry.1 entry.2) :
    Written profile (.object node) (.object members)
  | objects {nodes : List Node} {items : List Json} (complete : items.length = nodes.length)
    (each : ∀ entry ∈ nodes.zip items, Written profile (.object entry.1) entry.2) :
    Written profile (.objects nodes) (.array items)
  | null : Written profile (.nullable none) .null
  | present {node : Node} {d : Json} (there : Written profile (.object node) d) :
    Written profile (.nullable (some node)) d

theorem mem_zip_of_mem {α β : Type} {xs : List α} {ys : List β} (h : ys.length = xs.length) {y : β} (there : y ∈ ys) :
    ∃ x, (x, y) ∈ xs.zip ys := by
  obtain ⟨i, hi, rfl⟩ := List.getElem_of_mem there
  refine ⟨xs[i], List.mem_iff_getElem.mpr ⟨i, ?_, List.getElem_zip⟩⟩
  rw [List.length_zip]
  omega

namespace Written

variable {profile : Profile}

/-- Nothing but a part that is not there is written as `null`. -/
theorem eq_null_iff {part : Part} {d : Json} (h : Written profile part d) : d = .null ↔ part = .nullable none := by
  cases h with
  | null => exact ⟨fun _ => rfl, fun _ => rfl⟩
  | present there =>
    cases there
    exact ⟨nofun, nofun⟩
  | _ => exact ⟨nofun, nofun⟩

theorem keys_eq {node : Node} {members : List (String × Json)}
    (h : Written profile (.object node) (.object members)) : members.map Prod.fst = node.keys profile := by
  cases h with
  | object keys each => exact keys

theorem member {node : Node} {members : List (String × Json)} {entry : String × Json}
    (h : Written profile (.object node) (.object members)) (there : entry ∈ members) :
    ∃ part, Written profile part entry.2 := by
  cases h with
  | object keys each =>
    have complete : (members.map Prod.snd).length = (node.parts profile).length := by
      have count := congrArg List.length keys
      simpa [Node.keys, Node.parts] using count
    obtain ⟨part, paired⟩ := mem_zip_of_mem complete (List.mem_map_of_mem there)
    exact ⟨part, each _ paired⟩

theorem exists_node {part : Part} {members : List (String × Json)} (h : Written profile part (.object members)) :
    ∃ node : Node, Written profile (.object node) (.object members) := by
  cases h with
  | @object node _ keys each => exact ⟨node, .object keys each⟩
  | @present node _ there => exact ⟨node, there⟩

/-- What is inside a written document is a written part, or a line of a list of lines. -/
theorem contains {d e : Json} (inside : d.Contains e) {part : Part} (h : Written profile part d) :
    ∃ part, Written profile part e := by
  induction inside generalizing part with
  | self d => exact ⟨part, h⟩
  | @item items d e there inside ih =>
    cases h with
    | texts lines =>
      obtain ⟨line, -, rfl⟩ := List.mem_map.mp there
      exact ih (.text line)
    | @objects nodes _ complete each =>
      obtain ⟨node, paired⟩ := mem_zip_of_mem complete there
      exact ih (each _ paired)
    | present h => cases h
  | @member members entry e there inside ih =>
    obtain ⟨node, object⟩ := h.exists_node
    obtain ⟨part, value⟩ := object.member there
    exact ih value

/-- Every object inside a written document is that of a node. -/
theorem object_of_contains {part : Part} {d : Json} {members : List (String × Json)} (h : Written profile part d)
    (inside : d.Contains (.object members)) : ∃ node : Node, Written profile (.object node) (.object members) := by
  obtain ⟨part, written⟩ := contains inside h
  exact written.exists_node

end Written

end Tree

end ProgramInterchange
