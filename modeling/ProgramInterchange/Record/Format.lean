import ProgramInterchange.Wire.Shape

/-!
# The format of the records

The layouts of all records: names, keys, order and optionality of fields. Reading, writing and the
published schema all follow them.
-/

namespace ProgramInterchange.Record

open ProgramInterchange.Wire

/-- The records of the format. Some exist for several shapes of their parts. -/
inductive RecordName where
  | position
  | range
  | location
  | comments
  | qualifiedName
  | userDefinedType
  | typeParameter
  | inferredCallable
  | inferredExpression
  | setOperation
  | characteristicsNode
  | characteristics
  | information
  | arrow (data : Shape RecordName)
  | operationType (data information : Shape RecordName)
  | typeNode (data userDefined parameter information : Shape RecordName)
  | resolvedType
  | localSymbol
  | localVariable (name : Shape RecordName)
  | tuple (item : Shape RecordName)
  | typeItem
  | signature
  | modifiers
  | attribute
  | callable
  | customType
  | namespaceElement
  | documentationItem
  | namespace
  | program

def resolvedTypeNode : RecordName :=
  .typeNode (.record .resolvedType) (.record .userDefinedType) (.record .typeParameter)
    (.record .information)

def argument : RecordName := .localVariable (.record .localSymbol)

/-! ### Fields -/

/-- A field that is always there. -/
def field (key : String) (shape : Shape RecordName) : Wire.Field RecordName := { key, shape }

/-- A field that is written as `null` when it is absent. -/
def nullableField (key : String) (shape : Shape RecordName) : Wire.Field RecordName :=
  { key, shape := .nullable shape }

/-- A payload field, left out when it is absent. -/
def payloadField (key : String) (shape : Shape RecordName) : Wire.Field RecordName :=
  { key, shape := .nullable shape, omitted := true }

/-- A field that is left out when it is absent, and before which a record written as a list may end. -/
def optionalField (key : String) (shape : Shape RecordName) : Wire.Field RecordName :=
  { key, shape := .nullable shape, omitted := true, defaulted := true }

/-- A field that only the full profile writes. -/
def fullField (key : String) (shape : Shape RecordName) : Wire.Field RecordName :=
  { key, shape := .nullable shape, omitted := true, defaulted := true
    description := some "Full profile" }

/-! ### Layouts -/

def layout : RecordName → Layout RecordName
  | .position => { name := "Position", fields := [field "line" .count, field "column" .count] }
  | .range =>
    { name := "Range"
      fields := [field "start" (.record .position), field "end" (.record .position)] }
  | .location =>
    { name := "Location"
      fields := [field "offset" (.record .position), field "range" (.record .range)] }
  | .comments =>
    { name := "Comments"
      fields := [field "openingComments" (.list .text), field "closingComments" (.list .text)] }
  | .qualifiedName =>
    { name := "QualifiedName", fields := [field "namespace" .text, field "name" .text] }
  | .userDefinedType =>
    { name := "UserDefinedType"
      fields := [field "namespace" .text, field "name" .text,
        nullableField "range" (.record .range)] }
  | .typeParameter =>
    { name := "TypeParameter"
      fields := [field "origin" (.record .qualifiedName), field "typeName" .text,
        nullableField "range" (.record .range)] }
  | .inferredCallable =>
    { name := "InferredCallableInformation"
      fields := [field "isSelfAdjoint" .flag, field "isIntrinsic" .flag] }
  | .inferredExpression =>
    { name := "InferredExpressionInformation"
      fields := [field "isMutable" .flag, field "hasLocalQuantumDependency" .flag] }
  | .setOperation =>
    { name := "SetOperation"
      fields := [field "lhs" (.record .characteristics), field "rhs" (.record .characteristics)] }
  | .characteristicsNode =>
    { name := "CharacteristicsComposition"
      fields := [field "kind" (.code "CharacteristicsKind"),
        optionalField "simpleSet" (.code "OpProperty"),
        optionalField "setOperation" (.record .setOperation)]
      description := some "Portable form of a characteristics set expression node." }
  | .characteristics =>
    { name := "ResolvedCharacteristics"
      fields := [field "expression" (.record .characteristicsNode)] }
  | .information =>
    { name := "CallableInformation"
      fields := [field "characteristics" (.record .characteristics),
        field "inferred" (.record .inferredCallable)] }
  | .arrow data =>
    { name := "ArrowType"
      fields := [field "domain" data, field "codomain" data]
      description := some "Domain and codomain of an arrow type." }
  | .operationType data information =>
    { name := "OperationType"
      fields := [field "arrow" (.record (.arrow data)), field "characteristics" information]
      description := some "Operation arrow plus its characteristics payload." }
  | .typeNode data userDefined parameter information =>
    { name := "TypeKindComposition"
      fields := [field "kind" (.code "TypeKind"), payloadField "arrayType" data,
        payloadField "tupleType" (.list data), payloadField "userDefinedType" userDefined,
        payloadField "typeParameter" parameter,
        payloadField "operation" (.record (.operationType data information)),
        payloadField "function" (.record (.arrow data))]
      description := some ("Portable form of a type-kind node.\n\n `kind` selects which single " ++
        "payload field is populated. Leaf kinds\n populate none of them.") }
  | .resolvedType =>
    { name := "ResolvedType"
      fields := [field "typeKind" (.record resolvedTypeNode)]
      description := some "Named wrapper around the recursive type-kind composition." }
  | .localSymbol =>
    { name := "LocalSymbol"
      fields := [field "kind" (.code "LocalSymbolKind"), optionalField "name" .text] }
  | .localVariable name =>
    { name := "LocalVariableDeclaration"
      fields := [field "variableName" name, field "type" (.record .resolvedType),
        field "inferredInformation" (.record .inferredExpression),
        nullableField "position" (.record .position), field "range" (.record .range)] }
  | .tuple item =>
    { name := "QsTuple"
      fields := [field "kind" (.code "QsTupleKind"), payloadField "item" item,
        payloadField "items" (.list (.record (.tuple item)))] }
  | .typeItem =>
    { name := "TypeItem"
      fields := [field "kind" (.code "TypeItemKind"),
        optionalField "named" (.record (.localVariable .text)),
        optionalField "anonymous" (.record .resolvedType)] }
  | .signature =>
    { name := "ResolvedSignature"
      fields := [field "typeParameters" (.list (.record .localSymbol)),
        field "argumentType" (.record .resolvedType), field "returnType" (.record .resolvedType),
        field "information" (.record .information)] }
  | .modifiers =>
    { name := "Modifiers", fields := [field "access" (.code "AccessModifier")] }
  | .attribute =>
    { name := "DeclarationAttribute"
      fields := [nullableField "typeId" (.record .userDefinedType),
        nullableField "typeIdRange" (.record .range), field "offset" (.record .position),
        field "comments" (.record .comments)]
      description := some "An attribute on a declaration. The argument expression is not carried." }
  | .callable =>
    { name := "Callable"
      fields := [field "kind" (.code "CallableKind"), field "fullName" (.record .qualifiedName),
        fullField "attributes" (.list (.record .attribute)),
        fullField "modifiers" (.record .modifiers), field "sourceFile" .text,
        nullableField "location" (.record .location),
        fullField "signature" (.record .signature),
        fullField "argumentTuple" (.record (.tuple (.record argument))),
        field "documentation" (.list .text), field "comments" (.record .comments)] }
  | .customType =>
    { name := "CustomType"
      fields := [field "fullName" (.record .qualifiedName),
        fullField "attributes" (.list (.record .attribute)),
        fullField "modifiers" (.record .modifiers), field "sourceFile" .text,
        nullableField "location" (.record .location),
        fullField "type" (.record .resolvedType),
        fullField "typeItems" (.record (.tuple (.record .typeItem))),
        field "documentation" (.list .text), field "comments" (.record .comments)] }
  | .namespaceElement =>
    { name := "NamespaceElement"
      fields := [field "kind" (.code "NamespaceElementKind"),
        optionalField "callable" (.record .callable),
        optionalField "customType" (.record .customType)] }
  | .documentationItem =>
    { name := "DocumentationItem"
      fields := [field "sourceFileName" .text, field "documentationInstances" (.list .text)]
      description := some "One documentation group contributed by a source file." }
  | .namespace =>
    { name := "Namespace"
      fields := [field "name" .text, field "elements" (.list (.record .namespaceElement)),
        { key := "documentation", shape := .list (.record .documentationItem)
          description := some "Flattened documentation index, in contribution order" }] }
  | .program =>
    { name := "Program"
      fields := [field "namespaces" (.list (.record .namespace)),
        { key := "entryPoints", shape := .list (.record .qualifiedName), defaulted := true
          description := some "Written on encode; not read back on decode" }] }

instance : Format RecordName where
  layout := layout

end ProgramInterchange.Record
