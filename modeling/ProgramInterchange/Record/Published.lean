import ProgramInterchange.Json.Pointer
import ProgramInterchange.Record.Format
import ProgramInterchange.Record.Tag

/-!
# The published schema

A description of the program record in the schema language of JSON, computed from the layouts. Every other
record and every enumeration has a definition that the others refer to.
-/

namespace ProgramInterchange.Record

open ProgramInterchange.Wire

/-! ### Names of definitions -/

mutual
/-- The name of the definition of a record; the shapes of its parts are a part of the name. -/
def definitionName : RecordName → String
  | .arrow data => "ArrowType_for_" ++ shapeName data
  | .operationType data information =>
    "OperationType_for_" ++ shapeName data ++ "_and_" ++ shapeName information
  | .typeNode data userDefined parameter information =>
    "TypeKindComposition_for_" ++ shapeName data ++ "_and_" ++ shapeName userDefined ++ "_and_" ++
      shapeName parameter ++ "_and_" ++ shapeName information
  | .localVariable name => "LocalVariableDeclaration_for_" ++ shapeName name
  | .tuple item => "QsTuple_for_" ++ shapeName item
  | name => (layout name).name

def shapeName : Shape RecordName → String
  | .text => "string"
  | .flag => "boolean"
  | .count => "uint32"
  | .code title => title
  | .choice _ => "string"
  | .nullable shape => "Nullable_" ++ shapeName shape
  | .list item => "Array_of_" ++ shapeName item
  | .record name => definitionName name
end

/-! ### Descriptions of shapes -/

def reference (name : String) : List (String × Json) := [("$ref", .text ("#/$defs/" ++ name))]

def describe : Shape RecordName → List (String × Json)
  | .text => [("type", .text "string")]
  | .flag => [("type", .text "boolean")]
  | .count => [("format", .text "uint32"), ("minimum", .number 0), ("type", .text "integer")]
  | .code title => reference title
  | .choice variants => [("enum", .array (variants.map .text)), ("type", .text "string")]
  | .list item => [("items", .object (describe item)), ("type", .text "array")]
  | .record name => reference (definitionName name)
  | .nullable shape =>
    match shape with
    | .text => [("type", .array [.text "string", .text "null"])]
    | .list item => [("items", .object (describe item)), ("type", .array [.text "array", .text "null"])]
    | shape => [("anyOf", .array [.object (describe shape), .object [("type", .text "null")]])]

/-- The member that holds a description, if there is one. -/
def descriptionMember (description : Option String) : List (String × Json) :=
  match description with
  | none => []
  | some text => [("description", .text text)]

/-- The property of a field. Fields that may be missing without being nullable are lists, which are then
empty. -/
def property (f : Wire.Field RecordName) : String × Json :=
  (f.key, .object ((if f.defaulted && !f.shape.isNullable then [("default", .array [])] else []) ++
    descriptionMember f.description ++ describe f.shape))

def describeLayout (l : Layout RecordName) : List (String × Json) :=
  descriptionMember l.description ++
    [("properties", .object (l.fields.map property)),
      ("required", .array ((l.fields.filter Wire.Field.isRequired).map fun f => .text f.key)),
      ("type", .text "object")]

/-! ### The schema -/

def definedRecords : List RecordName :=
  [.arrow (.record .resolvedType), .callable, .information, .characteristicsNode, .comments, .customType,
    .attribute, .documentationItem, .inferredCallable, .inferredExpression, .localSymbol, argument,
    .localVariable .text, .location, .modifiers, .namespace, .namespaceElement,
    .operationType (.record .resolvedType) (.record .information), .position, .tuple (.record argument),
    .tuple (.record .typeItem), .qualifiedName, .range, .characteristics, .signature, .resolvedType,
    .setOperation, .typeItem, resolvedTypeNode, .typeParameter, .userDefinedType]

def definedTags : List String :=
  ["AccessModifier", "CallableKind", "CharacteristicsKind", "LocalSymbolKind", "NamespaceElementKind",
    "OpProperty", "QsTupleKind", "TypeItemKind", "TypeKind"]

/-- The definition of an enumeration: any number of 16 bits. -/
def tagDefinition : Json :=
  .object [("format", .text "uint16"), ("maximum", .number 65535), ("minimum", .number 0),
    ("type", .text "integer")]

/-- The dialect of the schema language. -/
def dialect : String :=
  String.intercalate "/" ["https:", "", "json-schema.org", "draft", "2020-12", "schema"]

def publishedSchema : Json :=
  .object ([("$schema", .text dialect), ("title", .text "Program")] ++
    describeLayout (layout .program) ++
    [("$defs", .object (definedTags.map (fun title => (title, tagDefinition)) ++
      definedRecords.map fun name => (definitionName name, .object (describeLayout (layout name)))))])

end ProgramInterchange.Record
