import ProgramInterchange.Decimal.Shortest
import ProgramInterchange.Text.Invisible
import ProgramInterchange.Text.Quoted

/-!
# Faults

Everything that can go wrong: a tree that cannot be rebuilt from a record, text that is no wire text
of the record asked for, and configuration that cannot be used. Faults are causes; their wording is in
the functions `message`.
-/

namespace ProgramInterchange

/-! ### Faults of wire text -/

/-- What stands in the text where something else was expected. -/
inductive Found where
  | null
  | boolean (value : Bool)
  | integer (value : Int)
  | floating (negative : Bool) (magnitude : Binary64)
  | text (value : String)
  | sequence
  | map
  deriving DecidableEq

/-- What was expected there. -/
inductive Expected where
  | text
  | boolean
  | sequence
  | code
  | count
  | unit
  | variant
  | record (name : String)
  deriving DecidableEq

/-- Why wire text cannot be read. -/
inductive WireFault where
  | endInValue
  | endInObject
  | endInList
  | endInText
  | expectedValue
  | expectedIdent
  | expectedColon
  | expectedCommaOrBrace
  | expectedCommaOrBracket
  | keyNotText
  | trailingComma
  | trailingCharacters
  | invalidNumber
  | numberOutOfRange
  | invalidEscape
  | endOfHexEscape
  | loneSurrogate
  | controlCharacter
  | invalidCodePoint
  | recursionLimit
  | invalidType (found : Found) (expected : Expected)
  | invalidValue (value : Int) (expected : Expected)
  | invalidLength (length : Nat) (record : String) (fields : Nat)
  | missingField (key : String)
  | duplicateField (key : String)
  | unknownVariant (name : String) (variants : List String)
  deriving DecidableEq

/-- Numbers in messages are positional from five places behind the point to sixteen before it. -/
def messageNumbers : NumberSpelling := ⟨-5, 15⟩

def Found.message : Found → String
  | .null => "null"
  | .boolean value => "boolean `" ++ toString value ++ "`"
  | .integer value => "integer `" ++ toString value ++ "`"
  | .floating negative magnitude =>
    "floating point `" ++ (if negative then "-" else "") ++
      String.ofList (magnitude.shortest.text messageNumbers) ++ "`"
  | .text value => "string " ++ Text.quoted (!Text.isInvisible ·) value
  | .sequence => "sequence"
  | .map => "map"

def Expected.message : Expected → String
  | .text => "a string"
  | .boolean => "a boolean"
  | .sequence => "a sequence"
  | .code => "u16"
  | .count => "u32"
  | .unit => "unit"
  | .variant => "variant identifier"
  | .record name => "struct " ++ name

/-- A list of alternatives in words. -/
def alternatives : List String → String
  | [] => "there are no variants"
  | [a] => "expected `" ++ a ++ "`"
  | [a, b] => "expected `" ++ a ++ "` or `" ++ b ++ "`"
  | names => "expected one of " ++ String.intercalate ", " (names.map fun a => "`" ++ a ++ "`")

/-- The wording of a fault of wire text. -/
def WireFault.message : WireFault → String
  | .endInValue => "EOF while parsing a value"
  | .endInObject => "EOF while parsing an object"
  | .endInList => "EOF while parsing a list"
  | .endInText => "EOF while parsing a string"
  | .expectedValue => "expected value"
  | .expectedIdent => "expected ident"
  | .expectedColon => "expected `:`"
  | .expectedCommaOrBrace => "expected `,` or `\x7d`"
  | .expectedCommaOrBracket => "expected `,` or `]`"
  | .keyNotText => "key must be a string"
  | .trailingComma => "trailing comma"
  | .trailingCharacters => "trailing characters"
  | .invalidNumber => "invalid number"
  | .numberOutOfRange => "number out of range"
  | .invalidEscape => "invalid escape"
  | .endOfHexEscape => "unexpected end of hex escape"
  | .loneSurrogate => "lone leading surrogate in hex escape"
  | .controlCharacter => "control character (\\u0000-\\u001F) found while parsing a string"
  | .invalidCodePoint => "invalid unicode code point"
  | .recursionLimit => "recursion limit exceeded"
  | .invalidType found expected =>
    "invalid type: " ++ found.message ++ ", expected " ++ expected.message
  | .invalidValue value expected =>
    "invalid value: integer `" ++ toString value ++ "`, expected " ++ expected.message
  | .invalidLength length record fields =>
    "invalid length " ++ toString length ++ ", expected struct " ++ record ++ " with " ++
      toString fields ++ (if fields = 1 then " element" else " elements")
  | .missingField key => "missing field `" ++ key ++ "`"
  | .duplicateField key => "duplicate field `" ++ key ++ "`"
  | .unknownVariant name variants =>
    "unknown variant `" ++ name ++ "`, " ++ alternatives variants

/-! ### All faults -/

/-- Why an operation of the library fails. -/
inductive Fault where
  /-- A tag that has no meaning here. -/
  | unsupportedVariant (kind variant : String)
  /-- A tag whose payload is absent. -/
  | missingPayload (kind variant : String)
  /-- An identifier without characters. -/
  | emptyIdentifier (field : String)
  /-- Text that is no wire text of the record asked for. -/
  | wire (fault : WireFault)
  /-- A file that is absent or no text. -/
  | unreadable
  /-- Configuration text that cannot be used. -/
  | configuration
  deriving DecidableEq

/-- The wording of a fault. -/
def Fault.message : Fault → String
  | .unsupportedVariant kind variant => "unsupported " ++ kind ++ " variant: " ++ variant
  | .missingPayload kind variant =>
    kind ++ " is tagged " ++ variant ++ " but carries no " ++ variant ++ " payload"
  | .emptyIdentifier field => "empty identifier in " ++ field
  | .wire fault => "wire encoding error: " ++ fault.message
  | .unreadable => "IO error"
  | .configuration => "invalid codec configuration"

end ProgramInterchange
