import ProgramInterchange.Json.Document
import ProgramInterchange.Wire.Shape

/-!
# Writing values

A record is written as an object with its fields in the order of the layout. An absent field is left out
or written as `null`, as its layout says.
-/

namespace ProgramInterchange.Wire

variable {ρ : Type} [Format ρ]

mutual
/-- The document of a value of a shape. -/
def document (shape : Shape ρ) : Value → Json
  | .absent => .null
  | .text s => .text s
  | .flag b => .boolean b
  | .code c => .number c.toNat
  | .count n => .number n.toNat
  | .choice index =>
    match shape.base with
    | .choice variants => .text (variants[index]?.getD "")
    | _ => .null
  | .list items =>
    match shape.base with
    | .list item => .array (documents item items)
    | _ => .null
  | .record values =>
    match shape.base with
    | .record name => .object (members (Format.layout name).fields values)
    | _ => .null

def documents (item : Shape ρ) : List Value → List Json
  | [] => []
  | value :: values => document item value :: documents item values

def members : List (Field ρ) → List Value → List (String × Json)
  | f :: fs, value :: values =>
    match value with
    | .absent =>
      if f.omitted then members fs values else (f.key, .null) :: members fs values
    | value => (f.key, document f.shape value) :: members fs values
  | _, _ => []
end

end ProgramInterchange.Wire
