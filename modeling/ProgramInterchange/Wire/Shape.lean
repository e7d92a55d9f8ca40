/-!
# Shapes

A record format is data: a `Shape` says what a value looks like on the wire, and a `Layout` gives the
fields of a record in their order. Records refer to each other by name, so layouts may be recursive. One
reader and one writer serve every format.
-/

namespace ProgramInterchange.Wire

/-- What a value looks like; `ρ` names the records of the format. -/
inductive Shape (ρ : Type) where
  | text
  | flag
  /-- A number of 16 bits that stands for a member of the enumeration of this title. -/
  | code (title : String)
  /-- A number of 32 bits. -/
  | count
  | choice (variants : List String)
  /-- A value or `null`. -/
  | nullable (shape : Shape ρ)
  | list (item : Shape ρ)
  | record (name : ρ)

/-- A field of a record. -/
structure Field (ρ : Type) where
  key : String
  shape : Shape ρ
  /-- Whether the field is left out when it is absent, instead of being written as `null`. -/
  omitted : Bool := false
  /-- Whether the field may be missing although it is not nullable, and a record written as a list may
  end before it. -/
  defaulted : Bool := false
  description : Option String := none

/-- A record: its name in messages, and its fields. -/
structure Layout (ρ : Type) where
  name : String
  fields : List (Field ρ)
  description : Option String := none

/-- A format: the layouts of its records. -/
class Format (ρ : Type) where
  layout : ρ → Layout ρ

/-- Whether a shape admits `null`. -/
def Shape.isNullable {ρ : Type} : Shape ρ → Bool
  | .nullable _ => true
  | _ => false

/-- The shape of the values other than `null`. -/
def Shape.base {ρ : Type} : Shape ρ → Shape ρ
  | .nullable shape => shape.base
  | shape => shape

/-- Whether a record written with keys has to have the field. -/
def Field.isRequired {ρ : Type} (f : Field ρ) : Bool := !f.shape.isNullable && !f.defaulted

/-- A value on the wire. A record is the list of the values of its fields, in the order of its layout. -/
inductive Value where
  /-- What an absent field holds. -/
  | absent
  | text (value : String)
  | flag (value : Bool)
  | code (value : UInt16)
  | count (value : UInt32)
  | choice (index : Nat)
  | list (items : List Value)
  | record (fields : List Value)

end ProgramInterchange.Wire
