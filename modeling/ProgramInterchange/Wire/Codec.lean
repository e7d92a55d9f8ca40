import ProgramInterchange.Tag
import ProgramInterchange.Wire.Reader
import ProgramInterchange.Wire.Writer

/-!
# Typed values on the wire

A type with a wire form in a format `ρ` has a shape and conversions from and to values of that shape.
`Wire.read` and `Wire.write` work for all such types. Texts, truth values, numbers, tags, lists and
optional values look the same in every format.
-/

namespace ProgramInterchange

open ProgramInterchange.Wire

/-- A type whose members travel as values of a shape. -/
class Wire (ρ : Type) (α : Type) where
  shape : Shape ρ
  toValue : α → Value
  /-- The member that a value stands for; every value of the shape stands for one. -/
  ofValue? : Value → Option α

namespace Wire

variable {α : Type} (ρ : Type)

def toJson [Format ρ] [Wire ρ α] (a : α) : Json := document (shape α : Shape ρ) (toValue ρ a)

def write [Format ρ] [Wire ρ α] (a : α) : List UInt8 := (toJson ρ a).render

/-- Reads a wire text. The reader gives values of the shape asked for only, so the last case does not
arise. -/
def read [Format ρ] [Wire ρ α] (input : List UInt8) : Except WireFault α :=
  match readAll (shape α : Shape ρ) input with
  | .error fault => .error fault
  | .ok value =>
    match ofValue? ρ value with
    | some a => .ok a
    | none => .error .expectedValue

/-! ### Types of every format -/

variable {ρ : Type}

instance : Wire ρ String where
  shape := .text
  toValue := .text
  ofValue?
    | .text s => some s
    | _ => none

instance : Wire ρ Bool where
  shape := .flag
  toValue := .flag
  ofValue?
    | .flag b => some b
    | _ => none

instance : Wire ρ UInt32 where
  shape := .count
  toValue := .count
  ofValue?
    | .count n => some n
    | _ => none

instance [DecidableEq α] [Coded α] : Wire ρ (Tag α) where
  shape := .code (Coded.title α)
  toValue t := .code t.code
  ofValue?
    | .code c => some (Tag.ofCode c)
    | _ => none

def listOf? (f : Value → Option α) : List Value → Option (List α)
  | [] => some []
  | value :: values =>
    match f value, listOf? f values with
    | some a, some as => some (a :: as)
    | _, _ => none

/-- The member that a value stands for, or nothing if it is absent. -/
def optionOf? (f : Value → Option α) : Value → Option (Option α)
  | .absent => some none
  | value => (f value).map some

def optionValue (f : α → Value) : Option α → Value
  | none => .absent
  | some a => f a

instance [Wire ρ α] : Wire ρ (List α) where
  shape := .list (shape α)
  toValue as := .list (as.map (toValue ρ))
  ofValue?
    | .list values => listOf? (ofValue? ρ) values
    | _ => none

instance [Wire ρ α] : Wire ρ (Option α) where
  shape := .nullable (shape α)
  toValue := optionValue (toValue ρ)
  ofValue? := optionOf? (ofValue? ρ)

end Wire

end ProgramInterchange
