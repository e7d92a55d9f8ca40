import ProgramInterchange.Scan.Number
import ProgramInterchange.Scan.Text

/-!
# Passing over a value

The value of a member that nobody asked for is passed over. Its form is checked, but nesting is not
limited: the brackets that are open are kept in a list, innermost first.
-/

namespace ProgramInterchange.Scan

open ProgramInterchange.Byte

/-- A bracket that is open. -/
inductive Frame where
  | list
  | object
  deriving DecidableEq, Repr

def Frame.close : Frame → UInt8
  | list => closeBracket
  | object => closeBrace

/-- The fault of a text that ends inside the bracket. -/
def Frame.endFault : Frame → WireFault
  | list => .endInList
  | object => .endInObject

/-- The fault of something else where a comma or the closing bracket should stand. -/
def Frame.separatorFault : Frame → WireFault
  | list => .expectedCommaOrBracket
  | object => .expectedCommaOrBrace

/-- Passes over a value without nesting, of which `b` is the first byte. -/
def skipScalar (b : UInt8) (rest : List UInt8) : Except WireFault (Tail rest) :=
  if b = letterN then dropWord (word "ull") rest
  else if b = letterT then dropWord (word "rue") rest
  else if b = letterF then dropWord (word "alse") rest
  else if b = minus then (skipNumber rest).map Rest.tail
  else if b = quote then (skipText rest).map Rest.tail
  else if isDigit b then (skipNumber (b :: rest)).map Rest.afterFirst
  else .error .expectedValue

def skipKey (input : List UInt8) : Except WireFault (Rest input) :=
  match next? input with
  | none => .error .endInObject
  | some (b, rest) =>
    if b = quote then
      match skipText rest.val with
      | .error fault => .error fault
      | .ok behind =>
        match next? behind.val with
        | none => .error .endInObject
        | some (c, after) =>
          if c = colon then .ok (Rest.within rest (Rest.within behind after))
          else .error .expectedColon
    else .error .keyNotText

/-- What has to be passed over next. -/
inductive Pending where
  | value
  /-- A key with its colon, if the innermost bracket is a brace, and then a value. -/
  | member
  /-- What follows a value, if `afterValue`, or an opening bracket. -/
  | separator (afterValue : Bool)
  deriving DecidableEq

/-- How far `Pending` is from reading a byte. -/
def Pending.rank : Pending → Nat
  | value => 0
  | member => 1
  | separator _ => 2

/-- Passes over what is pending and everything up to the end of the outermost value; `frames` are the
brackets that are open. -/
def skipPending (pending : Pending) (frames : List Frame) (input : List UInt8) :
    Except WireFault (Tail input) :=
  match pending with
  | .value =>
    match next? input with
    | none => .error .endInValue
    | some (b, ⟨rest, h⟩) =>
      if b = openBracket then
        (skipPending (.separator false) (.list :: frames) rest).map (Tail.within (Rest.tail ⟨rest, h⟩))
      else if b = openBrace then
        (skipPending (.separator false) (.object :: frames) rest).map (Tail.within (Rest.tail ⟨rest, h⟩))
      else
        match skipScalar b rest with
        | .error fault => .error fault
        | .ok ⟨behind, hb⟩ =>
          (skipPending (.separator true) frames behind).map
            (Tail.within (Tail.within (Rest.tail ⟨rest, h⟩) ⟨behind, hb⟩))
  | .member =>
    match frames with
    | .object :: _ =>
      match skipKey input with
      | .error fault => .error fault
      | .ok ⟨rest, h⟩ => (skipPending .value frames rest).map (Tail.within (Rest.tail ⟨rest, h⟩))
    | _ => skipPending .value frames input
  | .separator afterValue =>
    match frames with
    | [] => .ok (Tail.whole input)
    | frame :: outer =>
      match next? input with
      | none => .error frame.endFault
      | some (b, ⟨rest, h⟩) =>
        if afterValue ∧ b = comma then
          (skipPending .member frames rest).map (Tail.within (Rest.tail ⟨rest, h⟩))
        else if b = frame.close then
          (skipPending (.separator true) outer rest).map (Tail.within (Rest.tail ⟨rest, h⟩))
        else if afterValue then .error frame.separatorFault
        else skipPending .member frames input
termination_by 3 * input.length + pending.rank
decreasing_by
  all_goals simp only [Pending.rank]
  all_goals omega

/-- Passes over one value. -/
def skipValue (input : List UInt8) : Except WireFault (Tail input) := skipPending .value [] input

end ProgramInterchange.Scan
