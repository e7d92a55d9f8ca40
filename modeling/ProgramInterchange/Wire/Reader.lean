import ProgramInterchange.Scan.Skip
import ProgramInterchange.Wire.Shape

/-!
# Reading values

One reader for every format. It goes through the text from left to right, guided by the shape that is
expected, and reports the first fault. A record may be written as an object with its fields in any order,
whose other members are passed over, or as a list of all its fields. At most `nestingLimit` brackets of
lists and records may be open at once; the limit also bounds the recursion.
-/

namespace ProgramInterchange.Wire

open ProgramInterchange.Byte ProgramInterchange.Scan

/-! ### Scalars -/

/-- The fault of a number where something else was expected. -/
def numberMismatch (expected : Expected) (negative : Bool) (input : List UInt8) : WireFault :=
  match number negative input with
  | .error fault => fault
  | .ok (.integer value, _) => .invalidType (.integer value) expected
  | .ok (.floating negative magnitude, _) => .invalidType (.floating negative magnitude) expected

/-- The fault of a value that begins with `b` where something else was expected. A scalar is read to its
end first, so that its own fault is the one reported. -/
def mismatch (expected : Expected) (b : UInt8) (rest : List UInt8) : WireFault :=
  if b = letterN then
    match dropWord (word "ull") rest with
    | .error fault => fault
    | .ok _ => .invalidType .null expected
  else if b = letterT then
    match dropWord (word "rue") rest with
    | .error fault => fault
    | .ok _ => .invalidType (.boolean true) expected
  else if b = letterF then
    match dropWord (word "alse") rest with
    | .error fault => fault
    | .ok _ => .invalidType (.boolean false) expected
  else if b = minus then numberMismatch expected true rest
  else if isDigit b then numberMismatch expected false (b :: rest)
  else if b = quote then
    match text rest with
    | .error fault => fault
    | .ok (s, _) => .invalidType (.text s) expected
  else if b = openBracket then .invalidType .sequence expected
  else if b = openBrace then .invalidType .map expected
  else .expectedValue

def readText : Reader String := fun input =>
  match next? input with
  | none => .error .endInValue
  | some (b, ⟨rest, h⟩) =>
    if b = quote then (text rest).widen (Nat.le_of_lt h) else .error (mismatch .text b rest)

/-- What has been read up to a word, and the rest of the word. -/
def afterWord {input : List UInt8} (value : Value) (letters : List UInt8) (rest : Rest input) :
    Scanned input Value :=
  match dropWord letters rest.val with
  | .error fault => .error fault
  | .ok ⟨after, h⟩ => .ok (value, ⟨after, Nat.lt_of_le_of_lt h rest.property⟩)

def readFlag : Reader Value := fun input =>
  match next? input with
  | none => .error .endInValue
  | some (b, rest) =>
    if b = letterT then afterWord (.flag true) (word "rue") rest
    else if b = letterF then afterWord (.flag false) (word "alse") rest
    else .error (mismatch .boolean b rest.val)

/-- A number that has been read, if it is an integer from zero to below `bound`. -/
def boundedNumber (expected : Expected) (bound : Nat) : Number → Except WireFault Nat
  | .integer value =>
    if 0 ≤ value ∧ value < bound then .ok value.toNat else .error (.invalidValue value expected)
  | .floating negative magnitude => .error (.invalidType (.floating negative magnitude) expected)

/-- Reads an integer from zero to below `bound`. -/
def readBounded (expected : Expected) (bound : Nat) : Reader Nat := fun input =>
  match next? input with
  | none => .error .endInValue
  | some (b, ⟨rest, h⟩) =>
    if b = minus then
      match number true rest with
      | .error fault => .error fault
      | .ok (n, ⟨after, h'⟩) =>
        match boundedNumber expected bound n with
        | .error fault => .error fault
        | .ok value => .ok (value, ⟨after, Nat.lt_trans h' h⟩)
    else if isDigit b then
      match number false (b :: rest) with
      | .error fault => .error fault
      | .ok (n, ⟨after, h'⟩) =>
        match boundedNumber expected bound n with
        | .error fault => .error fault
        | .ok value => .ok (value, ⟨after, Nat.lt_of_le_of_lt (Nat.le_of_lt_succ h') h⟩)
    else .error (mismatch expected b rest)

/-! ### Lists -/

/-- Where the reader of a list or an object stands: at an item, or behind the closing bracket. -/
inductive Place (input : List UInt8) where
  | item (start : Tail input)
  | closed (rest : Rest input)

/-- Looks for the next item of a list; a comma has to stand before each one but the `first`. -/
def nextItem (first : Bool) (input : List UInt8) : Except WireFault (Place input) :=
  match next? input with
  | none => .error .endInList
  | some (b, rest) =>
    if b = closeBracket then .ok (.closed rest)
    else if first then .ok (.item (Tail.whole input))
    else if b = comma then
      match next? rest.val with
      | none => .error .endInValue
      | some (c, _) =>
        if c = closeBracket then .error .trailingComma
        else .ok (.item (Rest.tail rest))
    else .error .expectedCommaOrBracket

/-- Reads the items of a list up to its closing bracket. -/
def readItems {α : Type} (item : Reader α) (first : Bool) (input : List UInt8) : Scanned input (List α) :=
  match nextItem first input with
  | .error fault => .error fault
  | .ok (.closed rest) => .ok ([], rest)
  | .ok (.item ⟨start, h⟩) =>
    match item start with
    | .error fault => .error fault
    | .ok (value, ⟨behind, h'⟩) =>
      ((readItems item false behind).map (value :: ·)).widen
        (Nat.le_of_lt (Nat.lt_of_lt_of_le h' h))
termination_by input.length
decreasing_by exact Nat.lt_of_lt_of_le h' h

/-! ### Records as lists -/

/-- The end of a record that is written as a list and has all its fields. -/
def endOfList (input : List UInt8) : Except WireFault (Rest input) :=
  match next? input with
  | none => .error .endInList
  | some (b, rest) =>
    if b = closeBracket then .ok rest
    else if b = comma then
      match next? rest.val with
      | some (c, _) => if c = closeBracket then .error .trailingComma else .error .trailingCharacters
      | none => .error .trailingCharacters
    else .error .trailingCharacters

variable {ρ : Type}

/-- Reads the remaining fields of a record that is written as a list; `index` fields have been read. -/
def readFields (read : Shape ρ → Reader Value) (layout : Layout ρ) (index : Nat) :
    (fields : List (Field ρ)) → (first : Bool) → (input : List UInt8) → Scanned input (List Value)
  | [], _, input =>
    match endOfList input with
    | .error fault => .error fault
    | .ok rest => .ok ([], rest)
  | f :: fs, first, input =>
    match nextItem first input with
    | .error fault => .error fault
    | .ok (.closed _) =>
      if f.defaulted then (readFields read layout (index + 1) fs first input).map (.absent :: ·)
      else .error (.invalidLength index layout.name layout.fields.length)
    | .ok (.item ⟨start, h⟩) =>
      match read f.shape start with
      | .error fault => .error fault
      | .ok (value, ⟨behind, h'⟩) =>
        ((readFields read layout (index + 1) fs false behind).map (value :: ·)).widen
          (Nat.le_of_lt (Nat.lt_of_lt_of_le h' h))

/-! ### Records as objects -/

/-- Looks for the next member of an object and gives the place behind the opening quote of its key; a
comma has to stand before each one but the `first`. -/
def nextMember (first : Bool) (input : List UInt8) : Except WireFault (Place input) :=
  match next? input with
  | none => .error .endInObject
  | some (b, rest) =>
    if b = closeBrace then .ok (.closed rest)
    else if first then
      if b = quote then .ok (.item (Rest.tail rest)) else .error .keyNotText
    else if b = comma then
      match next? rest.val with
      | none => .error .endInValue
      | some (c, ⟨behind, h⟩) =>
        if c = quote then .ok (.item ⟨behind, Nat.le_of_lt (Nat.lt_trans h rest.property)⟩)
        else if c = closeBrace then .error .trailingComma
        else .error .keyNotText
    else .error .expectedCommaOrBrace

/-- The colon behind a key. -/
def afterColon (input : List UInt8) : Except WireFault (Rest input) :=
  match next? input with
  | none => .error .endInObject
  | some (b, rest) => if b = colon then .ok rest else .error .expectedColon

/-- Reads the members of an object up to its closing brace and gives the values of the `fields` among
them, in the order of the text; `seen` are the ones read before. -/
def readMembers (read : Shape ρ → Reader Value) (fields : List (Field ρ))
    (seen : List (String × Value)) (first : Bool) (input : List UInt8) :
    Scanned input (List (String × Value)) :=
  match nextMember first input with
  | .error fault => .error fault
  | .ok (.closed rest) => .ok (seen, rest)
  | .ok (.item ⟨start, h⟩) =>
    match text start with
    | .error fault => .error fault
    | .ok (key, ⟨behindKey, hk⟩) =>
      match fields.find? fun f => f.key = key with
      | none =>
        match afterColon behindKey with
        | .error fault => .error fault
        | .ok ⟨behindColon, hc⟩ =>
          match skipValue behindColon with
          | .error fault => .error fault
          | .ok ⟨behind, hv⟩ =>
            (readMembers read fields seen false behind).widen (by omega)
      | some f =>
        if (seen.lookup key).isSome then .error (.duplicateField key)
        else
          match afterColon behindKey with
          | .error fault => .error fault
          | .ok ⟨behindColon, hc⟩ =>
            match read f.shape behindColon with
            | .error fault => .error fault
            | .ok (value, ⟨behind, hv⟩) =>
              (readMembers read fields (seen ++ [(key, value)]) false behind).widen (by omega)
termination_by input.length

/-- The fields of a record in their order, from the members that were there. -/
def arrange : (fields : List (Field ρ)) → (seen : List (String × Value)) →
    Except WireFault (List Value)
  | [], _ => .ok []
  | f :: fs, seen =>
    match seen.lookup f.key with
    | some value => (arrange fs seen).map (value :: ·)
    | none =>
      if f.isRequired then .error (.missingField f.key) else (arrange fs seen).map (.absent :: ·)

/-- Reads the fields of a record that is written as an object, behind its opening brace. -/
def readObject (read : Shape ρ → Reader Value) (layout : Layout ρ) : Reader (List Value) :=
  fun input =>
    match readMembers read layout.fields [] true input with
    | .error fault => .error fault
    | .ok (seen, rest) =>
      match arrange layout.fields seen with
      | .error fault => .error fault
      | .ok values => .ok (values, rest)

/-! ### Choices -/

/-- The place of a word among the variants. -/
def variantIndex (variants : List String) (name : String) : Except WireFault Nat :=
  match variants.idxOf? name with
  | some index => .ok index
  | none => .error (.unknownVariant name variants)

/-- Reads a choice that is written as an object whose one key is the word, behind the opening brace. -/
def readTaggedChoice (variants : List String) : Reader Value := fun input =>
  match next? input with
  | none => .error .endInValue
  | some (b, ⟨rest, h⟩) =>
    if b = quote then
      match text rest with
      | .error fault => .error fault
      | .ok (name, ⟨behindName, hn⟩) =>
        match variantIndex variants name with
        | .error fault => .error fault
        | .ok index =>
          match afterColon behindName with
          | .error fault => .error fault
          | .ok ⟨behindColon, hc⟩ =>
            match next? behindColon with
            | none => .error .endInValue
            | some (c, ⟨behindC, hb⟩) =>
              if c = letterN then
                match dropWord (word "ull") behindC with
                | .error fault => .error fault
                | .ok ⟨behindNull, hw⟩ =>
                  match next? behindNull with
                  | none => .error .endInObject
                  | some (d, ⟨after, ha⟩) =>
                    if d = closeBrace then .ok (.choice index, ⟨after, by omega⟩)
                    else .error .expectedValue
              else .error (mismatch .unit c behindC)
    else .error (mismatch .variant b rest)

/-! ### All shapes -/

/-- Reads a value of a shape; `inside` reads a value inside one more bracket, if there may be one. -/
def readShape [Format ρ] (inside : Option (Shape ρ → Reader Value)) : Shape ρ → Reader Value
  | .text => fun input => (readText input).map .text
  | .flag => readFlag
  | .code _ => fun input => (readBounded .code UInt16.size input).map fun n => .code n.toUInt16
  | .count => fun input => (readBounded .count UInt32.size input).map fun n => .count n.toUInt32
  | .nullable shape => fun input =>
    match next? input with
    | none => .error .endInValue
    | some (b, rest) =>
      if b = letterN then afterWord .absent (word "ull") rest else readShape inside shape input
  | .choice variants => fun input =>
    match next? input with
    | none => .error .endInValue
    | some (b, ⟨rest, h⟩) =>
      if b = quote then
        match text rest with
        | .error fault => .error fault
        | .ok (name, ⟨after, h'⟩) =>
          match variantIndex variants name with
          | .error fault => .error fault
          | .ok index => .ok (.choice index, ⟨after, Nat.lt_trans h' h⟩)
      else if b = openBrace then
        match inside with
        | none => .error .recursionLimit
        | some _ => (readTaggedChoice variants rest).widen (Nat.le_of_lt h)
      else .error .expectedValue
  | .list item => fun input =>
    match next? input with
    | none => .error .endInValue
    | some (b, ⟨rest, h⟩) =>
      if b = openBracket then
        match inside with
        | none => .error .recursionLimit
        | some read => ((readItems (read item) true rest).map .list).widen (Nat.le_of_lt h)
      else .error (mismatch .sequence b rest)
  | .record name => fun input =>
    match next? input with
    | none => .error .endInValue
    | some (b, ⟨rest, h⟩) =>
      let layout := Format.layout name
      if b = openBracket then
        match inside with
        | none => .error .recursionLimit
        | some read =>
          ((readFields read layout 0 layout.fields true rest).map .record).widen (Nat.le_of_lt h)
      else if b = openBrace then
        match inside with
        | none => .error .recursionLimit
        | some read => ((readObject read layout rest).map .record).widen (Nat.le_of_lt h)
      else .error (mismatch (.record layout.name) b rest)

/-- Reads a value inside which `budget` brackets may be open at once. -/
def readWithin [Format ρ] : (budget : Nat) → Shape ρ → Reader Value
  | 0 => readShape none
  | budget + 1 => readShape (some (readWithin budget))

/-- How many brackets may be open at once. -/
def nestingLimit : Nat := 127

/-- Reads a text that is one value of a shape and nothing else. -/
def readAll [Format ρ] (shape : Shape ρ) (input : List UInt8) : Except WireFault Value :=
  match readWithin nestingLimit shape input with
  | .error fault => .error fault
  | .ok (value, rest) =>
    match next? rest.val with
    | none => .ok value
    | some _ => .error .trailingCharacters

end ProgramInterchange.Wire
