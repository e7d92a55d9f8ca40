import ProgramInterchange.Scan.Byte
import ProgramInterchange.Text.Utf8

/-!
# JSON documents

Documents with ordered members, and their compact text: no white space, members in their order, and in
texts only the quote, the backslash and the controls escaped.
-/

namespace ProgramInterchange

/-- A JSON document; the numbers written here are natural. -/
inductive Json where
  | null
  | boolean (value : Bool)
  | number (value : Nat)
  | text (value : String)
  | array (items : List Json)
  | object (members : List (String × Json))

namespace Json

open Byte

/-! ### Texts and numbers -/

/-- How one byte of a text is written between the quotes. -/
def escapedByte (b : UInt8) : List UInt8 :=
  if b = quote then [backslash, quote]
  else if b = backslash then [backslash, backslash]
  else if b = 8 then [backslash, 98]
  else if b = 9 then [backslash, 116]
  else if b = 10 then [backslash, 110]
  else if b = 12 then [backslash, 102]
  else if b = 13 then [backslash, 114]
  else if b < 32 then [backslash, letterU, 48, 48, hexDigit (b.toNat / 16), hexDigit (b.toNat % 16)]
  else [b]

def escapedText (s : String) : List UInt8 := (Text.utf8 s).flatMap escapedByte

def textBytes (s : String) : List UInt8 := quote :: escapedText s ++ [quote]

def numberBytes (n : Nat) : List UInt8 :=
  if n < 10 then [(48 + n).toUInt8] else numberBytes (n / 10) ++ [(48 + n % 10).toUInt8]

/-! ### Documents -/

mutual
def render : Json → List UInt8
  | null => word "null"
  | boolean value => word (if value then "true" else "false")
  | number value => numberBytes value
  | text value => textBytes value
  | array items => openBracket :: renderItems true items ++ [closeBracket]
  | object members => openBrace :: renderMembers true members ++ [closeBrace]

/-- The items of an array; a comma stands before each one but the `first`. -/
def renderItems (first : Bool) : List Json → List UInt8
  | [] => []
  | item :: items => (if first then [] else [comma]) ++ render item ++ renderItems false items

/-- The members of an object; a comma stands before each one but the `first`. -/
def renderMembers (first : Bool) : List (String × Json) → List UInt8
  | [] => []
  | entry :: members =>
    (if first then [] else [comma]) ++ renderMember entry ++ renderMembers false members

/-- A member: its key, a colon, its value. -/
def renderMember : String × Json → List UInt8
  | (key, value) => textBytes key ++ colon :: render value
end

/-! ### Parts -/

/-- The keys of an object, in their order. -/
def keys : Json → List String
  | object members => members.map Prod.fst
  | _ => []

mutual
/-- How many brackets and braces are open at once, at most. -/
def nesting : Json → Nat
  | array items => nestingItems items + 1
  | object members => nestingMembers members + 1
  | _ => 0

/-- The greatest nesting among the items of an array. -/
def nestingItems : List Json → Nat
  | [] => 0
  | item :: items => max (nesting item) (nestingItems items)

/-- The greatest nesting among the members of an object. -/
def nestingMembers : List (String × Json) → Nat
  | [] => 0
  | entry :: members => max (nestingMember entry) (nestingMembers members)

def nestingMember : String × Json → Nat
  | (_, value) => nesting value
end

end Json

end ProgramInterchange
