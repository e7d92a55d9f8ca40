/-!
# Quoted text in messages

A message shows a text between double quotes, in which the quote, the backslash, the usual controls and
every character without a visible form of its own are written as escapes.
-/

namespace ProgramInterchange.Text

/-- How one character is written between the quotes; `plain` holds of those that stand for
themselves. -/
def quotedChar (plain : Char → Bool) (c : Char) : List Char :=
  if c = '"' ∨ c = '\\' then ['\\', c]
  else if c = '\t' then ['\\', 't']
  else if c = '\r' then ['\\', 'r']
  else if c = '\n' then ['\\', 'n']
  else if c.toNat = 0 then ['\\', '0']
  else if plain c then [c]
  else ['\\', 'u', '\x7b'] ++ Nat.toDigits 16 c.toNat ++ ['\x7d']

def quoted (plain : Char → Bool) (s : String) : String :=
  String.ofList ('"' :: s.toList.flatMap (quotedChar plain) ++ ['"'])

end ProgramInterchange.Text
