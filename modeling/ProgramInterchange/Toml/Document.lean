import ProgramInterchange.Toml.Scalar
import ProgramInterchange.Toml.Table

/-!
# Configuration text

A text is a sequence of statements, one to a line: headers, which open a table, and definitions of keys in
the table that was opened last. It is taken apart first; then its statements build up the root table.
-/

namespace ProgramInterchange.Toml

open ProgramInterchange.Scan (Rest Tail)

/-! ### Space between values -/

/-- Drops spaces, tabs and a comment, up to the end of the line. -/
def skipComment (input : List Char) : Tail input :=
  match skipBlanks input with
  | ⟨'#' :: rest, h⟩ =>
    match run isPlain rest with
    | (_, ⟨after, h'⟩) => ⟨after, by simp only [List.length_cons] at h; omega⟩
  | tail => tail

/-- Drops spaces, tabs, comments and ends of lines. -/
def skipLines (input : List Char) : Tail input :=
  match skipComment input with
  | ⟨behind, h⟩ =>
    match newline? behind with
    | none => ⟨behind, h⟩
    | some ⟨rest, h'⟩ =>
      match skipLines rest with
      | ⟨after, h''⟩ => ⟨after, by omega⟩
termination_by input.length

/-- Drops the end of a line, of which nothing but space and a comment may be left. -/
def endsLine (input : List Char) : Option (Tail input) :=
  match skipComment input with
  | ⟨[], h⟩ => some ⟨[], h⟩
  | ⟨c :: behind, h⟩ =>
    match newline? (c :: behind) with
    | none => none
    | some ⟨rest, h'⟩ => some ⟨rest, by omega⟩

/-- Drops space and the character behind it, if it is the right one; `skip` says what counts as space. -/
def mark (skip : (input : List Char) → Tail input) (c : Char) (input : List Char) :
    Option (Rest input) :=
  match skip input with
  | ⟨d :: rest, h⟩ => if d = c then some ⟨rest, h⟩ else none
  | ⟨[], _⟩ => none

/-! ### Keys -/

def isKeyChar (c : Char) : Bool := c.isAlphanum || c = '_' || c = '-'

def keyPart : Reader (List Char) := fun input =>
  match input with
  | [] => none
  | c :: rest =>
    if c = '"' then (basicText rest).map fun (part, after) => (part, Rest.below c after)
    else if c = '\'' then (literalText rest).map fun (part, after) => (part, Rest.below c after)
    else run₁ isKeyChar (c :: rest)

/-- Reads the parts of a key, with dots between them and blanks around those. -/
def keyParts (input : List Char) : Option (Key × Rest input) :=
  match skipBlanks input with
  | ⟨start, h⟩ =>
    match keyPart start with
    | none => none
    | some (part, ⟨behind, h'⟩) =>
      match mark skipBlanks '.' behind with
      | none => some (⟨[], String.ofList part⟩, Rest.inTail ⟨start, h⟩ ⟨behind, h'⟩)
      | some ⟨behindDot, h''⟩ =>
        match keyParts behindDot with
        | none => none
        | some (⟨parents, name⟩, after) =>
          some (⟨String.ofList part :: parents, name⟩,
            Rest.inTail ⟨start, h⟩ (Rest.within (Rest.within ⟨behind, h'⟩ ⟨behindDot, h''⟩) after))
termination_by input.length

def partLimit : Nat := 80

def key (input : List Char) : Option (Key × Rest input) :=
  (keyParts input).filter fun (k, _) => k.path.length ≤ partLimit

/-! ### Values -/

/-- Reads the items of a list up to its closing bracket. -/
def items (value : Reader Item) (input : List Char) : Option (List Item × Rest input) :=
  match skipLines input with
  | ⟨[], _⟩ => none
  | ⟨c :: rest, h⟩ =>
    if c = ']' then some ([], ⟨rest, h⟩)
    else
      match value (c :: rest) with
      | none => none
      | some (item, ⟨behind, h'⟩) =>
        match skipLines behind with
        | ⟨[], _⟩ => none
        | ⟨d :: after, h''⟩ =>
          have : after.length < input.length := by simp only [List.length_cons] at *; omega
          if d = ',' then
            match items value after with
            | none => none
            | some (rest, ⟨stop, hs⟩) => some (item :: rest, ⟨stop, by omega⟩)
          else if d = ']' then some ([item], ⟨after, this⟩)
          else none
termination_by input.length

/-- Reads a definition: a key, an equals sign and a value, with space around the sign. -/
def definition (skip : (input : List Char) → Tail input) (value : Reader Item) :
    Reader (Key × Item) := fun input =>
  match key input with
  | none => none
  | some (k, ⟨behindKey, hk⟩) =>
    match mark skip '=' behindKey with
    | none => none
    | some ⟨behindSign, hs⟩ =>
      match skip behindSign with
      | ⟨start, h⟩ =>
        match value start with
        | none => none
        | some (item, ⟨after, h'⟩) => some ((k, item), ⟨after, by omega⟩)

/-- Reads the definitions of a table in braces up to the closing one and adds them to the `entries`. They may
go over several lines. -/
def members (value : Reader Item) (entries : Entries) (input : List Char) :
    Option (Entries × Rest input) :=
  match skipLines input with
  | ⟨[], _⟩ => none
  | ⟨c :: rest, h⟩ =>
    if c = '\x7d' then some (entries, ⟨rest, h⟩)
    else
      match definition skipLines value (c :: rest) with
      | none => none
      | some ((k, item), ⟨behind, h'⟩) =>
        match assign k item .opened entries with
        | none => none
        | some (_, entries) =>
          match skipLines behind with
          | ⟨[], _⟩ => none
          | ⟨d :: after, h''⟩ =>
            have : after.length < input.length := by simp only [List.length_cons] at *; omega
            if d = ',' then
              match members value entries after with
              | none => none
              | some (all, ⟨stop, hs⟩) => some (all, ⟨stop, by omega⟩)
            else if d = '\x7d' then some (entries, ⟨after, this⟩)
            else none
termination_by input.length

/-- Reads a value; `inside` reads a value inside one more bracket, if there may be one. -/
def valueWith (inside : Option (Reader Item)) : Reader Item
  | [] => none
  | c :: rest =>
    if c = '"' ∨ c = '\'' then
      match quotedText c rest with
      | none => none
      | some (cs, after) => some (.text (String.ofList cs), Rest.below c after)
    else if c = '[' then
      match inside with
      | none => none
      | some value =>
        match items value rest with
        | none => none
        | some (all, after) => some (.list all, Rest.below c after)
    else if c = '\x7b' then
      match inside with
      | none => none
      | some value =>
        match members value [] rest with
        | none => none
        | some (entries, after) => some (.table .closed entries, Rest.below c after)
    else scalar (c :: rest)

/-- Reads a value inside which `budget` brackets may be open at once. -/
def valueWithin : (budget : Nat) → Reader Item
  | 0 => valueWith none
  | budget + 1 => valueWith (some (valueWithin budget))

def nestingLimit : Nat := 80

/-! ### Statements -/

inductive Statement where
  /-- Opens a table. -/
  | header (key : Key)
  /-- Opens one more table under this key. -/
  | nextHeader (key : Key)
  /-- Defines a key in the table that was opened last. -/
  | definition (key : Key) (value : Item)

def statement : Reader Statement := fun input =>
  match input with
  | '[' :: '[' :: rest =>
    match key rest with
    | none => none
    | some (k, ⟨behindKey, hk⟩) =>
      match mark skipBlanks ']' behindKey with
      | some ⟨']' :: behind, hb⟩ =>
        match endsLine behind with
        | none => none
        | some ⟨after, h⟩ =>
          some (.nextHeader k, ⟨after, by simp only [List.length_cons] at *; omega⟩)
      | _ => none
  | '[' :: rest =>
    match key rest with
    | none => none
    | some (k, ⟨behindKey, hk⟩) =>
      match mark skipBlanks ']' behindKey with
      | none => none
      | some ⟨behind, hb⟩ =>
        match endsLine behind with
        | none => none
        | some ⟨after, h⟩ => some (.header k, ⟨after, by simp only [List.length_cons] at *; omega⟩)
  | input =>
    match definition skipBlanks (valueWithin nestingLimit) input with
    | none => none
    | some ((k, item), ⟨behind, hb⟩) =>
      match endsLine behind with
      | none => none
      | some ⟨after, h⟩ => some (.definition k item, ⟨after, by omega⟩)

def statements (input : List Char) : Option (List Statement) :=
  match skipLines input with
  | ⟨[], _⟩ => some []
  | ⟨c :: rest, _h⟩ =>
    match statement (c :: rest) with
    | none => none
    | some (s, ⟨behind, _h'⟩) => (statements behind).map (s :: ·)
termination_by input.length

/-! ### The root table -/

/-- A table under construction: the path to the table that was opened last, and the root. -/
structure Construction where
  current : List String
  root : Entries

def Construction.add (c : Construction) : Statement → Option Construction
  | .header k => do
    let (_, root) ← within false (openTable k.name) k.parents .opened c.root
    return ⟨k.path, root⟩
  | .nextHeader k => do
    let (_, root) ← within false (openNext k.name) k.parents .opened c.root
    return ⟨k.path, root⟩
  | .definition k item => do
    let (_, root) ← within false (assign k item) c.current .opened c.root
    return ⟨c.current, root⟩

def build (all : List Statement) : Option Entries :=
  (all.foldlM Construction.add ⟨[], []⟩).map (·.root)

/-- A text without the mark of its byte order. -/
def withoutMark : List Char → List Char
  | '\ufeff' :: rest => rest
  | input => input

def parse (s : String) : Option Entries := do build (← statements (withoutMark s.toList))

end ProgramInterchange.Toml
