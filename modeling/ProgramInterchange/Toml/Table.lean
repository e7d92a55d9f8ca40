/-!
# Tables of configuration text

A configuration text defines nested tables, piece by piece. Where a table came from decides what may still
be added to it: no key is ever defined twice, and a table that has been written out is not extended from
elsewhere.
-/

namespace ProgramInterchange.Toml

inductive Origin where
  /-- Mentioned in the header of a table inside it. -/
  | implied
  /-- Mentioned in a dotted key. -/
  | dotted
  /-- Opened by a header of its own. -/
  | opened
  /-- Written out between braces. -/
  | closed
  deriving DecidableEq, Repr

/-- A value. Of truth values, numbers and moments only the kind matters here, and of a number whether it can
be held: an integer in 128 bits with or without a sign, any other number in the 64-bit binary format. -/
inductive Item where
  | text (value : String)
  | flag
  | number (isHeld : Bool)
  | moment
  | list (items : List Item)
  /-- Tables under one header, each opened by repeating it; the last one is being filled. -/
  | tables (items : List Item)
  | table (origin : Origin) (entries : List (String × Item))

/-- The entries of a table, in the order of their definition. -/
abbrev Entries := List (String × Item)

mutual
/-- Whether all numbers in an item can be held. -/
def Item.isHeld : Item → Bool
  | .number isHeld => isHeld
  | .list items => areHeld items
  | .tables items => areHeld items
  | .table _ entries => entriesHeld entries
  | _ => true

def areHeld : List Item → Bool
  | [] => true
  | item :: items => item.isHeld && areHeld items

def entriesHeld : List (String × Item) → Bool
  | [] => true
  | entry :: entries => entryHeld entry && entriesHeld entries

def entryHeld : String × Item → Bool
  | (_, item) => item.isHeld
end

/-- Replaces the value of a key, or adds it at the end. -/
def put (key : String) (value : Item) : Entries → Entries
  | [] => [(key, value)]
  | (k, v) :: rest => if k = key then (k, value) :: rest else (k, v) :: put key value rest

/-- Changes the table that a path leads to. Tables that are not there yet are added: as implied ones if the
path stands in a header, as dotted ones if it is a dotted key. A dotted key does not lead into a table that
has been opened elsewhere, and nothing leads into a closed one. -/
def within (isDotted : Bool) (change : Origin → Entries → Option (Origin × Entries)) :
    (path : List String) → Origin → Entries → Option (Origin × Entries)
  | [], origin, entries => change origin entries
  | key :: path, origin, entries =>
    match entries.lookup key with
    | none => do
      let (inner, content) ← within isDotted change path (if isDotted then .dotted else .implied) []
      return (origin, put key (.table inner content) entries)
    | some (.table inner content) =>
      if inner = .closed ∨ (isDotted ∧ inner = .opened) then none
      else do
        let (inner, content) ← within isDotted change path inner content
        return (origin, put key (.table inner content) entries)
    | some (.tables items) =>
      match items.getLast? with
      | some (.table inner content) => do
        let (inner, content) ← within isDotted change path inner content
        return (origin, put key (.tables (items.dropLast ++ [.table inner content])) entries)
      | _ => none
    | _ => none

/-- A key: the tables it leads through, and its last part. -/
structure Key where
  parents : List String
  name : String
  deriving DecidableEq, Repr

def Key.isDotted (k : Key) : Bool := !k.parents.isEmpty

def Key.path (k : Key) : List String := k.parents ++ [k.name]

/-- Opens the table of a header, which may have been mentioned before but not opened. -/
def openTable (name : String) (origin : Origin) (entries : Entries) : Option (Origin × Entries) :=
  match entries.lookup name with
  | none => some (origin, put name (.table .opened []) entries)
  | some (.table .implied content) => some (origin, put name (.table .opened content) entries)
  | _ => none

def openNext (name : String) (origin : Origin) (entries : Entries) : Option (Origin × Entries) :=
  match entries.lookup name with
  | none => some (origin, put name (.tables [.table .opened []]) entries)
  | some (.tables items) => some (origin, put name (.tables (items ++ [.table .opened []])) entries)
  | _ => none

/-- Defines a name that is not defined yet. The last part of a dotted key belongs into a table that dotted
keys made, any other name does not. -/
def define (isDotted : Bool) (name : String) (value : Item) (origin : Origin) (entries : Entries) :
    Option (Origin × Entries) :=
  if isDotted = decide (origin = .dotted) then
    match entries.lookup name with
    | none => some (origin, put name value entries)
    | some _ => none
  else none

/-- Defines a key in a table. -/
def assign (key : Key) (value : Item) (origin : Origin) (entries : Entries) :
    Option (Origin × Entries) :=
  within true (define key.isDotted key.name value) key.parents origin entries

end ProgramInterchange.Toml
