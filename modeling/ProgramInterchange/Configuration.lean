import ProgramInterchange.Name
import ProgramInterchange.Profile
import ProgramInterchange.Text.Utf8
import ProgramInterchange.Toml.Document
import ProgramInterchange.Wire.Codec

/-!
# Configuration

A configuration names the profile under which programs are written. It is a text of tables, or a wire text
if its file is named for that; both hold the profile in a section of its own, and whatever is missing has
its standard value.
-/

namespace ProgramInterchange

structure Configuration where
  profile : Profile
  deriving DecidableEq, Repr

namespace Configuration

/-- The configuration that says nothing. -/
def standard : Configuration := ⟨Profile.standard⟩

/-! ### As wire text -/

inductive Section where
  | root
  | codec

def sectionLayout : Section → Wire.Layout Section
  | .root =>
    { name := "CodecConfig", fields := [{ key := "codec", shape := .record .codec, defaulted := true }] }
  | .codec =>
    { name := "CodecSection",
      fields := [{ key := "profile", shape := .choice (Profile.all.map Profile.name), defaulted := true }] }

instance : Wire.Format Section := ⟨sectionLayout⟩

/-- The profile of the section that holds it. -/
def profileOf? : Wire.Value → Option Profile
  | .absent => some Profile.standard
  | .record [.absent] => some Profile.standard
  | .record [.choice index] => Profile.all[index]?
  | _ => none

instance : Wire Section Configuration where
  shape := .record .root
  toValue c := .record [.record [.choice (Profile.all.idxOf c.profile)]]
  ofValue?
    | .record [codec] => (profileOf? codec).map fun p => ⟨p⟩
    | _ => none

def ofWire (input : List UInt8) : Except Fault Configuration :=
  (Wire.read Section input).mapError .wire

def toWire (c : Configuration) : List UInt8 := Wire.write Section c

/-! ### As tables -/

/-- Whether an item is a table or a list of nothing. -/
def isEmptyItem : Toml.Item → Bool
  | .table _ entries => entries.isEmpty
  | .list items => items.isEmpty
  | _ => false

/-- The profile that an item names: as a text, or as the one key of a table, which has nothing in it. -/
def profileOfItem? : Toml.Item → Option Profile
  | .text name => Profile.ofName? name
  | .table _ [(name, content)] => if isEmptyItem content then Profile.ofName? name else none
  | _ => none

/-- The profile that the first of some items names. -/
def profileOfFirst? : List Toml.Item → Option Profile
  | [] => some Profile.standard
  | item :: _ => profileOfItem? item

/-- What `read` makes of the value of a key, or the standard profile. The values of other keys are not
looked at, but their numbers have to be such that they can be held. -/
def profileOfKey? (key : String) (read : Toml.Item → Option Profile) (entries : Toml.Entries) :
    Option Profile :=
  if Toml.entriesHeld (entries.filter fun entry => entry.1 ≠ key) then
    match entries.lookup key with
    | none => some Profile.standard
    | some item => read item
  else none

/-- The profile of a section: a table with a key for it, or a list that it begins. A moment counts as a table
without that key. -/
def profileOfSection? : Toml.Item → Option Profile
  | .table _ entries => profileOfKey? "profile" profileOfItem? entries
  | .moment => some Profile.standard
  | .list items => profileOfFirst? items
  | .tables items => profileOfFirst? items
  | _ => none

def ofTables (s : String) : Except Fault Configuration :=
  match (Toml.parse s).bind (profileOfKey? "codec" profileOfSection?) with
  | none => .error .configuration
  | some p => .ok ⟨p⟩

/-! ### Files -/

/-- What follows the last dot of a file name, if something stands before that dot. -/
def extension? (name : String) : Option String :=
  match splitLastDot name.toList with
  | some (_ :: _, ending) => some (String.ofList ending)
  | _ => none

def isWireName (name : String) : Bool := extension? name = some "json"

/-- The configuration of a file, of which the content is given if there is a file of that name. -/
def load (name : String) (content : Option (List UInt8)) : Except Fault Configuration :=
  match content with
  | none => .error .unreadable
  | some bytes =>
    match Text.ofUtf8? bytes with
    | none => .error .unreadable
    | some s => if isWireName name then ofWire bytes else ofTables s

end Configuration

end ProgramInterchange
