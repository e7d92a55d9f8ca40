import ProgramInterchange.Interchange
import ProgramInterchange.Proofs.Record.WrittenText

/-!
# Spellings of a record

In every spelling of a record, each of the records inside it may be an object or a list by itself, its members may
stand in any order among unknown ones, and what is absent may be left out or be `null`. They are all read alike.
-/

namespace ProgramInterchange.Record

open ProgramInterchange.Byte ProgramInterchange.Scan ProgramInterchange.Wire
open ProgramInterchange.Json (textBytes)
open LawfulWire NamedTags

section

variable {α : Type} [Wire RecordName α]

def Spelling (α : Type) [Wire RecordName α] (a : α) (text : List UInt8) : Prop :=
  Wire.Spelling (shapeOf α) (value a) text

theorem spelling_write [LawfulWire α] (a : α) : Spelling α a (write a) := spelling_document (conforms a)

/-- A text that spells a value from which the record is got back. -/
theorem read_of_spelling {a b : α} {v : Value} {text : List UInt8} (h : Wire.Spelling (shapeOf α) v text)
    (back : member? v = some b) (fits : v.nesting = (value a).nesting) (same : b = a) :
    read text = if (value a).nesting ≤ nestingLimit then .ok a else .error .recursionLimit := by
  have all : readAll (shapeOf α) text = if v.nesting ≤ nestingLimit then .ok v else .error .recursionLimit :=
    readAll_spelling h
  rw [read_eq, all, fits]
  by_cases hn : (value a).nesting ≤ nestingLimit
  · simp only [if_pos hn, back, same]
  · simp only [if_neg hn]

end

/-- The text spells the program, possibly without entry points if there are none. -/
def Program.Spelling (p : Program) (text : List UInt8) : Prop :=
  Record.Spelling Program p text ∨
    p.entryPoints = [] ∧ Wire.Spelling (shapeOf Program) (sparseValue p.namespaces) text

/-- The spellings of the records of a type, of which the written text is one, are read as the record. -/
structure ReadsSpellings {α : Type} [Wire RecordName α] [LawfulWire α] [NamedTags α]
    (spelling : α → List UInt8 → Prop) : Prop where
  write (a : α) : spelling a (write a)
  read_eq {a : α} {text : List UInt8} (named : TagsNamed a) (h : spelling a text) :
    read text = if (value a).nesting ≤ 127 then .ok a else .error .recursionLimit

theorem readsSpellings {α : Type} [Wire RecordName α] [LawfulWire α] [NamedTags α] :
    ReadsSpellings (Spelling α) where
  write := spelling_write
  read_eq {a _} named h := read_of_spelling h (member?_value a) rfl ((canonicalTags_eq_iff a).mpr named)

theorem Program.readsSpellings : ReadsSpellings Program.Spelling where
  write p := .inl (spelling_write p)
  read_eq {p text} named h := by
    have kept : canonicalTags p = p := (canonicalTags_eq_iff p).mpr named
    rcases h with h | ⟨none, h⟩
    · exact read_of_spelling h (member?_value p) rfl kept
    · obtain ⟨namespaces, entryPoints⟩ := p
      obtain rfl : entryPoints = [] := none
      exact read_of_spelling h (member?_sparseValue namespaces) (nesting_sparseValue namespaces) kept

/-- Every spelling of a record is read as the record, unless its brackets nest too deep, and every spelling of a
program has the same tree. -/
theorem spellings_read_alike :
    (ReadsSpellings Program.Spelling ∧ ReadsSpellings (Spelling Namespace) ∧
      ReadsSpellings (Spelling NamespaceElement) ∧ ReadsSpellings (Spelling DocumentationItem) ∧
      ReadsSpellings (Spelling Callable) ∧ ReadsSpellings (Spelling CustomType) ∧
      ReadsSpellings (Spelling Attribute) ∧ ReadsSpellings (Spelling Modifiers) ∧
      ReadsSpellings (Spelling ResolvedSignature) ∧ ReadsSpellings (Spelling ArgumentTuple) ∧
      ReadsSpellings (Spelling (Tuple TypeItem)) ∧ ReadsSpellings (Spelling TypeItem) ∧
      ReadsSpellings (Spelling (LocalVariable LocalSymbol ResolvedType)) ∧
      ReadsSpellings (Spelling (LocalVariable String ResolvedType)) ∧ ReadsSpellings (Spelling LocalSymbol) ∧
      ReadsSpellings (Spelling ResolvedType) ∧ ReadsSpellings (Spelling ResolvedTypeNode) ∧
      ReadsSpellings (Spelling (Arrow ResolvedType)) ∧
      ReadsSpellings (Spelling (OperationType ResolvedType Information)) ∧ ReadsSpellings (Spelling Information) ∧
      ReadsSpellings (Spelling Characteristics) ∧ ReadsSpellings (Spelling CharacteristicsNode) ∧
      ReadsSpellings (Spelling SetOperation) ∧ ReadsSpellings (Spelling InferredExpressionInformation) ∧
      ReadsSpellings (Spelling InferredCallableInformation) ∧ ReadsSpellings (Spelling TypeParameter) ∧
      ReadsSpellings (Spelling UserDefinedType) ∧ ReadsSpellings (Spelling QualifiedName) ∧
      ReadsSpellings (Spelling Comments) ∧ ReadsSpellings (Spelling Location) ∧ ReadsSpellings (Spelling Range) ∧
      ReadsSpellings (Spelling Position)) ∧
    ∀ (p : Program) (text : List UInt8), TagsNamed p → p.Spelling text → (value p).nesting ≤ 127 →
      deserialize text = p.toTree := by
  constructor
  · refine ⟨Program.readsSpellings, ?_⟩
    repeat' apply And.intro
    all_goals exact readsSpellings
  · intro p text named h fits
    have found := Program.readsSpellings.read_eq named h
    rw [if_pos fits] at found
    simp only [deserialize, found]

/-- Text with an unknown member, a namespace in the form of a list, and without entry points. -/
def spreadText : List UInt8 :=
  Text.utf8 " \x7b \"x\" : [ [ -1.5e3 ] ] , \"namespaces\" : [ [ \"N\" , [ ] , [ ] ] ] \x7d"

theorem isValue_lists : IsValue (arrayTokens [arrayTokens [[word "-1.5e3"]]]) := by
  have whole : IsWhole [1] := ⟨⟨nofun, by decide⟩, nofun⟩
  have fraction : FractionSpelled (some [5]) (word ".5") := .some ⟨nofun, by decide⟩
  have exponent : ExponentSpelled (some (false, [3])) (word "e3") := .some (.inl rfl) .none ⟨nofun, by decide⟩
  have number : IsValue [word "-1.5e3"] := .scalar (.number ⟨_, _, .mk whole fraction exponent, .inr rfl⟩)
  exact .array (List.forall_mem_singleton.mpr (.array (List.forall_mem_singleton.mpr number)))

theorem spelling_spreadText : Program.Spelling ⟨[⟨"N", [], []⟩], []⟩ spreadText := by
  have empty (name : RecordName) : Spells (.list (.record name)) (.list []) (arrayTokens []) := .list [] nofun
  have space : Spells (.record RecordName.namespace) (value (⟨"N", [], []⟩ : Namespace))
      (arrayTokens [[textBytes "N"], arrayTokens [], arrayTokens []]) := by
    refine .fields ((layout .namespace).fields.zip [(.text "N", [textBytes "N"]),
      (.list [], arrayTokens []), (.list [], arrayTokens [])]) rfl ?_
    simp only [layout, field, List.zip_cons_cons, List.zip_nil_right, List.forall_mem_cons]
    exact ⟨.text (quoted_textBytes "N"), empty .namespaceElement, empty .documentationItem, nofun⟩
  let namespaces := (field "namespaces" (.list (.record .namespace)), Value.list [value (⟨"N", [], []⟩ : Namespace)])
  let entryPoints := ((layout .program).fields[1], Value.absent)
  have spaced (ts : List Token) : Spaced ts (ts.flatMap fun t => 32 :: t) := by
    induction ts with
    | nil => exact .done nofun
    | cons t ts ih => exact .token [32] (List.forall_mem_singleton.mpr rfl) ih
  refine .inr ⟨rfl, _, .members [
      ⟨"x", textBytes "x", none, arrayTokens [arrayTokens [[word "-1.5e3"]]]⟩,
      ⟨"namespaces", textBytes "namespaces", some namespaces, arrayTokens [
        arrayTokens [[textBytes "N"], arrayTokens [], arrayTokens []]]⟩] [entryPoints] ?_ ?_ ?_ rfl (.refl _), spaced _⟩
  · simp only [List.forall_mem_cons]
    exact ⟨⟨quoted_textBytes _, by decide, isValue_lists⟩, ⟨quoted_textBytes _, rfl⟩, nofun⟩
  · simp only [List.forall_mem_cons]
    refine ⟨nofun, ?_, nofun⟩
    intro f v h
    obtain ⟨rfl, rfl⟩ := Prod.mk.inj (Option.some.inj h)
    exact .list [(_, _)] (List.forall_mem_singleton.mpr space)
  · exact List.forall_mem_singleton.mpr ⟨rfl, rfl⟩

theorem spreadText_read_alike :
    let p : Program := ⟨[⟨"N", [], []⟩], []⟩
    TagsNamed p ∧ p.Spelling spreadText ∧ (value p).nesting ≤ 127 ∧ read spreadText = .ok p ∧
      deserialize spreadText = p.toTree := by
  intro p
  have named : TagsNamed p := (canonicalTags_eq_iff p).mp rfl
  have fits : (value p).nesting ≤ 127 := by decide
  have found := spellings_read_alike.1.1.read_eq named spelling_spreadText
  rw [if_pos fits] at found
  exact ⟨named, spelling_spreadText, fits, found, spellings_read_alike.2 p _ named spelling_spreadText fits⟩

end ProgramInterchange.Record
