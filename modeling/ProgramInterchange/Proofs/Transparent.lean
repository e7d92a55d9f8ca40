import ProgramInterchange.Proofs.Conversion.RoundTrip
import ProgramInterchange.Proofs.Record.FaultKinds
import ProgramInterchange.Proofs.Record.WrittenText
import ProgramInterchange.Proofs.Reload

/-!
# Programs by way of their text

Rebuilding a program from its text is the same as rebuilding it from its record, exactly as long as the brackets of
the text nest within the limit of the reader. What the minimal profile writes always does; under the full profile
types nest without limit.
-/

namespace ProgramInterchange

open ProgramInterchange.Json (bracketNesting)
open ProgramInterchange.Wire (Value nestingLimit)
open Record (value)

theorem bracketNesting_serialize (profile : Profile) (t : Tree.Program) :
    bracketNesting (serialize profile t) = (value (t.toRecord profile)).nesting :=
  Record.bracketNesting_write _

/-- The text of a program gives what its record gives, success or fault, exactly if it does not nest too deep. -/
theorem deserialize_serialize_transparent (profile : Profile) (t : Tree.Program) :
    (deserialize (serialize profile t) =
        if bracketNesting (serialize profile t) ≤ 127 then (t.toRecord profile).toTree
        else .error (.wire .recursionLimit)) ∧
      (deserialize (serialize profile t) = (t.toRecord profile).toTree ↔
        bracketNesting (serialize profile t) ≤ 127) := by
  have limit : nestingLimit = 127 := rfl
  rw [deserialize_serialize, ← bracketNesting_serialize, limit]
  refine ⟨rfl, ?_⟩
  by_cases h : bracketNesting (serialize profile t) ≤ 127
  · rw [if_pos h]
    exact iff_of_true rfl h
  · rw [if_neg h]
    refine iff_of_false (fun same => ?_) h
    -- the limit is no fault of a record
    exact Record.Program.ofRecord_of_toTree_eq_error same.symm

/-! ### The minimal profile -/

theorem nesting_le_of_items {α : Type} [Wire Record.RecordName α] {k : Nat} {as : List α}
    (each : ∀ a ∈ as, (value a).nesting ≤ k) : (value as).nesting ≤ k + 1 := by
  refine Value.nesting_list_le_iff.mpr fun v hv => ?_
  obtain ⟨a, ha, rfl⟩ := List.mem_map.mp hv
  exact each a ha

theorem nesting_texts (texts : List String) : (value texts).nesting ≤ 1 :=
  nesting_le_of_items fun _ _ => Nat.le_refl 0

theorem nesting_comments (c : Comments) : (value c).nesting ≤ 2 := by
  have opening := nesting_texts c.opening
  have closing := nesting_texts c.closing
  show (Value.record [value c.opening, value c.closing]).nesting ≤ 2
  simp only [Value.nesting, Value.nestingOf]
  omega

theorem nesting_location (l : Option Location) : (value l).nesting ≤ 3 := by
  cases l with
  | none => exact Nat.zero_le 3
  | some l => exact Nat.le_refl 3

namespace Tree

theorem Callable.nesting_minimal (c : Callable) : (value (c.toRecord .minimal)).nesting ≤ 4 := by
  have fullName : (value c.fullName).nesting = 1 := rfl
  have location := nesting_location c.location
  have documentation := nesting_texts c.documentation
  have comments := nesting_comments c.comments
  show (Value.record [.code _, value c.fullName, .absent, .absent, .text _, value c.location, .absent, .absent,
    value c.documentation, value c.comments]).nesting ≤ 4
  simp only [Value.nesting, Value.nestingOf]
  omega

theorem CustomType.nesting_minimal (t : CustomType) : (value (t.toRecord .minimal)).nesting ≤ 4 := by
  have fullName : (value t.fullName).nesting = 1 := rfl
  have location := nesting_location t.location
  have documentation := nesting_texts t.documentation
  have comments := nesting_comments t.comments
  show (Value.record [value t.fullName, .absent, .absent, .text _, value t.location, .absent, .absent,
    value t.documentation, value t.comments]).nesting ≤ 4
  simp only [Value.nesting, Value.nestingOf]
  omega

theorem NamespaceElement.nesting_minimal (e : NamespaceElement) :
    (value (e.toRecord .minimal)).nesting ≤ 5 := by
  cases e with
  | callable c =>
    have inside := c.nesting_minimal
    show (Value.record [.code _, value (c.toRecord .minimal), .absent]).nesting ≤ 5
    simp only [Value.nesting, Value.nestingOf]
    omega
  | customType t =>
    have inside := t.nesting_minimal
    show (Value.record [.code _, .absent, value (t.toRecord .minimal)]).nesting ≤ 5
    simp only [Value.nesting, Value.nestingOf]
    omega

theorem Documentation.nesting_toRecord (d : Documentation) : (value d.toRecord).nesting ≤ 3 := by
  refine nesting_le_of_items fun item _ => ?_
  have lines := nesting_texts item.documentationInstances
  show (Value.record [.text _, value item.documentationInstances]).nesting ≤ 2
  simp only [Value.nesting, Value.nestingOf]
  omega

theorem Namespace.nesting_minimal (n : Namespace) : (value (n.toRecord .minimal)).nesting ≤ 7 := by
  have documentation := n.documentation.nesting_toRecord
  have elements : (value (n.elements.map (NamespaceElement.toRecord .minimal))).nesting ≤ 6 :=
    nesting_le_of_items (List.forall_mem_map.mpr fun e _ => e.nesting_minimal)
  show (Value.record [.text _, value (n.elements.map (NamespaceElement.toRecord .minimal)),
    value n.documentation.toRecord]).nesting ≤ 7
  simp only [Value.nesting, Value.nestingOf]
  omega

theorem Program.nesting_minimal (p : Program) : (value (p.toRecord .minimal)).nesting ≤ 9 := by
  have namespaces : (value (p.namespaces.map (Namespace.toRecord .minimal))).nesting ≤ 8 :=
    nesting_le_of_items (List.forall_mem_map.mpr fun n _ => n.nesting_minimal)
  have entryPoints : (value p.entryPoints).nesting ≤ 2 := nesting_le_of_items fun _ _ => Nat.le_refl 1
  rw [toRecord_eq]
  show (Value.record [value (p.namespaces.map (Namespace.toRecord .minimal)), value p.entryPoints]).nesting ≤ 9
  simp only [Value.nesting, Value.nestingOf]
  omega

end Tree

/-- Under the minimal profile the text of every program gives what its record gives. -/
theorem deserialize_serialize_minimal (t : Tree.Program) :
    deserialize (serialize .minimal t) = (t.toRecord .minimal).toTree := by
  have shallow := t.nesting_minimal
  have limit : nestingLimit = 127 := rfl
  rw [deserialize_serialize, limit, if_pos (by omega)]

/-! ### Types that nest -/

namespace Tree

/-- The type of integers in arrays, `depth` of them. -/
def ResolvedType.arrays : Nat → ResolvedType
  | 0 => .mk (.leaf .int)
  | depth + 1 => .mk (.array (arrays depth))

theorem ResolvedType.wellFormed_arrays (depth : Nat) : (arrays depth).WellFormed := by
  induction depth with
  | zero => simp [arrays, wellFormed_mk, TypeKind.WellFormed, TypeKind.parts]
  | succ depth ih => simpa [arrays, wellFormed_mk, TypeKind.WellFormed, TypeKind.parts] using ih

/-- Every array takes the brackets of its record and of its node. -/
theorem ResolvedType.nesting_arrays (depth : Nat) : (value (arrays depth).toRecord).nesting = 2 * depth + 2 := by
  induction depth with
  | zero => rfl
  | succ depth ih =>
    rw [arrays, toRecord_mk]
    show (Value.record [.record [.code _, value (arrays depth).toRecord, .absent, .absent, .absent, .absent,
      .absent]]).nesting = _
    simp only [Value.nesting, Value.nestingOf, ih]
    omega

/-- The program that declares a custom type and nothing else. -/
def Program.declaring (type : ResolvedType) : Program where
  namespaces := [{
    name := "N"
    elements := [.customType {
      fullName := ⟨"N", "T"⟩
      attributes := []
      modifiers := .placeholder
      sourceFile := "n"
      location := none
      underlyingType := type
      typeItems := .empty
      documentation := []
      comments := ⟨[], []⟩ }]
    documentation := .empty }]
  entryPoints := []

theorem Program.nesting_declaring (type : ResolvedType) :
    (value ((declaring type).toRecord .full)).nesting = max (value type.toRecord).nesting 2 + 6 := by
  have fullName : (value (QualifiedName.mk "N" "T")).nesting = 1 := rfl
  have modifiers : (value Modifiers.placeholder.toRecord).nesting = 1 := rfl
  have comments : (value (Comments.mk [] [])).nesting = 2 := rfl
  show (Value.record [.list [.record [.text "N", .list [.record [.code _, .absent, .record [
    value (QualifiedName.mk "N" "T"), .list [], value Modifiers.placeholder.toRecord, .text "n", .absent,
    value type.toRecord, .record [.code _, .absent, .list []], .list [], value (Comments.mk [] [])]]],
    .list []]], .list []]).nesting = _
  simp only [Value.nesting, Value.nestingOf, fullName, modifiers, comments]
  omega

theorem Program.toTree_declaring {type : ResolvedType} (h : type.WellFormed) :
    ((declaring type).toRecord .full).toTree = .ok (declaring type) := by
  have name : "N" ≠ "" := by decide
  have fullName : QualifiedName.WellFormed ⟨"N", "T"⟩ := ⟨name, by decide⟩
  have wellFormed : ∀ n ∈ (declaring type).namespaces, n.WellFormed := by
    refine List.forall_mem_singleton.mpr ⟨name, List.forall_mem_singleton.mpr ?_⟩
    exact ⟨h, nofun, fullName, nofun⟩
  have namespaces := Succeeds.mapM fun n (_ : n ∈ (declaring type).namespaces) => n.toRecord_succeeds
  rw [toRecord_eq, Record.Program.toTree_eq, List.mapM_map]
  exact ((namespaces.map fun namespaces => Program.mk namespaces []) _).mpr ⟨wellFormed, rfl⟩

end Tree

/-- Of programs that declare a type of arrays, those with less than sixty arrays are read again. -/
theorem deserialize_serialize_arrays (depth : Nat) :
    deserialize (serialize .full (.declaring (.arrays depth))) =
      if depth < 60 then .ok (.declaring (.arrays depth)) else .error (.wire .recursionLimit) := by
  have nests := Tree.Program.nesting_declaring (.arrays depth)
  have again := Tree.Program.toTree_declaring (Tree.ResolvedType.wellFormed_arrays depth)
  rw [Tree.ResolvedType.nesting_arrays] at nests
  have limit : nestingLimit = 127 := rfl
  rw [deserialize_serialize, again, nests, limit]
  by_cases h : depth < 60
  · rw [if_pos h, if_pos (by omega)]
  · rw [if_neg h, if_neg (by omega)]

/-- Sixty arrays have a record that gives them back, and a text that does not. -/
theorem deserialize_serialize_sixty_arrays :
    ((Tree.Program.declaring (.arrays 60)).toRecord .full).toTree = .ok (.declaring (.arrays 60)) ∧
      deserialize (serialize .full (.declaring (.arrays 60))) = .error (.wire .recursionLimit) :=
  ⟨Tree.Program.toTree_declaring (Tree.ResolvedType.wellFormed_arrays 60), deserialize_serialize_arrays 60⟩

end ProgramInterchange
