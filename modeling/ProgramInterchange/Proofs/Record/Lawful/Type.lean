import ProgramInterchange.Proofs.Record.Lawful.Basic
import ProgramInterchange.Proofs.Record.Pruned

/-!
# Laws of type records on the wire

A type node is written and read over values of its nested types. Its laws are stated for any way of writing
and reading these, and those of types follow by induction.
-/

namespace ProgramInterchange.Record

open ProgramInterchange.Wire
open LawfulWire FaithfulWire NeverAbsent TagFree

/-! ### Characteristics -/

namespace Characteristics

def canonicalTags : Characteristics → Characteristics
  | single kind simpleSet => single kind.canonical (simpleSet.map Tag.canonical)
  | combined kind simpleSet lhs rhs =>
    combined kind.canonical (simpleSet.map Tag.canonical) lhs.canonicalTags rhs.canonicalTags

theorem conforms_toValue (c : Characteristics) : Conforms (shapeOf Characteristics) c.toValue := by
  induction c with
  | single kind simpleSet =>
    refine conforms_record (.cons (conforms_record ?_) .nil)
    exact .cons (conforms kind) (.cons (conforms simpleSet) (.cons (.absent _) .nil))
  | combined kind simpleSet lhs rhs ihl ihr =>
    refine conforms_record (.cons (conforms_record ?_) .nil)
    have operation : Conforms (.record RecordName.setOperation) (.record [lhs.toValue, rhs.toValue]) :=
      conforms_record (.cons ihl (.cons ihr .nil))
    exact .cons (conforms kind) (.cons (conforms simpleSet) (.cons (.present operation nofun) .nil))

theorem ofValue?_toValue (c : Characteristics) : ofValue? c.toValue = some c.canonicalTags := by
  induction c with
  | single kind simpleSet =>
    simp only [toValue, ofValue?, member?_value]
    rfl
  | combined kind simpleSet lhs rhs ihl ihr =>
    simp only [toValue, ofValue?, member?_value, ihl, ihr]
    rfl

theorem toValue_of_ofValue? {v : Value} {c : Characteristics} (h : ofValue? v = some c) :
    c.toValue = v := by
  induction c generalizing v with
  | single kind simpleSet =>
    unfold ofValue? at h
    split at h
    · simp only [Option.bind_eq_bind, Option.bind_eq_some_iff, Option.pure_def, Option.some.injEq] at h
      obtain ⟨_, kind, _, simpleSet, heq⟩ := h
      cases heq
      rw [toValue, value_of_member? kind, value_of_member? simpleSet]
    · simp only [Option.bind_eq_bind, Option.bind_eq_some_iff, Option.pure_def, Option.some.injEq] at h
      obtain ⟨_, -, _, -, _, -, _, -, heq⟩ := h
      cases heq
    · cases h
  | combined kind simpleSet lhs rhs ihl ihr =>
    unfold ofValue? at h
    split at h
    · simp only [Option.bind_eq_bind, Option.bind_eq_some_iff, Option.pure_def, Option.some.injEq] at h
      obtain ⟨_, -, _, -, heq⟩ := h
      cases heq
    · simp only [Option.bind_eq_bind, Option.bind_eq_some_iff, Option.pure_def, Option.some.injEq] at h
      obtain ⟨_, kind, _, simpleSet, _, left, _, right, heq⟩ := h
      cases heq
      rw [toValue, value_of_member? kind, value_of_member? simpleSet, ihl left, ihr right]
    · cases h

end Characteristics

instance : LawfulWire Characteristics where
  canonicalTags := Characteristics.canonicalTags
  conforms := Characteristics.conforms_toValue
  member?_value := Characteristics.ofValue?_toValue

instance : FaithfulWire Characteristics := ⟨Characteristics.toValue_of_ofValue?⟩

instance : LawfulWire Information := .ofFields

instance : FaithfulWire Information := .ofFields

/-! ### Type nodes -/

section

variable {D E U P C : Type} [Wire RecordName U] [Wire RecordName P] [Wire RecordName C]

/-- The value of an arrow whose sides are written by `write`. -/
def Arrow.writeWith (write : D → Value) (a : Arrow D) : Value := (a.map write).toValue

/-- The value of an operation whose nested types are written by `write`. -/
def OperationType.writeWith (write : D → Value) (o : OperationType D C) : Value := (o.map write value).toValue

/-- The value of a node whose nested types are written by `write`. -/
def TypeNode.writeWith (write : D → Value) (n : TypeNode D U P C) : Value :=
  (n.map write value value value).toValue

/-- The node with every tag under the name that its number has, its nested types changed by `change`. -/
def TypeNode.canonicalTags [LawfulWire U] [LawfulWire P] [LawfulWire C] (change : D → E)
    (n : TypeNode D U P C) : TypeNode E U P C :=
  { n.map change LawfulWire.canonicalTags LawfulWire.canonicalTags LawfulWire.canonicalTags with
    kind := n.kind.canonical }

/-- The arrow of a value whose sides are read by `read`. -/
def Arrow.readWith (read : Value → Option D) (v : Value) : Option (Arrow D) :=
  Arrow.ofValue? v fun w _ => read w

/-- The operation of a value whose nested types are read by `read`. -/
def OperationType.readWith (read : Value → Option D) (v : Value) : Option (OperationType D C) :=
  OperationType.ofValue? v fun w _ => read w

/-- The node of a value whose nested types are read by `read`. -/
def TypeNode.readWith (read : Value → Option D) (v : Value) : Option (TypeNode D U P C) :=
  TypeNode.ofValue? v fun w _ => read w

/-- The list of a value whose items are read by `read`. -/
def listWith (read : Value → Option D) : Value → Option (List D)
  | .list vs => Wire.listOf? read vs
  | _ => none

theorem optionValue_map {write : E → Value} (f : D → E) (o : Option D) :
    Wire.optionValue write (o.map f) = Wire.optionValue (fun d => write (f d)) o := by
  cases o <;> rfl

theorem optionalOf?_eq_optionOf? (read : Value → Option D) (v : Value) :
    (optionalOf? v fun w _ => read w) = Wire.optionOf? read v := by
  cases v <;> rfl

theorem listedOf?_eq_listWith (read : Value → Option D) (v : Value) :
    (listedOf? v fun w _ => read w) = listWith read v := by
  cases v with
  | list vs =>
    show (vs.attach.mapM fun w => read w.val) = Wire.listOf? read vs
    rw [List.mapM_subtype fun _ _ => rfl, List.unattach_attach]
    induction vs with
    | nil => rfl
    | cons v vs ih =>
      rw [List.mapM_cons, Wire.listOf?, ih]
      cases read v <;> cases Wire.listOf? read vs <;> rfl
  | _ => rfl

theorem TypeNode.writeWith_eq_record (write : D → Value) (n : TypeNode D U P C) :
    n.writeWith write = .record [value n.kind, Wire.optionValue write n.arrayType,
      Wire.optionValue (fun ts => .list (ts.map write)) n.tupleType, value n.userDefinedType,
      value n.typeParameter, Wire.optionValue (OperationType.writeWith write) n.operation,
      Wire.optionValue (Arrow.writeWith write) n.function] := by
  simp only [writeWith, toValue, map, optionValue_map]
  rfl

theorem TypeNode.readWith_record (read : Value → Option D) (kind a t u p o r : Value) :
    (readWith read (.record [kind, a, t, u, p, o, r]) : Option (TypeNode D U P C)) = do
      return ⟨← member? kind, ← Wire.optionOf? read a, ← Wire.optionOf? (listWith read) t, ← member? u,
        ← member? p, ← Wire.optionOf? (OperationType.readWith read) o,
        ← Wire.optionOf? (Arrow.readWith read) r⟩ := by
  simp only [readWith, ofValue?, listedOf?_eq_listWith, optionalOf?_eq_optionOf?]
  rfl

/-! ### Laws of type nodes -/

section

variable {write : D → Value} {shape : Shape RecordName}

theorem Arrow.conforms_writeWith {a : Arrow D} (each : ∀ d ∈ a.parts, Conforms shape (write d)) :
    Conforms (.record (RecordName.arrow shape)) (a.writeWith write) := by
  have domain := each a.domain (by simp [parts])
  have codomain := each a.codomain (by simp [parts])
  exact conforms_record (.cons domain (.cons codomain .nil))

theorem OperationType.conforms_writeWith [LawfulWire C] {o : OperationType D C}
    (each : ∀ d ∈ o.arrow.parts, Conforms shape (write d)) :
    Conforms (.record (RecordName.operationType shape (shapeOf C))) (o.writeWith write) :=
  conforms_record (.cons (Arrow.conforms_writeWith each) (.cons (conforms o.characteristics) .nil))

theorem TypeNode.conforms_writeWith [LawfulWire U] [LawfulWire P] [LawfulWire C] [NeverAbsent U]
    [NeverAbsent P] {n : TypeNode D U P C}
    (each : ∀ d ∈ n.parts, Conforms shape (write d) ∧ write d ≠ .absent) :
    Conforms (.record (RecordName.typeNode shape (shapeOf U) (shapeOf P) (shapeOf C)))
      (n.writeWith write) := by
  obtain ⟨arrays, tuples, operations, functions⟩ := forall_mem_parts.mp each
  have array := conforms_optionValue arrays
  have tuple : Conforms (.nullable (.list shape))
      (Wire.optionValue (fun ts => .list (ts.map write)) n.tupleType) := by
    refine conforms_optionValue fun ts hts => ⟨.list fun v hv => ?_, nofun⟩
    obtain ⟨d, hd, rfl⟩ := List.mem_map.mp hv
    exact (tuples ts hts d hd).1
  have operation : Conforms (.nullable (.record (RecordName.operationType shape (shapeOf C))))
      (Wire.optionValue (OperationType.writeWith write) n.operation) :=
    conforms_optionValue fun o ho =>
      ⟨OperationType.conforms_writeWith fun d hd => (operations o ho d hd).1, nofun⟩
  have function : Conforms (.nullable (.record (RecordName.arrow shape)))
      (Wire.optionValue (Arrow.writeWith write) n.function) :=
    conforms_optionValue fun r hr => ⟨Arrow.conforms_writeWith fun d hd => (functions r hr d hd).1, nofun⟩
  rw [writeWith_eq_record]
  exact conforms_record (.cons (conforms n.kind) (.cons array (.cons tuple (.cons (conforms n.userDefinedType)
    (.cons (conforms n.typeParameter) (.cons operation (.cons function .nil)))))))

end

section

variable {write : D → Value} {read : Value → Option E} {change : D → E}

theorem Arrow.readWith_writeWith {a : Arrow D}
    (each : ∀ d ∈ a.parts, read (write d) = some (change d)) :
    readWith read (a.writeWith write) = some (a.map change) := by
  have domain := each a.domain (by simp [parts])
  have codomain := each a.codomain (by simp [parts])
  simp only [readWith, writeWith, toValue, map, ofValue?, domain, codomain]
  rfl

theorem OperationType.readWith_writeWith [LawfulWire C] {o : OperationType D C}
    (each : ∀ d ∈ o.arrow.parts, read (write d) = some (change d)) :
    readWith read (o.writeWith write) = some (o.map change LawfulWire.canonicalTags) := by
  have arrow : (Arrow.ofValue? (o.arrow.map write).toValue fun w _ => read w) = some (o.arrow.map change) :=
    Arrow.readWith_writeWith each
  simp only [readWith, writeWith, toValue, map, ofValue?, arrow, member?_value]
  rfl

theorem TypeNode.readWith_writeWith [LawfulWire U] [LawfulWire P] [LawfulWire C] [NeverAbsent U]
    [NeverAbsent P] {n : TypeNode D U P C}
    (each : ∀ d ∈ n.parts, read (write d) = some (change d) ∧ write d ≠ .absent) :
    readWith read (n.writeWith write) = some (n.canonicalTags change) := by
  obtain ⟨arrays, tuples, operations, functions⟩ := forall_mem_parts.mp each
  have array := optionOf?_optionValue arrays
  have tuple : Wire.optionOf? (listWith read)
      (Wire.optionValue (fun ts => .list (ts.map write)) n.tupleType) = some (n.tupleType.map (List.map change)) :=
    optionOf?_optionValue fun ts hts => ⟨listOf?_map fun d hd => (tuples ts hts d hd).1, nofun⟩
  have operation : Wire.optionOf? (OperationType.readWith read)
      (Wire.optionValue (OperationType.writeWith write) n.operation) =
        some (n.operation.map (OperationType.map change LawfulWire.canonicalTags)) :=
    optionOf?_optionValue fun o ho =>
      ⟨OperationType.readWith_writeWith fun d hd => (operations o ho d hd).1, nofun⟩
  have function : Wire.optionOf? (Arrow.readWith read) (Wire.optionValue (Arrow.writeWith write) n.function) =
      some (n.function.map (Arrow.map change)) :=
    optionOf?_optionValue fun r hr => ⟨Arrow.readWith_writeWith fun d hd => (functions r hr d hd).1, nofun⟩
  rw [writeWith_eq_record, readWith_record, array, tuple, operation, function]
  simp only [member?_value]
  rfl

end

section

variable {write : D → Value} {read : Value → Option D}

theorem Arrow.writeWith_of_readWith {v : Value} {a : Arrow D} (h : readWith read v = some a)
    (each : ∀ d ∈ a.parts, ∀ w, read w = some d → write d = w) : a.writeWith write = v := by
  simp only [readWith, ofValue?] at h
  split at h
  · simp only [Option.bind_eq_bind, Option.bind_eq_some_iff, Option.pure_def, Option.some.injEq] at h
    obtain ⟨domain, hd, codomain, hc, rfl⟩ := h
    rw [← each domain (by simp [parts]) _ hd, ← each codomain (by simp [parts]) _ hc]
    rfl
  · cases h

theorem OperationType.writeWith_of_readWith [FaithfulWire C] {v : Value} {o : OperationType D C}
    (h : readWith read v = some o) (each : ∀ d ∈ o.arrow.parts, ∀ w, read w = some d → write d = w) :
    o.writeWith write = v := by
  simp only [readWith, ofValue?] at h
  split at h
  · simp only [Option.bind_eq_bind, Option.bind_eq_some_iff, Option.pure_def, Option.some.injEq] at h
    obtain ⟨arrow, ha, characteristics, hc, rfl⟩ := h
    rw [← Arrow.writeWith_of_readWith ha each, ← value_of_member? hc]
    rfl
  · cases h

theorem TypeNode.writeWith_of_readWith [FaithfulWire U] [FaithfulWire P] [FaithfulWire C] {v : Value}
    {n : TypeNode D U P C} (h : readWith read v = some n)
    (each : ∀ d ∈ n.parts, ∀ w, read w = some d → write d = w) : n.writeWith write = v := by
  by_cases record : ∃ kind a t u p o r, v = .record [kind, a, t, u, p, o, r]
  · obtain ⟨_, _, _, _, _, _, _, rfl⟩ := record
    rw [readWith_record] at h
    simp only [Option.bind_eq_bind, Option.bind_eq_some_iff, Option.pure_def, Option.some.injEq] at h
    obtain ⟨_, kind, _, array, _, tuple, _, userDefined, _, parameter, _, operation, _, function, rfl⟩ := h
    obtain ⟨arrays, tuples, operations, functions⟩ := forall_mem_parts.mp each
    rw [writeWith_eq_record, value_of_member? kind, value_of_member? userDefined, value_of_member? parameter,
      optionValue_of_optionOf? array arrays,
      optionValue_of_optionOf? operation fun o ho w hw =>
        OperationType.writeWith_of_readWith hw (operations o ho),
      optionValue_of_optionOf? function fun r hr w hw => Arrow.writeWith_of_readWith hw (functions r hr),
      optionValue_of_optionOf? tuple]
    intro ts hts w hw
    unfold listWith at hw
    split at hw
    · exact congrArg Value.list (map_of_listOf? hw (tuples ts hts))
    · cases hw
  · -- no other value is a node
    unfold readWith ofValue? at h
    split at h
    · exact absurd ⟨_, _, _, _, _, _, _, rfl⟩ record
    · cases h

end

instance [Wire RecordName D] [LawfulWire D] [LawfulWire U] [LawfulWire P] [LawfulWire C] [NeverAbsent D]
    [NeverAbsent U] [NeverAbsent P] : LawfulWire (TypeNode D U P C) where
  canonicalTags := TypeNode.canonicalTags canonicalTags
  conforms _ := TypeNode.conforms_writeWith fun d _ => ⟨conforms d, value_ne_absent d⟩
  member?_value _ := TypeNode.readWith_writeWith fun d _ => ⟨member?_value d, value_ne_absent d⟩

end

/-! ### Types -/

namespace ResolvedType

def canonicalTags : ResolvedType → ResolvedType := fold fun n => mk (n.canonicalTags id)

theorem canonicalTags_mk (n : ResolvedTypeNode) :
    (mk n).canonicalTags = mk (n.canonicalTags canonicalTags) := by
  rw [canonicalTags, fold_mk, ← canonicalTags, TypeNode.canonicalTags, TypeNode.mapParts, TypeNode.map_map]
  rfl

theorem toValue_mk (n : ResolvedTypeNode) : (mk n).toValue = .record [n.writeWith toValue] := by
  rw [toValue, fold_mk, ← toValue, TypeNode.mapParts, TypeNode.map_map]
  rfl

theorem ofValue?_record (v : Value) : ofValue? (.record [v]) = (TypeNode.readWith ofValue? v).map mk := by
  rw [ofValue?, Option.map_eq_bind]
  rfl

theorem toValue_ne_absent (t : ResolvedType) : t.toValue ≠ .absent := by
  obtain ⟨n⟩ := t
  rw [toValue_mk]
  exact nofun

theorem conforms_toValue (t : ResolvedType) : Conforms (shapeOf ResolvedType) t.toValue := by
  induction t using ResolvedType.induction with
  | node n ih =>
    rw [toValue_mk]
    have node := TypeNode.conforms_writeWith fun t ht => ⟨ih t ht, t.toValue_ne_absent⟩
    exact conforms_record (.cons node .nil)

theorem ofValue?_toValue (t : ResolvedType) : ofValue? t.toValue = some t.canonicalTags := by
  induction t using ResolvedType.induction with
  | node n ih =>
    rw [toValue_mk, ofValue?_record, canonicalTags_mk,
      TypeNode.readWith_writeWith fun t ht => ⟨ih t ht, t.toValue_ne_absent⟩, Option.map_some]

theorem toValue_of_ofValue? {v : Value} {t : ResolvedType} (h : ofValue? v = some t) : t.toValue = v := by
  -- the nested types are parts of the type that is read, whatever value they come from
  induction t using ResolvedType.induction generalizing v with
  | node n ih =>
    by_cases record : ∃ node, v = .record [node]
    · obtain ⟨node, rfl⟩ := record
      rw [ofValue?_record, Option.map_eq_some_iff] at h
      obtain ⟨m, hm, heq⟩ := h
      cases heq
      rw [toValue_mk, TypeNode.writeWith_of_readWith hm fun t ht w hw => ih t ht hw]
    · unfold ofValue? at h
      split at h
      · exact absurd ⟨_, rfl⟩ record
      · cases h

end ResolvedType

instance : LawfulWire ResolvedType where
  canonicalTags := ResolvedType.canonicalTags
  conforms := ResolvedType.conforms_toValue
  member?_value := ResolvedType.ofValue?_toValue

instance : FaithfulWire ResolvedType := ⟨ResolvedType.toValue_of_ofValue?⟩

instance : NeverAbsent ResolvedType := ⟨ResolvedType.toValue_ne_absent⟩

end ProgramInterchange.Record
