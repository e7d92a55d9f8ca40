import ProgramInterchange.Interchange
import ProgramInterchange.Proofs.Conversion.Sound
import ProgramInterchange.Proofs.Json.Injective
import ProgramInterchange.Proofs.Record.Lawful.Inner
import ProgramInterchange.Proofs.Tree.Members

/-!
# The members that are written

The text of a program is that of one document, and every object in it has the members of its node: the record of
a tree fills the fields of its node, and what it leaves empty is left out or `null` as the layout of the record says.
-/

namespace ProgramInterchange.Tree

open ProgramInterchange.Record (RecordName NeverAbsent value shapeOf layout)
open ProgramInterchange.Record.NeverAbsent (value_ne_absent)
open ProgramInterchange.Wire

variable {profile : Profile}

/-! ### Records -/

/-- The fields with these values are written as these members. -/
def FieldsWritten (profile : Profile) (fields : List (Wire.Field RecordName)) (values : List Value)
    (members : List (String × Part)) : Prop :=
  List.Forall₂ (fun member entry => member.1 = entry.1 ∧ Written profile member.2 entry.2) members
    (Wire.members fields values)

theorem Written.of_forall₂ {node : Node} {members : List (String × Json)}
    (h : List.Forall₂ (fun member entry => member.1 = entry.1 ∧ Written profile member.2 entry.2)
      (node.members profile) members) : Written profile (.object node) (.object members) := by
  have both : members.map Prod.fst = node.keys profile ∧
      ∀ entry ∈ (node.parts profile).zip (members.map Prod.snd), Written profile entry.1 entry.2 := by
    rw [Node.keys, Node.parts]
    generalize node.members profile = listed at h
    induction h with
    | nil => simp
    | cons head tail ih =>
      obtain ⟨key, part⟩ := head
      obtain ⟨keys, parts⟩ := ih
      refine ⟨?_, List.forall_mem_cons.mpr ⟨part, parts⟩⟩
      rw [List.map_cons, List.map_cons, keys, key]
  exact .object both.1 both.2

section

variable {members : List (String × Part)} {f : Wire.Field RecordName} {fields : List (Wire.Field RecordName)} {v : Value}
  {values : List Value}

theorem leftOut_value {α : Type} [Wire RecordName α] [NeverAbsent α] (a : α) : leftOut f (value a) = false :=
  Bool.eq_false_iff.mpr fun left => value_ne_absent a (eq_absent_of_leftOut left)

namespace FieldsWritten

theorem nil : FieldsWritten profile [] [] [] := List.Forall₂.nil

theorem cons {part : Part} (kept : leftOut f v = false) (written : Written profile part (document f.shape.base v))
    (more : FieldsWritten profile fields values members) :
    FieldsWritten profile (f :: fields) (v :: values) ((f.key, part) :: members) := by
  have head : Wire.members (f :: fields) (v :: values) = (f.key, document f.shape v) :: Wire.members fields values := by
    rw [members_eq_map, members_eq_map, written_cons, kept]
    rfl
  rw [FieldsWritten, head]
  rw [document_base] at written
  exact .cons ⟨rfl, written⟩ more

theorem skip (left : leftOut f v = true) (more : FieldsWritten profile fields values members) :
    FieldsWritten profile (f :: fields) (v :: values) members := by
  have same : Wire.members (f :: fields) (v :: values) = Wire.members fields values := by
    rw [members_eq_map, members_eq_map, written_cons, left]
    rfl
  rw [FieldsWritten, same]
  exact more

/-- Fields that are all left out. -/
theorem skips (left : fields.all (leftOut · .absent) = true) :
    FieldsWritten profile fields (fields.map fun _ => .absent) [] := by
  induction fields with
  | nil => exact nil
  | cons f fields ih =>
    obtain ⟨head, tail⟩ := Bool.and_eq_true_iff.mp left
    exact skip head (ih tail)

/-- A field that is `null` where it is absent. -/
theorem nullable {α : Type} [Wire RecordName α] [NeverAbsent α] {o : Option α} {node : α → Node}
    (kept : leftOut f .absent = false)
    (written : ∀ a ∈ o, Written profile (.object (node a)) (document f.shape.base (value a)))
    (more : FieldsWritten profile fields values members) :
    FieldsWritten profile (f :: fields) (value o :: values) ((f.key, .nullable (o.map node)) :: members) := by
  cases o with
  | none =>
    have null : document f.shape.base .absent = .null := rfl
    exact cons kept (null ▸ .null) more
  | some a => exact cons (leftOut_value a) (.present (written a rfl)) more

theorem written {node : Node} {name : RecordName}
    (h : FieldsWritten profile (layout name).fields values (node.members profile)) :
    Written profile (.object node) (document (.record name) (.record values)) := by
  rw [document]
  exact Written.of_forall₂ h

end FieldsWritten

end

theorem tag_written {α : Type} [DecidableEq α] [Coded α] (a : α) :
    Written profile (.tag a) (toJson RecordName (Tag.known a)) := .code (Coded.code a)

theorem texts_written (lines : List String) : Written profile (.texts lines) (toJson RecordName lines) := by
  have items : toJson RecordName lines = .array (lines.map .text) := by
    show Json.array (documents (.text : Shape RecordName) (lines.map value)) = _
    rw [documents_eq_map, List.map_map]
    rfl
  rw [items]
  exact .texts lines

theorem objects_written {α β : Type} [Wire RecordName β] {node : α → Node} {g : α → β} {as : List α}
    (each : ∀ a ∈ as, Written profile (.object (node a)) (toJson RecordName (g a))) :
    Written profile (.objects (as.map node)) (toJson RecordName (as.map g)) := by
  have items : toJson RecordName (as.map g) = .array (as.map fun a => toJson RecordName (g a)) := by
    show Json.array (documents (shapeOf β) ((as.map g).map value)) = _
    rw [documents_eq_map, List.map_map, List.map_map]
    rfl
  rw [items]
  refine .objects (by simp) ?_
  rw [List.zip_map']
  simpa using each

/-! ### Places and names -/

theorem position_written (p : Position) : Written profile (.object (.position p)) (toJson RecordName p) :=
  FieldsWritten.written (.cons rfl (.count p.line) (.cons rfl (.count p.column) .nil))

theorem range_written (r : Range) : Written profile (.object (.range r)) (toJson RecordName r) :=
  FieldsWritten.written (.cons rfl (position_written r.start) (.cons rfl (position_written r.stop) .nil))

theorem location_written (l : Location) : Written profile (.object (.location l)) (toJson RecordName l) :=
  FieldsWritten.written (.cons rfl (position_written l.offset) (.cons rfl (range_written l.range) .nil))

theorem comments_written (c : Comments) : Written profile (.object (.comments c)) (toJson RecordName c) :=
  FieldsWritten.written (.cons rfl (texts_written c.opening) (.cons rfl (texts_written c.closing) .nil))

theorem qualifiedName_written (q : QualifiedName) :
    Written profile (.object (.qualifiedName q)) (toJson RecordName q) :=
  FieldsWritten.written (.cons rfl (.text q.space) (.cons rfl (.text q.name) .nil))

theorem userDefinedType_written (u : UserDefinedType) :
    Written profile (.object (.userDefinedType u)) (toJson RecordName u) := by
  apply FieldsWritten.written
  refine .cons rfl (.text u.space) ?_
  refine .cons rfl (.text u.name) ?_
  exact .nullable rfl (fun r _ => range_written r) .nil

theorem typeParameter_written (p : TypeParameter) :
    Written profile (.object (.typeParameter p)) (toJson RecordName p) := by
  apply FieldsWritten.written
  refine .cons rfl (qualifiedName_written p.origin) ?_
  refine .cons rfl (.text p.typeName) ?_
  exact .nullable rfl (fun r _ => range_written r) .nil

theorem inferredCallable_written (i : InferredCallableInformation) :
    Written profile (.object (.inferredCallable i)) (toJson RecordName i) :=
  FieldsWritten.written (.cons rfl (.flag i.isSelfAdjoint) (.cons rfl (.flag i.isIntrinsic) .nil))

theorem inferredExpression_written (i : InferredExpressionInformation) :
    Written profile (.object (.inferredExpression i)) (toJson RecordName i) :=
  FieldsWritten.written (.cons rfl (.flag i.isMutable) (.cons rfl (.flag i.hasLocalQuantumDependency) .nil))

/-! ### Characteristics and types -/

theorem setOperation_written {lhs rhs : Characteristics}
    (left : Written profile (.object (.characteristics lhs)) (toJson RecordName lhs.toRecord))
    (right : Written profile (.object (.characteristics rhs)) (toJson RecordName rhs.toRecord)) :
    Written profile (.object (.setOperation lhs rhs))
      (toJson RecordName (⟨lhs.toRecord, rhs.toRecord⟩ : Record.SetOperation)) :=
  FieldsWritten.written (.cons (leftOut_value _) left (.cons (leftOut_value _) right .nil))

theorem characteristics_of_expression {c : Characteristics}
    (h : Written profile (.object (.expression c)) (toJson RecordName c.toRecord.expression)) :
    Written profile (.object (.characteristics c)) (toJson RecordName c.toRecord) := by
  have record : value c.toRecord = .record [value c.toRecord.expression] :=
    Record.Characteristics.value_eq c.toRecord
  rw [toJson, ← value, record]
  exact FieldsWritten.written (.cons rfl h .nil)

theorem characteristics_written (c : Characteristics) :
    Written profile (.object (.characteristics c)) (toJson RecordName c.toRecord) := by
  induction c with
  | emptySet =>
    apply characteristics_of_expression
    exact FieldsWritten.written (.cons rfl (tag_written _) (.skips rfl))
  | simpleSet property =>
    apply characteristics_of_expression
    exact FieldsWritten.written (.cons rfl (tag_written _) (.cons rfl (tag_written property) (.skips rfl)))
  | union lhs rhs ihl ihr =>
    have sides := setOperation_written ihl ihr
    apply characteristics_of_expression
    exact FieldsWritten.written (.cons rfl (tag_written _) (.skip rfl (.cons rfl sides .nil)))
  | intersection lhs rhs ihl ihr =>
    have sides := setOperation_written ihl ihr
    apply characteristics_of_expression
    exact FieldsWritten.written (.cons rfl (tag_written _) (.skip rfl (.cons rfl sides .nil)))
  | invalid =>
    apply characteristics_of_expression
    exact FieldsWritten.written (.cons rfl (tag_written _) (.skips rfl))

theorem information_written (i : CallableInformation Characteristics) :
    Written profile (.object (.information i)) (toJson RecordName (informationToRecord i)) := by
  apply FieldsWritten.written
  refine .cons (leftOut_value _) (characteristics_written i.characteristics) ?_
  exact .cons rfl (inferredCallable_written i.inferred) .nil

theorem arrow_written {domain codomain : ResolvedType}
    (left : Written profile (.object (.type domain)) (toJson RecordName domain.toRecord))
    (right : Written profile (.object (.type codomain)) (toJson RecordName codomain.toRecord)) :
    Written profile (.object (.arrow domain codomain))
      (toJson RecordName (⟨domain.toRecord, codomain.toRecord⟩ : Record.Arrow Record.ResolvedType)) :=
  FieldsWritten.written (.cons (leftOut_value _) left (.cons (leftOut_value _) right .nil))

/-- A type node is written with the payload of its tag, given that its nested types are written. -/
theorem typeKind_written {kind : ResolvedTypeKind}
    (each : ∀ t ∈ kind.parts, Written profile (.object (.type t)) (toJson RecordName t.toRecord)) :
    Written profile (.object (.typeKind kind))
      (toJson RecordName (Id.run ((typeWriter ResolvedType.toRecord).toNode kind))) := by
  rw [toJson, ← value, Record.TypeNode.value_eq]
  apply FieldsWritten.written
  -- behind the tag, the fields before and after the payload of the tag are left out
  cases kind with
  | leaf type => exact .cons rfl (tag_written _) (.skips rfl)
  | array item =>
    have inside := each item (by simp [TypeKind.parts])
    refine .cons rfl (tag_written _) ?_
    exact .cons (leftOut_value item.toRecord) inside (.skips rfl)
  | tuple items =>
    have inside : Written profile (.objects (items.map .type))
        (toJson RecordName (Id.run (items.mapM fun t => pure t.toRecord))) := by
      rw [List.idRun_mapM]
      exact objects_written each
    refine .cons rfl (tag_written _) (.skip rfl ?_)
    exact .cons rfl inside (.skips rfl)
  | userDefined reference =>
    refine .cons rfl (tag_written _) (.skip rfl (.skip rfl ?_))
    exact .cons rfl (userDefinedType_written reference) (.skips rfl)
  | parameter reference =>
    refine .cons rfl (tag_written _) (.skip rfl (.skip rfl (.skip rfl ?_)))
    exact .cons rfl (typeParameter_written reference) (.skips rfl)
  | operation domain codomain information =>
    have arrow := arrow_written (each domain (by simp [TypeKind.parts])) (each codomain (by simp [TypeKind.parts]))
    have inside : Written profile (.object (.operation domain codomain information)) (toJson RecordName
        (⟨⟨domain.toRecord, codomain.toRecord⟩, informationToRecord information⟩ :
          Record.OperationType Record.ResolvedType Record.Information)) :=
      FieldsWritten.written (.cons rfl arrow (.cons rfl (information_written information) .nil))
    refine .cons rfl (tag_written _) (.skip rfl (.skip rfl (.skip rfl (.skip rfl ?_))))
    exact .cons rfl inside (.skips rfl)
  | function domain codomain =>
    have arrow := arrow_written (each domain (by simp [TypeKind.parts])) (each codomain (by simp [TypeKind.parts]))
    refine .cons rfl (tag_written _) (.skip rfl (.skip rfl (.skip rfl (.skip rfl (.skip rfl ?_)))))
    exact .cons rfl arrow .nil

theorem type_written (t : ResolvedType) : Written profile (.object (.type t)) (toJson RecordName t.toRecord) := by
  induction t using ResolvedType.induction with
  | node kind ih =>
    have record (n : Record.ResolvedTypeNode) : value (Record.ResolvedType.mk n) = .record [value n] :=
      Record.ResolvedType.toValue_mk n
    rw [ResolvedType.toRecord_mk, toJson, ← value, record]
    exact FieldsWritten.written (.cons rfl (typeKind_written ih) .nil)

/-! ### Parts of declarations -/

theorem localSymbol_written (s : LocalSymbol) :
    Written profile (.object (.localSymbol s)) (toJson RecordName s.toRecord) := by
  cases s with
  | valid name => exact FieldsWritten.written (.cons rfl (tag_written _) (.cons rfl (.text name) .nil))
  | invalid => exact FieldsWritten.written (.cons rfl (tag_written _) (.skips rfl))

theorem argument_written (v : LocalVariable LocalSymbol ResolvedType) :
    Written profile (.object (.argument v)) (toJson RecordName (argumentToRecord v)) := by
  apply FieldsWritten.written
  refine .cons rfl (localSymbol_written v.variableName) ?_
  refine .cons (leftOut_value _) (type_written v.resolvedType) ?_
  refine .cons rfl (inferredExpression_written v.inferred) ?_
  refine .nullable rfl (fun p _ => position_written p) ?_
  exact .cons rfl (range_written v.range) .nil

theorem namedItem_written (v : LocalVariable String ResolvedType) :
    Written profile (.object (.namedItem v)) (toJson RecordName (v.map id ResolvedType.toRecord)) := by
  apply FieldsWritten.written
  refine .cons rfl (.text v.variableName) ?_
  refine .cons (leftOut_value _) (type_written v.resolvedType) ?_
  refine .cons rfl (inferredExpression_written v.inferred) ?_
  refine .nullable rfl (fun p _ => position_written p) ?_
  exact .cons rfl (range_written v.range) .nil

theorem typeItem_written (i : TypeItem) : Written profile (.object (.typeItem i)) (toJson RecordName i.toRecord) := by
  cases i with
  | named declaration =>
    apply FieldsWritten.written
    refine .cons rfl (tag_written _) ?_
    exact .cons rfl (namedItem_written declaration) (.skips rfl)
  | anonymous type =>
    apply FieldsWritten.written
    refine .cons rfl (tag_written _) (.skip rfl ?_)
    exact .cons (leftOut_value type.toRecord) (type_written type) .nil

/-- A tuple is written with its item or its members, given that all items are written. -/
theorem tuple_written {α β : Type} [Wire RecordName β] [NeverAbsent β] {f : α → β} {item : α → Node}
    {group : Tuple α → Node} (members : ∀ t, (group t).members profile = tupleMembers item group t)
    (each : ∀ a, Written profile (.object (item a)) (toJson RecordName (f a))) (t : Tuple α) :
    Written profile (.object (group t)) (toJson RecordName (t.toRecord f)) := by
  induction t using Tuple.induction with
  | item a =>
    -- the shape of the items is a variable here, so its base does not compute
    have inside : Written profile (.object (item a)) (document (shapeOf β).base (value (f a))) := by
      rw [document_base]
      exact each a
    rw [Tuple.toRecord_item]
    apply FieldsWritten.written
    rw [members]
    refine .cons rfl (tag_written _) ?_
    exact .cons (leftOut_value (f a)) inside (.skips rfl)
  | group ts ih =>
    have inside : Written profile (.objects (ts.map group)) (document (shapeOf (List (Record.Tuple β)))
        (.list (Record.Tuple.toValues (ts.map fun t => t.toRecord f)))) := by
      rw [Record.Tuple.toValues_eq_map]
      exact objects_written ih
    rw [Tuple.toRecord_group]
    apply FieldsWritten.written
    rw [members]
    refine .cons rfl (tag_written _) (.skip rfl ?_)
    exact .cons rfl inside .nil

theorem modifiers_written (m : Modifiers) :
    Written profile (.object (.modifiers m)) (toJson RecordName m.toRecord) :=
  FieldsWritten.written (.cons rfl (tag_written m.access) .nil)

theorem attribute_written (a : Attribute) :
    Written profile (.object (.attribute a)) (toJson RecordName a.toRecord) := by
  apply FieldsWritten.written
  refine .nullable rfl (fun u _ => userDefinedType_written u) ?_
  refine .nullable rfl (fun r _ => range_written r) ?_
  refine .cons rfl (position_written a.offset) ?_
  exact .cons rfl (comments_written a.comments) .nil

theorem signature_written (s : ResolvedSignature) :
    Written profile (.object (.signature s)) (toJson RecordName (signatureToRecord s)) := by
  apply FieldsWritten.written
  refine .cons rfl (objects_written fun p _ => localSymbol_written p) ?_
  refine .cons (leftOut_value _) (type_written s.argumentType) ?_
  refine .cons (leftOut_value _) (type_written s.returnType) ?_
  exact .cons rfl (information_written s.information) .nil

/-! ### Declarations and programs -/

theorem arguments_written (t : Tuple (LocalVariable LocalSymbol ResolvedType)) :
    Written profile (.object (.arguments t)) (toJson RecordName (t.toRecord argumentToRecord)) :=
  tuple_written (fun _ => rfl) argument_written t

theorem typeItems_written (t : Tuple TypeItem) :
    Written profile (.object (.typeItems t)) (toJson RecordName (t.toRecord TypeItem.toRecord)) :=
  tuple_written (fun _ => rfl) typeItem_written t

theorem callable_written (c : Callable) :
    Written profile (.object (.callable c)) (toJson RecordName (c.toRecord profile)) := by
  apply FieldsWritten.written
  cases profile with
  | minimal =>
    refine .cons rfl (tag_written c.kind) ?_
    refine .cons rfl (qualifiedName_written c.fullName) (.skip rfl (.skip rfl ?_))
    refine .cons rfl (.text c.sourceFile) ?_
    refine .nullable rfl (fun l _ => location_written l) (.skip rfl (.skip rfl ?_))
    refine .cons rfl (texts_written c.documentation) ?_
    exact .cons rfl (comments_written c.comments) .nil
  | full =>
    refine .cons rfl (tag_written c.kind) ?_
    refine .cons rfl (qualifiedName_written c.fullName) ?_
    refine .cons rfl (objects_written fun a _ => attribute_written a) ?_
    refine .cons rfl (modifiers_written c.modifiers) ?_
    refine .cons rfl (.text c.sourceFile) ?_
    refine .nullable rfl (fun l _ => location_written l) ?_
    refine .cons rfl (signature_written c.signature) ?_
    refine .cons (leftOut_value (c.argumentTuple.toRecord argumentToRecord)) (arguments_written c.argumentTuple) ?_
    refine .cons rfl (texts_written c.documentation) ?_
    exact .cons rfl (comments_written c.comments) .nil

theorem customType_written (t : CustomType) :
    Written profile (.object (.customType t)) (toJson RecordName (t.toRecord profile)) := by
  apply FieldsWritten.written
  cases profile with
  | minimal =>
    refine .cons rfl (qualifiedName_written t.fullName) (.skip rfl (.skip rfl ?_))
    refine .cons rfl (.text t.sourceFile) ?_
    refine .nullable rfl (fun l _ => location_written l) (.skip rfl (.skip rfl ?_))
    refine .cons rfl (texts_written t.documentation) ?_
    exact .cons rfl (comments_written t.comments) .nil
  | full =>
    refine .cons rfl (qualifiedName_written t.fullName) ?_
    refine .cons rfl (objects_written fun a _ => attribute_written a) ?_
    refine .cons rfl (modifiers_written t.modifiers) ?_
    refine .cons rfl (.text t.sourceFile) ?_
    refine .nullable rfl (fun l _ => location_written l) ?_
    refine .cons (leftOut_value t.underlyingType.toRecord) (type_written t.underlyingType) ?_
    refine .cons (leftOut_value (t.typeItems.toRecord TypeItem.toRecord)) (typeItems_written t.typeItems) ?_
    refine .cons rfl (texts_written t.documentation) ?_
    exact .cons rfl (comments_written t.comments) .nil

theorem element_written (e : NamespaceElement) :
    Written profile (.object (.element e)) (toJson RecordName (e.toRecord profile)) := by
  cases e with
  | callable declaration =>
    apply FieldsWritten.written
    refine .cons rfl (tag_written _) ?_
    exact .cons rfl (callable_written declaration) (.skips rfl)
  | customType declaration =>
    apply FieldsWritten.written
    refine .cons rfl (tag_written _) (.skip rfl ?_)
    exact .cons rfl (customType_written declaration) .nil

theorem documentationItem_written (file : String) (group : DocumentationGroup) :
    Written profile (.object (.documentationItem file group))
      (toJson RecordName (⟨file, group⟩ : Record.DocumentationItem)) :=
  FieldsWritten.written (.cons rfl (.text file) (.cons rfl (texts_written group) .nil))

theorem namespace_written (n : Namespace) :
    Written profile (.object (.namespace n)) (toJson RecordName (n.toRecord profile)) := by
  have groups : ∀ entry ∈ n.documentation.entries, Written profile (.object (.documentationItem entry.1 entry.2))
      (toJson RecordName (⟨entry.1, entry.2⟩ : Record.DocumentationItem)) :=
    fun entry _ => documentationItem_written entry.1 entry.2
  apply FieldsWritten.written
  refine .cons rfl (.text n.name) ?_
  refine .cons rfl (objects_written fun e _ => element_written e) ?_
  exact .cons rfl (objects_written groups) .nil

theorem program_written (p : Program) :
    Written profile (.object (.program p)) (toJson RecordName (p.toRecord profile)) := by
  have names : ∀ q ∈ p.entryPoints, Written profile (.object (.qualifiedName q)) (toJson RecordName (id q)) :=
    fun q _ => qualifiedName_written q
  have entryPoints := objects_written names
  rw [List.map_id] at entryPoints
  rw [Program.toRecord_eq]
  apply FieldsWritten.written
  refine .cons rfl (objects_written fun n _ => namespace_written n) ?_
  exact .cons rfl entryPoints .nil

/-- The text of a program is that of one document. Every object in it is that of a node, with exactly the keys of
the node, no key twice; `null` stands only for what is not there. -/
theorem Program.serialize_written (profile : Profile) (p : Program) :
    ∃ d : Json, (∀ e : Json, e.render = serialize profile p ↔ e = d) ∧
      Written profile (.object (.program p)) d ∧
      (∀ members, d.Contains (.object members) → ∃ node : Node, Written profile (.object node) (.object members) ∧
        members.map Prod.fst = node.keys profile ∧ (node.keys profile).Nodup) ∧
      ∀ part e, Written profile part e → (e = .null ↔ part = .nullable none) := by
  have document : Written profile (.object (.program p)) (toJson RecordName (p.toRecord profile)) :=
    program_written p
  refine ⟨toJson RecordName (p.toRecord profile), ?_, document, ?_, fun part e => Written.eq_null_iff⟩
  · intro e
    exact ⟨Json.render_injective, fun same => same ▸ rfl⟩
  · intro members inside
    obtain ⟨node, object⟩ := document.object_of_contains inside
    exact ⟨node, object, object.keys_eq, node.nodup_keys profile⟩

end ProgramInterchange.Tree
