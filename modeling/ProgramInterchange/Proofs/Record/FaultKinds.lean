import ProgramInterchange.Proofs.Record.Faults

/-!
# Kinds of faults

A record that becomes no tree has an unknown tag, a payload that is absent, or an identifier without characters.
Its faults are never those of a text or of a configuration.
-/

namespace ProgramInterchange

/-- The fault can be one of a record. -/
def Fault.OfRecord : Fault → Prop
  | .unsupportedVariant .. => True
  | .missingPayload .. => True
  | .emptyIdentifier _ => True
  | .wire _ => False
  | .unreadable => False
  | .configuration => False

/-- All faults can be those of a record. -/
def OfRecord (faults : List Fault) : Prop := ∀ fault ∈ faults, fault.OfRecord

namespace OfRecord

theorem none : OfRecord [] := List.forall_mem_nil _

theorem one {fault : Fault} (h : fault.OfRecord) : OfRecord [fault] := List.forall_mem_singleton.mpr h

theorem append {first second : List Fault} (hf : OfRecord first) (hs : OfRecord second) :
    OfRecord (first ++ second) :=
  List.forall_mem_append.mpr ⟨hf, hs⟩

theorem flatten {lists : List (List Fault)} (h : ∀ faults ∈ lists, OfRecord faults) :
    OfRecord lists.flatten := by
  intro fault hf
  obtain ⟨faults, member, here⟩ := List.mem_flatten.mp hf
  exact h faults member fault here

theorem flatMap {α : Type} {faults : α → List Fault} (h : ∀ a, OfRecord (faults a)) (as : List α) :
    OfRecord (as.flatMap faults) := by
  intro fault hf
  obtain ⟨a, -, here⟩ := List.mem_flatMap.mp hf
  exact h a fault here

end OfRecord

theorem Reports.ofRecord {α : Type} {x : Except Fault α} {faults : List Fault} (h : Reports x faults)
    (all : OfRecord faults) {fault : Fault} (hx : x = .error fault) : fault.OfRecord :=
  all fault (List.mem_of_mem_head? ((h.iff.2 fault).mp hx))

/-! ### Names and references -/

theorem ofRecord_identifierFaults (field name : String) : OfRecord (identifierFaults field name) := by
  unfold identifierFaults
  split
  · exact .one trivial
  · exact .none

theorem QualifiedName.ofRecord_faults (q : QualifiedName) : OfRecord q.faults :=
  (ofRecord_identifierFaults _ _).append (ofRecord_identifierFaults _ _)

theorem UserDefinedType.ofRecord_faults (u : UserDefinedType) : OfRecord u.faults :=
  (ofRecord_identifierFaults _ _).append (ofRecord_identifierFaults _ _)

theorem TypeParameter.ofRecord_faults (p : TypeParameter) : OfRecord p.faults :=
  p.origin.ofRecord_faults.append (ofRecord_identifierFaults _ _)

namespace Record

variable {α : Type}

/-! ### Tags and payloads -/

theorem ofRecord_tagFaults [DecidableEq α] [Coded α] (kind : String) (t : Tag α) :
    OfRecord (tagFaults kind t) := by
  cases t with
  | known a => exact .none
  | unrecognized c => exact .one trivial

theorem ofRecord_payloadFaults {kind variant : String} {payload : Option α} {faults : α → List Fault}
    (h : ∀ a ∈ payload, OfRecord (faults a)) : OfRecord (payloadFaults kind variant payload faults) := by
  cases payload with
  | none => exact .one trivial
  | some a => exact h a rfl

theorem ofRecord_fieldFaults {faults : α → List Fault} (h : ∀ a, OfRecord (faults a)) (field : Option α) :
    OfRecord (fieldFaults field faults) := by
  cases field with
  | none => exact .none
  | some a => exact h a

/-! ### Types -/

theorem Characteristics.ofRecord_nodeFaults (kind : Tag CharacteristicsTag)
    (simpleSet : Option (Tag Tree.OpProperty)) {operands : List Fault} (h : OfRecord operands) :
    OfRecord (nodeFaults kind simpleSet operands) := by
  obtain (_ | _ | _ | _ | _) | code := kind
  · exact .none
  · exact ofRecord_payloadFaults fun t _ => ofRecord_tagFaults "OpProperty" t
  · exact h
  · exact h
  · exact .none
  · exact .one trivial

theorem Characteristics.ofRecord_faults (c : Characteristics) : OfRecord c.faults := by
  induction c with
  | single kind simpleSet => exact ofRecord_nodeFaults kind simpleSet (.one trivial)
  | combined kind simpleSet lhs rhs ihl ihr => exact ofRecord_nodeFaults kind simpleSet (ihl.append ihr)

theorem TypeNode.ofRecord_faults
    {n : TypeNode (List Fault) UserDefinedType TypeParameter Information}
    (parts : ∀ faults ∈ n.parts, OfRecord faults) : OfRecord n.faults := by
  obtain ⟨kind, arrayType, tupleType, userDefinedType, typeParameter, operation, function⟩ := n
  obtain (type | _ | _ | _ | _ | _ | _) | code := kind
  · exact .none
  · exact ofRecord_payloadFaults fun faults hf => parts faults (by simp_all [TypeNode.parts])
  · refine ofRecord_payloadFaults fun items hi => ?_
    split
    · exact .one trivial
    · exact .flatten fun faults hf => parts faults (by simp_all [TypeNode.parts])
  · exact ofRecord_payloadFaults fun u _ => u.ofRecord_faults
  · exact ofRecord_payloadFaults fun p _ => p.ofRecord_faults
  · refine ofRecord_payloadFaults fun o ho => ?_
    have domain := parts o.arrow.domain (by simp_all [TypeNode.parts, Arrow.parts])
    have codomain := parts o.arrow.codomain (by simp_all [TypeNode.parts, Arrow.parts])
    exact domain.append (codomain.append o.characteristics.characteristics.ofRecord_faults)
  · refine ofRecord_payloadFaults fun a ha => ?_
    have domain := parts a.domain (by simp_all [TypeNode.parts, Arrow.parts])
    have codomain := parts a.codomain (by simp_all [TypeNode.parts, Arrow.parts])
    exact domain.append codomain
  · exact .one trivial

theorem ResolvedType.ofRecord_faults (t : ResolvedType) : OfRecord t.faults := by
  induction t using ResolvedType.induction with
  | node n ih =>
    rw [faults, fold_mk, ← faults]
    refine TypeNode.ofRecord_faults fun fs hf => ?_
    rw [TypeNode.parts_mapParts] at hf
    obtain ⟨t, ht, rfl⟩ := List.mem_map.mp hf
    exact ih t ht

/-! ### Tuples -/

theorem Tuple.ofRecord_nodeFaults {f : α → List Fault} (each : ∀ a, OfRecord (f a)) (kind : Tag TupleTag)
    (item : Option α) {members : List Fault} (h : OfRecord members) :
    OfRecord (nodeFaults kind item f members) := by
  obtain (_ | _) | code := kind
  · exact ofRecord_payloadFaults fun a _ => each a
  · exact h
  · exact .one trivial

theorem Tuple.ofRecord_faults {f : α → List Fault} (each : ∀ a, OfRecord (f a)) (t : Tuple α) :
    OfRecord (t.faults f) := by
  induction t using Tuple.induction with
  | single kind item => exact ofRecord_nodeFaults each kind item (.one trivial)
  | grouped kind item items ih =>
    have members : OfRecord (faultsOf f items) := by
      rw [faultsOf_eq_flatMap, List.flatMap_def]
      refine .flatten fun faults hf => ?_
      obtain ⟨t, ht, rfl⟩ := List.mem_map.mp hf
      exact ih t ht
    exact ofRecord_nodeFaults each kind item members

/-! ### Declarations -/

theorem LocalSymbol.ofRecord_faults (s : LocalSymbol) : OfRecord s.faults := by
  obtain ⟨(_ | _) | code, name⟩ := s
  · exact ofRecord_payloadFaults fun n _ => ofRecord_identifierFaults _ n
  · exact .none
  · exact .one trivial

theorem ofRecord_argumentFaults (v : LocalVariable LocalSymbol ResolvedType) : OfRecord (argumentFaults v) :=
  v.variableName.ofRecord_faults.append v.resolvedType.ofRecord_faults

theorem TypeItem.ofRecord_faults (i : TypeItem) : OfRecord i.faults := by
  obtain ⟨(_ | _) | code, named, anonymous⟩ := i
  · exact ofRecord_payloadFaults fun v _ =>
      (ofRecord_identifierFaults _ _).append v.resolvedType.ofRecord_faults
  · exact ofRecord_payloadFaults fun t _ => t.ofRecord_faults
  · exact .one trivial

theorem ofRecord_attributesFaults (attributes : Option (List Attribute)) :
    OfRecord (attributesFaults attributes) := by
  have each (a : Attribute) : OfRecord a.faults := ofRecord_fieldFaults UserDefinedType.ofRecord_faults a.typeId
  exact ofRecord_fieldFaults (OfRecord.flatMap each) attributes

theorem ofRecord_modifiersFaults (modifiers : Option Modifiers) :
    OfRecord (fieldFaults modifiers Modifiers.faults) := by
  have each (m : Modifiers) : OfRecord m.faults := ofRecord_tagFaults "AccessModifier" m.access
  exact ofRecord_fieldFaults each modifiers

theorem ofRecord_signatureFaults (s : ResolvedSignature) : OfRecord (signatureFaults s) := by
  have parameters := OfRecord.flatMap LocalSymbol.ofRecord_faults s.typeParameters
  have information := s.information.characteristics.ofRecord_faults
  exact parameters.append (s.argumentType.ofRecord_faults.append
    (s.returnType.ofRecord_faults.append information))

theorem Callable.ofRecord_faults (c : Callable) : OfRecord c.faults := by
  have signature := ofRecord_fieldFaults ofRecord_signatureFaults c.signature
  have arguments := ofRecord_fieldFaults (Tuple.ofRecord_faults ofRecord_argumentFaults) c.argumentTuple
  have kind := ofRecord_tagFaults "CallableKind" c.kind
  have attributes := ofRecord_attributesFaults c.attributes
  have modifiers := ofRecord_modifiersFaults c.modifiers
  exact signature.append (arguments.append (kind.append (c.fullName.ofRecord_faults.append
    (attributes.append modifiers))))

theorem CustomType.ofRecord_faults (t : CustomType) : OfRecord t.faults := by
  have type := ofRecord_fieldFaults ResolvedType.ofRecord_faults t.underlyingType
  have items := ofRecord_fieldFaults (Tuple.ofRecord_faults TypeItem.ofRecord_faults) t.typeItems
  have attributes := ofRecord_attributesFaults t.attributes
  have modifiers := ofRecord_modifiersFaults t.modifiers
  exact type.append (items.append (t.fullName.ofRecord_faults.append (attributes.append modifiers)))

theorem NamespaceElement.ofRecord_faults (e : NamespaceElement) : OfRecord e.faults := by
  obtain ⟨(_ | _) | code, callable, customType⟩ := e
  · exact ofRecord_payloadFaults fun c _ => c.ofRecord_faults
  · exact ofRecord_payloadFaults fun t _ => t.ofRecord_faults
  · exact .one trivial

/-! ### Programs -/

theorem Namespace.ofRecord_faults (n : Namespace) : OfRecord n.faults :=
  (ofRecord_identifierFaults _ _).append (OfRecord.flatMap NamespaceElement.ofRecord_faults n.elements)

theorem Program.ofRecord_faults (p : Program) : OfRecord p.faults :=
  OfRecord.flatMap Namespace.ofRecord_faults p.namespaces

/-- A record that becomes no tree is at fault itself. -/
theorem Program.ofRecord_of_toTree_eq_error {p : Program} {fault : Fault} (h : p.toTree = .error fault) :
    fault.OfRecord := by
  have namespaces : Reports (p.namespaces.mapM Namespace.toTree) p.faults := .mapM fun n _ => n.toTree_reports
  rw [toTree_eq] at h
  exact (namespaces.map _).ofRecord p.ofRecord_faults h

end Record

end ProgramInterchange
