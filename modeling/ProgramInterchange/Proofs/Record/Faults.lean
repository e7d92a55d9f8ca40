import ProgramInterchange.Proofs.Computation

/-!
# The faults of a record

The list of all faults that keep a record from becoming a tree: along the payloads that the tags select,
in the order in which they are met. Rebuilding a tree fails with the first of them, and succeeds when
there are none.
-/

namespace ProgramInterchange

/-! ### Names and references -/

/-- An identifier has a fault if it has no character. -/
def identifierFaults (field value : String) : List Fault :=
  if value = "" then [.emptyIdentifier field] else []

def QualifiedName.faults (q : QualifiedName) : List Fault :=
  identifierFaults "QualifiedName.namespace" q.space ++ identifierFaults "QualifiedName.name" q.name

def UserDefinedType.faults (u : UserDefinedType) : List Fault :=
  identifierFaults "UserDefinedType.namespace" u.space ++ identifierFaults "UserDefinedType.name" u.name

def TypeParameter.faults (p : TypeParameter) : List Fault :=
  p.origin.faults ++ identifierFaults "TypeParameter.type_name" p.typeName

theorem requireIdentifier_reports (field value : String) :
    Reports (requireIdentifier field value) (identifierFaults field value) := by
  unfold requireIdentifier identifierFaults
  split
  · exact .error _ _
  · exact .ok _

theorem QualifiedName.checked_reports (q : QualifiedName) : Reports (checked q.space q.name) q.faults :=
  (requireIdentifier_reports _ _).bind fun _ _ => (requireIdentifier_reports _ _).map _

theorem UserDefinedType.checked_reports (u : UserDefinedType) : Reports u.checked u.faults :=
  (requireIdentifier_reports _ _).bind fun _ _ => (requireIdentifier_reports _ _).map _

theorem TypeParameter.checked_reports (p : TypeParameter) : Reports p.checked p.faults :=
  p.origin.checked_reports.bind fun _ _ => (requireIdentifier_reports _ _).map _

namespace Record

variable {α β : Type}

/-! ### Tags and payloads -/

/-- A tag that has to be known has a fault if it is not. -/
def tagFaults [DecidableEq α] [Coded α] (kind : String) (t : Tag α) : List Fault :=
  match t with
  | .known _ => []
  | .unrecognized _ => [.unsupportedVariant kind t.display]

/-- The faults of a payload that its tag selects: those of the payload, or that it is absent. -/
def payloadFaults (kind variant : String) (payload : Option α) (faults : α → List Fault) : List Fault :=
  match payload with
  | some value => faults value
  | none => [.missingPayload kind variant]

/-- The faults of a field that may be absent without fault. -/
def fieldFaults (field : Option α) (faults : α → List Fault) : List Fault :=
  match field with
  | some value => faults value
  | none => []

theorem requireKnown_reports [DecidableEq α] [Coded α] (kind : String) (t : Tag α) :
    Reports (requireKnown kind t) (tagFaults kind t) := by
  cases t with
  | known a => exact .ok a
  | unrecognized code => exact .error _ _

theorem withPayload_reports {kind variant : String} {payload : Option α} {next : α → Except Fault β}
    {faults : α → List Fault} (h : ∀ a ∈ payload, Reports (next a) (faults a)) :
    Reports (withPayload kind variant payload next) (payloadFaults kind variant payload faults) := by
  cases payload with
  | none => exact .error _ _
  | some value => exact h value rfl

theorem orPlaceholder_reports (placeholder : β) {f : α → Except Fault β} {faults : α → List Fault}
    (h : ∀ a, Reports (f a) (faults a)) (field : Option α) :
    Reports (orPlaceholder placeholder f field) (fieldFaults field faults) := by
  cases field with
  | none => exact .ok placeholder
  | some value => exact h value

/-! ### Types -/

/-- The faults of a characteristics expression whose operands, if selected, have the faults given. -/
def Characteristics.nodeFaults (kind : Tag CharacteristicsTag) (simpleSet : Option (Tag Tree.OpProperty))
    (operands : List Fault) : List Fault :=
  match kind with
  | .known .emptySet => []
  | .known .invalid => []
  | .known .simpleSet =>
    payloadFaults "ResolvedCharacteristics" kind.display simpleSet (tagFaults "OpProperty")
  | .known .union => operands
  | .known .intersection => operands
  | .unrecognized _ => [.unsupportedVariant "ResolvedCharacteristics" kind.display]

def Characteristics.faults : Characteristics → List Fault
  | .single kind simpleSet =>
    nodeFaults kind simpleSet [.missingPayload "ResolvedCharacteristics" kind.display]
  | .combined kind simpleSet lhs rhs => nodeFaults kind simpleSet (lhs.faults ++ rhs.faults)

/-- The faults of a type node, from those of its nested types. -/
def TypeNode.faults (n : TypeNode (List Fault) UserDefinedType TypeParameter Information) : List Fault :=
  match n.kind with
  | .known (.leaf _) => []
  | .known .array => payloadFaults "TypeKind" n.kind.display n.arrayType id
  | .known .tuple =>
    payloadFaults "TypeKind" n.kind.display n.tupleType fun items =>
      if items = [] then [.missingPayload "TypeKind" n.kind.display] else items.flatten
  | .known .userDefined =>
    payloadFaults "TypeKind" n.kind.display n.userDefinedType UserDefinedType.faults
  | .known .parameter => payloadFaults "TypeKind" n.kind.display n.typeParameter TypeParameter.faults
  | .known .operation =>
    payloadFaults "TypeKind" n.kind.display n.operation fun operation =>
      operation.arrow.domain ++
        (operation.arrow.codomain ++ operation.characteristics.characteristics.faults)
  | .known .function =>
    payloadFaults "TypeKind" n.kind.display n.function fun arrow => arrow.domain ++ arrow.codomain
  | .unrecognized _ => [.unsupportedVariant "TypeKind" n.kind.display]

def ResolvedType.faults : ResolvedType → List Fault := ResolvedType.fold TypeNode.faults

theorem Characteristics.toTree_reports (c : Characteristics) : Reports c.toTree c.faults := by
  have property : ∀ (kind : Tag CharacteristicsTag) (p : Option (Tag Tree.OpProperty)),
      Reports (withPayload "ResolvedCharacteristics" kind.display p fun property => do
          let property ← requireKnown "OpProperty" property
          return Tree.Characteristics.simpleSet property)
        (payloadFaults "ResolvedCharacteristics" kind.display p (tagFaults "OpProperty")) := by
    intro kind p
    exact withPayload_reports fun t _ => (requireKnown_reports "OpProperty" t).map _
  induction c with
  | single kind simpleSet =>
    obtain (_ | _ | _ | _ | _) | code := kind
    · exact .ok _
    · exact property _ simpleSet
    · exact .error _ _
    · exact .error _ _
    · exact .ok _
    · exact .error _ _
  | combined kind simpleSet lhs rhs ihl ihr =>
    obtain (_ | _ | _ | _ | _) | code := kind
    · exact .ok _
    · exact property _ simpleSet
    · exact ihl.bind fun _ _ => ihr.map _
    · exact ihl.bind fun _ _ => ihr.map _
    · exact .ok _
    · exact .error _ _

theorem informationToTree_reports (i : Information) :
    Reports (informationToTree i) i.characteristics.faults :=
  i.characteristics.toTree_reports.map _

theorem toKind_reports (n : ResolvedTypeNode) (parts : ∀ t ∈ n.parts, Reports t.toTree t.faults) :
    Reports ((typeReader ResolvedType.toTree).toKind n) (n.mapParts ResolvedType.faults).faults := by
  obtain ⟨kind, arrayType, tupleType, userDefinedType, typeParameter, operation, function⟩ := n
  obtain (type | _ | _ | _ | _ | _ | _) | code := kind
  · exact .ok _
  · cases arrayType with
    | none => exact .error _ _
    | some item => exact (parts item (by simp [TypeNode.parts])).map _
  · cases tupleType with
    | none => exact .error _ _
    | some items =>
      have each : Reports (items.mapM ResolvedType.toTree) (items.map ResolvedType.faults).flatten := by
        rw [← List.flatMap_def]
        exact .mapM fun t ht => parts t (by simp [TypeNode.parts, ht])
      cases items with
      | nil => exact .error _ _
      | cons item items => exact each.map _
  · cases userDefinedType with
    | none => exact .error _ _
    | some u => exact u.checked_reports.map _
  · cases typeParameter with
    | none => exact .error _ _
    | some p => exact p.checked_reports.map _
  · rcases operation with _ | ⟨⟨domain, codomain⟩, information⟩
    · exact .error _ _
    · have hd := parts domain (by simp [TypeNode.parts, Arrow.parts])
      have hc := parts codomain (by simp [TypeNode.parts, Arrow.parts])
      exact hd.bind fun _ _ => hc.bind fun _ _ => (informationToTree_reports information).map _
  · rcases function with _ | ⟨domain, codomain⟩
    · exact .error _ _
    · have hd := parts domain (by simp [TypeNode.parts, Arrow.parts])
      have hc := parts codomain (by simp [TypeNode.parts, Arrow.parts])
      exact hd.bind fun _ _ => hc.map _
  · exact .error _ _

theorem ResolvedType.toTree_reports (t : ResolvedType) : Reports t.toTree t.faults := by
  induction t using ResolvedType.induction with
  | node n ih =>
    rw [toTree_mk, faults, fold_mk, ← faults]
    exact (toKind_reports n ih).map _

/-! ### Tuples -/

/-- The faults of a tuple record whose members, if selected, have the faults given. -/
def Tuple.nodeFaults (kind : Tag TupleTag) (item : Option α) (f : α → List Fault)
    (members : List Fault) : List Fault :=
  match kind with
  | .known .item => payloadFaults "QsTuple" kind.display item f
  | .known .group => members
  | .unrecognized _ => [.unsupportedVariant "QsTuple" kind.display]

mutual
/-- The faults of a tuple record, from those of its items. -/
def Tuple.faults (f : α → List Fault) : Tuple α → List Fault
  | .single kind item => nodeFaults kind item f [.missingPayload "QsTuple" kind.display]
  | .grouped kind item items => nodeFaults kind item f (faultsOf f items)

def Tuple.faultsOf (f : α → List Fault) : List (Tuple α) → List Fault
  | [] => []
  | t :: ts => t.faults f ++ faultsOf f ts
end

theorem Tuple.faultsOf_eq_flatMap (f : α → List Fault) (ts : List (Tuple α)) :
    faultsOf f ts = ts.flatMap (faults f) := by
  induction ts with
  | nil => rfl
  | cons t ts ih => rw [faultsOf, ih, List.flatMap_cons]

theorem Tuple.toTreeM_reports {f : α → Except Fault β} {faults : α → List Fault}
    (each : ∀ a, Reports (f a) (faults a)) (t : Tuple α) : Reports (t.toTreeM f) (t.faults faults) := by
  have item : ∀ (kind : Tag TupleTag) (i : Option α),
      Reports (withPayload "QsTuple" kind.display i fun value => do
          let value ← f value
          return Tree.Tuple.item value)
        (payloadFaults "QsTuple" kind.display i faults) := by
    intro kind i
    exact withPayload_reports fun a _ => (each a).map _
  induction t using Tuple.induction with
  | single kind i =>
    obtain (_ | _) | code := kind
    · exact item _ i
    · exact .error _ _
    · exact .error _ _
  | grouped kind i items ih =>
    obtain (_ | _) | code := kind
    · exact item _ i
    · have members : Reports (toTreesM f items) (faultsOf faults items) := by
        rw [toTreesM_eq_mapM, faultsOf_eq_flatMap]
        exact .mapM ih
      exact members.map _
    · exact .error _ _

/-! ### Parts of declarations -/

def LocalSymbol.faults (s : LocalSymbol) : List Fault :=
  match s.kind with
  | .known .valid =>
    payloadFaults "LocalSymbol" s.kind.display s.name (identifierFaults "LocalSymbol.name")
  | .known .invalid => []
  | .unrecognized _ => [.unsupportedVariant "LocalSymbol" s.kind.display]

def argumentFaults (v : LocalVariable LocalSymbol ResolvedType) : List Fault :=
  v.variableName.faults ++ v.resolvedType.faults

def TypeItem.faults (i : TypeItem) : List Fault :=
  match i.kind with
  | .known .named =>
    payloadFaults "TypeItem" i.kind.display i.named fun declaration =>
      identifierFaults "TypeItem.named" declaration.variableName ++ declaration.resolvedType.faults
  | .known .anonymous => payloadFaults "TypeItem" i.kind.display i.anonymous ResolvedType.faults
  | .unrecognized _ => [.unsupportedVariant "TypeItem" i.kind.display]

def Attribute.faults (a : Attribute) : List Fault := fieldFaults a.typeId UserDefinedType.faults

def Modifiers.faults (m : Modifiers) : List Fault := tagFaults "AccessModifier" m.access

def signatureFaults (s : ResolvedSignature) : List Fault :=
  s.typeParameters.flatMap LocalSymbol.faults ++ (s.argumentType.faults ++
    (s.returnType.faults ++ s.information.characteristics.faults))

def attributesFaults (attributes : Option (List Attribute)) : List Fault :=
  fieldFaults attributes fun as => as.flatMap Attribute.faults

theorem LocalSymbol.toTree_reports (s : LocalSymbol) : Reports s.toTree s.faults := by
  obtain ⟨(_ | _) | code, name⟩ := s
  · exact withPayload_reports fun n _ => (requireIdentifier_reports _ n).map _
  · exact .ok _
  · exact .error _ _

theorem argumentToTree_reports (v : LocalVariable LocalSymbol ResolvedType) :
    Reports (argumentToTree v) (argumentFaults v) :=
  v.variableName.toTree_reports.bind fun _ _ => v.resolvedType.toTree_reports.map _

theorem TypeItem.toTree_reports (i : TypeItem) : Reports i.toTree i.faults := by
  obtain ⟨(_ | _) | code, named, anonymous⟩ := i
  · refine withPayload_reports fun v _ => ?_
    have declaration : Reports (v.mapM (requireIdentifier "TypeItem.named") ResolvedType.toTree)
        (identifierFaults "TypeItem.named" v.variableName ++ v.resolvedType.faults) :=
      (requireIdentifier_reports _ _).bind fun _ _ => v.resolvedType.toTree_reports.map _
    exact declaration.map _
  · exact withPayload_reports fun t _ => t.toTree_reports.map _
  · exact .error _ _

theorem Attribute.toTree_reports (a : Attribute) : Reports a.toTree a.faults := by
  have typeId : Reports (a.typeId.mapM UserDefinedType.checked) a.faults := by
    unfold faults
    cases a.typeId with
    | none => exact .ok none
    | some u => exact u.checked_reports.map some
  exact typeId.map _

theorem attributesToTree_reports (attributes : Option (List Attribute)) :
    Reports (attributesToTree attributes) (attributesFaults attributes) :=
  orPlaceholder_reports [] (fun _ => .mapM fun a _ => a.toTree_reports) attributes

theorem signatureToTree_reports (s : ResolvedSignature) :
    Reports (signatureToTree s) (signatureFaults s) := by
  have parameters : Reports (s.typeParameters.mapM LocalSymbol.toTree)
      (s.typeParameters.flatMap LocalSymbol.faults) := .mapM fun p _ => p.toTree_reports
  exact parameters.bind fun _ _ => s.argumentType.toTree_reports.bind fun _ _ =>
    s.returnType.toTree_reports.bind fun _ _ => (informationToTree_reports s.information).map _

theorem modifiersToTree_reports (modifiers : Option Modifiers) :
    Reports (orPlaceholder Tree.Modifiers.placeholder Modifiers.toTree modifiers)
      (fieldFaults modifiers Modifiers.faults) :=
  orPlaceholder_reports _ (fun m => (requireKnown_reports "AccessModifier" m.access).map _) modifiers

/-! ### Declarations and programs -/

def Callable.faults (c : Callable) : List Fault :=
  fieldFaults c.signature signatureFaults ++
    (fieldFaults c.argumentTuple (Tuple.faults argumentFaults) ++
      (tagFaults "CallableKind" c.kind ++
        (c.fullName.faults ++ (attributesFaults c.attributes ++ fieldFaults c.modifiers Modifiers.faults))))

def CustomType.faults (t : CustomType) : List Fault :=
  fieldFaults t.underlyingType ResolvedType.faults ++
    (fieldFaults t.typeItems (Tuple.faults TypeItem.faults) ++
      (t.fullName.faults ++ (attributesFaults t.attributes ++ fieldFaults t.modifiers Modifiers.faults)))

def NamespaceElement.faults (e : NamespaceElement) : List Fault :=
  match e.kind with
  | .known .callable => payloadFaults "NamespaceElement" e.kind.display e.callable Callable.faults
  | .known .customType => payloadFaults "NamespaceElement" e.kind.display e.customType CustomType.faults
  | .unrecognized _ => [.unsupportedVariant "NamespaceElement" e.kind.display]

def Namespace.faults (n : Namespace) : List Fault :=
  identifierFaults "Namespace.name" n.name ++ n.elements.flatMap NamespaceElement.faults

/-- Entry points and documentation have no faults. -/
def Program.faults (p : Program) : List Fault := p.namespaces.flatMap Namespace.faults

theorem Callable.toTree_reports (c : Callable) : Reports c.toTree c.faults := by
  have signature := orPlaceholder_reports Tree.signaturePlaceholder
    signatureToTree_reports c.signature
  have arguments := orPlaceholder_reports Tree.Tuple.empty
    (Tuple.toTreeM_reports argumentToTree_reports) c.argumentTuple
  exact signature.bind fun _ _ => arguments.bind fun _ _ =>
    (requireKnown_reports "CallableKind" c.kind).bind fun _ _ => c.fullName.checked_reports.bind fun _ _ =>
      (attributesToTree_reports c.attributes).bind fun _ _ => (modifiersToTree_reports c.modifiers).map _

theorem CustomType.toTree_reports (t : CustomType) : Reports t.toTree t.faults := by
  have type := orPlaceholder_reports Tree.ResolvedType.invalid
    ResolvedType.toTree_reports t.underlyingType
  have items := orPlaceholder_reports Tree.Tuple.empty
    (Tuple.toTreeM_reports TypeItem.toTree_reports) t.typeItems
  exact type.bind fun _ _ => items.bind fun _ _ => t.fullName.checked_reports.bind fun _ _ =>
    (attributesToTree_reports t.attributes).bind fun _ _ => (modifiersToTree_reports t.modifiers).map _

theorem NamespaceElement.toTree_reports (e : NamespaceElement) : Reports e.toTree e.faults := by
  obtain ⟨(_ | _) | code, callable, customType⟩ := e
  · exact withPayload_reports fun c _ => c.toTree_reports.map _
  · exact withPayload_reports fun t _ => t.toTree_reports.map _
  · exact .error _ _

theorem Namespace.toTree_reports (n : Namespace) : Reports n.toTree n.faults := by
  have elements : Reports (n.elements.mapM NamespaceElement.toTree)
      (n.elements.flatMap NamespaceElement.faults) := .mapM fun e _ => e.toTree_reports
  exact (requireIdentifier_reports "Namespace.name" n.name).bind fun _ _ => elements.map _

/-- A record becomes a tree exactly if it has no faults, and otherwise its first fault is the one
reported. -/
theorem Program.toTree_reports_first_fault (p : Program) :
    ((∃ t, p.toTree = .ok t) ↔ p.faults = []) ∧
      ∀ fault, p.toTree = .error fault ↔ p.faults.head? = some fault := by
  have namespaces : Reports (p.namespaces.mapM Namespace.toTree) p.faults :=
    .mapM fun n _ => n.toTree_reports
  have all : Reports p.toTree p.faults := by
    rw [toTree_eq]
    exact namespaces.map _
  exact all.iff

end Record

end ProgramInterchange
