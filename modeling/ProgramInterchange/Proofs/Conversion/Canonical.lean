import ProgramInterchange.Proofs.Conversion.RoundTrip
import ProgramInterchange.Proofs.Record.Canonical

/-!
# From a record to its tree and back

The tree of a record, if it has one, keeps all that the tags of the record select. Its record under the
full profile is therefore the canonical form of the record it comes from.
-/

namespace ProgramInterchange

variable {α β γ : Type}

theorem withPayload_eq_ok_iff {kind variant : String} {payload : Option α} {next : α → Except Fault β}
    {b : β} :
    withPayload kind variant payload next = .ok b ↔ ∃ a, payload = some a ∧ next a = .ok b := by
  cases payload with
  | none => simp [withPayload, throw, throwThe, MonadExceptOf.throw]
  | some a => simp [withPayload]

theorem QualifiedName.eq_of_checked {q r : QualifiedName} (h : checked q.space q.name = .ok r) : r = q :=
  ((q.checked_succeeds r).mp h).2

theorem UserDefinedType.eq_of_checked {u v : UserDefinedType} (h : u.checked = .ok v) : v = u :=
  ((u.checked_succeeds v).mp h).2

theorem TypeParameter.eq_of_checked {p q : TypeParameter} (h : p.checked = .ok q) : q = p :=
  ((p.checked_succeeds q).mp h).2

namespace Record

theorem requireKnown_eq_ok_iff [DecidableEq α] [Coded α] {kind : String} {t : Tag α} {a : α} :
    requireKnown kind t = .ok a ↔ t = .known a := by
  cases t with
  | known b => simp [requireKnown]
  | unrecognized code => simp [requireKnown]

/-- What a field gives, seen through `g`, if its value or the placeholder is seen as `h` says. -/
theorem getD_of_orPlaceholder {placeholder b : β} {f : α → Except Fault β} {g : β → γ} {h : α → γ}
    {field : Option α} (step : ∀ a b, f a = .ok b → g b = h a)
    (hb : orPlaceholder placeholder f field = .ok b) : g b = (field.map h).getD (g placeholder) := by
  cases field with
  | none =>
    obtain rfl : placeholder = b := Except.ok.inj hb
    rfl
  | some a => exact step a b hb

/-! ### Types -/

theorem Characteristics.toRecord_of_toTree {c : Characteristics} {t : Tree.Characteristics}
    (h : c.toTree = .ok t) : t.toRecord = c.pruned := by
  have property {kind : Tag CharacteristicsTag} {p : Option (Tag Tree.OpProperty)}
      {t : Tree.Characteristics}
      (h : withPayload "ResolvedCharacteristics" kind.display p (fun property => do
        let property ← requireKnown "OpProperty" property
        return Tree.Characteristics.simpleSet property) = .ok t) :
      t.toRecord = .single (.known .simpleSet) p := by
    obtain ⟨tag, rfl, h⟩ := withPayload_eq_ok_iff.mp h
    obtain ⟨property, hp, h⟩ := bind_eq_ok_iff.mp h
    obtain rfl := pure_eq_ok_iff.mp h
    rw [requireKnown_eq_ok_iff.mp hp]
    rfl
  induction c generalizing t with
  | single kind simpleSet =>
    obtain (_ | _ | _ | _ | _) | code := kind
    · obtain rfl := Except.ok.inj h
      rfl
    · exact property h
    · cases h
    · cases h
    · obtain rfl := Except.ok.inj h
      rfl
    · cases h
  | combined kind simpleSet lhs rhs ihl ihr =>
    obtain (_ | _ | _ | _ | _) | code := kind
    · obtain rfl := Except.ok.inj h
      rfl
    · exact property h
    · obtain ⟨l, hl, h⟩ := bind_eq_ok_iff.mp h
      obtain ⟨r, hr, h⟩ := bind_eq_ok_iff.mp h
      obtain rfl := pure_eq_ok_iff.mp h
      rw [Tree.Characteristics.toRecord, ihl hl, ihr hr]
      rfl
    · obtain ⟨l, hl, h⟩ := bind_eq_ok_iff.mp h
      obtain ⟨r, hr, h⟩ := bind_eq_ok_iff.mp h
      obtain rfl := pure_eq_ok_iff.mp h
      rw [Tree.Characteristics.toRecord, ihl hl, ihr hr]
      rfl
    · obtain rfl := Except.ok.inj h
      rfl
    · cases h

theorem informationToRecord_of_informationToTree {i : Information}
    {t : CallableInformation Tree.Characteristics} (h : informationToTree i = .ok t) :
    Tree.informationToRecord t = i.pruned := by
  obtain ⟨c, hc, h⟩ := bind_eq_ok_iff.mp h
  obtain rfl := pure_eq_ok_iff.mp h
  have kept := Characteristics.toRecord_of_toTree hc
  simp only [Tree.informationToRecord, CallableInformation.map, kept, Information.pruned]

theorem toNode_of_toKind {n : ResolvedTypeNode} {kind : Tree.ResolvedTypeKind}
    (parts : ∀ t ∈ n.parts, ∀ u, t.toTree = .ok u → u.toRecord = t.pruned)
    (h : (typeReader ResolvedType.toTree).toKind n = .ok kind) :
    Id.run ((Tree.typeWriter Tree.ResolvedType.toRecord).toNode kind) =
      n.selected.map ResolvedType.pruned id id Information.pruned := by
  obtain ⟨tag, arrayType, tupleType, userDefinedType, typeParameter, operation, function⟩ := n
  obtain (type | _ | _ | _ | _ | _ | _) | code := tag
  · obtain rfl := pure_eq_ok_iff.mp h
    rfl
  · obtain ⟨item, rfl, h⟩ := withPayload_eq_ok_iff.mp h
    obtain ⟨i, hi, h⟩ := bind_eq_ok_iff.mp h
    obtain rfl := pure_eq_ok_iff.mp h
    have kept := parts item (by simp [TypeNode.parts]) i hi
    show (⟨.known .array, some i.toRecord, none, none, none, none, none⟩ : ResolvedTypeNode) = _
    rw [kept]
    rfl
  · obtain ⟨items, rfl, h⟩ := withPayload_eq_ok_iff.mp h
    cases items with
    | nil => cases h
    | cons item items =>
      obtain ⟨is, hi, h⟩ := bind_eq_ok_iff.mp h
      obtain rfl := pure_eq_ok_iff.mp h
      have kept := map_eq_of_mapM_eq_ok (fun t ht => parts t (by
        simp only [TypeNode.parts, Option.getD_some, List.mem_append]; simp_all)) hi
      rw [Tree.toNode_tuple, kept]
      rfl
  · obtain ⟨reference, rfl, h⟩ := withPayload_eq_ok_iff.mp h
    obtain ⟨u, hu, h⟩ := bind_eq_ok_iff.mp h
    obtain rfl := pure_eq_ok_iff.mp h
    rw [UserDefinedType.eq_of_checked hu]
    rfl
  · obtain ⟨reference, rfl, h⟩ := withPayload_eq_ok_iff.mp h
    obtain ⟨p, hp, h⟩ := bind_eq_ok_iff.mp h
    obtain rfl := pure_eq_ok_iff.mp h
    rw [TypeParameter.eq_of_checked hp]
    rfl
  · obtain ⟨⟨⟨domain, codomain⟩, information⟩, rfl, h⟩ := withPayload_eq_ok_iff.mp h
    obtain ⟨d, hd, h⟩ := bind_eq_ok_iff.mp h
    obtain ⟨c, hc, h⟩ := bind_eq_ok_iff.mp h
    obtain ⟨i, hi, h⟩ := bind_eq_ok_iff.mp h
    obtain rfl := pure_eq_ok_iff.mp h
    have keptDomain := parts domain (by simp [TypeNode.parts, Arrow.parts]) d hd
    have keptCodomain := parts codomain (by simp [TypeNode.parts, Arrow.parts]) c hc
    have keptInformation := informationToRecord_of_informationToTree hi
    show (⟨.known .operation, none, none, none, none,
      some ⟨⟨d.toRecord, c.toRecord⟩, Tree.informationToRecord i⟩, none⟩ : ResolvedTypeNode) = _
    rw [keptDomain, keptCodomain, keptInformation]
    rfl
  · obtain ⟨⟨domain, codomain⟩, rfl, h⟩ := withPayload_eq_ok_iff.mp h
    obtain ⟨d, hd, h⟩ := bind_eq_ok_iff.mp h
    obtain ⟨c, hc, h⟩ := bind_eq_ok_iff.mp h
    obtain rfl := pure_eq_ok_iff.mp h
    have keptDomain := parts domain (by simp [TypeNode.parts, Arrow.parts]) d hd
    have keptCodomain := parts codomain (by simp [TypeNode.parts, Arrow.parts]) c hc
    show (⟨.known .function, none, none, none, none, none,
      some ⟨d.toRecord, c.toRecord⟩⟩ : ResolvedTypeNode) = _
    rw [keptDomain, keptCodomain]
    rfl
  · cases h

theorem ResolvedType.toRecord_of_toTree {t : ResolvedType} {u : Tree.ResolvedType}
    (h : t.toTree = .ok u) : u.toRecord = t.pruned := by
  induction t using ResolvedType.induction generalizing u with
  | node n ih =>
    rw [toTree_mk] at h
    obtain ⟨kind, hk, h⟩ := bind_eq_ok_iff.mp h
    obtain rfl := pure_eq_ok_iff.mp h
    rw [Tree.ResolvedType.toRecord_mk, toNode_of_toKind (fun t ht u hu => ih t ht hu) hk, pruned_mk]

/-! ### Tuples -/

theorem Tuple.toRecord_of_toTreeM {f : β → Except Fault α} {g : α → β} {p : β → β}
    (each : ∀ b a, f b = .ok a → g a = p b) {t : Tuple β} {u : Tree.Tuple α}
    (h : t.toTreeM f = .ok u) : u.toRecord g = t.pruned p := by
  have item {kind : Tag TupleTag} {i : Option β} {u : Tree.Tuple α}
      (h : withPayload "QsTuple" kind.display i (fun value => do
        let value ← f value
        return Tree.Tuple.item value) = .ok u) :
      u.toRecord g = .single (.known .item) (i.map p) := by
    obtain ⟨b, rfl, h⟩ := withPayload_eq_ok_iff.mp h
    obtain ⟨a, ha, h⟩ := bind_eq_ok_iff.mp h
    obtain rfl := pure_eq_ok_iff.mp h
    rw [Tree.Tuple.toRecord_item, each b a ha]
    rfl
  induction t using Tuple.induction generalizing u with
  | single kind i =>
    obtain (_ | _) | code := kind
    · exact item h
    · cases h
    · cases h
  | grouped kind i items ih =>
    obtain (_ | _) | code := kind
    · exact item h
    · obtain ⟨members, hm, h⟩ := bind_eq_ok_iff.mp h
      obtain rfl := pure_eq_ok_iff.mp h
      rw [toTreesM_eq_mapM] at hm
      have kept := map_eq_of_mapM_eq_ok (fun t ht u hu => ih t ht hu) hm
      rw [Tree.Tuple.toRecord_group, kept, pruned, if_pos rfl, prunedOf_eq_map]
    · cases h

/-! ### Parts of declarations -/

theorem LocalSymbol.toRecord_of_toTree {s : LocalSymbol} {t : Tree.LocalSymbol}
    (h : s.toTree = .ok t) : t.toRecord = s.pruned := by
  obtain ⟨(_ | _) | code, name⟩ := s
  · obtain ⟨n, rfl, h⟩ := withPayload_eq_ok_iff.mp h
    obtain ⟨m, hm, h⟩ := bind_eq_ok_iff.mp h
    obtain rfl := pure_eq_ok_iff.mp h
    rw [(requireIdentifier_eq_ok_iff.mp hm).2]
    rfl
  · obtain rfl := Except.ok.inj h
    rfl
  · cases h

theorem argumentToRecord_of_argumentToTree {v : LocalVariable LocalSymbol ResolvedType}
    {w : LocalVariable Tree.LocalSymbol Tree.ResolvedType} (h : argumentToTree v = .ok w) :
    Tree.argumentToRecord w = argumentPruned v := by
  obtain ⟨name, hn, h⟩ := bind_eq_ok_iff.mp h
  obtain ⟨type, ht, h⟩ := bind_eq_ok_iff.mp h
  obtain rfl := pure_eq_ok_iff.mp h
  have keptName := LocalSymbol.toRecord_of_toTree hn
  have keptType := ResolvedType.toRecord_of_toTree ht
  simp only [Tree.argumentToRecord, argumentPruned, LocalVariable.map, keptName, keptType]

theorem TypeItem.toRecord_of_toTree {i : TypeItem} {t : Tree.TypeItem} (h : i.toTree = .ok t) :
    t.toRecord = i.pruned := by
  obtain ⟨(_ | _) | code, named, anonymous⟩ := i
  · obtain ⟨v, rfl, h⟩ := withPayload_eq_ok_iff.mp h
    obtain ⟨w, hw, h⟩ := bind_eq_ok_iff.mp h
    obtain rfl := pure_eq_ok_iff.mp h
    obtain ⟨name, hn, hw⟩ := bind_eq_ok_iff.mp hw
    obtain ⟨type, ht, hw⟩ := bind_eq_ok_iff.mp hw
    obtain rfl := pure_eq_ok_iff.mp hw
    obtain rfl := (requireIdentifier_eq_ok_iff.mp hn).2
    have kept := ResolvedType.toRecord_of_toTree ht
    rw [Tree.TypeItem.toRecord, LocalVariable.map, kept]
    rfl
  · obtain ⟨type, rfl, h⟩ := withPayload_eq_ok_iff.mp h
    obtain ⟨u, hu, h⟩ := bind_eq_ok_iff.mp h
    obtain rfl := pure_eq_ok_iff.mp h
    rw [Tree.TypeItem.toRecord, ResolvedType.toRecord_of_toTree hu]
    rfl
  · cases h

theorem Attribute.toRecord_of_toTree {a : Attribute} {t : Tree.Attribute} (h : a.toTree = .ok t) :
    t.toRecord = a := by
  obtain ⟨typeId, hu, h⟩ := bind_eq_ok_iff.mp h
  obtain rfl := pure_eq_ok_iff.mp h
  have kept := ((UserDefinedType.mapM_checked_succeeds a.typeId typeId).mp hu).2
  rw [Tree.Attribute.toRecord, kept]

theorem attributesToRecord_of_attributesToTree {attributes : Option (List Attribute)}
    {as : List Tree.Attribute} (h : attributesToTree attributes = .ok as) :
    as.map Tree.Attribute.toRecord = attributes.getD [] := by
  have list (as : List Attribute) (bs : List Tree.Attribute) (hb : as.mapM Attribute.toTree = .ok bs) :
      bs.map Tree.Attribute.toRecord = as :=
    (map_eq_of_mapM_eq_ok (fun _ _ _ ht => Attribute.toRecord_of_toTree ht) hb).trans (List.map_id' as)
  have all := getD_of_orPlaceholder list h
  rwa [Option.map_id'] at all

theorem modifiersToRecord_of_modifiersToTree {modifiers : Option Modifiers} {m : Tree.Modifiers}
    (h : orPlaceholder Tree.Modifiers.placeholder Modifiers.toTree modifiers = .ok m) :
    m.toRecord = modifiers.getD defaultModifiers := by
  have each (a : Modifiers) (b : Tree.Modifiers) (hb : a.toTree = .ok b) : b.toRecord = a := by
    obtain ⟨access, ha, hb⟩ := bind_eq_ok_iff.mp hb
    obtain rfl := pure_eq_ok_iff.mp hb
    rw [Tree.Modifiers.toRecord, ← requireKnown_eq_ok_iff.mp ha]
  have all := getD_of_orPlaceholder each h
  rwa [Option.map_id'] at all

theorem signatureToRecord_of_signatureToTree {s : ResolvedSignature} {t : Tree.ResolvedSignature}
    (h : signatureToTree s = .ok t) : Tree.signatureToRecord t = signaturePruned s := by
  obtain ⟨parameters, hp, h⟩ := bind_eq_ok_iff.mp h
  obtain ⟨argumentType, ha, h⟩ := bind_eq_ok_iff.mp h
  obtain ⟨returnType, hr, h⟩ := bind_eq_ok_iff.mp h
  obtain ⟨information, hi, h⟩ := bind_eq_ok_iff.mp h
  obtain rfl := pure_eq_ok_iff.mp h
  have keptParameters := map_eq_of_mapM_eq_ok (fun _ _ _ ht => LocalSymbol.toRecord_of_toTree ht) hp
  have keptArgument := ResolvedType.toRecord_of_toTree ha
  have keptReturn := ResolvedType.toRecord_of_toTree hr
  have keptInformation : information.map Tree.Characteristics.toRecord =
      s.information.map Characteristics.pruned := informationToRecord_of_informationToTree hi
  simp only [Tree.signatureToRecord, signaturePruned, Signature.map, keptParameters, keptArgument,
    keptReturn, keptInformation]

/-! ### Declarations -/

theorem Callable.toRecord_of_toTree {c : Callable} {t : Tree.Callable} (h : c.toTree = .ok t) :
    t.toRecord .full = c.pruned.completed := by
  obtain ⟨signature, hs, h⟩ := bind_eq_ok_iff.mp h
  obtain ⟨arguments, hv, h⟩ := bind_eq_ok_iff.mp h
  obtain ⟨kind, hk, h⟩ := bind_eq_ok_iff.mp h
  obtain ⟨fullName, hn, h⟩ := bind_eq_ok_iff.mp h
  obtain ⟨attributes, ha, h⟩ := bind_eq_ok_iff.mp h
  obtain ⟨modifiers, hm, h⟩ := bind_eq_ok_iff.mp h
  obtain rfl := pure_eq_ok_iff.mp h
  have keptSignature := getD_of_orPlaceholder (fun _ _ => signatureToRecord_of_signatureToTree) hs
  have keptArguments := getD_of_orPlaceholder
    (fun _ _ => Tuple.toRecord_of_toTreeM fun _ _ => argumentToRecord_of_argumentToTree) hv
  have keptKind := requireKnown_eq_ok_iff.mp hk
  have keptName := QualifiedName.eq_of_checked hn
  have keptAttributes := attributesToRecord_of_attributesToTree ha
  have keptModifiers := modifiersToRecord_of_modifiersToTree hm
  simp only [Tree.Callable.toRecord, Profile.keep, keptSignature, keptArguments, ← keptKind, keptName,
    keptAttributes, keptModifiers]
  rfl

theorem CustomType.toRecord_of_toTree {c : CustomType} {t : Tree.CustomType} (h : c.toTree = .ok t) :
    t.toRecord .full = c.pruned.completed := by
  obtain ⟨type, hu, h⟩ := bind_eq_ok_iff.mp h
  obtain ⟨items, hi, h⟩ := bind_eq_ok_iff.mp h
  obtain ⟨fullName, hn, h⟩ := bind_eq_ok_iff.mp h
  obtain ⟨attributes, ha, h⟩ := bind_eq_ok_iff.mp h
  obtain ⟨modifiers, hm, h⟩ := bind_eq_ok_iff.mp h
  obtain rfl := pure_eq_ok_iff.mp h
  have keptType := getD_of_orPlaceholder (fun _ _ => ResolvedType.toRecord_of_toTree) hu
  have keptItems := getD_of_orPlaceholder
    (fun _ _ => Tuple.toRecord_of_toTreeM fun _ _ => TypeItem.toRecord_of_toTree) hi
  have keptName := QualifiedName.eq_of_checked hn
  have keptAttributes := attributesToRecord_of_attributesToTree ha
  have keptModifiers := modifiersToRecord_of_modifiersToTree hm
  simp only [Tree.CustomType.toRecord, Profile.keep, keptType, keptItems, keptName, keptAttributes,
    keptModifiers]
  rfl

theorem NamespaceElement.toRecord_of_toTree {e : NamespaceElement} {t : Tree.NamespaceElement}
    (h : e.toTree = .ok t) : t.toRecord .full = e.pruned.completed := by
  obtain ⟨(_ | _) | code, callable, customType⟩ := e
  · obtain ⟨c, rfl, h⟩ := withPayload_eq_ok_iff.mp h
    obtain ⟨d, hd, h⟩ := bind_eq_ok_iff.mp h
    obtain rfl := pure_eq_ok_iff.mp h
    rw [Tree.NamespaceElement.toRecord, Callable.toRecord_of_toTree hd]
    rfl
  · obtain ⟨c, rfl, h⟩ := withPayload_eq_ok_iff.mp h
    obtain ⟨d, hd, h⟩ := bind_eq_ok_iff.mp h
    obtain rfl := pure_eq_ok_iff.mp h
    rw [Tree.NamespaceElement.toRecord, CustomType.toRecord_of_toTree hd]
    rfl
  · cases h

/-! ### Programs -/

theorem Namespace.toRecord_of_toTree {n : Namespace} {t : Tree.Namespace} (h : n.toTree = .ok t) :
    t.toRecord .full = n.pruned.completed := by
  obtain ⟨name, hn, h⟩ := bind_eq_ok_iff.mp h
  obtain ⟨elements, he, h⟩ := bind_eq_ok_iff.mp h
  obtain rfl := pure_eq_ok_iff.mp h
  have keptElements := map_eq_of_mapM_eq_ok (fun _ _ _ ht => NamespaceElement.toRecord_of_toTree ht) he
  rw [Tree.Namespace.toRecord, keptElements, toRecord_documentationToTree,
    (requireIdentifier_eq_ok_iff.mp hn).2]
  simp only [pruned, completed, List.map_map, Function.comp_def]

theorem Program.toRecord_of_toTree {p : Program} {t : Tree.Program} (h : p.toTree = .ok t) :
    t.toRecord .full = p.canonical := by
  rw [toTree_eq] at h
  obtain ⟨namespaces, hn, h⟩ := bind_eq_ok_iff.mp h
  obtain rfl := pure_eq_ok_iff.mp h
  have kept := map_eq_of_mapM_eq_ok (fun _ _ _ ht => Namespace.toRecord_of_toTree ht) hn
  rw [Tree.Program.toRecord_eq, kept]
  simp only [canonical, pruned, completed, List.map_map, Function.comp_def]

end Record

/-! ### The minimal profile -/

namespace Tree

theorem NamespaceElement.toRecord_minimal (e : NamespaceElement) :
    e.toRecord .minimal = (e.toRecord .full).minimal := by
  cases e <;> rfl

theorem Namespace.toRecord_minimal (n : Namespace) :
    n.toRecord .minimal = (n.toRecord .full).minimal := by
  have elements : n.elements.map (NamespaceElement.toRecord .minimal) =
      (n.elements.map (NamespaceElement.toRecord .full)).map Record.NamespaceElement.minimal :=
    (list_map_map (fun e => e.toRecord_minimal.symm) n.elements).symm
  rw [toRecord, elements]
  rfl

theorem Program.toRecord_minimal (p : Program) : p.toRecord .minimal = (p.toRecord .full).minimal := by
  have namespaces : p.namespaces.map (Namespace.toRecord .minimal) =
      (p.namespaces.map (Namespace.toRecord .full)).map Record.Namespace.minimal :=
    (list_map_map (fun n => n.toRecord_minimal.symm) p.namespaces).symm
  rw [toRecord_eq, toRecord_eq, namespaces]
  rfl

end Tree

/-! ### Canonical records -/

namespace Record

/-- The tree of a record is written as the canonical form of the record, and under the minimal profile as
the same without the fields of the full profile. It is written as the record itself exactly if that is a
canonical form. -/
theorem Program.toRecord_toTree_eq_canonical (p : Program) :
    p.canonical.canonical = p.canonical ∧ ∀ t, p.toTree = .ok t →
      t.toRecord .full = p.canonical ∧ t.toRecord .minimal = p.canonical.minimal ∧
        (t.toRecord .full = p ↔ ∃ q : Program, p = q.canonical) := by
  refine ⟨p.canonical_canonical, fun t h => ?_⟩
  have full := toRecord_of_toTree h
  refine ⟨full, by rw [Tree.Program.toRecord_minimal, full], ?_⟩
  rw [full]
  constructor
  · exact fun h => ⟨p, h.symm⟩
  · rintro ⟨q, rfl⟩
    exact q.canonical_canonical

/-- A record with an entry point, documentation that is not in order, and a callable beside which a
payload is filled that the tag does not select and whose argument fills one of another type. -/
def scattered : Program where
  namespaces := [{
    name := "N"
    elements := [{
      kind := .known .callable
      callable := some {
        kind := .known .function
        fullName := ⟨"N", "F"⟩
        attributes := none
        modifiers := some ⟨.known .internal⟩
        sourceFile := "n.qs"
        location := none
        signature := none
        argumentTuple := some (.single (.known .item) (some {
          variableName := ⟨.known .valid, some "x"⟩
          resolvedType := .mk ⟨.known (.leaf .int), some (.mk (.tagged (.unrecognized 99))), none, none,
            none, none, none⟩
          inferred := ⟨false, false⟩
          position := none
          range := ⟨⟨0, 0⟩, ⟨0, 1⟩⟩ }))
        documentation := []
        comments := ⟨[], []⟩ }
      customType := some {
        fullName := ⟨"", ""⟩
        attributes := none
        modifiers := none
        sourceFile := ""
        location := none
        underlyingType := none
        typeItems := none
        documentation := []
        comments := ⟨[], []⟩ } }]
    documentation := [⟨"a.qs", ["1"]⟩, ⟨"b.qs", ["2"]⟩, ⟨"a.qs", ["3"]⟩] }]
  entryPoints := [⟨"", "F"⟩]

def gathered : Tree.Program where
  namespaces := [{
    name := "N"
    elements := [.callable {
      kind := .function
      fullName := ⟨"N", "F"⟩
      attributes := []
      modifiers := ⟨.internal⟩
      sourceFile := "n.qs"
      location := none
      signature := Tree.signaturePlaceholder
      argumentTuple := .item {
        variableName := .valid "x"
        resolvedType := .leaf .int
        inferred := ⟨false, false⟩
        position := none
        range := ⟨⟨0, 0⟩, ⟨0, 1⟩⟩ }
      specializations := []
      documentation := []
      comments := ⟨[], []⟩ }]
    documentation := ⟨[("a.qs", [["1"], ["3"]]), ("b.qs", [["2"]])], by decide⟩ }]
  entryPoints := []

theorem toRecord_gathered :
    scattered.toTree = .ok gathered ∧ gathered.toRecord .full = scattered.canonical ∧
      gathered.toRecord .minimal = scattered.canonical.minimal ∧ gathered.toRecord .full ≠ scattered := by
  have h : scattered.toTree = .ok gathered := rfl
  obtain ⟨full, minimal, -⟩ := scattered.toRecord_toTree_eq_canonical.2 gathered h
  exact ⟨h, full, minimal, by decide⟩

end Record

end ProgramInterchange
