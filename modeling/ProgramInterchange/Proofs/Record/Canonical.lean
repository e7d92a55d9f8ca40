import ProgramInterchange.Proofs.Record.Pruned
import ProgramInterchange.Proofs.Tree.Documentation

/-!
# Canonical records

A record is canonical if it has the selected payloads only and no entry points, every declaration has the
fields of the full profile, and the documentation of a namespace goes file by file. Every record has a
canonical form.
-/

namespace ProgramInterchange.Record

/-! ### Fields of the full profile -/

def invalidType : ResolvedType := .mk (.tagged (.known (.leaf .invalid)))

/-- The modifiers of a declaration that says nothing of them. -/
def defaultModifiers : Modifiers := ⟨.known .default⟩

/-- The signature of a callable that says nothing of it. -/
def plainSignature : ResolvedSignature :=
  ⟨[], invalidType, invalidType, ⟨.single (.known .emptySet) none, ⟨false, false⟩⟩⟩

def emptyTuple {α : Type} : Tuple α := .grouped (.known .group) none []

/-- The callable with all fields of the full profile. -/
def Callable.completed (c : Callable) : Callable :=
  { c with
    attributes := some (c.attributes.getD [])
    modifiers := some (c.modifiers.getD defaultModifiers)
    signature := some (c.signature.getD plainSignature)
    argumentTuple := some (c.argumentTuple.getD emptyTuple) }

def CustomType.completed (t : CustomType) : CustomType :=
  { t with
    attributes := some (t.attributes.getD [])
    modifiers := some (t.modifiers.getD defaultModifiers)
    underlyingType := some (t.underlyingType.getD invalidType)
    typeItems := some (t.typeItems.getD emptyTuple) }

def NamespaceElement.completed (e : NamespaceElement) : NamespaceElement :=
  { e with
    callable := e.callable.map Callable.completed
    customType := e.customType.map CustomType.completed }

/-- The namespace with complete declarations and its documentation file by file. -/
def Namespace.completed (n : Namespace) : Namespace :=
  { n with
    elements := n.elements.map NamespaceElement.completed
    documentation := regrouped n.documentation }

def Program.completed (p : Program) : Program :=
  { p with namespaces := p.namespaces.map Namespace.completed }

/-! ### No fields of the full profile -/

/-- The callable without the fields of the full profile. -/
def Callable.minimal (c : Callable) : Callable :=
  { c with attributes := none, modifiers := none, signature := none, argumentTuple := none }

def CustomType.minimal (t : CustomType) : CustomType :=
  { t with attributes := none, modifiers := none, underlyingType := none, typeItems := none }

def NamespaceElement.minimal (e : NamespaceElement) : NamespaceElement :=
  { e with
    callable := e.callable.map Callable.minimal
    customType := e.customType.map CustomType.minimal }

def Namespace.minimal (n : Namespace) : Namespace :=
  { n with elements := n.elements.map NamespaceElement.minimal }

def Program.minimal (p : Program) : Program :=
  { p with namespaces := p.namespaces.map Namespace.minimal }

/-! ### Canonical forms -/

theorem Callable.completed_completed (c : Callable) : c.completed.completed = c.completed := rfl

theorem CustomType.completed_completed (t : CustomType) : t.completed.completed = t.completed := rfl

theorem NamespaceElement.completed_completed (e : NamespaceElement) :
    e.completed.completed = e.completed := by
  simp only [completed, option_map_twice Callable.completed_completed,
    option_map_twice CustomType.completed_completed]

theorem Namespace.completed_completed (n : Namespace) : n.completed.completed = n.completed := by
  simp only [completed, list_map_twice NamespaceElement.completed_completed, regrouped_regrouped]

theorem Program.completed_completed (p : Program) : p.completed.completed = p.completed := by
  simp only [completed, list_map_twice Namespace.completed_completed]

/-- A field may be filled before or after a change that keeps the filling. -/
theorem map_getD {α : Type} {f : α → α} {a : α} (h : f a = a) (o : Option α) :
    f (o.getD a) = (o.map f).getD a := by
  cases o with
  | none => exact h
  | some b => rfl

theorem invalidType_pruned : invalidType.pruned = invalidType := rfl

theorem plainSignature_pruned : signaturePruned plainSignature = plainSignature := rfl

theorem emptyTuple_pruned {α : Type} (f : α → α) : (emptyTuple : Tuple α).pruned f = emptyTuple := rfl

theorem Callable.completed_pruned (c : Callable) : c.completed.pruned = c.pruned.completed := by
  have signature := map_getD plainSignature_pruned c.signature
  have arguments := map_getD (emptyTuple_pruned argumentPruned) c.argumentTuple
  simp only [pruned, completed, Option.map_some, signature, arguments]

theorem CustomType.completed_pruned (t : CustomType) : t.completed.pruned = t.pruned.completed := by
  have type := map_getD invalidType_pruned t.underlyingType
  have items := map_getD (emptyTuple_pruned TypeItem.pruned) t.typeItems
  simp only [pruned, completed, Option.map_some, type, items]

theorem NamespaceElement.completed_pruned (e : NamespaceElement) :
    e.completed.pruned = e.pruned.completed := by
  simp only [pruned, completed, Tag.map_selected, Option.map_map, Function.comp_def,
    Callable.completed_pruned, CustomType.completed_pruned]

theorem Namespace.completed_pruned (n : Namespace) : n.completed.pruned = n.pruned.completed := by
  simp only [pruned, completed, List.map_map, Function.comp_def, NamespaceElement.completed_pruned]

theorem Program.completed_pruned (p : Program) : p.completed.pruned = p.pruned.completed := by
  simp only [pruned, completed, List.map_map, Function.comp_def, Namespace.completed_pruned]

/-- The canonical form of the program: selected payloads only, complete declarations, documentation file
by file, no entry points. -/
def Program.canonical (p : Program) : Program := p.pruned.completed

theorem Program.canonical_canonical (p : Program) : p.canonical.canonical = p.canonical := by
  unfold canonical
  rw [completed_pruned, pruned_pruned, completed_completed]

end ProgramInterchange.Record
