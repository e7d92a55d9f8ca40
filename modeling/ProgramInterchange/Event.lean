import ProgramInterchange.Fault
import ProgramInterchange.Profile

/-!
# Events

What the conversions report while they run, and computations that keep their events in order.
-/

namespace ProgramInterchange

inductive Level where
  | debug
  | trace
  deriving DecidableEq, Repr

inductive Event where
  | encodingProgram (namespaces entryPoints : Nat) (profile : Profile)
  | encodingNamespace (name : String) (elements : Nat)
  | decodingProgram (namespaces : Nat)
  | discardingEntryPoints (entryPoints : Nat)
  | decodingNamespace (name : String) (elements : Nat)
  deriving DecidableEq, Repr

inductive EventValue where
  | count (value : Nat)
  | text (value : String)
  deriving DecidableEq, Repr

namespace Event

/-- Programs are reported for debugging, namespaces only when tracing. -/
def level : Event → Level
  | encodingProgram _ _ _ => .debug
  | encodingNamespace _ _ => .trace
  | decodingProgram _ => .debug
  | discardingEntryPoints _ => .debug
  | decodingNamespace _ _ => .trace

def message : Event → String
  | encodingProgram _ _ _ => "encoding program"
  | encodingNamespace _ _ => "encoding namespace"
  | decodingProgram _ => "decoding program"
  | discardingEntryPoints _ => "discarding entry points, they are not read back"
  | decodingNamespace _ _ => "decoding namespace"

def fields : Event → List (String × EventValue)
  | encodingProgram namespaces entryPoints profile =>
    [("namespaces", .count namespaces), ("entry_points", .count entryPoints),
      ("profile", .text profile.title)]
  | encodingNamespace name elements => [("namespace", .text name), ("elements", .count elements)]
  | decodingProgram namespaces => [("namespaces", .count namespaces)]
  | discardingEntryPoints entryPoints => [("entry_points", .count entryPoints)]
  | decodingNamespace name elements => [("namespace", .text name), ("elements", .count elements)]

end Event

/-! ### Computations with events -/

/-- A result, and what has been reported on the way to it. -/
structure Logged (α : Type) where
  value : α
  events : List Event

namespace Logged

variable {α β : Type}

instance : Monad Logged where
  pure value := ⟨value, []⟩
  bind first next :=
    let second := next first.value
    ⟨second.value, first.events ++ second.events⟩

def report (event : Event) : Logged Unit := ⟨(), [event]⟩

theorem value_pure (value : α) : (pure value : Logged α).value = value := rfl

theorem events_pure (value : α) : (pure value : Logged α).events = [] := rfl

theorem value_bind (first : Logged α) (next : α → Logged β) :
    (first >>= next).value = (next first.value).value := rfl

theorem events_bind (first : Logged α) (next : α → Logged β) :
    (first >>= next).events = first.events ++ (next first.value).events := rfl

instance : LawfulMonad Logged := LawfulMonad.mk' Logged
  (fun x => congrArg (Logged.mk x.value) (List.append_nil x.events))
  (fun _ _ => rfl)
  (fun _ _ _ => congrArg (Logged.mk _) (List.append_assoc _ _ _))

end Logged

end ProgramInterchange
