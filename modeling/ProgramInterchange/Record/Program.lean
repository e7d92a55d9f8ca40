import ProgramInterchange.Record.Declaration

/-!
# Program records

The portable form of programs. The documentation of a namespace is a flat list of groups, each with the
file it comes from.
-/

namespace ProgramInterchange.Record

structure NamespaceElement where
  kind : Tag ElementTag
  callable : Option Callable
  customType : Option CustomType
  deriving DecidableEq

/-- A group of documentation lines and the file that contributes it. -/
structure DocumentationItem where
  sourceFileName : String
  documentationInstances : List String
  deriving DecidableEq, Repr

structure Namespace where
  name : String
  elements : List NamespaceElement
  documentation : List DocumentationItem
  deriving DecidableEq

/-- A program; its entry points are written but never read back into a tree. -/
structure Program where
  namespaces : List Namespace
  entryPoints : List QualifiedName
  deriving DecidableEq

def Program.empty : Program := ⟨[], []⟩

end ProgramInterchange.Record
