import ProgramInterchange.Tree.Declaration
import ProgramInterchange.Tree.Documentation

/-!
# Program trees

Namespaces with their declarations. Two trees are the same program when they differ at most in the order
of the files in a documentation index.
-/

namespace ProgramInterchange.Tree

inductive NamespaceElement where
  | callable (declaration : Callable)
  | customType (declaration : CustomType)
  deriving DecidableEq

def NamespaceElement.fullName : NamespaceElement → QualifiedName
  | callable declaration => declaration.fullName
  | customType declaration => declaration.fullName

structure Namespace where
  name : String
  elements : List NamespaceElement
  documentation : Documentation
  deriving DecidableEq

structure Program where
  namespaces : List Namespace
  entryPoints : List QualifiedName
  deriving DecidableEq

def Program.empty : Program := ⟨[], []⟩

/-- Whether two namespaces are the same but for the order of documentation files. -/
def Namespace.same (a b : Namespace) : Bool :=
  decide (a.name = b.name) && decide (a.elements = b.elements) && a.documentation.same b.documentation

/-- Whether two lists of namespaces are the same, one by one. -/
def sameNamespaces : List Namespace → List Namespace → Bool
  | [], [] => true
  | a :: as, b :: bs => a.same b && sameNamespaces as bs
  | _, _ => false

/-- Whether two programs are the same but for the order of documentation files. -/
def Program.same (a b : Program) : Bool :=
  sameNamespaces a.namespaces b.namespaces && decide (a.entryPoints = b.entryPoints)

end ProgramInterchange.Tree
