/-!
# Concrete syntax trees

A grammar turns a source text into a concrete tree: every token and every
construct is a node with a kind, a place and possibly a field name under which
its parent knows it.  A node that stands for something malformed has the kind
{lit}`ERROR`, or is marked as missing.

Main definitions:

- {lit}`Concrete.hasError`: whether something malformed lies in a tree.
- {lit}`Concrete.findError`: the search that skips subtrees without errors.
- {lit}`Concrete.preorder`: all nodes, each before its children.
-/

namespace ContractAudit
namespace Tree

/-- What a concrete node says about itself. -/
structure Label where
  kind : String
  named : Bool := true
  field : Option String := none
  row : Nat := 0
  column : Nat := 0
  text : String := ""
  missing : Bool := false
  /-- An explicit error flag; without one the flag follows from the tree. -/
  flagged : Option Bool := none
  deriving DecidableEq, Repr, Inhabited

/-- A concrete syntax tree. -/
inductive Concrete where
  | mk (label : Label) (children : List Concrete)
  deriving Repr, Inhabited

namespace Concrete

/-- The label of the root. -/
def label : Concrete → Label
  | mk l _ => l

/-- The children of the root. -/
def children : Concrete → List Concrete
  | mk _ cs => cs

@[simp]
theorem label_mk (l : Label) (cs : List Concrete) : (mk l cs).label = l := rfl

@[simp]
theorem children_mk (l : Label) (cs : List Concrete) : (mk l cs).children = cs := rfl

/-- Whether the node itself is malformed. -/
def isBad (c : Concrete) : Bool :=
  c.label.kind == "ERROR" || c.label.missing

mutual
/-- Whether the tree is flagged as holding an error: explicitly, or because a
node of it is malformed. -/
def hasError : Concrete → Bool
  | mk l cs => match l.flagged with
    | some e => e
    | none => l.kind == "ERROR" || l.missing || anyError cs

/-- Whether one of the trees is flagged. -/
def anyError : List Concrete → Bool
  | [] => false
  | c :: cs => hasError c || anyError cs
end

/-- Trees are flagged together if one of them is. -/
theorem anyError_iff (cs : List Concrete) : anyError cs = true ↔ ∃ c ∈ cs, c.hasError = true := by
  induction cs with
  | nil => simp [anyError]
  | cons c cs ih => simp [anyError, ih]

mutual
/-- Number of nodes of a tree. -/
def size : Concrete → Nat
  | mk _ cs => sizeAll cs + 1

/-- Number of nodes of a list of trees. -/
def sizeAll : List Concrete → Nat
  | [] => 0
  | c :: cs => size c + sizeAll cs
end

mutual
/-- All nodes, each before its children, the children from left to right. -/
def preorder : Concrete → List Concrete
  | mk l cs => mk l cs :: preorderAll cs

/-- The nodes of a list of trees in order. -/
def preorderAll : List Concrete → List Concrete
  | [] => []
  | c :: cs => preorder c ++ preorderAll cs
end

theorem sizeAll_append (as bs : List Concrete) :
    sizeAll (as ++ bs) = sizeAll as + sizeAll bs := by
  induction as with
  | nil => simp [sizeAll]
  | cons a as ih => simp only [List.cons_append, sizeAll, ih]; omega

theorem size_eq (c : Concrete) : c.size = sizeAll c.children + 1 := by
  cases c with
  | mk l cs => simp only [size, children_mk]

/-- Takes nodes from a work list until a malformed one comes up; the children of
an unflagged node are not looked at. -/
def searchError : List Concrete → Option Concrete
  | [] => none
  | c :: rest =>
    if c.isBad then some c
    else if c.hasError then searchError (c.children ++ rest)
    else searchError rest
termination_by work => sizeAll work
decreasing_by
  · simp only [sizeAll_append, sizeAll, size_eq]; omega
  · simp only [sizeAll, size_eq]; omega

/-- The first malformed node in document order that the error flags lead to. -/
def findError (c : Concrete) : Option Concrete :=
  searchError [c]

/-- The first child with a field name. -/
def field? (c : Concrete) (name : String) : Option Concrete :=
  c.children.find? fun d => d.label.field == some name

end Concrete

end Tree
end ContractAudit
