/-!
# Syntax trees for counting

Counting looks at a few shapes only: declarations of functions, statements that
are expressions, calls and names.  Every other construct is kept as
{lit}`Node.other`, so that a walk still reaches what lies inside it.  A value
that is no syntax node at all may stand in a tree too; a walk stops at it.

Main definitions:

- {lit}`Node.walk`: the nodes of a tree taken from a work list.
- {lit}`Node.preorder`: the same nodes listed by recursion.
- {lit}`Node.isAssertion`: the statements that count as contract assertions.
-/

namespace ContractAudit
namespace Tree

/-- A syntax tree. -/
inductive Node where
  | program (body : List Node) (line : Int)
  | function (name : String) (children : List Node) (isAsync isGenerator : Bool) (line : Int)
  | statement (expression : Node) (line : Int)
  | call (callee : Node) (arguments : List Node) (optional : Bool) (line : Int)
  | identifier (name : String) (line : Int)
  | member (object : Node) (property : String) (line : Int)
  | other (kind : String) (children : List Node) (line : Int)
  /-- A value of another type, which has no children to ask for. -/
  | foreign (type : String)
  deriving Repr, Inhabited

namespace Node

/-- The type of a value that is no syntax node. -/
def foreign? : Node → Option String
  | foreign type => some type
  | _ => none

/-- The direct children in source order. -/
def children : Node → List Node
  | program body _ => body
  | function _ children _ _ _ => children
  | statement expression _ => [expression]
  | call callee arguments _ _ => callee :: arguments
  | identifier _ _ => []
  | member object _ _ => [object]
  | other _ children _ => children
  | foreign _ => []

/-- Whether the node declares a named function. -/
def isFunction : Node → Bool
  | function .. => true
  | _ => false

/-- The names of the contract assertions. -/
def assertionNames : List String :=
  ["precondition", "postcondition"]

/-- Whether the node is a name of a contract assertion. -/
def namesAssertion : Node → Bool
  | identifier name _ => assertionNames.contains name
  | _ => false

/-- Whether the node is a statement that calls a contract assertion directly:
not through a member, not optionally, not inside another expression. -/
def isAssertion : Node → Bool
  | statement (call callee _ optional _) _ => !optional && callee.namesAssertion
  | _ => false

mutual
/-- Number of nodes of a tree. -/
def size : Node → Nat
  | program body _ => sizeAll body + 1
  | function _ children _ _ _ => sizeAll children + 1
  | statement expression _ => size expression + 1
  | call callee arguments _ _ => size callee + sizeAll arguments + 1
  | identifier _ _ => 1
  | member object _ _ => size object + 1
  | other _ children _ => sizeAll children + 1
  | foreign _ => 1

/-- Number of nodes of a list of trees. -/
def sizeAll : List Node → Nat
  | [] => 0
  | n :: ns => size n + sizeAll ns
end

theorem sizeAll_append (as bs : List Node) : sizeAll (as ++ bs) = sizeAll as + sizeAll bs := by
  induction as with
  | nil => simp [sizeAll]
  | cons a as ih => simp only [List.cons_append, sizeAll, ih]; omega

theorem size_eq (n : Node) : n.size = sizeAll n.children + 1 := by
  cases n <;> simp [size, sizeAll, children]

/-- The outcome of a walk: the nodes that were visited, in order, and the type of
the value at which it had to stop, if there was one. -/
structure Walk where
  visited : List Node
  stopped : Option String
  deriving Repr

/-- Takes nodes from a work list, each before its children. -/
def walkFrom : List Node → Walk
  | [] => ⟨[], none⟩
  | n :: rest =>
    match n.foreign? with
    | some type => ⟨[n], some type⟩
    | none =>
      let later := walkFrom (n.children ++ rest)
      ⟨n :: later.visited, later.stopped⟩
termination_by work => sizeAll work
decreasing_by
  simp only [sizeAll_append, sizeAll, size_eq]; omega

/-- Visits all nodes of a tree, each exactly once and before its children. -/
def walk (n : Node) : Walk :=
  walkFrom [n]

mutual
/-- All nodes by recursion, each before its children. -/
def preorder : Node → List Node
  | n@(program body _) => n :: preorderAll body
  | n@(function _ children _ _ _) => n :: preorderAll children
  | n@(statement expression _) => n :: preorder expression
  | n@(call callee arguments _ _) => n :: (preorder callee ++ preorderAll arguments)
  | n@(identifier _ _) => [n]
  | n@(member object _ _) => n :: preorder object
  | n@(other _ children _) => n :: preorderAll children
  | n@(foreign _) => [n]

/-- The nodes of a list of trees. -/
def preorderAll : List Node → List Node
  | [] => []
  | n :: ns => preorder n ++ preorderAll ns
end

/-- The message for a value that is no syntax node. -/
def notANode (type : String) : String :=
  "Not a syntax node: " ++ type

end Node

end Tree
end ContractAudit
