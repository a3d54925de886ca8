import ContractAudit.Tree.Concrete
import ContractAudit.Tree.Node
import ContractAudit.Tree.Language

/-!
# Lowering concrete trees

Lowering keeps of a concrete tree what counting needs: declarations of
functions, expression statements, calls, members and names get shapes of their
own, comments vanish, and everything else becomes an {lit}`other` node with its
named children.

Lowering runs under a budget of nested steps.  Whatever is begun inside
something else takes one of them and gives it back when it ends: lowering a
node, gathering the children of a node, the loop over them, and the rules for
declarations and calls.  A tree that needs more than the budget is not lowered
at all.
-/

namespace ContractAudit
namespace Tree

/-- The kinds of nodes that lowering drops. -/
def skippedKinds : List String :=
  ["comment", "html_comment", "hash_bang_line"]

/-- Whether a child takes part in lowering: it is named and no comment. -/
def Label.kept (l : Label) : Bool :=
  l.named && !skippedKinds.contains l.kind

/-- The line of a node, counted from one. -/
def Label.line (l : Label) : Int :=
  (l.row : Int) + 1

/-- Takes one nested step, if the budget allows it. -/
def descend {α : Type} (run : Nat → Option α) : Nat → Option α
  | 0 => none
  | budget + 1 => run budget

/-- A child that is still to be lowered. -/
structure Pending where
  label : Label
  /-- Lowers the child itself. -/
  lower : Nat → Option Node
  /-- Lowers the children of the child. -/
  lowerChildren : Nat → Option (List Node)

namespace Pending

/-- The first child with a field name. -/
def field? (kids : List Pending) (name : String) : Option Pending :=
  kids.find? fun k => k.label.field == some name

/-- The loop over the kept children, which lowers one after the other. -/
def each (kids : List Pending) : Nat → Option (List Node) :=
  descend fun budget => (kids.filter fun k => k.label.kept).mapM fun k => descend k.lower budget

/-- Lowers the kept children. -/
def gather (kids : List Pending) : Nat → Option (List Node) :=
  descend (each kids)

end Pending

/-- An ordinary construct. -/
def lowerOther (l : Label) (kids : List Pending) (budget : Nat) : Option Node :=
  (Pending.gather kids budget).map fun cs => .other l.kind cs l.line

/-- An expression statement; one with another number of expressions than one is
an ordinary construct. -/
def lowerStatement (l : Label) (kids : List Pending) (budget : Nat) : Option Node :=
  (Pending.gather kids budget).map fun
    | [e] => .statement e l.line
    | cs => .other l.kind cs l.line

/-- A declaration of a function; without a name it is an ordinary construct. -/
def lowerFunction (l : Label) (kids : List Pending) : Nat → Option Node :=
  descend fun budget =>
    match Pending.field? kids "name" with
    | none => lowerOther l kids budget
    | some name =>
      let rest := kids.eraseP fun k => k.label.field == some "name"
      (Pending.each rest budget).map fun cs =>
        .function name.label.text cs (kids.any fun k => k.label.kind == "async")
          ("generator_".isPrefixOf l.kind) l.line

/-- A member access; an optional or incomplete one is an ordinary construct. -/
def lowerMember (l : Label) (kids : List Pending) (budget : Nat) : Option Node :=
  match Pending.field? kids "object", Pending.field? kids "property",
      Pending.field? kids "optional_chain" with
  | some object, some property, none =>
    (descend object.lower budget).map fun o => .member o property.label.text l.line
  | _, _, _ => lowerOther l kids budget

/-- The arguments of a call: the children of an argument list, or a template as
the only argument. -/
def lowerArguments (kids : List Pending) (budget : Nat) : Option (List Node) :=
  match Pending.field? kids "arguments" with
  | none => some []
  | some a =>
    if a.label.kind == "arguments" then a.lowerChildren budget
    else (descend a.lower budget).map fun n => [n]

/-- A call; one without a callee is an ordinary construct. -/
def lowerCall (l : Label) (kids : List Pending) : Nat → Option Node :=
  descend fun budget =>
    match Pending.field? kids "function" with
    | none => lowerOther l kids budget
    | some callee => do
      let arguments ← lowerArguments kids budget
      let callee ← descend callee.lower budget
      return .call callee arguments (Pending.field? kids "optional_chain").isSome l.line

/-- Lowers a node from its label and its children. -/
def assemble (language : Language) (l : Label) (kids : List Pending) (budget : Nat) :
    Option Node :=
  if language.functionKinds.contains l.kind then lowerFunction l kids budget
  else if l.kind == "expression_statement" then lowerStatement l kids budget
  else if l.kind == "call_expression" then lowerCall l kids budget
  else if l.kind == "member_expression" then lowerMember l kids budget
  else if l.kind == "identifier" then some (.identifier l.text l.line)
  else lowerOther l kids budget

namespace Concrete

mutual
/-- Lowers a tree within a budget of nested steps. -/
def lower (language : Language) : Concrete → Nat → Option Node
  | mk l cs, budget => assemble language l (pending language cs) budget

/-- Lowers the kept children of a node. -/
def lowerChildren (language : Language) : Concrete → Nat → Option (List Node)
  | mk _ cs, budget => Pending.gather (pending language cs) budget

/-- The children of a node, ready to be lowered. -/
def pending (language : Language) : List Concrete → List Pending
  | [] => []
  | c :: cs => ⟨c.label, lower language c, lowerChildren language c⟩ :: pending language cs
end

/-- The children that are ready to be lowered correspond to the given ones. -/
theorem pending_eq_map (language : Language) (cs : List Concrete) :
    pending language cs =
      cs.map fun c => ⟨c.label, lower language c, lowerChildren language c⟩ := by
  induction cs with
  | nil => simp [pending]
  | cons c cs ih => simp [pending, ih]

end Concrete

/-- The number of nested steps that lowering a file may take. -/
def nestingBudget : Nat := 980

end Tree
end ContractAudit
