import ContractAudit.Proofs.Tree.Visits

/-!
# Optional calls

A call can be written as optional.  Some grammars put the mark of an optional
call into a field of the call, others leave it as a bare token among its
children.  Lowering reads the field only, so that a call whose mark is a bare
token is lowered like a plain one: a statement of it counts as a contract
assertion if the name that it calls is one.

Main results:

- Theorem {lit}`Concrete.callsAssertion_eq`: a call of an assertion counts unless
  a field marks it as optional.
- Theorem {lit}`optional_calls_counted`: which optional calls are counted in an
  extracted program, and when none is.
-/

namespace ContractAudit
namespace Tree
namespace Concrete

/-! ## Two ways to write an optional call -/

/-- Whether a node is a bare token that makes a call optional. -/
def isChainToken (c : Concrete) : Bool :=
  c.label.kind == "?." && !c.label.named && c.label.field.isNone

/-- Whether a field of a call marks it as optional. -/
def isMarked (c : Concrete) : Bool :=
  (c.field? "optional_chain").isSome

/-- Whether a node is a call that is written as optional, in either way. -/
def isOptionalCall (c : Concrete) : Bool :=
  c.label.kind == "call_expression" && (c.isMarked || c.children.any isChainToken)

/-- Whether a node calls a contract assertion by its plain name, optionally or not. -/
def callsByName (c : Concrete) : Bool :=
  c.label.kind == "call_expression" && (c.field? "function").any fun callee =>
    callee.label.kind == "identifier" && Node.assertionNames.contains callee.label.text

/-- The expression of a statement that consists of one, comments aside. -/
def expression? (c : Concrete) : Option Concrete :=
  if c.label.kind == "expression_statement" then
    match c.children.filter fun d => d.label.kept with
    | [e] => some e
    | _ => none
  else none

/-- Whether a node is a statement that calls a contract assertion and is not
written as optional. -/
def statesPlainly (c : Concrete) : Bool :=
  c.expression?.any fun e => e.callsByName && !e.isOptionalCall

/-- Whether a node is a statement that calls a contract assertion and is written as
optional by a bare token only. -/
def statesUnmarked (c : Concrete) : Bool :=
  c.expression?.any fun e => e.callsByName && e.isOptionalCall && !e.isMarked

/-! ## What lowering reads -/

/-- A call of an assertion counts unless a field marks it as optional. -/
theorem callsAssertion_eq (c : Concrete) : c.callsAssertion = (c.callsByName && !c.isMarked) := by
  rw [callsAssertion, callsByName, isMarked, Option.not_isSome, Bool.and_assoc, Bool.and_assoc,
    Bool.and_comm (Option.isNone _)]

/-- A statement counts if its expression does. -/
theorem statesAssertion_eq (c : Concrete) :
    c.statesAssertion = c.expression?.any callsAssertion := by
  rw [statesAssertion, expression?]
  by_cases hkind : c.label.kind == "expression_statement"
  · rw [hkind, Bool.true_and, if_pos rfl]
    generalize (c.children.filter fun d => d.label.kept) = kept
    rcases kept with _ | ⟨e, _ | ⟨_, _⟩⟩ <;> rfl
  · simp [hkind]

/-- A statement of one expression counts exactly if this calls an assertion by its
plain name and no field marks it. -/
theorem isAssertion_image_iff {language : Language} {c e : Concrete}
    (he : c.expression? = some e) :
    (c.image language).isAssertion = true ↔ e.isMarked = false ∧ e.callsByName = true := by
  rw [isAssertion_image, statesAssertion_eq, he, Option.any_some, callsAssertion_eq,
    Bool.and_eq_true, Bool.not_eq_true', and_comm]

/-- The statements that count are those of plain calls and those of optional calls
that no field marks. -/
theorem countP_statesAssertion (cs : List Concrete) :
    cs.countP statesAssertion = cs.countP statesPlainly + cs.countP statesUnmarked := by
  induction cs with
  | nil => rfl
  | cons c cs ih =>
      have hhead : (if c.statesAssertion then 1 else 0) =
          (if c.statesPlainly then 1 else 0) + (if c.statesUnmarked then 1 else 0) := by
        rw [statesAssertion_eq, statesPlainly, statesUnmarked]
        cases c.expression? with
        | none => rfl
        | some e =>
            -- a call that a field marks is optional, so that the two sorts exclude each other
            have hmarked : e.callsByName = true → e.isMarked = true → e.isOptionalCall = true := by
              intro hname hmark
              rw [callsByName, Bool.and_eq_true] at hname
              simp [isOptionalCall, hname.1, hmark]
            rw [Option.any_some, Option.any_some, Option.any_some, callsAssertion_eq]
            cases hname : e.callsByName <;> cases hmark : e.isMarked <;>
              cases hoptional : e.isOptionalCall <;> simp_all
      rw [List.countP_cons, List.countP_cons, List.countP_cons, ih, hhead]
      omega

end Concrete

open Coverage (Tally)

/-- A statement of an optional call counts exactly if a bare token is its only mark
and an assertion is called by its plain name.  Counting an extracted program
therefore adds the plain calls of assertions and these, so that it leaves out all
optional calls exactly if every visited one of an assertion is marked by a
field. -/
theorem optional_calls_counted {budget : Nat} {path : Files.Pathname} {language : Language}
    {tree : Concrete} {program : Node} (h : programWithin budget path language tree = .ok program)
    (t : Tally) :
    (∀ c e : Concrete, c.expression? = some e → e.isOptionalCall = true →
      ((c.image language).isAssertion = true ↔ e.isMarked = false ∧ e.callsByName = true)) ∧
    (t.countTree program).2 = none ∧
    (t.countTree program).1.assertions = t.assertions +
      (tree.visitedBelow language).countP Concrete.statesPlainly +
      (tree.visitedBelow language).countP Concrete.statesUnmarked ∧
    ((t.countTree program).1.assertions =
        t.assertions + (tree.visitedBelow language).countP Concrete.statesPlainly ↔
      ∀ c ∈ tree.visitedBelow language, ∀ e, c.expression? = some e →
        e.isOptionalCall = true → e.callsByName = true → e.isMarked = true) := by
  have hcounted : (t.countTree program).1.assertions = t.assertions +
      (tree.visitedBelow language).countP Concrete.statesPlainly +
      (tree.visitedBelow language).countP Concrete.statesUnmarked := by
    rw [countTree_of_visits h, Tally.add_assertions, Concrete.countP_statesAssertion]
    omega
  refine ⟨fun c e he _ => Concrete.isAssertion_image_iff he, ?_, hcounted, ?_⟩
  · rw [countTree_of_visits h]
  · have hzero : ((tree.visitedBelow language).countP Concrete.statesUnmarked = 0) ↔
        ∀ c ∈ tree.visitedBelow language, ∀ e, c.expression? = some e →
          e.isOptionalCall = true → e.callsByName = true → e.isMarked = true := by
      rw [List.countP_eq_zero]
      refine forall₂_congr fun c _ => ?_
      cases hc : c.expression? with
      | none => simp [Concrete.statesUnmarked, hc]
      | some e =>
          simp only [Concrete.statesUnmarked, hc, Option.any_some, Option.some.injEq, forall_eq',
            Bool.and_eq_true, Bool.not_eq_true', not_and, Bool.not_eq_false]
          exact ⟨fun hall hoptional hname => hall ⟨hname, hoptional⟩,
            fun hall hboth => hall hboth.2 hboth.1⟩
    rw [hcounted, ← hzero]
    omega

/-- An optional call of a precondition whose mark is a bare token adds one
assertion. -/
theorem optional_calls_counted_bare_token :
    let name : Concrete :=
      .mk { kind := "identifier", field := some "function", text := "precondition" } []
    let argument : Concrete := .mk { kind := "identifier", text := "x" } []
    let call : Concrete := .mk { kind := "call_expression" } [
      name, .mk { kind := "?.", named := false } [],
      .mk { kind := "arguments", field := some "arguments" } [argument]]
    let statement : Concrete := .mk { kind := "expression_statement" } [
      call, .mk { kind := ";", named := false } []]
    let tree : Concrete := .mk { kind := "program" } [statement]
    ∃ program, programOf ⟨.relative, ["a.ts"]⟩ .typescript tree = .ok program ∧
      statement.expression? = some call ∧ call.isOptionalCall = true ∧
      (statement.image .typescript).isAssertion = true ∧
      (Tally.countTree {} program).1.assertions = 1 := by
  intro name argument call statement tree
  have hprogram : programOf ⟨.relative, ["a.ts"]⟩ .typescript tree = .ok _ := rfl
  have hexpression : statement.expression? = some call := rfl
  have hoptional : call.isOptionalCall = true := by decide
  obtain ⟨hstatement, -, hassertions, -⟩ := optional_calls_counted hprogram {}
  refine ⟨_, hprogram, hexpression, hoptional, ?_, ?_⟩
  · exact (hstatement statement call hexpression hoptional).mpr ⟨by decide, by decide⟩
  · have hvisited : tree.visitedBelow .typescript = [statement, call, name, argument] := by
      have hkept : tree.children.filter (fun c => c.label.kept) = [statement] := rfl
      have hstatement : statement.descents .typescript = [call] := rfl
      have hcall : call.descents .typescript = [name, argument] := rfl
      have hname : name.descents .typescript = [] := rfl
      have hargument : argument.descents .typescript = [] := rfl
      simp [Concrete.visitedBelow, hkept, Concrete.visited_eq_cons, hstatement, hcall, hname,
        hargument]
    rw [hassertions, hvisited]
    decide

end Tree
end ContractAudit
