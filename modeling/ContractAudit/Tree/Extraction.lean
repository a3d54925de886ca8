import ContractAudit.Tree.Lowering
import ContractAudit.Fault

/-!
# Extraction

Extraction takes a file from its path to the lowered tree: the language is
given or detected and must have a grammar, the concrete tree must be free of
errors, and it must not be nested too deeply.
-/

namespace ContractAudit
namespace Tree

/-- The name of the language of a file: the given name if it is not empty, else by suffix. -/
def languageName? (path : Files.Pathname) (given : String) : Option String :=
  if given = "" then (Language.detect? path).map Language.name else some given

/-- The grammar of a file: the one with the name of its language. -/
def grammarOf (path : Files.Pathname) (given : String) : Except Fault Grammar :=
  match languageName? path given with
  | none =>
    let shown := if path.suffix = "" then path.name else path.suffix
    .error (.unsupportedLanguage shown Grammar.names)
  | some name =>
    match Grammar.ofName? name with
    | some g => .ok g
    | none => .error (.unsupportedLanguage name Grammar.names)

/-- The fault of a tree that is flagged as malformed. -/
def syntaxFault (path : Files.Pathname) (language : Language) (tree : Concrete) : Fault :=
  match tree.findError with
  | none => .parsing path language.name "syntax error" none none
  | some bad =>
    let reason := if bad.label.missing then "missing " ++ bad.label.kind else "unexpected syntax"
    .parsing path language.name reason (some ((bad.label.row : Int) + 1))
      (some ((bad.label.column : Int) + 1))

/-- The concrete tree of a file, unless it is flagged as malformed. -/
def checked (path : Files.Pathname) (language : Language) (tree : Concrete) :
    Except Fault Concrete :=
  if tree.hasError then .error (syntaxFault path language tree) else .ok tree

/-- The fault of a tree that is nested too deeply. -/
def nestingFault (path : Files.Pathname) (language : Language) : Fault :=
  .parsing path language.name "syntax tree nested too deeply" none none

/-- The lowered tree of a concrete one, within a budget of nested steps. -/
def programWithin (budget : Nat) (path : Files.Pathname) (language : Language) (tree : Concrete) :
    Except Fault Node := do
  let tree ← checked path language tree
  match tree.lowerChildren language budget with
  | some body => .ok (.program body 1)
  | none => .error (nestingFault path language)

/-- The lowered tree of a concrete one. -/
def programOf (path : Files.Pathname) (language : Language) (tree : Concrete) :
    Except Fault Node :=
  programWithin nestingBudget path language tree

/-- A malformed tree has no lowered tree. -/
theorem programWithin_of_hasError {budget : Nat} {path : Files.Pathname} {language : Language}
    {tree : Concrete} (h : tree.hasError = true) :
    programWithin budget path language tree = .error (syntaxFault path language tree) := by
  rw [programWithin, checked, if_pos h]
  rfl

/-- A tree that is not malformed is lowered unless the budget is too small for it. -/
theorem programWithin_of_sound {budget : Nat} {path : Files.Pathname} {language : Language}
    {tree : Concrete} (h : tree.hasError = false) :
    programWithin budget path language tree =
      match tree.lowerChildren language budget with
      | some body => .ok (.program body 1)
      | none => .error (nestingFault path language) := by
  rw [programWithin, checked, h]
  rfl

/-- Extracts the lowered tree of a file within a budget of nested steps, given what each
grammar makes of it. -/
def extractWithin (budget : Nat) (parsed : Grammar → Concrete) (path : Files.Pathname)
    (given : String) : Except Fault Node := do
  let g ← grammarOf path given
  programWithin budget path g.language (parsed g)

/-- Extracts the lowered tree of a file, given what each grammar makes of it. -/
def extract (parsed : Grammar → Concrete) (path : Files.Pathname) (given : String) :
    Except Fault Node :=
  extractWithin nestingBudget parsed path given

end Tree
end ContractAudit
