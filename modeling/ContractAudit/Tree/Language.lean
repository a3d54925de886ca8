import ContractAudit.Files.Pathname

/-!
# Languages and grammars

Two tables are kept by name.  A language says which file suffixes stand for it and
which of its nodes declare functions; a grammar is what the parser is loaded with.
A file is parsed with the grammar that has the name of its language, and lowered by
the language that has the name of its grammar, so that the tables have to agree.

Main results:

- Theorem {lit}`Grammar.names_eq`: the tables have the same names in the same order.
- Definition {lit}`Grammar.language`: the language of every grammar.
-/

namespace ContractAudit
namespace Tree

/-! ## Languages -/

/-- A language that is configured. -/
inductive Language where
  | javascript
  | typescript
  | tsx
  deriving DecidableEq, Repr

namespace Language

/-- All languages. -/
def all : List Language := [javascript, typescript, tsx]

/-- The name of a language. -/
def name : Language → String
  | javascript => "javascript"
  | typescript => "typescript"
  | tsx => "tsx"

/-- The file suffixes of a language. -/
def extensions : Language → List String
  | javascript => [".js", ".mjs", ".cjs", ".jsx"]
  | typescript => [".ts", ".mts", ".cts"]
  | tsx => [".tsx"]

/-- The kinds of concrete nodes that declare a function. -/
def functionKinds (_ : Language) : List String :=
  ["function_declaration", "generator_function_declaration"]

/-- The names of all languages. -/
def names : List String :=
  all.map name

/-- The language of a name. -/
def ofName? (s : String) : Option Language :=
  all.find? fun l => l.name == s

/-- The language of a file suffix, in any case.  The letters of all suffixes are
those of ASCII, and no other character has one of them as its lower case. -/
def ofSuffix? (suffix : String) : Option Language :=
  let lower := String.ofList (suffix.toList.map Char.toLower)
  all.find? fun l => l.extensions.contains lower

/-- The language of a file, by the suffix of its name. -/
def detect? (path : Files.Pathname) : Option Language :=
  ofSuffix? path.suffix

/-- All suffixes with a language, in increasing order. -/
def allExtensions : List String :=
  (all.flatMap extensions).mergeSort fun a b => a ≤ b

/-- A name leads back to its language. -/
theorem ofName?_name (l : Language) : ofName? l.name = some l := by
  cases l <;> decide

end Language

/-! ## Grammars -/

/-- A grammar that the parser can be loaded with. -/
inductive Grammar where
  | javascript
  | typescript
  | tsx
  deriving DecidableEq, Repr

namespace Grammar

/-- All grammars. -/
def all : List Grammar := [javascript, typescript, tsx]

/-- The name that a grammar is registered under. -/
def name : Grammar → String
  | javascript => "javascript"
  | typescript => "typescript"
  | tsx => "tsx"

/-- The names of all grammars. -/
def names : List String :=
  all.map name

/-- The grammar of a name. -/
def ofName? (s : String) : Option Grammar :=
  all.find? fun g => g.name == s

/-! ## Agreement of the tables -/

/-- The tables have the same names in the same order. -/
theorem names_eq : names = Language.names := rfl

/-- Every grammar is registered under the name of a language. -/
theorem isSome_ofName?_name (g : Grammar) : (Language.ofName? g.name).isSome := by
  have hmem : g.name ∈ Language.names := by
    rw [← names_eq]
    exact List.mem_map_of_mem (by cases g <;> decide)
  obtain ⟨l, -, hl⟩ := List.mem_map.mp hmem
  rw [← hl, Language.ofName?_name]
  rfl

/-- The language of a grammar: the one that is configured under its name. -/
def language (g : Grammar) : Language :=
  (Language.ofName? g.name).get g.isSome_ofName?_name

/-- The language of a grammar is found under the name of the grammar. -/
theorem ofName?_eq_language (g : Grammar) : Language.ofName? g.name = some g.language :=
  (Option.some_get g.isSome_ofName?_name).symm

/-- A grammar has the name of its language. -/
@[simp]
theorem name_language (g : Grammar) : g.language.name = g.name := by
  have hname := List.find?_some g.ofName?_eq_language
  simpa using hname

end Grammar

end Tree
end ContractAudit
