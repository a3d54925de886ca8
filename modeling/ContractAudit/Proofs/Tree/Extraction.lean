import ContractAudit.Proofs.Tree.Detection
import ContractAudit.Proofs.Tree.Nesting
import ContractAudit.Tree.Extraction

/-!
# The outcome of extraction

Extraction asks three questions in this order: which language is meant, whether
there is a grammar for it, and whether the concrete tree can be lowered.  Each of
them ends in its own fault, and nothing else ends an extraction: the language of
a grammar is always configured.

Main results:

- Theorem {lit}`extract_cases`: the three courses of an extraction.
- Theorem {lit}`programWithin_cases`: a tree is refused exactly if it is malformed
  or nested too deeply.
- Theorem {lit}`extraction_outcome`: the outcome for every budget, every path,
  every given language and every concrete tree.
-/

namespace ContractAudit
namespace Tree

/-! ## The language that is meant -/

/-- The name of the language that is meant: the given one if it is not empty, else
the one that the path stands for. -/
def requested (path : Files.Pathname) (given : Option String) : Option String :=
  if given.getD "" = "" then (Language.detect? path).map Language.name else given

/-- Extraction asks for the language that is meant; an empty name stands for none. -/
theorem languageName?_getD (path : Files.Pathname) (given : Option String) :
    languageName? path (given.getD "") = requested path given := by
  unfold languageName? requested
  cases given with
  | none => simp
  | some name => simp

namespace Grammar

/-- A name leads back to its grammar. -/
theorem ofName?_name (g : Grammar) : ofName? g.name = some g := by
  cases g <;> decide

/-- A name is found exactly if it is one of those that have a grammar. -/
theorem ofName?_eq_none_iff {name : String} :
    ofName? name = none ↔ name ∉ ["javascript", "typescript", "tsx"] := by
  rw [ofName?, List.find?_eq_none]
  constructor
  · intro h hmem
    have hnames : name ∈ all.map Grammar.name := hmem
    obtain ⟨g, hg, rfl⟩ := List.mem_map.mp hnames
    exact h g hg (beq_self_eq_true _)
  · intro h g hg hname
    obtain rfl := eq_of_beq hname
    exact h (List.mem_map_of_mem hg)

/-- What is found under a name has this name. -/
theorem name_of_ofName? {name : String} {g : Grammar} (h : ofName? name = some g) :
    g.name = name := by
  have hname := List.find?_some h
  simpa using hname

end Grammar

/-! ## The courses of an extraction -/

section Courses

variable {budget : Nat} {parsed : Grammar → Concrete} {path : Files.Pathname}
  {given : Option String}

/-- Without a language that is meant, the fault shows the suffix or the name of the
file. -/
theorem extract_of_undetected (h : requested path given = none) :
    extractWithin budget parsed path (given.getD "") = .error (.unsupportedLanguage
      (if path.suffix = "" then path.name else path.suffix) Grammar.names) := by
  rw [extractWithin, grammarOf, languageName?_getD, h]
  rfl

/-- A name without a grammar is refused as it was given. -/
theorem extract_of_unknown {name : String} (h : requested path given = some name)
    (hname : Grammar.ofName? name = none) :
    extractWithin budget parsed path (given.getD "") =
      .error (.unsupportedLanguage name Grammar.names) := by
  rw [extractWithin, grammarOf, languageName?_getD, h]
  dsimp only
  rw [hname]
  rfl

/-- A name with a grammar leads to the concrete tree, and on by the rules of the language. -/
theorem extract_of_known {g : Grammar} (h : requested path given = some g.name) :
    extractWithin budget parsed path (given.getD "") =
      programWithin budget path g.language (parsed g) := by
  rw [extractWithin, grammarOf, languageName?_getD, h]
  dsimp only
  rw [Grammar.ofName?_name]
  rfl

/-- No language is meant, or one without a grammar, or the concrete tree decides. -/
theorem extract_cases (budget : Nat) (parsed : Grammar → Concrete) (path : Files.Pathname)
    (given : Option String) :
    (requested path given = none ∧ extractWithin budget parsed path (given.getD "") =
      .error (.unsupportedLanguage (if path.suffix = "" then path.name else path.suffix)
        Grammar.names)) ∨
    (∃ name, requested path given = some name ∧ name ∉ ["javascript", "typescript", "tsx"] ∧
      extractWithin budget parsed path (given.getD "") =
        .error (.unsupportedLanguage name Grammar.names)) ∨
    (∃ g : Grammar, requested path given = some g.name ∧
      g.name ∈ ["javascript", "typescript", "tsx"] ∧
      extractWithin budget parsed path (given.getD "") =
        programWithin budget path g.language (parsed g)) := by
  cases hname : requested path given with
  | none => exact .inl ⟨rfl, extract_of_undetected hname⟩
  | some name =>
      cases hfound : Grammar.ofName? name with
      | none =>
          have hunknown := Grammar.ofName?_eq_none_iff.mp hfound
          exact .inr (.inl ⟨name, rfl, hunknown, extract_of_unknown hname hfound⟩)
      | some g =>
          obtain rfl := Grammar.name_of_ofName? hfound
          have hknown : g.name ∈ ["javascript", "typescript", "tsx"] := by
            by_contra hunknown
            rw [← Grammar.ofName?_eq_none_iff, hfound] at hunknown
            cases hunknown
          exact .inr (.inr ⟨g, rfl, hknown, extract_of_known hname⟩)

end Courses

/-! ## The verdict on a concrete tree -/

/-- A tree that extraction refuses: it is malformed or nested too deeply. -/
def Refused (budget : Nat) (language : Language) (tree : Concrete) : Prop :=
  tree.hasError = true ∨ budget < tree.nestingBelow language

/-- The fault of a malformed tree names the file and the language. -/
theorem exists_syntaxFault_eq (path : Files.Pathname) (language : Language) (tree : Concrete) :
    ∃ reason line column,
      syntaxFault path language tree = .parsing path language.name reason line column := by
  unfold syntaxFault
  cases tree.findError with
  | none => exact ⟨_, _, _, rfl⟩
  | some bad => exact ⟨_, _, _, rfl⟩

section Verdict

variable {budget : Nat} {path : Files.Pathname} {language : Language} {tree : Concrete}

/-- A tree is refused with a fault that names the file and the language, or it is
lowered to a program that starts in line one. -/
theorem programWithin_cases (budget : Nat) (path : Files.Pathname) (language : Language)
    (tree : Concrete) :
    (Refused budget language tree ∧ ∃ reason line column, programWithin budget path language tree =
      .error (.parsing path language.name reason line column)) ∨
    (¬Refused budget language tree ∧
      ∃ body, programWithin budget path language tree = .ok (.program body 1)) := by
  cases herror : tree.hasError with
  | true =>
      obtain ⟨reason, line, column, hfault⟩ := exists_syntaxFault_eq path language tree
      refine .inl ⟨.inl herror, reason, line, column, ?_⟩
      rw [programWithin_of_hasError herror, hfault]
  | false =>
      rw [programWithin_of_sound herror]
      have hdeep : tree.lowerChildren language budget = none ↔ Refused budget language tree := by
        rw [Concrete.lowerChildren_eq_none_iff, Refused, herror]
        simp
      cases hbody : tree.lowerChildren language budget with
      | none => exact .inl ⟨hdeep.mp hbody, _, _, _, rfl⟩
      | some body =>
          refine .inr ⟨fun hrefused => ?_, body, rfl⟩
          rw [hdeep.mpr hrefused] at hbody
          cases hbody

/-- The faults of parsing are those of refused trees. -/
theorem exists_programWithin_eq_error_iff :
    (∃ reason line column, programWithin budget path language tree =
      .error (.parsing path language.name reason line column)) ↔ Refused budget language tree := by
  rcases programWithin_cases budget path language tree with
    ⟨hrefused, hfault⟩ | ⟨hsound, body, hok⟩
  · exact ⟨fun _ => hrefused, fun _ => hfault⟩
  · refine ⟨?_, fun hrefused => absurd hrefused hsound⟩
    rintro ⟨_, _, _, hfault⟩
    rw [hok] at hfault
    cases hfault

/-- The programs are those of the trees that are not refused. -/
theorem exists_programWithin_eq_program_iff :
    (∃ body, programWithin budget path language tree = .ok (.program body 1)) ↔
      ¬Refused budget language tree := by
  rcases programWithin_cases budget path language tree with
    ⟨hrefused, _, _, _, hfault⟩ | ⟨hsound, hok⟩
  · refine ⟨?_, fun hsound => absurd hrefused hsound⟩
    rintro ⟨body, hok⟩
    rw [hok] at hfault
    cases hfault
  · exact ⟨fun _ => hsound, fun _ => hok⟩

/-- A tree is refused with a fault of parsing. -/
theorem kind_of_programWithin {f : Fault} (h : programWithin budget path language tree = .error f) :
    f.kind = .parsing := by
  rcases programWithin_cases budget path language tree with ⟨-, _, _, _, hfault⟩ | ⟨-, body, hok⟩
  · obtain rfl := Except.error.inj (hfault.symm.trans h)
    rfl
  · rw [hok] at h
    cases h

/-- A file without a grammar is refused as unsupported. -/
theorem kind_of_grammarOf {given : String} {f : Fault} (h : grammarOf path given = .error f) :
    f.kind = .unsupportedLanguage := by
  unfold grammarOf at h
  split at h
  next =>
    obtain rfl := Except.error.inj h
    rfl
  next =>
    split at h
    next => cases h
    next =>
      obtain rfl := Except.error.inj h
      rfl

end Verdict

/-! ## The outcome -/

section Outcomes

variable {budget : Nat} {parsed : Grammar → Concrete} {path : Files.Pathname}
  {given : Option String}

/-- The language is unsupported exactly if none is meant or it has no grammar, whatever
the concrete trees are. -/
theorem exists_unsupported_iff :
    (∃ f, extractWithin budget parsed path (given.getD "") = .error f ∧
      f.kind = .unsupportedLanguage) ↔
      requested path given = none ∨ ∃ name, requested path given = some name ∧
        name ∉ ["javascript", "typescript", "tsx"] := by
  rcases extract_cases budget parsed path given with
    ⟨hnone, hextract⟩ | ⟨name, hname, hunknown, hextract⟩ | ⟨g, hname, hknown, hextract⟩
  · exact ⟨fun _ => .inl hnone, fun _ => ⟨_, hextract, rfl⟩⟩
  · exact ⟨fun _ => .inr ⟨name, hname, hunknown⟩, fun _ => ⟨_, hextract, rfl⟩⟩
  · rw [hextract, hname]
    constructor
    · rintro ⟨f, hf, hkind⟩
      rw [kind_of_programWithin hf] at hkind
      cases hkind
    · rintro (hnone | ⟨name, hsome, hunknown⟩)
      · cases hnone
      · obtain rfl := Option.some.inj hsome
        exact absurd hknown hunknown

/-- An extraction ends in an unsupported language, in a fault of parsing or in a
program. -/
theorem error_or_program (budget : Nat) (parsed : Grammar → Concrete) (path : Files.Pathname)
    (given : Option String) :
    (∃ f, extractWithin budget parsed path (given.getD "") = .error f ∧
      (f.kind = .unsupportedLanguage ∨ f.kind = .parsing)) ∨
    ∃ body, extractWithin budget parsed path (given.getD "") = .ok (.program body 1) := by
  rcases extract_cases budget parsed path given with
    ⟨-, hextract⟩ | ⟨_, -, -, hextract⟩ | ⟨g, -, -, hextract⟩
  · exact .inl ⟨_, hextract, .inl rfl⟩
  · exact .inl ⟨_, hextract, .inl rfl⟩
  · rw [hextract]
    rcases programWithin_cases budget path g.language (parsed g) with
      ⟨-, _, _, _, hfault⟩ | ⟨-, hok⟩
    · exact .inl ⟨_, hfault, .inr rfl⟩
    · exact .inr hok

end Outcomes

/-- The outcome of the extraction of a file within a budget, for the language that is given
and what each grammar makes of the file. -/
structure ExtractionOutcome (budget : Nat) (parsed : Grammar → Concrete) (path : Files.Pathname)
    (given : Option String) : Prop where
  /-- The path stands for a language exactly if its last component in small letters
  is a stem that is not empty, followed by an extension of the language.  It does not
  matter which small forms are taken outside ASCII. -/
  detected : (∃ low : String, Text.IsLowerCase path.name.toList low.toList) ∧
    ∀ low : String, Text.IsLowerCase path.name.toList low.toList → ∀ l,
      Language.detect? path = some l ↔
        ∃ stem extension, stem ≠ "" ∧ extension ∈ l.extensions ∧ low = stem ++ extension
  /-- The language is unsupported exactly if none is meant or it has no grammar. -/
  unsupported : (∃ f, extractWithin budget parsed path (given.getD "") = .error f ∧
      f.kind = .unsupportedLanguage) ↔
    requested path given = none ∨
      ∃ name, requested path given = some name ∧ name ∉ ["javascript", "typescript", "tsx"]
  /-- If none is meant, the fault shows the suffix of the file or else its name. -/
  undetected : requested path given = none →
    extractWithin budget parsed path (given.getD "") = .error (.unsupportedLanguage
      (if path.suffix = "" then path.name else path.suffix) ["javascript", "typescript", "tsx"])
  /-- If it has no grammar, the fault shows its name. -/
  unknown : ∀ name, requested path given = some name →
    name ∉ ["javascript", "typescript", "tsx"] →
    extractWithin budget parsed path (given.getD "") =
      .error (.unsupportedLanguage name ["javascript", "typescript", "tsx"])
  /-- Under a name in the table of grammars there is always a language in the table of
  languages, whose rules the concrete tree is lowered by. -/
  configured : ∀ name, requested path given = some name →
    name ∈ ["javascript", "typescript", "tsx"] → ∃ (g : Grammar) (l : Language),
      Grammar.ofName? name = some g ∧ Language.ofName? name = some l ∧ l.name = name ∧
        extractWithin budget parsed path (given.getD "") = programWithin budget path l (parsed g)
  /-- With a grammar, the fault is one of parsing, which names the language, exactly
  if the tree is malformed or nested too deeply. -/
  parsing : ∀ g : Grammar, requested path given = some g.name →
    ((∃ reason line column, extractWithin budget parsed path (given.getD "") =
        .error (.parsing path g.name reason line column)) ↔
      (parsed g).hasError = true ∨ budget < (parsed g).nestingBelow g.language)
  /-- With a grammar, a program with line one is returned exactly if it is neither. -/
  returned : ∀ g : Grammar, requested path given = some g.name →
    ((∃ body, extractWithin budget parsed path (given.getD "") = .ok (.program body 1)) ↔
      (parsed g).hasError = false ∧ (parsed g).nestingBelow g.language ≤ budget)
  /-- There is no other outcome. -/
  exhaustive : (∃ f, extractWithin budget parsed path (given.getD "") = .error f ∧
      (f.kind = .unsupportedLanguage ∨ f.kind = .parsing)) ∨
    ∃ body, extractWithin budget parsed path (given.getD "") = .ok (.program body 1)

/-- The outcome of extraction for every budget, every path, every language that is given or
not and every concrete tree. -/
theorem extraction_outcome (budget : Nat) (parsed : Grammar → Concrete) (path : Files.Pathname)
    (given : Option String) : ExtractionOutcome budget parsed path given := by
  refine ⟨⟨?_, fun low hlow l => Language.detect?_eq_some_iff hlow⟩, exists_unsupported_iff,
    extract_of_undetected, ?_, ?_, ?_, ?_, error_or_program budget parsed path given⟩
  · refine ⟨String.ofList (path.name.toList.map Char.toLower), ?_⟩
    rw [String.toList_ofList]
    exact Text.isLowerCase_map_toLower _
  · intro name hname hunknown
    exact extract_of_unknown hname (Grammar.ofName?_eq_none_iff.mpr hunknown)
  · intro name hname hknown
    cases hfound : Grammar.ofName? name with
    | none => exact absurd hknown (Grammar.ofName?_eq_none_iff.mp hfound)
    | some g =>
        obtain rfl := Grammar.name_of_ofName? hfound
        exact ⟨g, g.language, rfl, g.ofName?_eq_language, g.name_language, extract_of_known hname⟩
  · intro g hname
    rw [extract_of_known hname, ← g.name_language]
    exact exists_programWithin_eq_error_iff
  · intro g hname
    rw [extract_of_known hname, exists_programWithin_eq_program_iff, Refused, not_or, Nat.not_lt,
      Bool.not_eq_true]

end Tree
end ContractAudit
