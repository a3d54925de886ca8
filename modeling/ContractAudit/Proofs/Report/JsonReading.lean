import ContractAudit.Proofs.Report.JsonText

/-!
# The JSON report reads back

The writer puts items between brackets, one per line, with a margin of spaces.
A block is read back if each of its items is, so that a whole report is read
back from the bottom up: strings and numbers, the rows, the list of rows and the
document.

Main results:

- Theorem {lit}`reads_array`, {lit}`reads_object`: a block is read back if its
  items are.
- Theorem {lit}`readJson_json`: a report is read back as the entries of its rows.
-/

namespace ContractAudit
namespace Report

open Coverage (Tally Row)
open Number (IsDouble)
open Text (doubleQuote)

/-! ## Lists of items -/

section Lists

variable {α : Type} {one : List Char → Option (α × List Char)} {close : Char}
  {margin final : List Char}

/-- Items with a comma and a margin between them are read one after the other. -/
theorem readSequence_intercalate (hclose : close = ']' ∨ close = '\x7d')
    (hmargin : ∀ c ∈ margin, isSpace c = true) (hfinal : ∀ c ∈ final, isSpace c = true)
    {item : List Char × α} {items : List (List Char × α)}
    (h : ∀ p ∈ item :: items, Reads one p.1 p.2) {count : Nat} (hcount : items.length < count)
    (rest : List Char) :
    readSequence one close count (margin ++ ((',' :: margin).intercalate
        ((item :: items).map Prod.fst) ++ (final ++ close :: rest))) =
      some ((item :: items).map Prod.snd, rest) := by
  have hspace : isSpace close = false := by rcases hclose with rfl | rfl <;> rfl
  have hcomma : (close == ',') = false := by rcases hclose with rfl | rfl <;> rfl
  induction items generalizing item count with
  | nil =>
      obtain ⟨count, rfl⟩ := Nat.exists_eq_succ_of_ne_zero (Nat.ne_of_gt hcount)
      have hitem := h item List.mem_cons_self
      have hstops : Stops (final ++ close :: rest) := by
        cases final with
        | nil => exact stops_cons (.inr (.inr hclose)) rest
        | cons c final => exact stops_cons (.inl (hfinal c List.mem_cons_self)) _
      simp only [List.map_cons, List.map_nil, List.intercalate_singleton]
      rw [readSequence, hitem margin _ hmargin hstops, Option.bind_some]
      simp [skipSpaces_append hfinal, skipSpaces_cons hspace, hcomma]
  | cons next items ih =>
      obtain ⟨count, rfl⟩ := Nat.exists_eq_succ_of_ne_zero (Nat.ne_of_gt (Nat.zero_lt_of_lt hcount))
      have hitem := h item List.mem_cons_self
      have hrest := ih (fun p hp => h p (List.mem_cons_of_mem item hp))
        (Nat.lt_of_succ_lt_succ hcount)
      simp only [List.map_cons, List.intercalate_cons_cons, List.append_assoc, List.cons_append]
      rw [readSequence, hitem margin _ hmargin (stops_cons (.inr (.inl rfl)) _), Option.bind_some]
      simp only [List.map_cons] at hrest
      simp [skipSpaces_cons, isSpace, hrest]

/-- There are no more items than characters. -/
theorem length_le_length_intercalate (separator : Char) (margin : List Char)
    (texts : List (List Char)) :
    texts.length ≤ ((separator :: margin).intercalate texts).length + 1 := by
  induction texts with
  | nil => simp
  | cons text texts ih =>
      cases texts with
      | nil => simp
      | cons next texts =>
          rw [List.intercalate_cons_cons]
          simp only [List.length_append, List.length_cons] at ih ⊢
          omega

/-- A reader of items refuses what closes the list, and the end of the text. -/
structure Refuses (one : List Char → Option (α × List Char)) (close : Char) : Prop where
  at_close : ∀ cs rest, skipSpaces cs = close :: rest → one cs = none
  at_end : ∀ cs, skipSpaces cs = [] → one cs = none

/-- A list of one item or more is read item by item. -/
theorem readList_of_readSequence (hrefuses : Refuses one close) {cs : List Char}
    {result : List α × List Char} (h : readSequence one close cs.length cs = some result) :
    readList one close cs = some result := by
  have hone : one cs ≠ none := by
    intro hnone
    cases hcount : cs.length with
    | zero => simp [hcount, readSequence] at h
    | succ count => simp [hcount, readSequence, hnone] at h
  unfold readList
  split
  next hnil => exact absurd (hrefuses.at_end cs hnil) hone
  next c more hcons =>
    rw [if_neg]
    · exact h
    · intro hc
      obtain rfl := eq_of_beq hc
      exact hone (hrefuses.at_close cs more hcons)

/-- The margin in front of an item. -/
def marginOf (n : Nat) : List Char :=
  '\n' :: List.replicate n ' '

theorem isSpace_of_mem_marginOf {n : Nat} {c : Char} (h : c ∈ marginOf n) : isSpace c = true := by
  rcases List.mem_cons.1 h with rfl | hblank
  · rfl
  · rw [List.eq_of_mem_replicate hblank]
    rfl

/-- A block behind its opening bracket. -/
def blockBody (close : Char) (indent : Nat) (texts : List (List Char)) : List Char :=
  if texts.isEmpty then [close]
  else marginOf indent ++ ((',' :: marginOf indent).intercalate texts ++
    (marginOf (indent - 2) ++ [close]))

theorem toList_jsonBlock (first last : String) (opening close : Char) (indent : Nat)
    (items : List String) (hfirst : first.toList = [opening]) (hlast : last.toList = [close]) :
    (jsonBlock first last indent items).toList =
      opening :: blockBody close indent (items.map String.toList) := by
  unfold jsonBlock blockBody
  by_cases hitems : items = []
  · simp [hitems, hfirst, hlast]
  · simp [hitems, hfirst, hlast, String.toList_intercalate, marginOf]

/-- The items of a block are read. -/
theorem readList_blockBody (hclose : close = ']' ∨ close = '\x7d') (hrefuses : Refuses one close)
    (indent : Nat) (items : List (List Char × α)) (h : ∀ p ∈ items, Reads one p.1 p.2)
    (rest : List Char) :
    readList one close (blockBody close indent (items.map Prod.fst) ++ rest) =
      some (items.map Prod.snd, rest) := by
  have hspace : isSpace close = false := by rcases hclose with rfl | rfl <;> rfl
  cases items with
  | nil => simp [blockBody, readList, skipSpaces_cons hspace]
  | cons item items =>
      have hbody : blockBody close indent ((item :: items).map Prod.fst) ++ rest =
          marginOf indent ++ ((',' :: marginOf indent).intercalate ((item :: items).map Prod.fst) ++
            (marginOf (indent - 2) ++ close :: rest)) := by
        simp [blockBody]
      rw [hbody]
      refine readList_of_readSequence hrefuses ?_
      refine readSequence_intercalate hclose (fun _ => isSpace_of_mem_marginOf)
        (fun _ => isSpace_of_mem_marginOf) h ?_ rest
      have hlength := length_le_length_intercalate ',' (marginOf indent)
        ((item :: items).map Prod.fst)
      simp only [List.length_map, List.length_cons, List.length_append] at hlength ⊢
      omega

end Lists

/-! ## Arrays and objects -/

section Blocks

variable {depth : Nat}

theorem refuses_readValue (depth : Nat) : Refuses (readValue depth) ']' := by
  constructor
  · intro cs rest hcs
    cases depth with
    | zero => rfl
    | succ depth =>
        rw [readValue, hcs]
        rfl
  · intro cs hcs
    cases depth with
    | zero => rfl
    | succ depth => rw [readValue, hcs]

theorem refuses_readMember (value : List Char → Option (Json × List Char)) :
    Refuses (readMember value) '\x7d' := by
  constructor
  · intro cs rest hcs
    rw [readMember, hcs]
    rfl
  · intro cs hcs
    rw [readMember, hcs]

/-- An array is read back if its items are. -/
theorem reads_array (indent : Nat) {items : List (String × Json)}
    (h : ∀ p ∈ items, Reads (readValue depth) p.1.toList p.2) :
    Reads (readValue (depth + 1)) (jsonBlock "[" "]" indent (items.map Prod.fst)).toList
      (.array (items.map Prod.snd)) := by
  rw [toList_jsonBlock _ _ '[' ']' indent _ rfl rfl]
  refine reads_of_readFrom (by decide) fun rest _ => ?_
  have hfrom (cs : List Char) : readFrom (readValue depth) '[' cs =
      (readList (readValue depth) ']' cs).map fun p => (.array p.1, p.2) := rfl
  have hread := readList_blockBody (.inl rfl) (refuses_readValue depth) indent
    (items.map fun p => (p.1.toList, p.2)) (List.forall_mem_map.2 h) rest
  simp only [List.map_map, Function.comp_def] at hread ⊢
  rw [hfrom, hread, Option.map_some]

/-- An object is read back if its members are. -/
theorem reads_object (indent : Nat) {members : List (String × String × Json)}
    (h : ∀ m ∈ members, Reads (readMember (readValue depth)) m.1.toList m.2) :
    Reads (readValue (depth + 1)) (jsonBlock "\x7b" "\x7d" indent (members.map Prod.fst)).toList
      (.object (members.map Prod.snd)) := by
  rw [toList_jsonBlock _ _ '\x7b' '\x7d' indent _ rfl rfl]
  refine reads_of_readFrom (by decide) fun rest _ => ?_
  have hfrom (cs : List Char) : readFrom (readValue depth) '\x7b' cs =
      (readList (readMember (readValue depth)) '\x7d' cs).map fun p => (.object p.1, p.2) := rfl
  have hread := readList_blockBody (.inr rfl) (refuses_readMember (readValue depth)) indent
    (members.map fun m => (m.1.toList, m.2)) (List.forall_mem_map.2 h) rest
  simp only [List.map_map, Function.comp_def] at hread ⊢
  rw [hfrom, hread, Option.map_some]

/-- A member is read back if its value is. -/
theorem reads_jsonMember {value : List Char → Option (Json × List Char)} {key text : String}
    {j : Json} (h : Reads value text.toList j) :
    Reads (readMember value) (jsonMember key text).toList (key, j) := by
  intro spaces rest hspaces hrest
  have hcolon : skipSpaces (':' :: ' ' :: (text.toList ++ rest)) =
      ':' :: ' ' :: (text.toList ++ rest) := skipSpaces_cons (by decide) _
  have hvalue : value (' ' :: (text.toList ++ rest)) = some (j, rest) :=
    h [' '] rest (by simp [isSpace]) hrest
  have htext : (jsonMember key text).toList ++ rest =
      doubleQuote :: (key.toList.flatMap jsonChar ++
        doubleQuote :: ':' :: ' ' :: (text.toList ++ rest)) := by
    simp [jsonMember, jsonString]
  rw [htext, readMember, skipSpaces_append hspaces, skipSpaces_cons (by decide)]
  dsimp only
  rw [if_pos (beq_self_eq_true _), readString_jsonString, Option.bind_some]
  dsimp only
  rw [hcolon]
  simp [hvalue]

end Blocks

/-! ## Reports -/

/-- The entry of a row. -/
def entryOf (row : Row) : Json :=
  .object [("label", .string row.label),
    ("coverage", .double (.finite false (row.coverage.roundPlaces coveragePlaces))),
    ("functions", .int row.functions), ("assertions", .int row.assertions),
    ("status", .string row.verdict.text)]

/-- A row is read back as its entry, if its rounded coverage is a finite double. -/
theorem reads_jsonRow (depth indent : Nat) {row : Row}
    (hfinite : (row.coverage.roundPlaces coveragePlaces).units < Number.overflowUnits) :
    Reads (readValue (depth + 2)) (jsonRow indent row).toList (entryOf row) := by
  have hdouble : IsDouble (row.coverage.roundPlaces coveragePlaces).units :=
    Number.isDouble_nearestUnits _ (Number.tenTo_pos _)
  let members : List (String × String × Json) :=
    [(jsonMember "label" (jsonString row.label), "label", .string row.label),
      (jsonMember "coverage" (row.coverage.roundPlaces coveragePlaces).text, "coverage",
        .double (.finite false (row.coverage.roundPlaces coveragePlaces))),
      (jsonMember "functions" (Number.intText row.functions), "functions", .int row.functions),
      (jsonMember "assertions" (Number.intText row.assertions), "assertions",
        .int row.assertions),
      (jsonMember "status" (jsonString row.verdict.text), "status", .string row.verdict.text)]
  have hmembers : ∀ m ∈ members, Reads (readMember (readValue (depth + 1))) m.1.toList m.2 := by
    simp only [members, List.forall_mem_cons, List.not_mem_nil, false_implies, implies_true,
      and_true]
    exact ⟨reads_jsonMember (reads_jsonString depth _),
      reads_jsonMember (reads_magnitudeText depth hdouble hfinite),
      reads_jsonMember (reads_intText depth _), reads_jsonMember (reads_intText depth _),
      reads_jsonMember (reads_jsonString depth _)⟩
  have hrow : jsonRow indent row = jsonBlock "\x7b" "\x7d" indent (members.map Prod.fst) := rfl
  have hentry : entryOf row = .object (members.map Prod.snd) := rfl
  rw [hrow, hentry]
  exact reads_object indent hmembers

/-- The entry of the total row, or nothing. -/
def totalEntry (t : Tally) : Json :=
  match t.totalRow with
  | some row => entryOf row
  | none => .null

/-- The text of the total row. -/
def totalText (t : Tally) : String :=
  match t.totalRow with
  | some row => jsonRow 4 row
  | none => "null"

/-- The members of a report, with what they are read as. -/
def reportMembers (t : Tally) : List (String × String × Json) :=
  [(jsonMember "files" (jsonBlock "[" "]" 4 (t.fileRows.map (jsonRow 6))), "files",
      .array (t.fileRows.map entryOf)),
    (jsonMember "total" (totalText t), "total", totalEntry t)]

theorem json_eq (t : Tally) :
    json t = jsonBlock "\x7b" "\x7d" 2 ((reportMembers t).map Prod.fst) := rfl

/-- The rows of a report have coverages that are finite when they are rounded. -/
def Printable (t : Tally) : Prop :=
  ∀ row ∈ t.fileRows ++ t.totalRow.toList,
    (row.coverage.roundPlaces coveragePlaces).units < Number.overflowUnits

/-- The rows of files are read back. -/
theorem reads_files {t : Tally} (h : Printable t) (depth : Nat) :
    Reads (readValue (depth + 3)) (jsonBlock "[" "]" 4 (t.fileRows.map (jsonRow 6))).toList
      (.array (t.fileRows.map entryOf)) := by
  have hitems : ∀ p ∈ t.fileRows.map fun row => (jsonRow 6 row, entryOf row),
      Reads (readValue (depth + 2)) p.1.toList p.2 := by
    refine List.forall_mem_map.2 fun row hrow => ?_
    exact reads_jsonRow depth 6 (h row (List.mem_append_left _ hrow))
  have hread := reads_array 4 hitems
  simpa only [List.map_map, Function.comp_def] using hread

/-- The total row is read back. -/
theorem reads_total {t : Tally} (h : Printable t) (depth : Nat) :
    Reads (readValue (depth + 3)) (totalText t).toList (totalEntry t) := by
  unfold totalText totalEntry
  cases htotal : t.totalRow with
  | none => exact reads_null (depth + 2)
  | some row => exact reads_jsonRow (depth + 1) 4 (h row (by simp [htotal]))

/-- A report is read back as the entries of its rows. -/
theorem readJson_json {t : Tally} (h : Printable t) :
    readJson (json t) =
      some (.object [("files", .array (t.fileRows.map entryOf)), ("total", totalEntry t)]) := by
  obtain ⟨depth, hdepth⟩ : ∃ depth, (json t).length = depth + 3 := by
    refine ⟨(json t).length - 3, ?_⟩
    have hlength : 3 ≤ (json t).toList.length := by
      rw [json_eq, toList_jsonBlock _ _ '\x7b' '\x7d' 2 _ rfl rfl]
      simp [blockBody, reportMembers, marginOf]
    rw [String.length_toList] at hlength
    omega
  have hmembers : ∀ m ∈ reportMembers t,
      Reads (readMember (readValue (depth + 3))) m.1.toList m.2 := by
    simp only [reportMembers, List.forall_mem_cons, List.not_mem_nil, false_implies, implies_true,
      and_true]
    exact ⟨reads_jsonMember (reads_files h depth), reads_jsonMember (reads_total h depth)⟩
  have hread := reads_object 2 hmembers [] [] (by simp) (by simp [Stops])
  rw [← json_eq, List.nil_append, List.append_nil] at hread
  rw [readJson, hdepth, hread]
  rfl

end Report
end ContractAudit
