import ContractAudit.Report.Csv
import ContractAudit.Proofs.Number.Decimals

/-!
# Reading comma-separated values

A reader of comma-separated values goes through a text once.  Commas separate
fields and line ends separate records, except between quotes, where two quotes
stand for one.  A line feed, a carriage return and both together end a line.

Between quotes a carriage return is a character like any other.  A writer that
quotes a field for every line end is therefore always read back.  A writer that
quotes a field for the line feed only is read back exactly if every label with a
carriage return has another character that it is quoted for.

Main results:

- Theorem {lit}`foldl_step_csvRecord`: a record of readable fields is read back.
- Theorem {lit}`prefix_finish`: records that are read stay.
- Theorem {lit}`readCsv_csv_iff`: a report is read back exactly if the labels of
  its rows are readable.
- Theorem {lit}`csv_reads_back`: that reports are read back, and what they hold.
-/

namespace ContractAudit
namespace Report

open Coverage (Tally Row)
open Number (IsFixedPoint IsInteger IsNearest)
open Text (doubleQuote)

/-! ## The reader -/

/-- Where a reader stands. -/
inductive Standing where
  | recordStart
  | afterReturn
  | fieldStart
  | bare
  | quoted
  | closing
  deriving DecidableEq, Repr

/-- A reader: where it stands, the field and the record that it is in, and the records
before them. -/
structure CsvReader where
  standing : Standing := .recordStart
  field : List Char := []
  record : List String := []
  records : List (List String) := []
  deriving DecidableEq, Repr

namespace CsvReader

/-- Takes one more character into the field. -/
def take (r : CsvReader) (standing : Standing) (c : Char) : CsvReader :=
  { r with standing, field := r.field ++ [c] }

/-- Ends the field. -/
def endField (r : CsvReader) : CsvReader :=
  { r with standing := .fieldStart, field := [], record := r.record ++ [String.ofList r.field] }

/-- Ends the record. -/
def endRecord (r : CsvReader) (standing : Standing) : CsvReader :=
  { standing, records := r.records ++ [r.record] }

/-- A character outside quotes: a comma ends the field, a line end also the record. -/
def delimit (r : CsvReader) (c : Char) : CsvReader :=
  if c == ',' then r.endField
  else if c == '\n' then r.endField.endRecord .recordStart
  else if c == '\r' then r.endField.endRecord .afterReturn
  else r.take .bare c

/-- The first character of a field. -/
def enterField (r : CsvReader) (c : Char) : CsvReader :=
  if c == doubleQuote then { r with standing := .quoted } else r.delimit c

/-- The first character of a record; an empty line is a record without fields. -/
def enterRecord (r : CsvReader) (c : Char) : CsvReader :=
  if c == '\n' then r.endRecord .recordStart
  else if c == '\r' then r.endRecord .afterReturn
  else r.enterField c

/-- Reads one character. -/
def step (r : CsvReader) (c : Char) : CsvReader :=
  match r.standing with
  | .recordStart => r.enterRecord c
  | .afterReturn => if c == '\n' then { r with standing := .recordStart } else r.enterRecord c
  | .fieldStart => r.enterField c
  | .bare => r.delimit c
  | .quoted => if c == doubleQuote then { r with standing := .closing } else r.take .quoted c
  | .closing => if c == doubleQuote then r.take .quoted c else r.delimit c

/-- All records at the end of the text; one that has begun ends there. -/
def finish (r : CsvReader) : List (List String) :=
  match r.standing with
  | .recordStart | .afterReturn => r.records
  | _ => (r.endField.endRecord .recordStart).records

end CsvReader

/-- The records of a text. -/
def readCsv (text : String) : List (List String) :=
  (text.toList.foldl CsvReader.step {}).finish

/-! ## Fields that are read back -/

variable {ends : LineEnds}

/-- A line feed is a line end for every writer. -/
@[simp]
theorem LineEnds.holds_lineFeed (ends : LineEnds) : ends.holds '\n' = true := by
  cases ends <;> rfl

/-- A field that is read back: a carriage return in it stands between quotes. -/
def IsReadable (ends : LineEnds) (s : String) : Prop :=
  '\r' ∈ s.toList → needsQuotes ends s.toList = true

instance (ends : LineEnds) (s : String) : Decidable (IsReadable ends s) :=
  inferInstanceAs (Decidable (_ → _))

/-- A field that is not quoted has no character that would end it. -/
theorem plain_of_needsQuotes {cs : List Char} (h : needsQuotes ends cs = false) :
    ∀ c ∈ cs, c ≠ ',' ∧ c ≠ doubleQuote ∧ c ≠ '\n' := by
  have hall : ∀ c ∈ cs, (c ≠ ',' ∧ c ≠ doubleQuote) ∧ ends.holds c = false := by
    simpa [needsQuotes] using h
  intro c hc
  obtain ⟨⟨hcomma, hquote⟩, hend⟩ := hall c hc
  refine ⟨hcomma, hquote, ?_⟩
  rintro rfl
  simp at hend

/-- A part of a field that is not quoted is not quoted. -/
theorem needsQuotes_of_subset {cs cs' : List Char} (h : needsQuotes ends cs = false)
    (hsub : cs' ⊆ cs) : needsQuotes ends cs' = false := by
  rw [needsQuotes, List.any_eq_false] at h ⊢
  exact fun c hc => h c (hsub hc)

theorem csvRecord_cons_cons (ends : LineEnds) (s next : String) (fields : List String) :
    csvRecord ends (s :: next :: fields) =
      csvField ends s ++ [','] ++ csvRecord ends (next :: fields) := by
  simp [csvRecord, List.intercalate_cons_cons]

namespace CsvReader

/-- Plain characters are taken into the field as they are. -/
theorem foldl_step_bare {r : CsvReader} (hr : r.standing = .bare) {cs : List Char}
    (h : ∀ c ∈ cs, c ≠ ',' ∧ c ≠ '\n' ∧ c ≠ '\r') :
    cs.foldl step r = { r with field := r.field ++ cs } := by
  induction cs generalizing r with
  | nil => simp
  | cons c cs ih =>
      obtain ⟨hcomma, hfeed, hreturn⟩ := h c List.mem_cons_self
      have hstep : step r c = r.take .bare c := by
        simp [step, hr, delimit, hcomma, hfeed, hreturn]
      rw [List.foldl_cons, hstep, ih rfl fun d hd => h d (List.mem_cons_of_mem c hd)]
      simp [take, hr]

/-- Between quotes all characters are taken into the field, and two quotes as one. -/
theorem foldl_step_quoted {r : CsvReader} (hr : r.standing = .quoted) (cs : List Char) :
    (doubleQuotes cs).foldl step r = { r with field := r.field ++ cs } := by
  induction cs generalizing r with
  | nil => simp [doubleQuotes]
  | cons c cs ih =>
      have hone : (if c == doubleQuote then [c, c] else [c]).foldl step r = r.take .quoted c := by
        by_cases hquote : c = doubleQuote
        · simp [hquote, step, hr, take]
        · simp [hquote, step, hr]
      rw [doubleQuotes, List.flatMap_cons, List.foldl_append, hone, ← doubleQuotes, ih rfl]
      simp [take, hr]

/-- A written field is taken whole, and what ends a field can follow it. -/
theorem exists_foldl_step_csvField {r : CsvReader} {s : String} (h : IsReadable ends s)
    (hr : r.standing = .recordStart ∨ r.standing = .fieldStart) (hfield : r.field = []) :
    ∃ standing, (standing = r.standing ∨ standing = .bare ∨ standing = .closing) ∧
      (csvField ends s).foldl step r = { r with standing, field := s.toList } := by
  unfold csvField
  dsimp only
  split
  next hquoted =>
    have hopen : step r doubleQuote = { r with standing := .quoted } := by
      rcases hr with hr | hr
      · simp [step, hr, enterRecord, enterField, doubleQuote]
      · simp [step, hr, enterField]
    refine ⟨.closing, .inr (.inr rfl), ?_⟩
    rw [List.foldl_cons, hopen, List.foldl_append, foldl_step_quoted rfl]
    simp [step, hfield]
  next hbare =>
    have hplain : ∀ c ∈ s.toList, c ≠ ',' ∧ c ≠ doubleQuote ∧ c ≠ '\n' :=
      plain_of_needsQuotes (Bool.eq_false_iff.2 hbare)
    have hreturn : '\r' ∉ s.toList := fun hmem => hbare (h hmem)
    cases hs : s.toList with
    | nil =>
        refine ⟨r.standing, .inl rfl, ?_⟩
        rw [List.foldl_nil, ← hfield]
    | cons c cs =>
        rw [hs] at hplain hreturn
        obtain ⟨hcomma, hquote, hfeed⟩ := hplain c List.mem_cons_self
        have hc : c ≠ '\r' := fun heq => hreturn (heq ▸ List.mem_cons_self)
        have hfirst : step r c = r.take .bare c := by
          rcases hr with hr | hr
          · simp [step, hr, enterRecord, enterField, delimit, hcomma, hquote, hfeed, hc]
          · simp [step, hr, enterField, delimit, hcomma, hquote, hfeed, hc]
        refine ⟨.bare, .inr (.inl rfl), ?_⟩
        rw [List.foldl_cons, hfirst, foldl_step_bare rfl]
        · simp [take, hfield]
        · intro d hd
          have hmem : d ∈ c :: cs := List.mem_cons_of_mem c hd
          exact ⟨(hplain d hmem).1, (hplain d hmem).2.2, fun heq => hreturn (heq ▸ hmem)⟩

/-- A field with a comma behind it. -/
theorem foldl_step_csvField_comma {r : CsvReader} {s : String} (h : IsReadable ends s)
    (hr : r.standing = .recordStart ∨ r.standing = .fieldStart) (hfield : r.field = []) :
    (csvField ends s ++ [',']).foldl step r =
      { standing := .fieldStart, record := r.record ++ [s], records := r.records } := by
  obtain ⟨standing, hstanding, hread⟩ := exists_foldl_step_csvField h hr hfield
  rw [List.foldl_append, hread]
  rcases hstanding with rfl | rfl | rfl
  · rcases hr with hr | hr
    · simp [step, hr, enterRecord, enterField, delimit, endField, doubleQuote]
    · simp [step, hr, enterField, delimit, endField, doubleQuote]
  · simp [step, delimit, endField]
  · simp [step, delimit, endField, doubleQuote]

/-- A field, not the first one, with a line feed behind it. -/
theorem foldl_step_csvField_lineFeed {r : CsvReader} {s : String} (h : IsReadable ends s)
    (hr : r.standing = .fieldStart) (hfield : r.field = []) :
    (csvField ends s ++ ['\n']).foldl step r = { records := r.records ++ [r.record ++ [s]] } := by
  obtain ⟨standing, hstanding, hread⟩ := exists_foldl_step_csvField h (.inr hr) hfield
  rw [List.foldl_append, hread]
  rcases hstanding with rfl | rfl | rfl
  · simp [step, hr, enterField, delimit, endField, endRecord, doubleQuote]
  · simp [step, delimit, endField, endRecord]
  · simp [step, delimit, endField, endRecord, doubleQuote]

/-- The fields after the first one, up to the end of the record. -/
theorem foldl_step_csvRecord_rest {r : CsvReader} (hr : r.standing = .fieldStart)
    (hfield : r.field = []) {s : String} {fields : List String}
    (h : ∀ f ∈ s :: fields, IsReadable ends f) :
    (csvRecord ends (s :: fields)).foldl step r =
      { records := r.records ++ [r.record ++ s :: fields] } := by
  induction fields generalizing r s with
  | nil =>
      have hlast : csvRecord ends [s] = csvField ends s ++ ['\n'] := by simp [csvRecord]
      rw [hlast, foldl_step_csvField_lineFeed (h s List.mem_cons_self) hr hfield]
  | cons next fields ih =>
      rw [csvRecord_cons_cons, List.foldl_append,
        foldl_step_csvField_comma (h s List.mem_cons_self) (.inr hr) hfield,
        ih rfl rfl fun f hf => h f (List.mem_cons_of_mem s hf)]
      simp

/-- A record of two readable fields or more is read back. -/
theorem foldl_step_csvRecord {s next : String} {fields : List String}
    (h : ∀ f ∈ s :: next :: fields, IsReadable ends f) (records : List (List String)) :
    (csvRecord ends (s :: next :: fields)).foldl step { records } =
      { records := records ++ [s :: next :: fields] } := by
  rw [csvRecord_cons_cons, List.foldl_append,
    foldl_step_csvField_comma (h s List.mem_cons_self) (.inl rfl) rfl,
    foldl_step_csvRecord_rest rfl rfl fun f hf => h f (List.mem_cons_of_mem s hf)]
  simp

/-! ## Records stay -/

/-- A character takes no record back. -/
theorem prefix_step (r : CsvReader) (c : Char) : r.records <+: (step r c).records := by
  unfold step enterRecord enterField delimit endRecord endField take
  split <;> repeat' split
  all_goals simp

/-- A text takes no record back. -/
theorem prefix_foldl_step (r : CsvReader) (cs : List Char) :
    r.records <+: (cs.foldl step r).records := by
  induction cs generalizing r with
  | nil => exact List.prefix_rfl
  | cons c cs ih => exact (prefix_step r c).trans (ih (step r c))

/-- The records that are read are among those at the end of the text. -/
theorem prefix_finish (r : CsvReader) (cs : List Char) :
    r.records <+: (cs.foldl step r).finish := by
  refine (prefix_foldl_step r cs).trans ?_
  unfold finish
  split
  · exact List.prefix_rfl
  · exact List.prefix_rfl
  · simp [endRecord, endField]

/-- A field that is not readable ends its record at the carriage return. -/
theorem exists_short_record {s : String} (h : ¬ IsReadable ends s)
    (records : List (List String)) (rest : List Char) :
    ∃ short : List String, short.length ≤ 1 ∧
      records ++ [short] <+: ((csvField ends s ++ rest).foldl step { records }).finish := by
  obtain ⟨hreturn, hbare⟩ := Classical.not_imp.1 h
  obtain ⟨before, after, hs, hfirst⟩ := List.eq_append_cons_of_mem hreturn
  have hbefore : needsQuotes ends before = false := by
    refine needsQuotes_of_subset (Bool.eq_false_iff.2 hbare) ?_
    rw [hs]
    exact List.subset_append_left before _
  -- up to the carriage return there is a bare field
  have hwritten : csvField ends s ++ rest =
      csvField ends (String.ofList before) ++ '\r' :: (after ++ rest) := by
    have hfield : csvField ends (String.ofList before) = before := by
      simp [csvField, hbefore]
    rw [hfield, csvField, if_neg hbare, hs]
    simp
  have hreadable : IsReadable ends (String.ofList before) := fun hmem =>
    absurd (by simpa using hmem) hfirst
  obtain ⟨standing, hstanding, hread⟩ :=
    exists_foldl_step_csvField (r := { records }) hreadable (.inl rfl) rfl
  have hcut : ∃ short : List String, short.length ≤ 1 ∧
      (step { standing, field := (String.ofList before).toList, records } '\r').records =
        records ++ [short] := by
    rcases hstanding with rfl | rfl | rfl
    · exact ⟨[], by simp, rfl⟩
    · exact ⟨[String.ofList before], by simp, by simp [step, delimit, endField, endRecord]⟩
    · exact ⟨[String.ofList before], by simp,
        by simp [step, delimit, endField, endRecord, doubleQuote]⟩
  obtain ⟨short, hshort, hrecords⟩ := hcut
  refine ⟨short, hshort, ?_⟩
  rw [hwritten, List.foldl_append, hread, List.foldl_cons, ← hrecords]
  exact prefix_finish _ _

end CsvReader

/-! ## Records of a report -/

/-- The text of an integer has no carriage return. -/
theorem isReadable_of_isInteger {text : String} {i : Int} (h : IsInteger text i) :
    IsReadable ends text := by
  obtain ⟨ds, -, hdigits, -, -, htext⟩ := h
  intro hmem
  have hds : '\r' ∈ ds := by
    rw [htext] at hmem
    split at hmem
    · simpa using hmem
    · exact hmem
  exact absurd (hdigits _ hds) (by decide)

/-- The text of a number with decimals has no carriage return. -/
theorem isReadable_of_isFixedPoint {text : String} {places n : Nat}
    (h : IsFixedPoint text places n) : IsReadable ends text := by
  obtain ⟨whole, part, -, -, hdigits, -, -, htext⟩ := h
  intro hmem
  have hdigit : '\r' ∈ whole ++ part := by
    rw [htext] at hmem
    simpa using hmem
  exact absurd (hdigits _ hdigit) (by decide)

/-- The fields of a row are readable if its label is. -/
theorem isReadable_csvFields {row : Row} (h : IsReadable ends row.label) :
    ∀ f ∈ csvFields row, IsReadable ends f := by
  have hverdict : IsReadable ends row.verdict.text := by
    cases ends <;> cases row.verdict <;> decide
  simp only [csvFields, List.forall_mem_cons, List.not_mem_nil, false_implies, implies_true,
    and_true]
  exact ⟨h, isReadable_of_isFixedPoint (Number.isFixedPoint_fixed (by decide) _),
    isReadable_of_isInteger (Number.isInteger_intText _),
    isReadable_of_isInteger (Number.isInteger_intText _), hverdict⟩

/-- The record of a row: its label, its coverage with three decimals, its counts and its
verdict. -/
def IsRecordOf (row : Row) (record : List String) : Prop :=
  ∃ coverage functions assertions,
    record = [row.label, coverage, functions, assertions, row.verdict.text] ∧
      (∃ n, IsFixedPoint coverage 3 n ∧
        IsNearest n (row.coverage.units * 1000) Number.unitsPerOne) ∧
      IsInteger functions row.functions ∧ IsInteger assertions row.assertions

/-- The writer gives every row its record. -/
theorem isRecordOf_csvFields (row : Row) : IsRecordOf row (csvFields row) :=
  ⟨_, _, _, rfl, ⟨_, Number.isFixedPoint_fixed (by decide) _, Number.isNearest_scaledDecimal _ _⟩,
    Number.isInteger_intText _, Number.isInteger_intText _⟩

/-- The record of a row with a readable label is read back. -/
theorem foldl_step_csvFields {row : Row} (h : IsReadable ends row.label)
    (records : List (List String)) :
    (csvRecord ends (csvFields row)).foldl CsvReader.step { records } =
      { records := records ++ [csvFields row] } :=
  CsvReader.foldl_step_csvRecord (isReadable_csvFields h) records

/-- The records of rows with readable labels are read back, whatever was read before. -/
theorem foldl_step_rows {rows : List Row} (h : ∀ row ∈ rows, IsReadable ends row.label)
    (records : List (List String)) :
    ((rows.map csvFields).flatMap (csvRecord ends)).foldl CsvReader.step { records } =
      { records := records ++ rows.map csvFields } := by
  induction rows generalizing records with
  | nil => simp
  | cons row rows ih =>
      rw [List.map_cons, List.flatMap_cons, List.foldl_append,
        foldl_step_csvFields (h row List.mem_cons_self),
        ih fun r hr => h r (List.mem_cons_of_mem row hr)]
      simp

/-- The header is read back. -/
theorem foldl_step_header (ends : LineEnds) :
    (csvRecord ends csvHeader).foldl CsvReader.step {} = { records := [csvHeader] } :=
  CsvReader.foldl_step_csvRecord (by cases ends <;> decide) []

/-- Where the records of rows are read back their labels are readable. -/
theorem isReadable_of_foldl_step_rows {rows : List Row} {records : List (List String)}
    (h : (((rows.map csvFields).flatMap (csvRecord ends)).foldl CsvReader.step
      { records }).finish = records ++ rows.map csvFields) :
    ∀ row ∈ rows, IsReadable ends row.label := by
  induction rows generalizing records with
  | nil => simp
  | cons row rows ih =>
      rw [List.map_cons, List.flatMap_cons] at h
      by_cases hrow : IsReadable ends row.label
      · rw [List.foldl_append, foldl_step_csvFields hrow,
          List.append_cons records (csvFields row) (rows.map csvFields)] at h
        exact List.forall_mem_cons.2 ⟨hrow, ih h⟩
      · -- the record of this row would have one field at most
        obtain ⟨short, hshort, hstart⟩ := CsvReader.exists_short_record hrow records
          ([','] ++ csvRecord ends (csvFields row).tail ++
            (rows.map csvFields).flatMap (csvRecord ends))
        have hwritten : csvField ends row.label ++ ([','] ++ csvRecord ends (csvFields row).tail ++
            (rows.map csvFields).flatMap (csvRecord ends)) =
            csvRecord ends (csvFields row) ++ (rows.map csvFields).flatMap (csvRecord ends) := by
          rw [csvFields, csvRecord_cons_cons]
          simp
        rw [hwritten, h, List.prefix_append_right_inj, List.cons_prefix_cons] at hstart
        rw [hstart.1] at hshort
        simp [csvFields] at hshort

/-- A report is read back as its header and one record for each row exactly if the labels
are readable. -/
theorem readCsv_csv_iff (ends : LineEnds) (t : Tally) :
    readCsv (csv ends t) = csvHeader :: t.rows.map csvFields ↔
      ∀ row ∈ t.rows, IsReadable ends row.label := by
  have hread : readCsv (csv ends t) = (((t.rows.map csvFields).flatMap (csvRecord ends)).foldl
      CsvReader.step { records := [csvHeader] }).finish := by
    rw [readCsv, csv, String.toList_ofList, List.flatMap_cons, List.foldl_append,
      foldl_step_header]
  rw [hread]
  constructor
  · exact isReadable_of_foldl_step_rows
  · intro hreadable
    rw [foldl_step_rows hreadable]
    rfl

/-! ## The two writers -/

/-- A field that is quoted for every line end is readable. -/
theorem isReadable_every (s : String) : IsReadable .every s := by
  intro hreturn
  rw [needsQuotes, List.any_eq_true]
  exact ⟨'\r', hreturn, rfl⟩

/-- A field that is quoted for the line feed only is readable exactly if a carriage return in
it does not stand alone. -/
theorem isReadable_written_iff (s : String) :
    IsReadable .written s ↔
      ('\r' ∈ s.toList → ',' ∈ s.toList ∨ doubleQuote ∈ s.toList ∨ '\n' ∈ s.toList) := by
  have hquotes : needsQuotes .written s.toList = true ↔
      ',' ∈ s.toList ∨ doubleQuote ∈ s.toList ∨ '\n' ∈ s.toList := by
    simp only [needsQuotes, LineEnds.holds, List.any_eq_true, Bool.or_eq_true, beq_iff_eq,
      doubleQuote]
    constructor
    · rintro ⟨c, hc, (rfl | rfl) | rfl⟩
      · exact .inl hc
      · exact .inr (.inl hc)
      · exact .inr (.inr hc)
    · rintro (hc | hc | hc)
      · exact ⟨_, hc, .inl (.inl rfl)⟩
      · exact ⟨_, hc, .inl (.inr rfl)⟩
      · exact ⟨_, hc, .inr rfl⟩
  rw [IsReadable, hquotes]

/-- A report is read back as its header and one record for each row.  A writer that quotes
fields for the line feed only needs for this that a label with a carriage return has a
character that it is quoted for. -/
theorem csv_reads_back (t : Tally) :
    readCsv (csv .every t) =
      ["file", "coverage", "functions", "assertions", "status"] :: t.rows.map csvFields ∧
    (readCsv (csv .written t) =
        ["file", "coverage", "functions", "assertions", "status"] :: t.rows.map csvFields ↔
      ∀ row ∈ t.rows, '\r' ∈ row.label.toList →
        ',' ∈ row.label.toList ∨ doubleQuote ∈ row.label.toList ∨ '\n' ∈ row.label.toList) ∧
    ∀ row ∈ t.rows, IsRecordOf row (csvFields row) := by
  refine ⟨?_, ?_, fun row _ => isRecordOf_csvFields row⟩
  · exact (readCsv_csv_iff .every t).2 fun row _ => isReadable_every row.label
  · simp only [← isReadable_written_iff]
    exact readCsv_csv_iff .written t

/-- A label with a comma, a quote and both line ends is read back as it is. -/
example :
    readCsv (csv .every { rows := [⟨"a\r,\"\nb", .zero, 0, 0, .needsHelp⟩] }) =
      [csvHeader, ["a\r,\"\nb", "0.000", "0", "0", "needs help"]] := by
  decide +kernel

end Report
end ContractAudit
