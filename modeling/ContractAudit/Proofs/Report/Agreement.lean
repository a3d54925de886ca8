import Mathlib.Data.List.Forall2
import ContractAudit.Proofs.Coverage.History
import ContractAudit.Proofs.Coverage.Range
import ContractAudit.Proofs.Report.CsvReading
import ContractAudit.Proofs.Report.JsonReading

/-!
# The reports agree

Whatever the steps of a tally were, its report as a JSON document has only ASCII
characters and is read back as the rows of the tally.  The coverage of a row is
rounded twice, once for each report: to three decimals for the
comma-separated values, and from there to the nearest double for the document.

Main results:

- Theorem {lit}`isAscii_json`: the document has only ASCII characters.
- Theorem {lit}`isEntryOf_entryOf`: the entry of a row, and how its coverage is
  related to the one in the other report.
- Theorem {lit}`json_reads_back`: what the document of every history is read as.
-/

namespace ContractAudit
namespace Report

open Coverage (Tally Row Step)
open Number (Magnitude IsDouble IsFixedPoint IsNearest IsNearestDouble)

/-! ## Plain characters -/

/-- A text of ASCII characters only. -/
def IsAscii (cs : List Char) : Prop :=
  ∀ c ∈ cs, c.toNat < 0x80

theorem IsAscii.nil : IsAscii [] :=
  List.forall_mem_nil _

theorem IsAscii.append {as bs : List Char} (has : IsAscii as) (hbs : IsAscii bs) :
    IsAscii (as ++ bs) := by
  intro c hc
  rcases List.mem_append.1 hc with hc | hc
  · exact has c hc
  · exact hbs c hc

theorem IsAscii.cons {c : Char} {cs : List Char} (hc : c.toNat < 0x80) (hcs : IsAscii cs) :
    IsAscii (c :: cs) :=
  List.forall_mem_cons.2 ⟨hc, hcs⟩

theorem isAscii_of_isDigit {cs : List Char} (h : ∀ c ∈ cs, c.isDigit = true) : IsAscii cs := by
  intro c hc
  have hdigit := h c hc
  simp [Char.isDigit, UInt32.le_iff_toNat_le] at hdigit
  exact Nat.lt_of_le_of_lt hdigit.2 (by decide)

theorem IsAscii.intercalate {separator : List Char} (hseparator : IsAscii separator)
    {texts : List (List Char)} (h : ∀ text ∈ texts, IsAscii text) :
    IsAscii (separator.intercalate texts) := by
  induction texts with
  | nil => exact .nil
  | cons text texts ih =>
      have htext := h text List.mem_cons_self
      have hrest := ih fun other hother => h other (List.mem_cons_of_mem text hother)
      cases texts with
      | nil => simpa using htext
      | cons next texts =>
          rw [List.intercalate_cons_cons]
          exact (htext.append hseparator).append hrest

/-- Hexadecimal digits are ASCII characters. -/
theorem isAscii_toDigits (n : Nat) : IsAscii (Nat.toDigits 16 n) := by
  have hdigit : ∀ d < 16, IsAscii [d.digitChar] := by
    simp only [IsAscii, List.forall_mem_singleton]
    decide
  induction n using Nat.strongRecOn with
  | ind n ih =>
      rcases Nat.lt_or_ge n 16 with hsmall | hlarge
      · rw [Nat.toDigits_of_lt_base hsmall]
        exact hdigit n hsmall
      · rw [Nat.toDigits_of_base_le (by decide) hlarge]
        exact (ih _ (Nat.div_lt_self (by omega) (by decide))).append
          (hdigit _ (Nat.mod_lt n (by decide)))

theorem isAscii_unitEscape (n : Nat) : IsAscii (unitEscape n) := by
  have hzeros : IsAscii (List.replicate (4 - (Nat.toDigits 16 n).length) '0') := by
    intro c hc
    rw [List.eq_of_mem_replicate hc]
    decide
  exact .cons (by decide) (.cons (by decide) (hzeros.append (isAscii_toDigits n)))

theorem isAscii_jsonChar (c : Char) : IsAscii (jsonChar c) := by
  have hescape : ∀ e : Char, e.toNat < 0x80 → IsAscii [Text.backslash, e] := fun e he =>
    .cons (by decide) (.cons he .nil)
  unfold jsonChar
  dsimp only
  split
  next hself =>
    rcases Bool.or_eq_true_iff.1 hself with hquote | hslash
    · obtain rfl := eq_of_beq hquote
      exact hescape _ (by decide)
    · obtain rfl := eq_of_beq hslash
      exact hescape _ (by decide)
  split
  next => exact hescape _ (by decide)
  split
  next => exact hescape _ (by decide)
  split
  next => exact hescape _ (by decide)
  split
  next => exact hescape _ (by decide)
  split
  next => exact hescape _ (by decide)
  split
  next hplain =>
    have hrange : 0x20 ≤ c.toNat ∧ c.toNat < 0x7f := by simpa using hplain
    exact .cons (by omega) .nil
  split
  next => exact isAscii_unitEscape _
  next => exact (isAscii_unitEscape _).append (isAscii_unitEscape _)

theorem isAscii_jsonString (s : String) : IsAscii (jsonString s).toList := by
  have hbody : IsAscii (s.toList.flatMap jsonChar) := by
    intro c hc
    obtain ⟨d, -, hd⟩ := List.mem_flatMap.1 hc
    exact isAscii_jsonChar d c hd
  rw [jsonString, String.toList_ofList]
  exact .cons (by decide) (hbody.append (.cons (by decide) .nil))

theorem isAscii_intText (i : Int) : IsAscii (Number.intText i).toList := by
  obtain ⟨ds, -, hdigits, -, -, htext⟩ := Number.isInteger_intText i
  rw [htext]
  split
  · exact .cons (by decide) (isAscii_of_isDigit hdigits)
  · exact isAscii_of_isDigit hdigits

theorem isAscii_numeral (n : Number.Numeral) : IsAscii n.text := by
  have hpart : IsAscii (Number.Numeral.partText n.part) := by
    unfold Number.Numeral.partText
    split
    · exact .nil
    · exact .cons (by decide) (isAscii_of_isDigit n.part_isDigit)
  have hexponent : IsAscii (Number.Numeral.exponentText n.exponent) := by
    cases n.exponent with
    | none => exact .nil
    | some e =>
        have hdigits : IsAscii (Number.padded 2 e.natAbs) :=
          isAscii_of_isDigit fun c => Number.isDigit_of_mem_padded
        refine .cons (by decide) (.cons ?_ hdigits)
        split <;> decide
  exact (isAscii_of_isDigit n.whole_isDigit).append (hpart.append hexponent)

theorem isAscii_jsonMember {key value : String} (h : IsAscii value.toList) :
    IsAscii (jsonMember key value).toList := by
  have hcolon : IsAscii ": ".toList := by simp [IsAscii]
  rw [jsonMember, String.toList_append, String.toList_append]
  exact ((isAscii_jsonString key).append hcolon).append h

theorem isAscii_marginOf (n : Nat) : IsAscii (marginOf n) := by
  intro c hc
  rcases List.mem_cons.1 hc with rfl | hblank
  · decide
  · rw [List.eq_of_mem_replicate hblank]
    decide

theorem isAscii_jsonBlock {first last : String} {opening close : Char} (indent : Nat)
    {items : List String} (hfirst : first.toList = [opening]) (hlast : last.toList = [close])
    (hopening : opening.toNat < 0x80) (hclose : close.toNat < 0x80)
    (h : ∀ item ∈ items, IsAscii item.toList) :
    IsAscii (jsonBlock first last indent items).toList := by
  have hend : IsAscii [close] := .cons hclose .nil
  rw [toList_jsonBlock _ _ opening close indent items hfirst hlast]
  refine .cons hopening ?_
  unfold blockBody
  split
  · exact hend
  · have hmargin := isAscii_marginOf indent
    have hseparator : IsAscii (',' :: marginOf indent) := .cons (by decide) hmargin
    have hbody := hseparator.intercalate (List.forall_mem_map.2 h)
    exact hmargin.append (hbody.append ((isAscii_marginOf _).append hend))

theorem isAscii_jsonRow (indent : Nat) {row : Row}
    (hfinite : (row.coverage.roundPlaces coveragePlaces).units < Number.overflowUnits) :
    IsAscii (jsonRow indent row).toList := by
  have hcoverage : IsAscii (row.coverage.roundPlaces coveragePlaces).text.toList := by
    have hdouble : IsDouble (row.coverage.roundPlaces coveragePlaces).units :=
      Number.isDouble_nearestUnits _ (Number.tenTo_pos _)
    obtain ⟨n, htext, -⟩ := Magnitude.exists_numeral hdouble hfinite
    rw [htext]
    exact isAscii_numeral n
  refine isAscii_jsonBlock indent rfl rfl (by decide) (by decide) ?_
  simp only [List.forall_mem_cons, List.not_mem_nil, false_implies, implies_true, and_true]
  exact ⟨isAscii_jsonMember (isAscii_jsonString _), isAscii_jsonMember hcoverage,
    isAscii_jsonMember (isAscii_intText _), isAscii_jsonMember (isAscii_intText _),
    isAscii_jsonMember (isAscii_jsonString _)⟩

/-- A report is written in ASCII characters. -/
theorem isAscii_json {t : Tally} (h : Printable t) : IsAscii (json t).toList := by
  have hfiles : IsAscii (jsonBlock "[" "]" 4 (t.fileRows.map (jsonRow 6))).toList := by
    refine isAscii_jsonBlock 4 rfl rfl (by decide) (by decide) (List.forall_mem_map.2 ?_)
    exact fun row hrow => isAscii_jsonRow 6 (h row (List.mem_append_left _ hrow))
  have htotal : IsAscii (totalText t).toList := by
    unfold totalText
    cases hrow : t.totalRow with
    | none => simp [IsAscii]
    | some row => exact isAscii_jsonRow 4 (h row (by simp [hrow]))
  rw [json_eq]
  refine isAscii_jsonBlock 2 rfl rfl (by decide) (by decide) ?_
  simp only [reportMembers, List.map_cons, List.map_nil, List.forall_mem_cons, List.not_mem_nil,
    false_implies, implies_true, and_true]
  exact ⟨isAscii_jsonMember hfiles, isAscii_jsonMember htotal⟩

/-! ## Coverages of reports -/

/-- A finite double is finite with three decimals, too. -/
theorem roundPlaces_lt_overflowUnits {x : Magnitude} (h : x.units ≤ Number.largestUnits) :
    (x.roundPlaces coveragePlaces).units < Number.overflowUnits := by
  have hten := Number.tenTo_pos coveragePlaces
  refine (Number.nearestUnits_lt_overflowUnits_iff hten).2 ?_
  have hnearest := (Number.isNearest_scaledDecimal x coveragePlaces).above
  have hscaled := Nat.mul_le_mul_right (Number.tenTo coveragePlaces) h
  have hlimit : 2 * (Number.largestUnits * Number.tenTo coveragePlaces) + Number.unitsPerOne <
      2 * (Number.limitUnits * Number.tenTo coveragePlaces) := by decide +kernel
  generalize Number.largestUnits * Number.tenTo coveragePlaces = largest at *
  generalize Number.limitUnits * Number.tenTo coveragePlaces = limit at *
  omega

/-- The rows of a sound tally have coverages that can be printed. -/
theorem printable_of_sound {t : Tally} (h : t.Sound) : Printable t := by
  intro row hrow
  rw [← h.rows_eq] at hrow
  exact roundPlaces_lt_overflowUnits
    (Coverage.units_le_largestUnits_of_ratio (h.consistent row hrow).coverage_eq)

/-! ## Entries -/

/-- The entry of a row: its label, its counts and its verdict as they are, and as coverage the
double nearest to the number with three decimals that the other report has for the row. -/
def IsEntryOf (row : Row) (j : Json) : Prop :=
  ∃ (n : Nat) (coverage : Magnitude) (text : String),
    j = .object [("label", .string row.label), ("coverage", .double (.finite false coverage)),
      ("functions", .int row.functions), ("assertions", .int row.assertions),
      ("status", .string row.verdict.text)] ∧
    (csvFields row)[1]? = some text ∧ IsFixedPoint text 3 n ∧
    IsNearest n (row.coverage.units * 1000) Number.unitsPerOne ∧
    Magnitude.ofRatio? n 1000 = some coverage ∧
    IsNearestDouble coverage.units (n * Number.unitsPerOne) 1000

/-- The entry that a row is read as. -/
theorem isEntryOf_entryOf {row : Row}
    (hfinite : (row.coverage.roundPlaces coveragePlaces).units < Number.overflowUnits) :
    IsEntryOf row (entryOf row) := by
  have hratio : Magnitude.ofRatio? (row.coverage.scaledDecimal coveragePlaces) 1000 =
      some (row.coverage.roundPlaces coveragePlaces) := by
    have hunits : Number.nearestUnits
        (row.coverage.scaledDecimal coveragePlaces * Number.unitsPerOne) 1000 <
          Number.overflowUnits := hfinite
    unfold Magnitude.ofRatio?
    dsimp only
    rw [if_pos hunits]
    rfl
  exact ⟨row.coverage.scaledDecimal coveragePlaces, row.coverage.roundPlaces coveragePlaces,
    row.coverage.fixed coveragePlaces, rfl, rfl, Number.isFixedPoint_fixed (by decide) _,
    Number.isNearest_scaledDecimal _ _, hratio,
    Number.isNearestDouble_nearestUnits _ (by decide)⟩

/-- Whatever the steps of a tally were, its document has only ASCII characters and is read
back as an object with the entries of the rows of files, in order, and the entry of the total
row, or null exactly if no step has recorded one. -/
theorem json_reads_back (functions assertions : Int) (steps : List Step) :
    let start : Tally := { functions, assertions }
    let t := start.run steps
    (∀ c ∈ (json t).toList, c.toNat < 0x80) ∧
    ∃ files total, readJson (json t) = some (.object [("files", .array files), ("total", total)]) ∧
      List.Forall₂ IsEntryOf t.fileRows files ∧
      (∀ row, t.totalRow = some row → IsEntryOf row total) ∧
      (total = .null ↔ ∀ row, (.recordTotal, .recorded row) ∉ start.history steps) := by
  intro start t
  have hsound : t.Sound := Tally.Sound.run ⟨by simp [start], by simp [start]⟩ steps
  have hprintable := printable_of_sound hsound
  have hrecorded : ∀ row, (.recordTotal, .recorded row) ∈ start.history steps ↔
      t.totalRow = some row := by
    intro row
    rw [← Tally.mem_totals_iff, Tally.totals_of_open rfl, Option.mem_toList]
  refine ⟨isAscii_json hprintable, _, _, readJson_json hprintable, ?_, ?_, ?_⟩
  · rw [List.forall₂_map_right_iff, List.forall₂_same]
    exact fun row hrow => isEntryOf_entryOf (hprintable row (List.mem_append_left _ hrow))
  · intro row hrow
    have hentry : totalEntry t = entryOf row := by rw [totalEntry, hrow]
    rw [hentry]
    exact isEntryOf_entryOf (hprintable row (by simp [hrow]))
  · simp only [hrecorded]
    unfold totalEntry
    cases t.totalRow with
    | none => simp
    | some row => simp [entryOf]

end Report
end ContractAudit
