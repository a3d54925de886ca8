import ContractAudit.Report.Json
import ContractAudit.Proofs.Number.Numerals

/-!
# Reading JSON documents

A reader of JSON documents goes down from values to the items of arrays and the
members of objects.  Spaces may stand around every item, strings are read by
their UTF-16 units, and a number is an integer unless it has a fractional part
or an exponent, with which it is read as the nearest double.

The strings and numbers that the writer produces are read back.

Main results:

- Theorem {lit}`readString_jsonString`: a written string is read as the same text.
- Theorem {lit}`reads_intText`: a written integer is read as the same integer.
- Theorem {lit}`reads_magnitudeText`: a written double is read as the same double.
-/

namespace ContractAudit
namespace Report

open Number (Double Magnitude Numeral IsDouble digitsValue decimal? EndsDigits)
open Text (backslash doubleQuote hexDigits)

/-! ## Documents -/

/-- What a JSON document stands for.  The members of an object are in their order. -/
inductive Json where
  | null
  | bool (b : Bool)
  | int (i : Int)
  | double (x : Double)
  | string (s : String)
  | array (items : List Json)
  | object (members : List (String × Json))

/-- Whether a character is a space of a document. -/
def isSpace (c : Char) : Bool :=
  c == ' ' || c == '\t' || c == '\n' || c == '\r'

/-- What follows spaces. -/
def skipSpaces (cs : List Char) : List Char :=
  cs.dropWhile isSpace

/-! ## Strings -/

/-- The value of a hexadecimal digit. -/
def hexDigit? (c : Char) : Option Nat :=
  if '0' ≤ c ∧ c ≤ '9' then some (c.toNat - 48)
  else if 'a' ≤ c ∧ c ≤ 'f' then some (c.toNat - 87)
  else if 'A' ≤ c ∧ c ≤ 'F' then some (c.toNat - 55)
  else none

/-- The value of hexadecimal digits behind a number. -/
def hexValueFrom? (n : Nat) : List Char → Option Nat
  | [] => some n
  | c :: cs => (hexDigit? c).bind fun d => hexValueFrom? (16 * n + d) cs

/-- The unit that an escape with one letter stands for. -/
def escapeUnit? (c : Char) : Option Nat :=
  if c == doubleQuote || c == backslash || c == '/' then some c.toNat
  else if c == 'b' then some 8
  else if c == 'f' then some 12
  else if c == 'n' then some 10
  else if c == 'r' then some 13
  else if c == 't' then some 9
  else none

/-- The units of a string up to its closing quote, and what follows.  A character that is
not escaped counts as a unit of its own. -/
def readUnits : List Char → Option (List Nat × List Char)
  | [] => none
  | c :: rest =>
    if c == doubleQuote then some ([], rest)
    else if c == backslash then
      match rest with
      | 'u' :: h₁ :: h₂ :: h₃ :: h₄ :: rest =>
        (hexValueFrom? 0 [h₁, h₂, h₃, h₄]).bind fun n =>
          (readUnits rest).map fun p => (n :: p.1, p.2)
      | e :: rest => (escapeUnit? e).bind fun n => (readUnits rest).map fun p => (n :: p.1, p.2)
      | [] => none
    else if c.toNat < 0x20 then none
    else (readUnits rest).map fun p => (c.toNat :: p.1, p.2)

/-- Whether a unit is the first of a pair. -/
def isHighUnit (n : Nat) : Bool :=
  0xd800 ≤ n && n < 0xdc00

/-- Whether a unit is the second of a pair. -/
def isLowUnit (n : Nat) : Bool :=
  0xdc00 ≤ n && n < 0xe000

/-- The characters of units; a unit of a pair must have its counterpart. -/
def joinUnits : List Nat → Option (List Char)
  | [] => some []
  | n :: rest =>
    if isHighUnit n then
      match rest with
      | [] => none
      | m :: rest =>
        if isLowUnit m then
          (joinUnits rest).map (Char.ofNat (0x10000 + (n - 0xd800) * 0x400 + (m - 0xdc00)) :: ·)
        else none
    else if isLowUnit n then none
    else (joinUnits rest).map (Char.ofNat n :: ·)

/-- The text of a string up to its closing quote, and what follows. -/
def readString (cs : List Char) : Option (String × List Char) :=
  (readUnits cs).bind fun p => (joinUnits p.1).map fun text => (String.ofList text, p.2)

/-! ## Numbers -/

/-- The digits behind a point, if there is one, and what follows. -/
def readFraction (cs : List Char) : Option (List Char × List Char) :=
  match cs with
  | '.' :: rest =>
    if (rest.takeWhile Char.isDigit).isEmpty then none
    else some (rest.takeWhile Char.isDigit, rest.dropWhile Char.isDigit)
  | _ => some ([], cs)

/-- A sign, if there is one, and what follows. -/
def readSign : List Char → List Char × List Char
  | [] => ([], [])
  | c :: rest => if c == '+' || c == '-' then ([c], rest) else ([], c :: rest)

/-- An exponent, if there is one, and what follows. -/
def readExponent (cs : List Char) : Option (List Char × List Char) :=
  match cs with
  | [] => some ([], [])
  | e :: rest =>
    if e == 'e' || e == 'E' then
      let (sign, more) := readSign rest
      let ds := more.takeWhile Char.isDigit
      if ds.isEmpty then none else some (e :: (sign ++ ds), more.dropWhile Char.isDigit)
    else some ([], cs)

/-- An unsigned number: an integer, or a double where there is a fractional part or an
exponent.  No zero stands in front of other digits. -/
def readUnsigned (negative : Bool) (cs : List Char) : Option (Json × List Char) :=
  let whole := cs.takeWhile Char.isDigit
  if whole.isEmpty || (whole.head? == some '0' && 1 < whole.length) then none
  else
    (readFraction (cs.dropWhile Char.isDigit)).bind fun p =>
      (readExponent p.2).bind fun q =>
        if p.1.isEmpty && q.1.isEmpty then
          let n := digitsValue whole
          some (.int (if negative then -(n : Int) else n), q.2)
        else
          let point := if p.1.isEmpty then [] else '.' :: p.1
          (decimal? negative (whole ++ (point ++ q.1))).map fun x => (.double x, q.2)

/-- A number. -/
def readNumber (cs : List Char) : Option (Json × List Char) :=
  match cs with
  | '-' :: rest => readUnsigned true rest
  | _ => readUnsigned false cs

/-! ## Values -/

/-- What a word stands for, if it is there. -/
def readWord (word : String) (j : Json) (cs : List Char) : Option (Json × List Char) :=
  if word.toList.isPrefixOf cs then some (j, cs.drop word.length) else none

/-- Items with commas between them up to a closing character, `count` of them at most. -/
def readSequence {α : Type} (one : List Char → Option (α × List Char)) (close : Char) :
    Nat → List Char → Option (List α × List Char)
  | 0, _ => none
  | count + 1, cs =>
    (one cs).bind fun p =>
      match skipSpaces p.2 with
      | [] => none
      | c :: rest =>
        if c == ',' then
          (readSequence one close count rest).map fun q => (p.1 :: q.1, q.2)
        else if c == close then some ([p.1], rest)
        else none

/-- A list of items up to a closing character; it may be empty. -/
def readList {α : Type} (one : List Char → Option (α × List Char)) (close : Char)
    (cs : List Char) : Option (List α × List Char) :=
  match skipSpaces cs with
  | [] => none
  | c :: rest => if c == close then some ([], rest) else readSequence one close cs.length cs

/-- A key and its value. -/
def readMember (value : List Char → Option (Json × List Char)) (cs : List Char) :
    Option ((String × Json) × List Char) :=
  match skipSpaces cs with
  | [] => none
  | c :: rest =>
    if c == doubleQuote then
      (readString rest).bind fun p =>
        match skipSpaces p.2 with
        | ':' :: rest => (value rest).map fun q => ((p.1, q.1), q.2)
        | _ => none
    else none

/-- A value with its first character, where `value` reads the values in it. -/
def readFrom (value : List Char → Option (Json × List Char)) (c : Char) (rest : List Char) :
    Option (Json × List Char) :=
  if c == '\x7b' then (readList (readMember value) '\x7d' rest).map fun p => (.object p.1, p.2)
  else if c == '[' then (readList value ']' rest).map fun p => (.array p.1, p.2)
  else if c == doubleQuote then (readString rest).map fun p => (.string p.1, p.2)
  else if c == 'n' then readWord "null" .null (c :: rest)
  else if c == 't' then readWord "true" (.bool true) (c :: rest)
  else if c == 'f' then readWord "false" (.bool false) (c :: rest)
  else readNumber (c :: rest)

/-- A value that is nested `depth` times at most, and what follows. -/
def readValue : Nat → List Char → Option (Json × List Char)
  | 0, _ => none
  | depth + 1, cs =>
    match skipSpaces cs with
    | [] => none
    | c :: rest => readFrom (readValue depth) c rest

/-- What a document stands for: one value, with spaces around it at most. -/
def readJson (text : String) : Option Json :=
  match readValue (text.length + 1) text.toList with
  | some (j, rest) => if (skipSpaces rest).isEmpty then some j else none
  | none => none

/-! ## Strings that are written -/

theorem hexDigit?_digitChar {d : Nat} (h : d < 16) : hexDigit? d.digitChar = some d := by
  interval_cases d <;> decide

theorem hexValueFrom?_append (n : Nat) (as bs : List Char) :
    hexValueFrom? n (as ++ bs) = (hexValueFrom? n as).bind fun m => hexValueFrom? m bs := by
  induction as generalizing n with
  | nil => rfl
  | cons c as ih =>
      rw [List.cons_append, hexValueFrom?, hexValueFrom?, Option.bind_assoc]
      simp only [ih]

/-- The hexadecimal digits of a number have that number as their value. -/
theorem hexValueFrom?_toDigits (n : Nat) : hexValueFrom? 0 (Nat.toDigits 16 n) = some n := by
  induction n using Nat.strongRecOn with
  | ind n ih =>
      rcases Nat.lt_or_ge n 16 with hsmall | hlarge
      · rw [Nat.toDigits_of_lt_base hsmall]
        simp [hexValueFrom?, hexDigit?_digitChar hsmall]
      · have hquotient : n / 16 < n := Nat.div_lt_self (by omega) (by decide)
        have hrest : n % 16 < 16 := Nat.mod_lt n (by decide)
        rw [Nat.toDigits_of_base_le (by decide) hlarge, hexValueFrom?_append, ih _ hquotient]
        simp [hexValueFrom?, hexDigit?_digitChar hrest, Nat.div_add_mod]

theorem hexValueFrom?_zeros (k : Nat) (cs : List Char) :
    hexValueFrom? 0 (List.replicate k '0' ++ cs) = hexValueFrom? 0 cs := by
  induction k with
  | zero => rfl
  | succ k ih =>
      have hzero : hexDigit? '0' = some 0 := by decide
      rw [List.replicate_succ, List.cons_append, hexValueFrom?, hzero, Option.bind_some]
      exact ih

theorem readUnits_quote (rest : List Char) : readUnits (doubleQuote :: rest) = some ([], rest) := by
  rw [readUnits.eq_def]
  simp

/-- A plain character is a unit of its own. -/
theorem readUnits_plain {c : Char} (hquote : c ≠ doubleQuote) (hslash : c ≠ backslash)
    (hcontrol : 0x20 ≤ c.toNat) (rest : List Char) :
    readUnits (c :: rest) = (readUnits rest).map fun p => (c.toNat :: p.1, p.2) := by
  rw [readUnits.eq_def]
  simp [hquote, hslash, Nat.not_lt.2 hcontrol]

/-- An escape with one letter is the unit that it stands for. -/
theorem readUnits_escape {e : Char} {n : Nat} (h : escapeUnit? e = some n) (rest : List Char) :
    readUnits (backslash :: e :: rest) = (readUnits rest).map fun p => (n :: p.1, p.2) := by
  have hletter : e ≠ 'u' := by
    rintro rfl
    simp [escapeUnit?, doubleQuote, backslash] at h
  have hslash : (backslash == doubleQuote) = false := rfl
  rw [readUnits.eq_def]
  simp only [hslash, Bool.false_eq_true, if_false, beq_self_eq_true, if_true]
  split
  next hcons => simp_all
  next e' rest' _ hcons =>
    obtain ⟨rfl, rfl⟩ := List.cons.inj hcons
    rw [h, Option.bind_some]
  next hnil => cases hnil

/-- A unit is written with four digits that have it as their value. -/
theorem exists_hexDigits_four {n : Nat} (h : n < 0x10000) :
    ∃ h₁ h₂ h₃ h₄, hexDigits 4 n = [h₁, h₂, h₃, h₄] ∧
      hexValueFrom? 0 [h₁, h₂, h₃, h₄] = some n := by
  have hvalue : hexValueFrom? 0 (hexDigits 4 n) = some n := by
    rw [hexDigits, hexValueFrom?_zeros, hexValueFrom?_toDigits]
  have hlength : (hexDigits 4 n).length = 4 := by
    have hfits : (Nat.toDigits 16 n).length ≤ 4 :=
      (Nat.length_toDigits_le_iff (by decide) (by decide)).2 h
    rw [hexDigits, List.length_append, List.length_replicate]
    omega
  match hdigits : hexDigits 4 n, hlength with
  | [h₁, h₂, h₃, h₄], _ =>
      rw [hdigits] at hvalue
      exact ⟨h₁, h₂, h₃, h₄, rfl, hvalue⟩

/-- An escaped unit is read back. -/
theorem readUnits_unitEscape {n : Nat} (h : n < 0x10000) (rest : List Char) :
    readUnits (unitEscape n ++ rest) = (readUnits rest).map fun p => (n :: p.1, p.2) := by
  obtain ⟨h₁, h₂, h₃, h₄, hdigits, hvalue⟩ := exists_hexDigits_four h
  rw [unitEscape, hdigits]
  simp [readUnits, hvalue, backslash, doubleQuote]

/-- The UTF-16 units of a character. -/
def utf16 (c : Char) : List Nat :=
  if c.toNat < 0x10000 then [c.toNat]
  else [0xd800 + (c.toNat - 0x10000) / 0x400, 0xdc00 + (c.toNat - 0x10000) % 0x400]

theorem toNat_lt (c : Char) : c.toNat < 0x110000 := by
  rcases c.valid with h | h
  · exact Nat.lt_trans h (by decide)
  · exact h.2

/-- A written character is read as its units. -/
theorem readUnits_jsonChar (c : Char) (rest : List Char) :
    readUnits (jsonChar c ++ rest) = (readUnits rest).map fun p => (utf16 c ++ p.1, p.2) := by
  have hbound := toNat_lt c
  have hone (hsmall : c.toNat < 0x10000) : utf16 c = [c.toNat] := if_pos hsmall
  have hescape {e : Char} {n : Nat} (he : escapeUnit? e = some n) (hn : c.toNat = n)
      (hsmall : n < 0x10000) :
      readUnits ([backslash, e] ++ rest) = (readUnits rest).map fun p => (utf16 c ++ p.1, p.2) := by
    rw [hone (hn ▸ hsmall), hn]
    exact readUnits_escape he rest
  unfold jsonChar
  dsimp only
  split
  next hself =>
    rcases Bool.or_eq_true_iff.1 hself with hquote | hslash
    · obtain rfl := eq_of_beq hquote
      exact hescape rfl rfl (by decide)
    · obtain rfl := eq_of_beq hslash
      exact hescape rfl rfl (by decide)
  next hself =>
  split
  next hfeed =>
    obtain rfl := eq_of_beq hfeed
    exact hescape rfl rfl (by decide)
  split
  next hreturn =>
    obtain rfl := eq_of_beq hreturn
    exact hescape rfl rfl (by decide)
  split
  next htab =>
    obtain rfl := eq_of_beq htab
    exact hescape rfl rfl (by decide)
  split
  next hback => exact hescape (e := 'b') rfl (eq_of_beq hback) (by decide)
  split
  next hform => exact hescape (e := 'f') rfl (eq_of_beq hform) (by decide)
  split
  next hplain =>
    have hrange : 0x20 ≤ c.toNat ∧ c.toNat < 0x7f := by simpa using hplain
    have hneither : c ≠ doubleQuote ∧ c ≠ backslash := by simpa using hself
    rw [hone (by omega)]
    exact readUnits_plain hneither.1 hneither.2 hrange.1 rest
  split
  next hsmall =>
    rw [hone hsmall]
    exact readUnits_unitEscape hsmall rest
  next hlarge =>
    have hpair : utf16 c =
        [0xd800 + (c.toNat - 0x10000) / 0x400, 0xdc00 + (c.toNat - 0x10000) % 0x400] :=
      if_neg hlarge
    rw [hpair, List.append_assoc, readUnits_unitEscape (by omega), readUnits_unitEscape (by omega)]
    simp [Function.comp_def]

/-- A unit that belongs to no pair is a character. -/
theorem joinUnits_single {n : Nat} (h : isHighUnit n = false) (h' : isLowUnit n = false)
    (rest : List Nat) : joinUnits (n :: rest) = (joinUnits rest).map (Char.ofNat n :: ·) := by
  rw [joinUnits.eq_def]
  simp [h, h']

/-- The two units of a pair are a character. -/
theorem joinUnits_pair {n m : Nat} (h : isHighUnit n = true) (h' : isLowUnit m = true)
    (rest : List Nat) :
    joinUnits (n :: m :: rest) = (joinUnits rest).map
      (Char.ofNat (0x10000 + (n - 0xd800) * 0x400 + (m - 0xdc00)) :: ·) := by
  rw [joinUnits.eq_def]
  simp [h, h']

/-- The units of characters are joined to the same characters. -/
theorem joinUnits_utf16 (cs : List Char) : joinUnits (cs.flatMap utf16) = some cs := by
  induction cs with
  | nil => rfl
  | cons c cs ih =>
      have hbound := toNat_lt c
      rw [List.flatMap_cons]
      by_cases hsmall : c.toNat < 0x10000
      · have hvalid : c.toNat < 0xd800 ∨ 0xdfff < c.toNat ∧ c.toNat < 0x110000 := c.valid
        have hhigh : isHighUnit c.toNat = false := by
          simp [isHighUnit]
          omega
        have hlow : isLowUnit c.toNat = false := by
          simp [isLowUnit]
          omega
        rw [utf16, if_pos hsmall, List.singleton_append, joinUnits_single hhigh hlow, ih,
          Option.map_some, Char.ofNat_toNat]
      · have hhigh : isHighUnit (0xd800 + (c.toNat - 0x10000) / 0x400) = true := by
          simp [isHighUnit]
          omega
        have hlow : isLowUnit (0xdc00 + (c.toNat - 0x10000) % 0x400) = true := by
          simp [isLowUnit]
          omega
        have hunits : 0x10000 + (0xd800 + (c.toNat - 0x10000) / 0x400 - 0xd800) * 0x400 +
            (0xdc00 + (c.toNat - 0x10000) % 0x400 - 0xdc00) = c.toNat := by omega
        rw [utf16, if_neg hsmall, List.cons_append, List.singleton_append,
          joinUnits_pair hhigh hlow, hunits, ih, Option.map_some, Char.ofNat_toNat]

/-- A written string is read as the same text. -/
theorem readString_jsonString (s : String) (rest : List Char) :
    readString (s.toList.flatMap jsonChar ++ doubleQuote :: rest) = some (s, rest) := by
  have hunits (cs : List Char) : readUnits (cs.flatMap jsonChar ++ doubleQuote :: rest) =
      some (cs.flatMap utf16, rest) := by
    induction cs with
    | nil => exact readUnits_quote rest
    | cons c cs ih =>
        rw [List.flatMap_cons, List.append_assoc, readUnits_jsonChar, ih]
        simp
  rw [readString, hunits]
  simp [joinUnits_utf16]

/-! ## What may follow a value -/

/-- What follows a value: nothing, a space, a comma or a closing bracket. -/
def Stops (rest : List Char) : Prop :=
  ∀ c, rest.head? = some c → isSpace c = true ∨ c = ',' ∨ c = ']' ∨ c = '\x7d'

theorem Stops.head_ne {rest : List Char} (h : Stops rest) {c : Char} (hspace : isSpace c = false)
    (hcomma : c ≠ ',') (hbracket : c ≠ ']') (hbrace : c ≠ '\x7d') : rest.head? ≠ some c := by
  intro hc
  rcases h c hc with hs | hs | hs | hs
  · rw [hspace] at hs
    cases hs
  · exact hcomma hs
  · exact hbracket hs
  · exact hbrace hs

theorem ne_of_isDigit {c d : Char} (hc : c.isDigit = true) (hd : d.isDigit = false) : c ≠ d := by
  rintro rfl
  rw [hd] at hc
  cases hc

theorem isSpace_eq_false_of_isDigit {c : Char} (h : c.isDigit = true) : isSpace c = false := by
  have hne (d : Char) (hd : d.isDigit = false) : c ≠ d := ne_of_isDigit h hd
  simp [isSpace, hne]

theorem Stops.endsDigits {rest : List Char} (h : Stops rest) : EndsDigits rest := by
  intro c hc
  by_contra hdigit
  have hdigit : c.isDigit = true := by simpa using hdigit
  exact h.head_ne (isSpace_eq_false_of_isDigit hdigit) (ne_of_isDigit hdigit rfl)
    (ne_of_isDigit hdigit rfl) (ne_of_isDigit hdigit rfl) hc

theorem stops_cons {c : Char} (h : isSpace c = true ∨ c = ',' ∨ c = ']' ∨ c = '\x7d')
    (rest : List Char) : Stops (c :: rest) := by
  intro d hd
  obtain rfl : c = d := by simpa using hd
  exact h

theorem skipSpaces_append {spaces : List Char} (h : ∀ c ∈ spaces, isSpace c = true)
    (cs : List Char) : skipSpaces (spaces ++ cs) = skipSpaces cs :=
  List.dropWhile_append_of_pos h

theorem skipSpaces_cons {c : Char} (h : isSpace c = false) (cs : List Char) :
    skipSpaces (c :: cs) = c :: cs := by
  simp [skipSpaces, h]

/-- A reader reads a text as a value, with any spaces before it, and stops behind it. -/
def Reads {α : Type} (one : List Char → Option (α × List Char)) (text : List Char) (a : α) :
    Prop :=
  ∀ spaces rest, (∀ c ∈ spaces, isSpace c = true) → Stops rest →
    one (spaces ++ (text ++ rest)) = some (a, rest)

/-- A value is read by its first character. -/
theorem reads_of_readFrom {depth : Nat} {c : Char} {text : List Char} {j : Json}
    (hc : isSpace c = false)
    (h : ∀ rest, Stops rest → readFrom (readValue depth) c (text ++ rest) = some (j, rest)) :
    Reads (readValue (depth + 1)) (c :: text) j := by
  intro spaces rest hspaces hrest
  rw [readValue, skipSpaces_append hspaces, List.cons_append, skipSpaces_cons hc]
  exact h rest hrest

/-- A written string is read. -/
theorem reads_jsonString (depth : Nat) (s : String) :
    Reads (readValue (depth + 1)) (jsonString s).toList (.string s) := by
  rw [jsonString, String.toList_ofList]
  refine reads_of_readFrom (by decide) fun rest _ => ?_
  have hfrom (cs : List Char) : readFrom (readValue depth) doubleQuote cs =
      (readString cs).map fun p => (.string p.1, p.2) := rfl
  rw [hfrom, List.append_assoc, List.singleton_append, readString_jsonString, Option.map_some]

theorem reads_null (depth : Nat) : Reads (readValue (depth + 1)) "null".toList .null := by
  change Reads _ ('n' :: "ull".toList) _
  exact reads_of_readFrom (by decide) fun _ _ => rfl

/-! ## Numbers that are written -/

section Numbers

variable {rest : List Char}

/-- A fractional part is read back. -/
theorem readFraction_partText {part : List Char} (hpart : ∀ c ∈ part, c.isDigit = true)
    (hrest : EndsDigits rest) (hpoint : rest.head? ≠ some '.') :
    readFraction (Numeral.partText part ++ rest) = some (part, rest) := by
  unfold Numeral.partText
  split
  next hempty =>
    obtain rfl := List.isEmpty_iff.1 hempty
    rw [List.nil_append]
    unfold readFraction
    split
    next more => simp at hpoint
    next => rfl
  next hmore =>
    rw [List.cons_append, readFraction, Number.takeWhile_isDigit hpart hrest,
      Number.dropWhile_isDigit hpart hrest, if_neg hmore]

/-- An exponent is read back. -/
theorem readExponent_exponentText (e : Option Int) (hrest : Stops rest) :
    readExponent (Numeral.exponentText e ++ rest) = some (Numeral.exponentText e, rest) := by
  cases e with
  | none =>
      have hsmall := hrest.head_ne (c := 'e') (by decide) (by decide) (by decide) (by decide)
      have hlarge := hrest.head_ne (c := 'E') (by decide) (by decide) (by decide) (by decide)
      cases rest with
      | nil => rfl
      | cons c rest =>
          have hc : c ≠ 'e' ∧ c ≠ 'E' := by simpa using And.intro hsmall hlarge
          simp [Numeral.exponentText, readExponent, hc]
  | some i =>
      have hdigits : ∀ c ∈ Number.padded 2 i.natAbs, c.isDigit = true := fun c =>
        Number.isDigit_of_mem_padded
      have hne : Number.padded 2 i.natAbs ≠ [] := by simp [Number.padded, Number.digits_ne_nil]
      have hsign : readSign ((if i < 0 then '-' else '+') :: (Number.padded 2 i.natAbs ++ rest)) =
          ([if i < 0 then '-' else '+'], Number.padded 2 i.natAbs ++ rest) := by
        by_cases hi : i < 0 <;> simp [readSign, hi]
      have htake := Number.takeWhile_isDigit hdigits hrest.endsDigits
      have hdrop := Number.dropWhile_isDigit hdigits hrest.endsDigits
      simp [Numeral.exponentText, readExponent, hsign, htake, hdrop, hne]

/-- A numeral is read as the integer that its digits are worth, or as a double. -/
theorem readUnsigned_text (negative : Bool) (n : Numeral) (hrest : Stops rest) :
    readUnsigned negative (n.text ++ rest) =
      if n.part = [] ∧ n.exponent = none then
        some (.int (if negative then -(digitsValue n.whole : Int) else digitsValue n.whole), rest)
      else (decimal? negative n.text).map fun x => (.double x, rest) := by
  have hexponent := Numeral.endsDigits_exponentText n.exponent hrest.endsDigits
  have hpoint : (Numeral.exponentText n.exponent ++ rest).head? ≠ some '.' := by
    cases n.exponent with
    | none => exact hrest.head_ne (by decide) (by decide) (by decide) (by decide)
    | some e => simp [Numeral.exponentText]
  have hpart := Numeral.endsDigits_partText n.part hexponent
  have hleading : (n.whole.isEmpty || (n.whole.head? == some '0' && decide (1 < n.whole.length))) =
      false := by
    have hne := n.nonempty
    have hlone := n.leading
    by_cases hzero : n.whole.head? = some '0'
    · simp [hlone hzero]
    · simp [hne, hzero]
  have hexponentEmpty : (Numeral.exponentText n.exponent).isEmpty = true ↔ n.exponent = none := by
    cases n.exponent <;> simp [Numeral.exponentText]
  rw [Numeral.text, List.append_assoc, List.append_assoc]
  unfold readUnsigned
  dsimp only
  rw [Number.takeWhile_isDigit n.whole_isDigit hpart,
    Number.dropWhile_isDigit n.whole_isDigit hpart, hleading,
    readFraction_partText n.part_isDigit hexponent hpoint]
  simp only [Bool.false_eq_true, if_false, Option.bind_some]
  rw [readExponent_exponentText n.exponent hrest, Option.bind_some]
  simp only [Bool.and_eq_true, hexponentEmpty, List.isEmpty_iff, Numeral.partText]

/-- A number is read from its first digit on. -/
theorem readFrom_of_isDigit {value : List Char → Option (Json × List Char)} {c : Char}
    (h : c.isDigit = true) (cs : List Char) :
    readFrom value c cs = readUnsigned false (c :: cs) := by
  have hne (d : Char) (hd : d.isDigit = false) : c ≠ d := ne_of_isDigit h hd
  have hsign : c ≠ '-' := hne '-' rfl
  have hnumber : readFrom value c cs = readNumber (c :: cs) := by
    simp [readFrom, doubleQuote, hne]
  rw [hnumber]
  unfold readNumber
  split
  next hcons => exact absurd (List.cons.inj hcons).1 hsign
  next => rfl

/-- A numeral is read as what its digits are worth. -/
theorem reads_numeral {depth : Nat} {n : Numeral} {j : Json}
    (h : ∀ rest, Stops rest → readUnsigned false (n.text ++ rest) = some (j, rest)) :
    Reads (readValue (depth + 1)) n.text j := by
  obtain ⟨c, whole, hwhole⟩ := List.exists_cons_of_ne_nil n.nonempty
  have hdigit : c.isDigit = true := n.whole_isDigit c (hwhole ▸ List.mem_cons_self)
  obtain ⟨text, htext⟩ : ∃ text, n.text = c :: text := by
    rw [Numeral.text, hwhole]
    exact ⟨_, rfl⟩
  rw [htext] at h ⊢
  refine reads_of_readFrom (isSpace_eq_false_of_isDigit hdigit) fun rest hrest => ?_
  rw [readFrom_of_isDigit hdigit]
  exact h rest hrest

/-- A natural number is read behind any sign. -/
theorem readUnsigned_digits (negative : Bool) (k : Nat) (hrest : Stops rest) :
    readUnsigned negative (Number.digits k ++ rest) =
      some (.int (if negative then -(k : Int) else k), rest) := by
  have hread := readUnsigned_text negative (.natural k) hrest
  rw [if_pos ⟨rfl, rfl⟩, Numeral.text_natural] at hread
  have hvalue : digitsValue (Numeral.natural k).whole = k := Number.digitsValue_digits k
  rw [hread, hvalue]

end Numbers

/-- A written integer is read as the same integer. -/
theorem reads_intText (depth : Nat) (i : Int) :
    Reads (readValue (depth + 1)) (Number.intText i).toList (.int i) := by
  cases i with
  | ofNat k =>
      have htext : (Number.intText (.ofNat k)).toList = (Numeral.natural k).text := by
        rw [Numeral.text_natural, Number.intText, Number.natText, String.toList_ofList]
      rw [htext]
      refine reads_numeral fun rest hrest => ?_
      rw [Numeral.text_natural, readUnsigned_digits false k hrest]
      rfl
  | negSucc k =>
      have htext : (Number.intText (.negSucc k)).toList = '-' :: Number.digits (k + 1) := by
        simp [Number.intText, Number.natText]
      rw [htext]
      refine reads_of_readFrom (by decide) fun rest hrest => ?_
      have hfrom (cs : List Char) : readFrom (readValue depth) '-' cs = readUnsigned true cs := rfl
      rw [hfrom, readUnsigned_digits true (k + 1) hrest]
      rfl

/-- A written double is read as the same double. -/
theorem reads_magnitudeText (depth : Nat) {m : Magnitude} (hm : IsDouble m.units)
    (hfinite : m.units < Number.overflowUnits) :
    Reads (readValue (depth + 1)) m.text.toList (.double (.finite false m)) := by
  obtain ⟨n, htext, hform, hdecimal⟩ := Magnitude.exists_numeral hm hfinite
  rw [htext]
  refine reads_numeral fun rest hrest => ?_
  rw [readUnsigned_text false n hrest, if_neg, hdecimal, Option.map_some]
  rintro ⟨hpart, hexponent⟩
  rcases hform with hpart' | hexponent'
  · exact hpart' hpart
  · rw [hexponent] at hexponent'
    cases hexponent'

end Report
end ContractAudit
