import ContractAudit.Toml.Document

/-!
# Lists of texts in settings documents

A setting that is a list of texts is written as a document of one line: the key,
an equals sign and the texts between brackets, each between double quotes.
Quotes and backslashes in a text are escaped, and so are the characters that
must not stand in a text of one line.  Reading gives the list back.

Main results:

- Theorem {lit}`escapedLoop_written`: a written text is read up to its quote.
- Theorem {lit}`listItems_written`: written items are read up to their bracket.
- Theorem {lit}`parse_listDocument`: the document sets its key to the list, and
  nothing else.
-/

namespace ContractAudit
namespace Toml

open Config (Value)
open Text (doubleQuote backslash hexDigits)

/-! ## Writing -/

/-- A character inside a text between double quotes. -/
def writtenChar (c : Char) : List Char :=
  if c == doubleQuote || c == backslash then [backslash, c]
  else if isControl c then backslash :: 'u' :: hexDigits 4 c.toNat
  else [c]

/-- A text between double quotes. -/
def writtenText (s : String) : List Char :=
  doubleQuote :: (s.toList.flatMap writtenChar ++ [doubleQuote])

/-- The items of a list and its closing bracket. -/
def writtenItems : List String → List Char
  | [] => [']']
  | [item] => writtenText item ++ [']']
  | item :: next :: rest => writtenText item ++ ',' :: writtenItems (next :: rest)

/-- The document that sets a key to a list of texts. -/
def listDocument (key : String) (items : List String) : List Char :=
  key.toList ++ ' ' :: '=' :: ' ' :: '[' :: writtenItems items

/-! ## Texts -/

/-- Four hexadecimal digits stand for the control character that they were written for. -/
theorem hexChar_hexDigits {n : Nat} (h : n < 128) (rest : List Char) :
    hexChar 4 (hexDigits 4 n ++ rest) = .ok ([Char.ofNat n], rest) := by
  have hdigits : ∀ n < 128, (hexDigits 4 n).length = 4 ∧ (hexDigits 4 n).all isHexDigit = true ∧
      digitsValue 16 (hexDigits 4 n) = n := by decide +kernel
  obtain ⟨hlength, hall, hvalue⟩ := hdigits n h
  have htake : (hexDigits 4 n ++ rest).take 4 = hexDigits 4 n :=
    List.take_left' hlength
  have hdrop : (hexDigits 4 n ++ rest).drop 4 = rest :=
    List.drop_left' hlength
  have hscalar : n < 0xd800 := by omega
  simp [hexChar, htake, hdrop, hlength, hall, hvalue, hscalar]

/-- What reading does with one more character of a text of one line. -/
theorem escapedLoop_cons (fuel : Nat) (acc : List Char) (c : Char) (rest : List Char) :
    escapedLoop false (fuel + 1) acc (c :: rest) =
      if c == doubleQuote then .ok (acc.reverse, rest)
      else if c == backslash then
        match escape false rest with
        | .ok (piece, more) => escapedLoop false fuel (piece.reverse ++ acc) more
        | .error e => .error e
      else if isIllegal false c then fail (.illegalChar c) (c :: rest)
      else escapedLoop false fuel (c :: acc) rest := rfl

/-- What stands for one character behind a backslash is read as that character. -/
theorem escapedLoop_escape {rest more : List Char} {c : Char}
    (h : escape false rest = .ok ([c], more)) (fuel : Nat) (acc : List Char) :
    escapedLoop false (fuel + 1) acc (backslash :: rest) =
      escapedLoop false fuel (c :: acc) more := by
  have hquote : (backslash == doubleQuote) = false := by decide
  rw [escapedLoop_cons, hquote, beq_self_eq_true, h]
  rfl

/-- The characters that must not stand in a text of one line are among the first 128. -/
theorem toNat_lt_of_isControl {c : Char} (h : isControl c = true) : c.toNat < 128 := by
  simp only [isControl, Bool.and_eq_true, Bool.or_eq_true, decide_eq_true_eq, beq_iff_eq] at h
  omega

/-- A written character is read as that character. -/
theorem escapedLoop_writtenChar (fuel : Nat) (acc : List Char) (c : Char) (rest : List Char) :
    escapedLoop false (fuel + 1) acc (writtenChar c ++ rest) =
      escapedLoop false fuel (c :: acc) rest := by
  unfold writtenChar
  split
  next hspecial =>
    have hescape : escape false (c :: rest) = .ok ([c], rest) := by
      rcases Bool.or_eq_true_iff.mp hspecial with h | h
      · rw [beq_iff_eq.mp h]
        rfl
      · rw [beq_iff_eq.mp h]
        rfl
    exact escapedLoop_escape hescape fuel acc
  next hspecial =>
    split
    next hcontrol =>
      have hescape : escape false ('u' :: (hexDigits 4 c.toNat ++ rest)) = .ok ([c], rest) := by
        have hhex := hexChar_hexDigits (toNat_lt_of_isControl hcontrol) rest
        rw [Char.ofNat_toNat] at hhex
        exact hhex
      exact escapedLoop_escape hescape fuel acc
    next hcontrol =>
      simp only [Bool.or_eq_true, not_or, Bool.not_eq_true] at hspecial
      have hlegal : isIllegal false c = false := by simpa [isIllegal] using hcontrol
      rw [List.singleton_append, escapedLoop_cons, hspecial.1, hspecial.2, hlegal]
      rfl

/-- A written text is read up to its closing quote, one step for each character. -/
theorem escapedLoop_written {cs : List Char} {fuel : Nat} (h : cs.length < fuel)
    (acc rest : List Char) :
    escapedLoop false fuel acc (cs.flatMap writtenChar ++ doubleQuote :: rest) =
      .ok (acc.reverse ++ cs, rest) := by
  induction cs generalizing fuel acc with
  | nil =>
      obtain ⟨fuel, rfl⟩ : ∃ n, fuel = n + 1 := ⟨fuel - 1, by simp at h; omega⟩
      rw [List.flatMap_nil, List.nil_append, escapedLoop_cons, beq_self_eq_true, List.append_nil]
      rfl
  | cons c cs ih =>
      obtain ⟨fuel, rfl⟩ : ∃ n, fuel = n + 1 := ⟨fuel - 1, by simp at h; omega⟩
      rw [List.flatMap_cons, List.append_assoc, escapedLoop_writtenChar,
        ih (by simpa using h), List.reverse_cons, List.append_assoc, List.singleton_append]

/-- No character is written with fewer characters than one. -/
theorem length_le_length_written (cs : List Char) :
    cs.length ≤ (cs.flatMap writtenChar).length := by
  induction cs with
  | nil => simp
  | cons c cs ih =>
      have hone : 1 ≤ (writtenChar c).length := by
        unfold writtenChar
        split
        · simp
        · split <;> simp
      rw [List.flatMap_cons, List.length_append, List.length_cons]
      omega

/-- A written character does not start with a quote. -/
theorem exists_writtenChar_eq_cons (c : Char) :
    ∃ d more, writtenChar c = d :: more ∧ d ≠ doubleQuote := by
  unfold writtenChar
  split
  next => exact ⟨backslash, [c], rfl, by decide⟩
  next hspecial =>
    split
    next => exact ⟨backslash, _, rfl, by decide⟩
    next => exact ⟨c, [], rfl, by simp at hspecial; exact hspecial.1⟩

/-- A written text that is not empty is read as that text, whatever follows. -/
theorem text?_writtenText {s : String} (hs : s ≠ "") (rest : List Char) :
    text? (writtenText s ++ rest) = some (.ok (s.toList, rest)) := by
  have hread : escapedText false (s.toList.flatMap writtenChar ++ doubleQuote :: rest) =
      .ok (s.toList, rest) := by
    have hlength := length_le_length_written s.toList
    exact escapedLoop_written (by rw [List.length_append, List.length_cons]; omega) [] rest
  obtain ⟨c, cs, hcs⟩ := List.exists_cons_of_ne_nil fun h => hs (String.toList_eq_nil_iff.mp h)
  obtain ⟨d, more, hd, hne⟩ := exists_writtenChar_eq_cons c
  -- one quote opens a text of one line, because no second one follows it
  have hone (tail : List Char) : text? (doubleQuote :: d :: tail) =
      some (escapedText false (d :: tail)) := by
    unfold text?
    split
    next heq => exact absurd (List.cons.inj (List.cons.inj heq).2).1 hne
    next heq => rw [(List.cons.inj heq).2]
    next heq => exact absurd (List.cons.inj heq).1 (by decide)
    next heq => exact absurd (List.cons.inj heq).1 (by decide)
    next _ hother _ _ => exact absurd rfl (hother (d :: tail))
  have hshape : s.toList.flatMap writtenChar ++ doubleQuote :: rest =
      d :: (more ++ cs.flatMap writtenChar ++ doubleQuote :: rest) := by
    rw [hcs, List.flatMap_cons, hd]
    simp
  have htext : writtenText s ++ rest =
      doubleQuote :: (s.toList.flatMap writtenChar ++ doubleQuote :: rest) := by
    simp [writtenText]
  rw [htext, ← hread, hshape, hone]

/-! ## Items -/

/-- Nothing is skipped in front of a character that is neither a blank nor a comment. -/
theorem skipAll_cons {c : Char} (hspace : isSpaceOrLine c = false) (hcomment : c ≠ '#')
    (rest : List Char) : skipAll (c :: rest) = .ok (c :: rest) := by
  have hdrop : (c :: rest).dropWhile isSpaceOrLine = c :: rest :=
    List.dropWhile_cons_of_neg (by simp [hspace])
  rw [skipAll, List.length_cons, skipLines, hdrop]
  split
  next heq => exact absurd (List.cons.inj heq).1 hcomment
  next => rfl

/-- A written text is read as a value. -/
theorem value_writtenText {s : String} (hs : s ≠ "") (fuel : Nat) (rest : List Char) :
    value (fuel + 1) (writtenText s ++ rest) = .ok (.text s, rest) := by
  unfold value
  rw [text?_writtenText hs]
  simp [Except.map]

/-- Written items start with a quote. -/
theorem exists_writtenItems_eq_cons (item : String) (items : List String) :
    ∃ tail, writtenItems (item :: items) = doubleQuote :: tail := by
  cases items <;> exact ⟨_, rfl⟩

/-- Written items that are not empty are read up to their closing bracket. -/
theorem listItems_written {items : List String} (hne : items ≠ []) (hitems : ∀ s ∈ items, s ≠ "")
    (fuel : Nat) (hfuel : items.length < fuel) (rest : List Char) :
    listItems fuel (writtenItems items ++ rest) = .ok (items.map Value.text, rest) := by
  fun_induction writtenItems items generalizing fuel with
  | case1 => exact absurd rfl hne
  | case2 item =>
      obtain ⟨fuel, rfl⟩ : ∃ n, fuel = n + 2 := ⟨fuel - 2, by simp at hfuel; omega⟩
      have hitem : item ≠ "" := hitems item (by simp)
      have hskip : skipAll (']' :: rest) = .ok (']' :: rest) :=
        skipAll_cons (by decide) (by decide) rest
      rw [List.append_assoc, List.singleton_append]
      unfold listItems
      rw [value_writtenText hitem]
      simp only [bind, Except.bind, hskip]
      rfl
  | case3 item next more ih =>
      obtain ⟨fuel, rfl⟩ : ∃ n, fuel = n + 2 := ⟨fuel - 2, by simp at hfuel; omega⟩
      have hitem : item ≠ "" := hitems item (by simp)
      have hmore := ih (by simp) (fun s hs => hitems s (List.mem_cons_of_mem item hs)) (fuel + 1)
        (by simpa using hfuel)
      obtain ⟨tail, htail⟩ := exists_writtenItems_eq_cons next more
      have hcomma : skipAll (',' :: doubleQuote :: (tail ++ rest)) =
          .ok (',' :: doubleQuote :: (tail ++ rest)) := skipAll_cons (by decide) (by decide) _
      have hquote : skipAll (doubleQuote :: (tail ++ rest)) = .ok (doubleQuote :: (tail ++ rest)) :=
        skipAll_cons (by decide) (by decide) _
      rw [htail, List.cons_append] at hmore
      rw [List.append_assoc, List.cons_append, htail, List.cons_append]
      unfold listItems
      rw [value_writtenText hitem]
      simp only [bind, Except.bind, hcomma, hquote, hmore]
      rfl

/-- A written list is read as a value, if there are enough steps for its items. -/
theorem value_written {items : List String} (hitems : ∀ s ∈ items, s ≠ "") (fuel : Nat)
    (hfuel : items.length + 1 < fuel) (rest : List Char) :
    value fuel ('[' :: (writtenItems items ++ rest)) = .ok (.texts items, rest) := by
  obtain ⟨fuel, rfl⟩ : ∃ n, fuel = n + 1 := ⟨fuel - 1, by omega⟩
  have hnone (cs : List Char) : text? ('[' :: cs) = none := rfl
  unfold value
  rw [hnone]
  cases items with
  | nil =>
      have hskip : skipAll (']' :: rest) = .ok (']' :: rest) :=
        skipAll_cons (by decide) (by decide) rest
      rw [writtenItems, List.singleton_append]
      simp only [bind, Except.bind, hskip]
      rfl
  | cons item items =>
      have hread := listItems_written (by simp) hitems fuel (by omega) rest
      obtain ⟨tail, htail⟩ := exists_writtenItems_eq_cons item items
      have hskip : skipAll (doubleQuote :: (tail ++ rest)) = .ok (doubleQuote :: (tail ++ rest)) :=
        skipAll_cons (by decide) (by decide) _
      rw [htail, List.cons_append] at hread ⊢
      simp only [bind, Except.bind, hskip, hread]
      rfl

/-! ## Documents -/

/-- A key that can be written without quotes. -/
def IsBareKey (key : String) : Prop :=
  key ≠ "" ∧ ∀ c ∈ key.toList, isBareKeyChar c = true

-- by its characters: the quantifier alone could be decided over all characters there are
instance (key : String) : Decidable (IsBareKey key) :=
  decidable_of_iff (key ≠ "" ∧ key.toList.all isBareKeyChar = true)
    (and_congr_right fun _ => List.all_eq_true)

/-- The first character of a bare key. -/
theorem IsBareKey.exists_cons {k : String} (hkey : IsBareKey k) :
    ∃ c cs, k.toList = c :: cs ∧ isBareKeyChar c = true := by
  obtain ⟨c, cs, hcs⟩ := List.exists_cons_of_ne_nil fun h => hkey.1 (String.toList_eq_nil_iff.mp h)
  exact ⟨c, cs, hcs, hkey.2 c (by rw [hcs]; exact List.mem_cons_self)⟩

/-- A key without quotes is read up to its equals sign. -/
theorem key_of_bare {k : String} (hkey : IsBareKey k) (rest : List Char) :
    key (k.toList ++ ' ' :: '=' :: rest) = .ok ([k], '=' :: rest) := by
  obtain ⟨c, cs, hcs, hc⟩ := hkey.exists_cons
  have hspace : isBareKeyChar ' ' = false := by decide
  have htake : (k.toList ++ ' ' :: '=' :: rest).takeWhile isBareKeyChar = k.toList := by
    rw [List.takeWhile_append_of_pos hkey.2, List.takeWhile_cons_of_neg (by simp [hspace]),
      List.append_nil]
  have hdrop : (k.toList ++ ' ' :: '=' :: rest).dropWhile isBareKeyChar = ' ' :: '=' :: rest := by
    rw [List.dropWhile_append_of_pos hkey.2, List.dropWhile_cons_of_neg (by simp [hspace])]
  have hpart : keyPart (k.toList ++ ' ' :: '=' :: rest) = .ok (k, ' ' :: '=' :: rest) := by
    unfold keyPart
    split
    next heq =>
      rw [hcs] at heq
      rw [(List.cons.inj heq).1] at hc
      exact absurd hc (by decide)
    next heq =>
      rw [hcs] at heq
      rw [(List.cons.inj heq).1] at hc
      exact absurd hc (by decide)
    next =>
      rw [htake, hdrop, hcs]
      simp only
      rw [← hcs, String.ofList_toList]
  rw [key, keyParts, hpart]
  rfl

/-! ### Line ends -/

/-- Without carriage returns the line ends stay as they are. -/
theorem joinLineEnds_of_not_mem {cs : List Char} (h : '\r' ∉ cs) : joinLineEnds cs = cs := by
  fun_induction joinLineEnds cs with
  | case1 rest ih => exact absurd List.mem_cons_self h
  | case2 c rest _ ih => rw [ih fun hmem => h (List.mem_cons_of_mem c hmem)]
  | case3 => rfl

/-- A written character holds no carriage return. -/
theorem not_mem_writtenChar (c : Char) : '\r' ∉ writtenChar c := by
  have hhex : ∀ n < 128, '\r' ∉ hexDigits 4 n := by decide +kernel
  unfold writtenChar
  split
  next hspecial =>
    rcases Bool.or_eq_true_iff.mp hspecial with h | h
    · rw [beq_iff_eq.mp h]
      decide
    · rw [beq_iff_eq.mp h]
      decide
  next =>
    split
    next hcontrol =>
      have hdigits := hhex c.toNat (toNat_lt_of_isControl hcontrol)
      simp [backslash, hdigits]
    next hcontrol =>
      intro hmem
      rw [← List.mem_singleton.mp hmem] at hcontrol
      exact hcontrol (by decide)

/-- Written items hold no carriage return. -/
theorem not_mem_writtenItems (items : List String) : '\r' ∉ writtenItems items := by
  have htext (s : String) : '\r' ∉ writtenText s := by
    simp [writtenText, doubleQuote, not_mem_writtenChar]
  fun_induction writtenItems items with
  | case1 => decide
  | case2 item => simp [htext]
  | case3 item next more ih => simp [htext, ih]

/-- There are no more items than characters that they are written with. -/
theorem length_le_length_writtenItems (items : List String) :
    items.length ≤ (writtenItems items).length := by
  fun_induction writtenItems items with
  | case1 => simp
  | case2 item => simp
  | case3 item next more ih =>
      simp only [List.length_append, List.length_cons] at ih ⊢
      omega

/-- The entry of a list of texts is read to the end of its document. -/
theorem entry_listDocument {k : String} (hkey : IsBareKey k) {items : List String}
    (hitems : ∀ s ∈ items, s ≠ "") :
    entry (listDocument k items) = .ok (([k], .texts items), []) := by
  have hlength := length_le_length_writtenItems items
  have hvalue := value_written hitems (2 * (' ' :: '[' :: writtenItems items).length + 2)
    (by simp only [List.length_cons]; omega) []
  rw [List.append_nil] at hvalue
  have hskip : skipSpaces (' ' :: '[' :: writtenItems items) = '[' :: writtenItems items := rfl
  rw [entry, listDocument, key_of_bare hkey]
  simp only [bind, Except.bind, hskip, hvalue]

/-- A character of a bare key is none of the others. -/
theorem ne_of_isBareKeyChar {c d : Char} (hc : isBareKeyChar c = true)
    (hd : isBareKeyChar d = false) : c ≠ d := by
  rintro rfl
  rw [hc] at hd
  cases hd

section Statements

variable {c : Char} {more : List Char}

/-- A line that starts with a bare key is an entry. -/
theorem statement_of_entry (hc : isBareKeyChar c = true) {d d' : Draft} {k : Key} {v : Value}
    {rest : List Char} (hentry : entry (c :: more) = .ok ((k, v), rest))
    (hput : d.put k v rest = .ok d') : d.statement (c :: more) = .ok (d', skipSpaces rest) := by
  have hstarts : startsKey c = true := by simp [startsKey, hc]
  unfold Draft.statement
  split
  next heq => exact absurd (List.cons.inj heq).1 (ne_of_isBareKeyChar hc (by decide))
  next heq => exact absurd (List.cons.inj heq).1 (ne_of_isBareKeyChar hc (by decide))
  next heq => exact absurd (List.cons.inj heq).1 (ne_of_isBareKeyChar hc (by decide))
  next heq =>
    rw [← (List.cons.inj heq).1, hstarts, if_pos rfl, hentry]
    simp only [bind, Except.bind, hput]
  next heq => cases heq

/-- A document of one line is read with its statement. -/
theorem lines_of_statement (hc : isBareKeyChar c = true) {d d' : Draft}
    (hstatement : d.statement (c :: more) = .ok (d', [])) (fuel : Nat) :
    d.lines (fuel + 1) (c :: more) = .ok d' := by
  have hspace : isSpace c = false := by
    have hblank := ne_of_isBareKeyChar hc (show isBareKeyChar ' ' = false by decide)
    have htab := ne_of_isBareKeyChar hc (show isBareKeyChar '\t' = false by decide)
    simp [isSpace, hblank, htab]
  have hspaces : skipSpaces (c :: more) = c :: more :=
    List.dropWhile_cons_of_neg (by simp [hspace])
  rw [Draft.lines, hspaces]
  split
  next heq => cases heq
  next heq => exact absurd (List.cons.inj heq).1 (ne_of_isBareKeyChar hc (by decide))
  next =>
    rw [hstatement]
    rfl

end Statements

/-- The document of a list of texts sets its key to the list, and nothing else. -/
theorem parse_listDocument {k : String} (hkey : IsBareKey k) {items : List String}
    (hitems : ∀ s ∈ items, s ≠ "") :
    parse (listDocument k items) = .ok [(k, .texts items)] := by
  have hreturn : '\r' ∉ listDocument k items := by
    have hkeychars : '\r' ∉ k.toList := fun hmem => absurd (hkey.2 _ hmem) (by decide)
    simp [listDocument, hkeychars, not_mem_writtenItems]
  have hentry := entry_listDocument hkey hitems
  obtain ⟨c, cs, hcs, hc⟩ := hkey.exists_cons
  rw [parse, joinLineEnds_of_not_mem hreturn]
  rw [listDocument, hcs, List.cons_append] at hentry ⊢
  have hput : Draft.put {} [k] (.texts items) [] =
      .ok { data := [(k, .texts items)], frozen := [[k]] } := rfl
  rw [lines_of_statement hc (statement_of_entry hc hentry hput)]
  rfl

end Toml
end ContractAudit
