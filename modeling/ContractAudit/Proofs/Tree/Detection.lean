import Mathlib.Data.List.Forall2
import Mathlib.Data.List.TakeWhile
import ContractAudit.Tree.Language

/-!
# Detection of languages

The language of a file follows from the suffix of its name: the last dot and what
stands behind it, if something stands on both sides.  Said without a search for
the last dot, a name in small letters is a stem that is not empty, followed by one
of the extensions of the language.

Small letters are described by a relation, so that no table of letters is needed:
a character of ASCII has one small form, and whatever small forms other characters
have, no extension can be spelled with them.

Main results:

- Theorem {lit}`Files.Pathname.suffixOf_of_split`: the suffix of a name that is
  split at its last dot.
- Theorem {lit}`Text.IsLowerCase.exists_split`: a plain ending of a lower case comes
  from an ending of the text.
- Theorem {lit}`Tree.Language.detect?_eq_some_iff`: which names are of a language.
-/

namespace ContractAudit

/-! ## Suffixes -/

namespace Files
namespace Pathname

/-- A name without a dot has no suffix. -/
theorem suffixOf_of_not_mem {name : String} (h : '.' ∉ name.toList) : suffixOf name = "" := by
  have hall : ∀ c ∈ name.toList.reverse, (c != '.') = true := by
    intro c hc
    have hne : c ≠ '.' := fun heq => h (heq ▸ List.mem_reverse.mp hc)
    simpa using hne
  have htake : name.toList.reverse.takeWhile (· != '.') = name.toList.reverse :=
    List.takeWhile_eq_self_iff.mpr hall
  unfold suffixOf
  simp only [htake]
  simp

/-- The suffix of a name that is split at its last dot starts with this dot, unless
one of the sides is empty. -/
theorem suffixOf_of_split {name : String} {stem tail : List Char}
    (hname : name.toList = stem ++ '.' :: tail) (hdot : '.' ∉ tail) :
    suffixOf name = if stem = [] ∨ tail = [] then "" else String.ofList ('.' :: tail) := by
  have hback : name.toList.reverse = tail.reverse ++ '.' :: stem.reverse := by simp [hname]
  have hall : ∀ c ∈ tail.reverse, (c != '.') = true := by
    intro c hc
    have hne : c ≠ '.' := fun heq => hdot (heq ▸ List.mem_reverse.mp hc)
    simpa using hne
  have htake : name.toList.reverse.takeWhile (· != '.') = tail.reverse := by
    rw [hback, List.takeWhile_append_of_pos hall]
    simp
  have hdrop : name.toList.reverse.dropWhile (· != '.') = '.' :: stem.reverse := by
    rw [hback, List.dropWhile_append_of_pos hall]
    simp
  unfold suffixOf
  simp only [htake, hdrop]
  by_cases hstem : stem = []
  · simp [hstem]
  · by_cases htail : tail = []
    · simp [htail]
    · simp [hback, hstem, htail]

/-- A text with a dot is split at its last one. -/
theorem exists_split_at_last_dot {cs : List Char} (h : '.' ∈ cs) :
    ∃ stem tail, cs = stem ++ '.' :: tail ∧ '.' ∉ tail := by
  obtain ⟨tail, stem, hsplit, hdot⟩ := List.eq_append_cons_of_mem (List.mem_reverse.mpr h)
  refine ⟨stem.reverse, tail.reverse, ?_, by simpa using hdot⟩
  have hreverse := congrArg List.reverse hsplit
  simpa using hreverse

/-- A name with a suffix is a stem followed by the suffix. -/
theorem exists_stem_of_suffixOf_ne {name : String} (h : suffixOf name ≠ "") :
    ∃ stem tail, name.toList = stem ++ '.' :: tail ∧ stem ≠ [] ∧
      suffixOf name = String.ofList ('.' :: tail) := by
  by_cases hdot : '.' ∈ name.toList
  · obtain ⟨stem, tail, hname, htail⟩ := exists_split_at_last_dot hdot
    have hsuffix := suffixOf_of_split hname htail
    split_ifs at hsuffix with hempty
    · exact absurd hsuffix h
    · exact ⟨stem, tail, hname, fun hstem => hempty (.inl hstem), hsuffix⟩
  · exact absurd (suffixOf_of_not_mem hdot) h

end Pathname
end Files

/-! ## Small letters -/

namespace Text

/-- The small forms of a character.  A character of ASCII has one; those of any other
character are outside ASCII, except that an i can stand in one of them and a k be one. -/
def SmallForm (c : Char) (form : List Char) : Prop :=
  if c.toNat < 128 then form = [c.toLower]
  else form ≠ [] ∧ ∀ d ∈ form, d.toNat < 128 → d = 'i' ∨ d = 'k'

/-- A text in small letters: every character is replaced by a small form. -/
def IsLowerCase (text low : List Char) : Prop :=
  ∃ forms, List.Forall₂ SmallForm text forms ∧ low = forms.flatten

/-- A character that can only be the small form of a character of ASCII. -/
def IsPlain (c : Char) : Prop :=
  c.toNat < 128 ∧ c ≠ 'i' ∧ c ≠ 'k'

instance (c : Char) : Decidable (IsPlain c) :=
  inferInstanceAs (Decidable (c.toNat < 128 ∧ c ≠ 'i' ∧ c ≠ 'k'))

/-- A small form is never empty. -/
theorem SmallForm.ne_nil {c : Char} {form : List Char} (h : SmallForm c form) : form ≠ [] := by
  unfold SmallForm at h
  split_ifs at h with hascii
  · simp [h]
  · exact h.1

/-- A small form with a plain character is the one of a character of ASCII. -/
theorem SmallForm.eq_of_isPlain {c d : Char} {form : List Char} (h : SmallForm c form)
    (hd : d ∈ form) (hplain : IsPlain d) : form = [c.toLower] := by
  unfold SmallForm at h
  split_ifs at h with hascii
  · exact h
  · rcases h.2 d hd hplain.1 with rfl | rfl
    · exact absurd rfl hplain.2.1
    · exact absurd rfl hplain.2.2

/-- A text is empty if its small letters are. -/
theorem IsLowerCase.eq_nil {text : List Char} (h : IsLowerCase text []) : text = [] := by
  obtain ⟨forms, hforms, hflat⟩ := h
  cases hforms with
  | nil => rfl
  | cons hc _ => simp [hc.ne_nil] at hflat

/-- The empty text stays empty in small letters. -/
theorem IsLowerCase.eq_nil_of_nil {low : List Char} (h : IsLowerCase [] low) : low = [] := by
  obtain ⟨forms, hforms, rfl⟩ := h
  cases hforms
  rfl

/-- The empty text in small letters. -/
theorem IsLowerCase.nil : IsLowerCase [] [] :=
  ⟨[], .nil, rfl⟩

/-- A character before a text, both in small letters. -/
theorem IsLowerCase.cons {c : Char} {form text low : List Char} (hc : SmallForm c form)
    (h : IsLowerCase text low) : IsLowerCase (c :: text) (form ++ low) := by
  obtain ⟨forms, hforms, rfl⟩ := h
  exact ⟨form :: forms, .cons hc hforms, rfl⟩

/-- A plain ending of a text in small letters comes from an ending of the text,
character by character. -/
theorem IsLowerCase.exists_split {text stem tail : List Char}
    (h : IsLowerCase text (stem ++ tail)) (hplain : ∀ c ∈ tail, IsPlain c) :
    ∃ front back, text = front ++ back ∧ IsLowerCase front stem ∧
      back.map Char.toLower = tail := by
  obtain ⟨forms, hforms, hflat⟩ := h
  induction hforms generalizing stem tail with
  | nil =>
      obtain ⟨rfl, rfl⟩ := List.append_eq_nil_iff.mp hflat
      exact ⟨[], [], rfl, .nil, rfl⟩
  | @cons c form text forms hc hforms ih =>
      rcases List.append_eq_append_iff.mp hflat.symm with ⟨rest, rfl, hrest⟩ | ⟨part, hform, rfl⟩
      · -- the form lies in the stem
        obtain ⟨front, back, rfl, hfront, hback⟩ := ih hplain hrest.symm
        exact ⟨c :: front, back, rfl, .cons hc hfront, hback⟩
      · have hrest : ∀ d ∈ forms.flatten, IsPlain d := fun d hd =>
          hplain d (List.mem_append_right part hd)
        obtain ⟨front, back, rfl, hfront, hback⟩ := ih hrest (List.nil_append _)
        obtain rfl := hfront.eq_nil
        cases part with
        | nil =>
            -- the form ends where the stem does
            obtain rfl : form = stem := by rw [hform, List.append_nil]
            refine ⟨[c], back, rfl, ?_, hback⟩
            have hone := IsLowerCase.cons hc .nil
            rwa [List.append_nil] at hone
        | cons d part =>
            -- the form reaches into the ending, so that it is one plain character
            have hd : d ∈ form := by rw [hform]; simp
            have hone := hc.eq_of_isPlain hd (hplain d List.mem_cons_self)
            rw [hform] at hone
            obtain ⟨rfl, hpart⟩ : stem = [] ∧ d :: part = [c.toLower] := by
              cases stem with
              | nil => exact ⟨rfl, hone⟩
              | cons e stem => simp at hone
            exact ⟨[], c :: back, rfl, .nil, by rw [List.map_cons, hback, hpart]; rfl⟩

/-- Only characters of ASCII have a small letter in ASCII by the rule for ASCII. -/
theorem toNat_lt_of_toLower {c : Char} (h : c.toLower.toNat < 128) : c.toNat < 128 := by
  unfold Char.toLower at h
  split at h
  next hupper =>
    have hle : c.toNat ≤ 90 := hupper.2
    omega
  next => exact h

/-- Only the dot has a dot as its small form. -/
theorem eq_dot_of_toLower {c : Char} (h : c.toLower = '.') : c = '.' := by
  unfold Char.toLower at h
  split at h
  next hupper =>
    exfalso
    have hlow : 65 ≤ c.val.toNat := hupper.1
    have hhigh : c.val.toNat ≤ 90 := hupper.2
    have hval := congrArg (fun d : Char => d.val.toNat) h
    simp only [UInt32.toNat_add] at hval
    change (c.val.toNat + 32) % 4294967296 = 46 at hval
    omega
  next => exact h

/-- The small letters of a text of ASCII are those by the rule for ASCII. -/
theorem IsLowerCase.eq_map {text low : List Char} (h : IsLowerCase text low)
    (hascii : ∀ c ∈ text, c.toNat < 128) : low = text.map Char.toLower := by
  obtain ⟨forms, hforms, rfl⟩ := h
  induction hforms with
  | nil => rfl
  | @cons c form text forms hc hforms ih =>
      have hform : form = [c.toLower] := by
        rw [SmallForm, if_pos (hascii c List.mem_cons_self)] at hc
        exact hc
      rw [List.flatten_cons, hform, ih fun d hd => hascii d (List.mem_cons_of_mem c hd)]
      rfl

/-- Every text can be written in small letters: the rule for ASCII does it, since it
leaves other characters as they are. -/
theorem isLowerCase_map_toLower (text : List Char) :
    IsLowerCase text (text.map Char.toLower) := by
  induction text with
  | nil => exact .nil
  | cons c text ih =>
      have hform : SmallForm c [c.toLower] := by
        unfold SmallForm
        split_ifs with hascii
        · rfl
        · refine ⟨by simp, fun d hd hlt => ?_⟩
          rw [List.mem_singleton.mp hd] at hlt
          exact absurd (toNat_lt_of_toLower hlt) hascii
      exact .cons hform ih

/-- A text in small letters is its front in small letters followed by its back in
small letters. -/
theorem IsLowerCase.exists_append {front back low : List Char}
    (h : IsLowerCase (front ++ back) low) :
    ∃ stem tail, IsLowerCase front stem ∧ IsLowerCase back tail ∧ low = stem ++ tail := by
  induction front generalizing low with
  | nil => exact ⟨[], low, .nil, h, rfl⟩
  | cons c front ih =>
      obtain ⟨forms, hforms, rfl⟩ := h
      cases hforms with
      | @cons _ form _ forms hc hforms =>
          obtain ⟨stem, tail, hfront, hback, hlow⟩ := ih ⟨forms, hforms, rfl⟩
          refine ⟨form ++ stem, tail, .cons hc hfront, hback, ?_⟩
          rw [List.flatten_cons, hlow, List.append_assoc]

end Text

namespace Tree
namespace Language

/-! ## Names and extensions -/

/-- A suffix stands for the language that has it, in small letters, as an
extension. -/
theorem ofSuffix?_eq_some_iff {suffix : String} {l : Language} :
    ofSuffix? suffix = some l ↔
      String.ofList (suffix.toList.map Char.toLower) ∈ l.extensions := by
  rw [ofSuffix?]
  generalize String.ofList (suffix.toList.map Char.toLower) = lower
  constructor
  · intro h
    have hfound := List.find?_some h
    simpa using hfound
  · intro h
    -- no extension belongs to two languages
    cases l <;> simp only [extensions, List.mem_cons, List.not_mem_nil, or_false] at h
    · rcases h with rfl | rfl | rfl | rfl <;> decide
    · rcases h with rfl | rfl | rfl <;> decide
    · subst h
      decide

/-- An extension is a dot and then plain letters. -/
theorem exists_letters_of_mem_extensions {l : Language} {extension : String}
    (h : extension ∈ l.extensions) :
    ∃ letters, extension.toList = '.' :: letters ∧ letters ≠ [] ∧ '.' ∉ letters ∧
      ∀ c ∈ letters, Text.IsPlain c := by
  have hall : ∀ extension ∈ l.extensions, extension.toList = '.' :: extension.toList.tail ∧
      extension.toList.tail ≠ [] ∧ '.' ∉ extension.toList.tail ∧
      extension.toList.tail.all (fun c => decide (Text.IsPlain c)) = true := by
    cases l <;> decide
  obtain ⟨hdot, hne, hlast, hplain⟩ := hall extension h
  refine ⟨extension.toList.tail, hdot, hne, hlast, fun c hc => ?_⟩
  exact of_decide_eq_true (List.all_eq_true.mp hplain c hc)

section Endings

open Files.Pathname (suffixOf)
open Text (IsLowerCase IsPlain)

variable {name low extension : String} {l : Language}

/-- A name whose suffix is an extension ends with it in small letters. -/
theorem exists_stem_of_suffixOf (hlow : IsLowerCase name.toList low.toList)
    (h : String.ofList ((suffixOf name).toList.map Char.toLower) ∈ l.extensions) :
    ∃ stem extension, stem ≠ "" ∧ extension ∈ l.extensions ∧ low = stem ++ extension := by
  obtain ⟨letters, hletters, -, -, hplain⟩ := exists_letters_of_mem_extensions h
  rw [String.toList_ofList] at hletters
  have hne : suffixOf name ≠ "" := by
    intro hempty
    rw [hempty] at hletters
    simp at hletters
  obtain ⟨stem, tail, hname, hstem, hsuffix⟩ := Files.Pathname.exists_stem_of_suffixOf_ne hne
  rw [hsuffix, String.toList_ofList] at h hletters
  rw [hname] at hlow
  obtain ⟨front, back, hfront, hback, happend⟩ := hlow.exists_append
  -- the suffix is of ASCII, since its small letters are
  have hascii : ∀ c ∈ '.' :: tail, c.toNat < 128 := by
    intro c hc
    apply Text.toNat_lt_of_toLower
    have hmem : c.toLower ∈ '.' :: letters := hletters ▸ List.mem_map_of_mem hc
    rcases List.mem_cons.mp hmem with hdot | hletter
    · rw [hdot]
      decide
    · exact (hplain _ hletter).1
  refine ⟨String.ofList front, _, ?_, h, ?_⟩
  · intro hempty
    have hnil : front = [] := by simpa using hempty
    rw [hnil] at hfront
    exact hstem hfront.eq_nil
  · rw [← String.toList_inj, happend, String.toList_append, String.toList_ofList,
      String.toList_ofList, hback.eq_map hascii]

/-- The suffix of a name that ends with an extension in small letters is this
extension. -/
theorem suffixOf_of_isLowerCase {stem : String}
    (hlow : IsLowerCase name.toList (stem ++ extension).toList) (hstem : stem ≠ "")
    (hextension : extension ∈ l.extensions) :
    String.ofList ((suffixOf name).toList.map Char.toLower) = extension := by
  obtain ⟨letters, hletters, hne, hdot, hplain⟩ := exists_letters_of_mem_extensions hextension
  have hending : ∀ c ∈ extension.toList, IsPlain c := by
    rw [hletters]
    exact List.forall_mem_cons.mpr ⟨by decide, hplain⟩
  rw [String.toList_append] at hlow
  obtain ⟨front, back, hname, hfront, hback⟩ := hlow.exists_split hending
  rw [hletters] at hback
  obtain ⟨c, tail, rfl, hc, htail⟩ := List.map_eq_cons_iff.mp hback
  obtain rfl := Text.eq_dot_of_toLower hc
  have hlast : '.' ∉ tail := by
    intro hmem
    rw [← htail] at hdot
    exact hdot (List.mem_map_of_mem hmem)
  have hsides : ¬(front = [] ∨ tail = []) := by
    rintro (rfl | rfl)
    · exact hstem (String.toList_eq_nil_iff.mp hfront.eq_nil_of_nil)
    · exact hne htail.symm
  rw [Files.Pathname.suffixOf_of_split hname hlast, if_neg hsides, String.toList_ofList, hback,
    ← hletters, String.ofList_toList]

end Endings

/-- A file is of a language exactly if its name in small letters is a stem that is
not empty, followed by one of the extensions of the language. -/
theorem detect?_eq_some_iff {path : Files.Pathname} {l : Language} {low : String}
    (hlow : Text.IsLowerCase path.name.toList low.toList) :
    detect? path = some l ↔
      ∃ stem extension, stem ≠ "" ∧ extension ∈ l.extensions ∧ low = stem ++ extension := by
  rw [detect?, ofSuffix?_eq_some_iff, Files.Pathname.suffix]
  constructor
  · intro h
    exact exists_stem_of_suffixOf hlow h
  · rintro ⟨stem, extension, hstem, hextension, rfl⟩
    rw [suffixOf_of_isLowerCase hlow hstem hextension]
    exact hextension

-- a dot can be the stem, but an extension alone has none, and nothing may follow it
example : [["..JS"], [".js"], ["a.min.Mts"], ["a.js."]].map (fun parts =>
    detect? ⟨.relative, parts⟩) = [some javascript, none, some typescript, none] := by decide

end Language
end Tree

end ContractAudit
