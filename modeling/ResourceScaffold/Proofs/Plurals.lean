import ResourceScaffold.Naming
import ResourceScaffold.Proofs.Names

/-!
# The characters of plurals

A match only moves over characters of a word, so what a rule puts together comes from the word, in small or capital letters,
and from the texts of the rules, which are small letters. Hence a class of characters that changes of case keep, and that the
small letters belong to, is kept by the plural (`CaseClass.mem_pluralChars`): the plural of a word of letters and digits is
one, and that of a name of letters, digits and hyphens (`isSegmentChar_of_mem_pluralize`).
-/

namespace ResourceScaffold.Text

/-! ## Matches -/

/-- All characters around a place, and those of the groups matched so far, have a property. -/
structure Cursor.Holds (p : Char → Prop) (place : Cursor) : Prop where
  before : ∀ c ∈ place.before, p c
  after : ∀ c ∈ place.after, p c
  groups : ∀ entry ∈ place.groups, ∀ c ∈ entry.2, p c

namespace Pattern

variable {p : Char → Prop}

/-- What one of two options gives is given by the first or the second. -/
theorem eq_some_of_orElse {α : Type} {first second : Option α} {a : α} (h : (first <|> second) = some a) :
    first = some a ∨ second = some a := by
  cases first with
  | none => exact .inr h
  | some b => exact .inl h

/-- A step over a character keeps a property of all characters around a place. -/
theorem holds_of_step {test : Char → Bool} {k : Cursor → Option Cursor} {place done : Cursor}
    (h : step test k place = some done) (holds : place.Holds p)
    (next : ∀ place, place.Holds p → k place = some done → done.Holds p) : done.Holds p := by
  unfold step at h
  split at h
  · next c rest after =>
      split at h
      · have around : ∀ d ∈ c :: rest, p d := after ▸ holds.after
        refine next ⟨c :: place.before, rest, place.groups⟩
          ⟨fun d member => ?_, fun d member => around d (List.mem_cons_of_mem _ member), holds.groups⟩ h
        rcases List.mem_cons.1 member with rfl | earlier
        · exact around _ List.mem_cons_self
        · exact holds.before d earlier
      · cases h
  · cases h

/-- A match keeps what holds of all characters, if what follows it does. -/
theorem holds_of_matchThen (pattern : Pattern) {k : Cursor → Option Cursor} {place done : Cursor}
    (h : pattern.matchThen k place = some done) (holds : place.Holds p)
    (next : ∀ place, place.Holds p → k place = some done → done.Holds p) : done.Holds p := by
  induction pattern generalizing k place with
  | empty => exact next place holds h
  | oneOf chars => exact holds_of_step h holds next
  | noneOf chars => exact holds_of_step h holds next
  | nonAscii => exact holds_of_step h holds next
  | seq first second ihFirst ihSecond =>
      exact ihFirst h holds fun middle holds' rest => ihSecond rest holds' next
  | alt first second ihFirst ihSecond =>
      rcases eq_some_of_orElse h with one | other
      · exact ihFirst one holds next
      · exact ihSecond other holds next
  | optional inner ih =>
      rcases eq_some_of_orElse h with taken | skipped
      · exact ih taken holds next
      · exact next place holds skipped
  | group index inner ih =>
      refine ih h holds fun after holds' rest => next ⟨after.before, after.after, _ :: after.groups⟩
        ⟨holds'.before, holds'.after, fun entry member => ?_⟩ rest
      rcases List.mem_cons.1 member with rfl | earlier
      · exact fun c inGroup => holds.after c (List.mem_of_mem_take inGroup)
      · exact holds'.groups entry earlier
  | textStart =>
      unfold matchThen at h
      split at h
      · exact next place holds h
      · cases h
  | textEnd =>
      unfold matchThen at h
      split at h
      · exact next place holds h
      · cases h
  | wordBoundary =>
      unfold matchThen at h
      simp only at h
      split at h
      · exact next place holds h
      · cases h

/-- So does a search for a pattern. -/
theorem holds_of_searchFrom {pattern : Pattern} {before s : List Char} {start done : Cursor}
    (h : pattern.searchFrom before s = some (start, done)) (hb : ∀ c ∈ before, p c) (hs : ∀ c ∈ s, p c) :
    start.Holds p ∧ done.Holds p := by
  induction s generalizing before with
  | nil =>
      obtain ⟨found, matched, same⟩ := Option.map_eq_some_iff.1 h
      cases same
      have holds : (⟨before, [], []⟩ : Cursor).Holds p := ⟨hb, hs, by simp⟩
      exact ⟨holds, holds_of_matchThen pattern matched holds fun place holds same => Option.some.inj same ▸ holds⟩
  | cons c rest ih =>
      have holds : (⟨before, c :: rest, []⟩ : Cursor).Holds p := ⟨hb, hs, by simp⟩
      unfold searchFrom at h
      simp only at h
      split at h
      · next found matched =>
          cases h
          exact ⟨holds, holds_of_matchThen pattern matched holds fun place holds same => Option.some.inj same ▸ holds⟩
      · refine ih h (fun d member => ?_) fun d member => hs d (List.mem_cons_of_mem _ member)
        rcases List.mem_cons.1 member with rfl | earlier
        · exact hs _ List.mem_cons_self
        · exact hb d earlier

end Pattern

/-! ## Changes of case -/

/-- A class of ASCII characters that holds the small letters and is kept by changes of case. -/
structure CaseClass (p : Char → Bool) : Prop where
  ascii : ∀ c, p c = true → isAscii c = true
  small : ∀ c, c.isLower = true → p c = true
  toLower : ∀ c, p c = true → p c.toLower = true
  toUpper : ∀ c, p c = true → p c.toUpper = true

/-- A small letter is a letter or digit. -/
theorem isAlphanum_of_isLower {c : Char} (h : c.isLower = true) : c.isAlphanum = true := by
  show ((c.isUpper || c.isLower) || c.isDigit) = true
  rw [h, Bool.or_true, Bool.true_or]

/-- Letters and digits are such a class. -/
theorem caseClass_isAlphanum : CaseClass Char.isAlphanum :=
  ⟨fun _ => isAscii_of_isAlphanum, fun _ => isAlphanum_of_isLower, fun _ => isAlphanum_toLower, fun _ => isAlphanum_toUpper⟩

/-- Letters, digits and the hyphen. -/
def isSegmentChar (c : Char) : Bool :=
  c.isAlphanum || c == '-'

/-- A character of a segment is in ASCII. -/
theorem isAscii_of_isSegmentChar {c : Char} (h : isSegmentChar c = true) : isAscii c = true := by
  rw [isSegmentChar, Bool.or_eq_true, beq_iff_eq] at h
  rcases h with alphanum | rfl
  · exact isAscii_of_isAlphanum alphanum
  · decide

/-- The characters of segments are kept by changes of case. -/
theorem caseClass_isSegmentChar : CaseClass isSegmentChar where
  ascii _ := isAscii_of_isSegmentChar
  small _ h := by rw [isSegmentChar, isAlphanum_of_isLower h, Bool.true_or]
  toLower _ h :=
    forall_ascii (p := fun c => isSegmentChar c = true → isSegmentChar c.toLower = true) (by decide)
      (isAscii_of_isSegmentChar h) h
  toUpper _ h :=
    forall_ascii (p := fun c => isSegmentChar c = true → isSegmentChar c.toUpper = true) (by decide)
      (isAscii_of_isSegmentChar h) h

/-- Upper case maps the characters of an ASCII text one by one. -/
theorem mem_upperChars {s : List Char} {c : Char} (ascii : ∀ d ∈ s, isAscii d = true) (h : c ∈ upperChars s) :
    ∃ d ∈ s, c = d.toUpper := by
  obtain ⟨d, member, image⟩ := List.mem_flatMap.1 h
  rw [upperChar, if_pos (ascii d member), List.mem_singleton] at image
  exact ⟨d, member, image⟩

namespace CaseClass

variable {p : Char → Bool} (hp : CaseClass p) {s t : List Char}
include hp

/-- A text of such a class is one in small letters too. -/
theorem mem_lowerChars (h : ∀ c ∈ s, p c = true) : ∀ c ∈ lowerChars s, p c = true := by
  intro c member
  obtain ⟨d, inText, rfl⟩ := mem_lowerFrom (fun d inText => hp.ascii d (h d inText)) member
  exact hp.toLower d (h d inText)

/-- So is it in capitals. -/
theorem mem_upperChars (h : ∀ c ∈ s, p c = true) : ∀ c ∈ upperChars s, p c = true := by
  intro c member
  obtain ⟨d, inText, rfl⟩ := Text.mem_upperChars (fun d inText => hp.ascii d (h d inText)) member
  exact hp.toUpper d (h d inText)

/-- So is it in the case of another text. -/
theorem mem_inCaseOf {model : List Char} (h : ∀ c ∈ t, p c = true) : ∀ c ∈ inCaseOf model t, p c = true := by
  intro c member
  unfold inCaseOf at member
  split at member
  · exact h c member
  · split at member
    · exact hp.mem_lowerChars h c member
    · split at member
      · exact hp.mem_upperChars h c member
      · split at member
        · rcases List.mem_append.1 member with first | others
          · exact hp.mem_upperChars (fun c part => h c (List.mem_of_mem_take part)) c first
          · exact hp.mem_lowerChars (fun c part => h c (List.mem_of_mem_drop part)) c others
        · exact hp.mem_lowerChars h c member

end CaseClass

/-! ## Plurals -/

/-- Whether the characters that a rule puts in itself are small letters. -/
def PluralPart.isPlain : PluralPart → Bool
  | .text s => s.toList.all Char.isLower
  | .group _ => true

/-- The rules for plurals put in small letters only. -/
theorem isPlain_of_mem_pluralRules {rule : PluralRule} (h : rule ∈ pluralRules) {part : PluralPart}
    (member : part ∈ rule.plural) : part.isPlain = true := by
  have all : (pluralRules.all fun rule => rule.plural.all PluralPart.isPlain) = true := by decide
  exact List.all_eq_true.1 (List.all_eq_true.1 all rule h) part member

/-- Irregular plurals are in small letters. -/
theorem isLower_of_mem_irregularPlurals {entry : String × String} (h : entry ∈ irregularPlurals) :
    ∀ c ∈ entry.2.toList, c.isLower = true := by
  have all : ∀ entry ∈ irregularPlurals, entry.2.toList.all Char.isLower = true := by decide
  exact List.all_eq_true.1 (all entry h)

namespace CaseClass

variable {p : Char → Bool} (hp : CaseClass p)
include hp

/-- What a rule puts in has the characters of the word, of its groups, and small letters. -/
theorem mem_replacement {rule : PluralRule} (plain : rule ∈ pluralRules) {whole : List Char}
    {groups : List (Nat × List Char)} (inWhole : ∀ c ∈ whole, p c = true)
    (inGroups : ∀ entry ∈ groups, ∀ c ∈ entry.2, p c = true) : ∀ c ∈ rule.replacement whole groups, p c = true := by
  intro c member
  obtain ⟨part, inRule, inPart⟩ := List.mem_flatMap.1 member
  have texts := isPlain_of_mem_pluralRules plain inRule
  split at inPart
  · exact hp.small c (List.all_eq_true.1 texts c inPart)
  · exact inWhole c inPart
  · next index _ =>
      cases found : groups.lookup index with
      | none =>
          rw [found] at inPart
          cases inPart
      | some group =>
          rw [found] at inPart
          obtain ⟨before, after, split, -⟩ := List.lookup_eq_some_iff.1 found
          exact inGroups (index, group) (by simp [split]) c inPart

/-- A rule keeps to the class. -/
theorem mem_apply? {rule : PluralRule} (plain : rule ∈ pluralRules) {word plural : List Char} (name : ∀ c ∈ word, p c = true)
    (h : rule.apply? word = some plural) : ∀ c ∈ plural, p c = true := by
  obtain ⟨⟨start, done⟩, found, same⟩ := Option.map_eq_some_iff.1 h
  obtain ⟨atStart, atEnd⟩ := Pattern.holds_of_searchFrom found (p := fun c => p c = true) (by simp) name
  cases same
  intro c member
  simp only [List.mem_append, List.mem_reverse] at member
  rcases member with (before | replaced) | after
  · exact atStart.before c before
  · refine hp.mem_inCaseOf (hp.mem_replacement plain (fun c part => ?_) atEnd.groups) c replaced
    exact atStart.after c (List.mem_of_mem_take part)
  · exact atEnd.after c after

/-- The plural of a word keeps to the class. -/
theorem mem_pluralChars {word : List Char} (name : ∀ c ∈ word, p c = true) : ∀ c ∈ pluralChars word, p c = true := by
  have lowered := hp.mem_lowerChars name
  unfold pluralChars
  simp only [String.toList_ofList]
  split
  · exact hp.mem_inCaseOf lowered
  · split
    · next plural found =>
        obtain ⟨before, after, split, -⟩ := List.lookup_eq_some_iff.1 found
        have listed : (String.ofList (lowerChars word), plural) ∈ irregularPlurals :=
          List.mem_reverse.1 (by rw [split]; simp)
        exact hp.mem_inCaseOf fun c member => hp.small c (isLower_of_mem_irregularPlurals listed c member)
    · split
      · exact name
      · cases found : pluralRules.reverse.findSome? fun rule => rule.apply? word with
        | none => exact name
        | some plural =>
            obtain ⟨rule, listed, applied⟩ := List.exists_of_findSome?_eq_some found
            exact hp.mem_apply? (List.mem_reverse.1 listed) name applied

end CaseClass

/-! ## Hyphenated names -/

/-- A text is split at its last hyphen into two parts that make it up. -/
theorem splitLastHyphen_append (s : List Char) : (splitLastHyphen s).1 ++ (splitLastHyphen s).2 = s := by
  induction s with
  | nil => rfl
  | cons c rest ih =>
      unfold splitLastHyphen
      simp only
      split
      · rw [List.cons_append, ih]
      · next none =>
          have empty : (splitLastHyphen rest).1 = [] := by
            rw [not_or] at none
            simpa using none.2
          rw [empty, List.nil_append] at ih
          rw [empty, List.nil_append, ih]

/-- The plural of a name of letters, digits and hyphens is one. -/
theorem isSegmentChar_of_mem_pluralize {s : String} (name : ∀ c ∈ s.toList, isSegmentChar c = true) :
    ∀ c ∈ (pluralize s).toList, isSegmentChar c = true := by
  intro c member
  have parts := splitLastHyphen_append s.toList
  rw [pluralize, String.toList_ofList] at member
  rcases List.mem_append.1 member with front | last
  · exact name c (parts ▸ List.mem_append_left _ front)
  · exact caseClass_isSegmentChar.mem_pluralChars (fun c part => name c (parts ▸ List.mem_append_right _ part)) c last

end ResourceScaffold.Text
