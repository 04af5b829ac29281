import ResourceScaffold.Descriptor.Enumeration
import ResourceScaffold.Proofs.Names
import ResourceScaffold.Proofs.Plurals

/-!
# Names that are one word

The names in generated code hold neither a blank nor a line feed (`IsWord`): they are identifiers, or made of the words of
an identifier. Blanks, line feeds, slashes and the like are marks (`Text.IsMark`): no identifier holds one, and no other
character becomes one in another case (`Text.IsMark.not_mem_upperChar`, `Text.IsMark.not_mem_camelCase`).
-/

namespace ResourceScaffold

/-- A text without blanks and line feeds. -/
def IsWord (s : String) : Prop :=
  ∀ c ∈ s.toList, c ≠ ' ' ∧ c ≠ '\n'

/-- Whether a text is a word can be tested. -/
instance (s : String) : Decidable (IsWord s) :=
  decidable_of_iff ((s.toList.all fun c => c != ' ' && c != '\n') = true) (by simp [IsWord])

namespace IsWord

variable {s t : String}

/-- A word has no blank. -/
theorem noBlank (h : IsWord s) : ' ' ∉ s.toList :=
  fun member => (h _ member).1 rfl

/-- A word has no line feed. -/
theorem noFeed (h : IsWord s) : '\n' ∉ s.toList :=
  fun member => (h _ member).2 rfl

/-- A word after another one is a word. -/
theorem append (hs : IsWord s) (ht : IsWord t) : IsWord (s ++ t) := by
  intro c member
  rw [String.toList_append, List.mem_append] at member
  exact member.elim (hs c) (ht c)

end IsWord

/-- A text of characters of a class to which neither the blank nor the line feed belongs. -/
theorem isWord_of_forall {p : Char → Bool} {s : String} (h : ∀ c ∈ s.toList, p c = true) (blank : p ' ' = false)
    (feed : p '\n' = false) : IsWord s := by
  intro c member
  constructor
  · rintro rfl
    rw [h _ member] at blank
    cases blank
  · rintro rfl
    rw [h _ member] at feed
    cases feed

namespace Text

/-! ## Identifiers and their words -/

/-- A character below the letters that is in no identifier. -/
structure IsMark (b : Char) : Prop where
  low : b.toNat ≤ 64
  notStart : isIdentifierStart b = false
  notContinue : isIdentifierContinue b = false

/-- Whether a character is a mark can be tested. -/
instance (b : Char) : Decidable (IsMark b) :=
  decidable_of_iff (b.toNat ≤ 64 ∧ isIdentifierStart b = false ∧ isIdentifierContinue b = false)
    ⟨fun ⟨low, first, later⟩ => ⟨low, first, later⟩, fun h => ⟨h.low, h.notStart, h.notContinue⟩⟩

/-- A mark is in no identifier. -/
theorem IsMark.not_mem_identifier {b : Char} (h : IsMark b) {s : String} (usable : isIdentifier s = true) :
    b ∉ s.toList := by
  obtain ⟨first, rest, chars, start, continues⟩ := isIdentifier_iff.1 usable
  rw [chars, List.mem_cons, not_or]
  constructor
  · rintro rfl
    exact Bool.false_ne_true (h.notStart.symm.trans start)
  · intro later
    exact Bool.false_ne_true (h.notContinue.symm.trans (continues b later))

/-- A text is one word if neither the blank nor the line feed is in it. -/
theorem isWord_of_not_mem {s : String} (blank : ' ' ∉ s.toList) (feed : '\n' ∉ s.toList) : IsWord s :=
  fun _ member => ⟨fun same => blank (same ▸ member), fun same => feed (same ▸ member)⟩

/-- An identifier is a word. -/
theorem isWord_of_isIdentifier {s : String} (h : isIdentifier s = true) : IsWord s :=
  isWord_of_not_mem (IsMark.not_mem_identifier (by decide) h) (IsMark.not_mem_identifier (by decide) h)

/-- A character of joined words is one of a word or of the separator. -/
theorem mem_intercalate {separator : List Char} {words : List (List Char)} {c : Char}
    (h : c ∈ List.intercalate separator words) : c ∈ separator ∨ ∃ word ∈ words, c ∈ word := by
  induction words with
  | nil => simp at h
  | cons first rest ih =>
      cases rest with
      | nil =>
          rw [List.intercalate_singleton] at h
          exact .inr ⟨first, List.mem_cons_self, h⟩
      | cons second rest =>
          rw [List.intercalate_cons_cons] at h
          simp only [List.mem_append] at h
          rcases h with (here | between) | later
          · exact .inr ⟨first, List.mem_cons_self, here⟩
          · exact .inl between
          · exact (ih later).imp_right fun ⟨word, listed, member⟩ => ⟨word, List.mem_cons_of_mem _ listed, member⟩

/-- The words of a name, joined, hold no separator but that with which they are joined. -/
theorem not_mem_joined {b : Char} (h : isSeparator b = true) (s : List Char) {separator : List Char} (other : b ∉ separator) :
    b ∉ (String.ofList (List.intercalate separator (wordsOf s))).toList := by
  intro member
  rw [String.toList_ofList] at member
  rcases mem_intercalate member with between | ⟨word, listed, inWord⟩
  · exact other between
  · rw [not_isSeparator_of_mem_wordsOf listed inWord] at h
    cases h

/-- A text in snake_case is a word. -/
theorem isWord_snakeCase (s : String) : IsWord (snakeCase s) :=
  isWord_of_not_mem (not_mem_joined (by decide) s.toList (by decide)) (not_mem_joined (by decide) s.toList (by decide))

/-- A text in kebab-case is a word. -/
theorem isWord_kebabCase (s : String) : IsWord (kebabCase s) :=
  isWord_of_not_mem (not_mem_joined (by decide) s.toList (by decide)) (not_mem_joined (by decide) s.toList (by decide))

/-! ## Letters in other cases -/

/-- What a table of expansions leads to is in the table. -/
theorem exists_of_lookupExpansion {table : List (Nat × List Nat)} {n : Nat} {image : List Nat}
    (h : lookupExpansion table n = some image) : ∃ entry ∈ table, entry.2 = image := by
  induction table with
  | nil => cases h
  | cons entry rest ih =>
      unfold lookupExpansion at h
      split at h
      · exact ⟨entry, List.mem_cons_self, Option.some.inj h⟩
      · obtain ⟨found, listed, same⟩ := ih h
        exact ⟨found, List.mem_cons_of_mem _ listed, same⟩

/-- What a run gives lies as many steps behind its target as the code point behind its beginning. -/
theorem exists_of_lookupRun {table : List (Nat × Nat × Nat × Nat)} {n image : Nat} (h : lookupRun table n = some image) :
    ∃ run ∈ table, run.1 ≤ n ∧ n ≤ run.2.1 ∧ (n - run.1) % run.2.2.1 = 0 ∧ image = run.2.2.2 + (n - run.1) := by
  induction table with
  | nil => cases h
  | cons run rest ih =>
      unfold lookupRun at h
      split at h
      · cases h
      · next reached =>
          split at h
          · next inRun =>
              cases h
              exact ⟨run, List.mem_cons_self, Nat.le_of_not_lt reached, inRun.1, inRun.2, rfl⟩
          · obtain ⟨found, listed, within⟩ := ih h
            exact ⟨found, List.mem_cons_of_mem _ listed, within⟩

/-- The number of the character with a valid number is that number. -/
theorem toNat_ofNat {n : Nat} (valid : n.isValidChar) : (Char.ofNat n).toNat = n := by
  have made : Char.ofNat n = Char.ofNatAux n valid := dif_pos valid
  rw [made]
  rfl

/-- The runs of a table lead to code points of letters. -/
def HasLetterRuns (table : List (Nat × Nat × Nat × Nat)) : Prop :=
  ∀ run ∈ table, 64 < run.2.2.2 ∧
    (run.2.2.2 + (run.2.1 - run.1) < 0xd800 ∨ 0xdfff < run.2.2.2 ∧ run.2.2.2 + (run.2.1 - run.1) < 0x110000)

/-- The expansions of a table are of letters. -/
def HasLetterExpansions (table : List (Nat × List Nat)) : Prop :=
  ∀ entry ∈ table, ∀ n ∈ entry.2, 64 < n ∧ n < 0xd800

/-- All tables of cases lead to letters. They are evaluated together, as each evaluation waits for the proofs before it. -/
theorem hasLetters : (HasLetterRuns upperRuns ∧ HasLetterRuns lowerRuns) ∧
    HasLetterExpansions upperExpansions ∧ HasLetterExpansions titleExceptions := by
  unfold HasLetterRuns HasLetterExpansions
  decide +kernel

/-- The ranges of letters with a capital lead to letters. -/
theorem hasLetterRuns_upperRuns : HasLetterRuns upperRuns := hasLetters.1.1

/-- So do those of letters with a small form. -/
theorem hasLetterRuns_lowerRuns : HasLetterRuns lowerRuns := hasLetters.1.2

/-- So do the capitals that are several letters. -/
theorem hasLetterExpansions_upperExpansions : HasLetterExpansions upperExpansions := hasLetters.2.1

/-- So do the exceptions at the beginning of a word. -/
theorem hasLetterExpansions_titleExceptions : HasLetterExpansions titleExceptions := hasLetters.2.2

/-- A run of letters gives the code point of a letter. -/
theorem HasLetterRuns.toNat_of_lookupRun {table : List (Nat × Nat × Nat × Nat)} (h : HasLetterRuns table) {n image : Nat}
    (found : lookupRun table n = some image) : (Char.ofNat image).toNat = image ∧ 64 < image := by
  obtain ⟨run, listed, first, last, -, rfl⟩ := exists_of_lookupRun found
  obtain ⟨high, valid⟩ := h run listed
  refine ⟨toNat_ofNat ?_, by omega⟩
  rcases valid with low | ⟨above, below⟩
  · exact .inl (by omega)
  · exact .inr ⟨by omega, by omega⟩

/-- What stands in runs of letters for a character is the character itself or a letter. -/
theorem HasLetterRuns.eq_or_lt {table : List (Nat × Nat × Nat × Nat)} (h : HasLetterRuns table) (c : Char) :
    ((lookupRun table c.toNat).map Char.ofNat).getD c = c ∨
      64 < (((lookupRun table c.toNat).map Char.ofNat).getD c).toNat := by
  cases found : lookupRun table c.toNat with
  | none => exact .inl rfl
  | some image =>
      obtain ⟨code, high⟩ := h.toNat_of_lookupRun found
      refine .inr ?_
      rwa [Option.map_some, Option.getD_some, code]

/-- What a character expands to is made of letters. -/
theorem HasLetterExpansions.lt_of_mem {table : List (Nat × List Nat)} (h : HasLetterExpansions table) {n : Nat}
    {image : List Nat} (found : lookupExpansion table n = some image) {d : Char} (member : d ∈ image.map Char.ofNat) :
    64 < d.toNat := by
  obtain ⟨entry, listed, rfl⟩ := exists_of_lookupExpansion found
  obtain ⟨n, inImage, rfl⟩ := List.mem_map.1 member
  obtain ⟨high, low⟩ := h entry listed n inImage
  rwa [toNat_ofNat (.inl low)]

/-- Upper case leaves a character as it is, or makes a letter of it. -/
theorem eq_or_lt_of_mem_upperChar {c d : Char} (member : d ∈ upperChar c) : d = c ∨ 64 < d.toNat := by
  unfold upperChar at member
  split at member
  · next ascii =>
      rw [List.mem_singleton.1 member]
      exact forall_ascii (p := fun c => c.toUpper = c ∨ 64 < c.toUpper.toNat) (by decide) ascii
  · split at member
    · next image found => exact .inr (hasLetterExpansions_upperExpansions.lt_of_mem found member)
    · rw [List.mem_singleton.1 member]
      exact hasLetterRuns_upperRuns.eq_or_lt c

/-- So does title case. -/
theorem eq_or_lt_of_mem_titleChar {c d : Char} (member : d ∈ titleChar c) : d = c ∨ 64 < d.toNat := by
  unfold titleChar at member
  split at member
  · next ascii =>
      rw [List.mem_singleton.1 member]
      exact forall_ascii (p := fun c => c.toUpper = c ∨ 64 < c.toUpper.toNat) (by decide) ascii
  · split at member
    · next image found => exact .inr (hasLetterExpansions_titleExceptions.lt_of_mem found member)
    · exact eq_or_lt_of_mem_upperChar member

/-- And lower case does. -/
theorem eq_or_lt_of_mem_lowerChar {c d : Char} (member : d ∈ lowerChar c) : d = c ∨ 64 < d.toNat := by
  unfold lowerChar at member
  split at member
  · have letters : ∀ d ∈ ['i', Char.ofNat 0x307], 64 < d.toNat := by simp
    exact .inr (letters d member)
  · next notDotted =>
      rw [List.mem_singleton.1 member, lowerSimple, if_neg notDotted]
      split
      · next ascii => exact forall_ascii (p := fun c => c.toLower = c ∨ 64 < c.toLower.toNat) (by decide) ascii
      · exact hasLetterRuns_lowerRuns.eq_or_lt c

/-- The characters of a text in lower case are its own or letters. -/
theorem mem_or_lt_of_mem_lowerFrom {inWord : Bool} {s : List Char} {d : Char} (member : d ∈ lowerFrom inWord s) :
    d ∈ s ∨ 64 < d.toNat := by
  induction s generalizing inWord with
  | nil => cases member
  | cons c rest ih =>
      rw [lowerFrom] at member
      rcases List.mem_append.1 member with first | others
      · split at first
        · rw [List.mem_singleton.1 first]
          split
          · exact .inr (by decide)
          · exact .inr (by decide)
        · rcases eq_or_lt_of_mem_lowerChar first with rfl | letter
          · exact .inl List.mem_cons_self
          · exact .inr letter
      · exact (ih others).imp_left (List.mem_cons_of_mem _)

/-- The characters of the words of a name are those of the name or letters. -/
theorem mem_or_lt_of_mem_wordsOf {s word : List Char} (listed : word ∈ wordsOf s) {d : Char} (member : d ∈ word) :
    d ∈ s ∨ 64 < d.toNat := by
  have underscore : 64 < '_'.toNat := by decide
  obtain ⟨-, lowered⟩ := mem_runsOf listed member
  rcases mem_or_lt_of_mem_lowerFrom lowered with marked | letter
  · exact forall_mem_marked (p := fun d => d ∈ s ∨ 64 < d.toNat) (.inr underscore) (fun d => .inl) d marked
  · exact .inr letter

/-- A character of a word with a capital is one of the word or a letter. -/
theorem mem_or_lt_of_mem_capitalizeChars {word : List Char} {d : Char} (member : d ∈ capitalizeChars word) :
    d ∈ word ∨ 64 < d.toNat := by
  cases word with
  | nil => cases member
  | cons c rest =>
      rcases List.mem_append.1 member with first | others
      · rcases eq_or_lt_of_mem_titleChar first with rfl | letter
        · exact .inl List.mem_cons_self
        · exact .inr letter
      · exact (mem_or_lt_of_mem_lowerFrom others).imp_left (List.mem_cons_of_mem _)

/-- The camelCase form of a name holds no mark that the name does not hold. -/
theorem IsMark.not_mem_camelCase {b : Char} (h : IsMark b) {s : String} (absent : b ∉ s.toList) :
    b ∉ (camelCase s).toList := by
  have outside {word : List Char} (listed : word ∈ wordsOf s.toList) : b ∉ word := by
    intro member
    rcases mem_or_lt_of_mem_wordsOf listed member with inName | letter
    · exact absent inName
    · exact Nat.not_lt_of_le h.low letter
  rw [camelCase, String.toList_ofList]
  cases words : wordsOf s.toList with
  | nil => exact List.not_mem_nil
  | cons word rest =>
      rw [words] at outside
      rw [joinCamel, List.mem_append, not_or]
      refine ⟨outside List.mem_cons_self, fun others => ?_⟩
      obtain ⟨w, listed, capitalized⟩ := List.mem_flatMap.1 others
      rcases mem_or_lt_of_mem_capitalizeChars capitalized with inWord | letter
      · exact outside (List.mem_cons_of_mem _ listed) inWord
      · exact Nat.not_lt_of_le h.low letter

/-- Upper case makes no mark of another character. -/
theorem IsMark.not_mem_upperChar {b c : Char} (h : IsMark b) (other : b ≠ c) : b ∉ upperChar c := by
  intro member
  rcases eq_or_lt_of_mem_upperChar member with same | high
  · exact other same
  · exact Nat.not_lt_of_le h.low high

/-- A mark that is not in a text is not in it when its first letter is raised. -/
theorem IsMark.not_mem_raiseFirst {b : Char} (h : IsMark b) {s : String} (absent : b ∉ s.toList) :
    b ∉ (raiseFirst s).toList := by
  intro member
  rw [raiseFirst, String.toList_ofList, List.mem_append] at member
  rcases member with first | others
  · obtain ⟨c, taken, raised⟩ := List.mem_flatMap.1 first
    exact h.not_mem_upperChar (fun same => absent (same ▸ List.mem_of_mem_take taken)) raised
  · exact absent (List.mem_of_mem_drop others)

end Text

/-! ## Names of an entity -/

/-- What the check of a field name establishes. -/
theorem checkFieldName_eq_ok {e : Entity} {f : Field} (h : checkFieldName e f = .ok ()) :
    ∃ s, f.name = .text s ∧ Text.isIdentifier s = true ∧ (e.fields.filter fun g => g.name.isText s).length ≤ 1 := by
  unfold checkFieldName at h
  split at h
  · next s text =>
      split at h
      · cases h
      · next usable =>
          split at h
          · cases h
          · split at h
            · cases h
            · next once =>
                refine ⟨s, text, ?_, Nat.le_of_not_lt once⟩
                rw [Bool.or_eq_true, not_or] at usable
                simpa using usable.1
  · cases h
  · cases h

/-- The name of an enumeration holds no mark that the names of its entity and its field do not hold. -/
theorem Text.IsMark.not_mem_enumName {b : Char} (h : IsMark b) {e : Entity} {f : Field} {s name : String}
    {enumeration : Value} (entity : e.name = .text s) (hs : b ∉ s.toList) (field : f.name = .text name)
    (hname : b ∉ name.toList) (made : enumName e f = .ok enumeration) : b ∉ enumeration.display.toList := by
  unfold enumName at made
  simp only at made
  split at made
  · split at made
    · next usable =>
        cases made
        exact h.not_mem_identifier usable
    · cases made
  · rw [defaultEnumName, field] at made
    cases made
    have enum : b ∉ "Enum".toList := h.not_mem_identifier (by decide)
    rw [Value.display_text, entity, Value.display_text, String.toList_append, String.toList_append]
    simp only [List.mem_append, not_or]
    exact ⟨⟨enum, hs⟩, h.not_mem_raiseFirst hname⟩

/-- The name of an enumeration of an entity with a name of one word. -/
theorem isWord_enumName {e : Entity} {f : Field} {s name : String} {enumeration : Value} (entity : e.name = .text s)
    (hs : IsWord s) (field : f.name = .text name) (hname : IsWord name) (h : enumName e f = .ok enumeration) :
    IsWord enumeration.display :=
  Text.isWord_of_not_mem (Text.IsMark.not_mem_enumName (by decide) entity hs.noBlank field hname.noBlank h)
    (Text.IsMark.not_mem_enumName (by decide) entity hs.noFeed field hname.noFeed h)

/-- The identifier of an entity is a word. -/
theorem isWord_identifier {s : String} (h : checkEntityName (.text s) = .ok ()) :
    IsWord (ResourceNaming.derive s).entityName :=
  isWord_of_forall (fun _ member => isAlphanum_of_mem_identifier h member) rfl rfl

/-- The segment of an accepted name in URLs is of letters, digits and hyphens. -/
theorem isSegmentChar_of_mem_resource {s : String} (h : checkEntityName (.text s) = .ok ()) :
    ∀ c ∈ (ResourceNaming.derive s).resource.toList, Text.isSegmentChar c = true := by
  refine Text.isSegmentChar_of_mem_pluralize fun c member => ?_
  rw [Text.kebabCase, String.toList_ofList] at member
  rcases Text.mem_intercalate member with hyphen | ⟨word, listed, inWord⟩
  · rw [List.mem_singleton.1 hyphen]
    rfl
  · have letters : ∀ d ∈ (ResourceNaming.derive s).entityName.toList, Text.isNameChar d = true :=
      fun d inName => Text.isNameChar_of_isAlphanum (isAlphanum_of_mem_identifier h inName)
    rw [Text.isSegmentChar, Text.isAlphanum_of_mem_wordsOf letters listed inWord, Bool.true_or]

/-- So is the segment of its resource. -/
theorem isWord_resource {s : String} (h : checkEntityName (.text s) = .ok ()) : IsWord (ResourceNaming.derive s).resource :=
  isWord_of_forall (isSegmentChar_of_mem_resource h) rfl rfl

/-! ## Constants -/

/-- The characters of names of constants. -/
def isConstantChar (c : Char) : Bool :=
  c.isUpper || c.isDigit || c == '_'

/-- The capital of a letter or digit, and an underscore, can be in a constant. -/
theorem isConstantChar_toUpper {c : Char} (h : c.isAlphanum = true ∨ c = '_') : isConstantChar c.toUpper = true := by
  rcases h with alphanum | rfl
  · exact Text.forall_ascii (p := fun c => c.isAlphanum = true → isConstantChar c.toUpper = true) (by decide)
      (Text.isAscii_of_isAlphanum alphanum) alphanum
  · decide

/-- So can those of a text. -/
theorem isConstantChar_of_mem_upperChars {s : List Char} (h : ∀ c ∈ s, c.isAlphanum = true ∨ c = '_') :
    ∀ c ∈ Text.upperChars s, isConstantChar c = true := by
  have ascii : ∀ c ∈ s, Text.isAscii c = true := by
    intro c member
    rcases h c member with alphanum | rfl
    · exact Text.isAscii_of_isAlphanum alphanum
    · decide
  intro c member
  obtain ⟨d, inText, rfl⟩ := Text.mem_upperChars ascii member
  exact isConstantChar_toUpper (h d inText)

/-- Joined words of letters and digits. -/
theorem isAlphanum_or_underscore {words : List (List Char)} (h : ∀ word ∈ words, ∀ c ∈ word, c.isAlphanum = true ∨ c = '_')
    {c : Char} (member : c ∈ List.intercalate ['_'] words) : c.isAlphanum = true ∨ c = '_' := by
  rcases Text.mem_intercalate member with between | ⟨word, listed, inWord⟩
  · exact .inr (List.mem_singleton.1 between)
  · exact h word listed c inWord

/-- A label becomes a name of capital letters, digits and underscores. -/
theorem isConstantChar_of_mem_constantName (label : String) : ∀ c ∈ (Text.constantName label).toList, isConstantChar c = true := by
  let parts := (Text.runsOf Char.isAlphanum label.toList).map fun run => List.intercalate ['_'] (Text.wordsOf run)
  have inParts : ∀ part ∈ parts, ∀ c ∈ part, c.isAlphanum = true ∨ c = '_' := by
    intro part listed c member
    obtain ⟨run, inLabel, rfl⟩ := List.mem_map.1 listed
    refine isAlphanum_or_underscore (fun word inRun c inWord => .inl ?_) member
    exact Text.isAlphanum_of_mem_wordsOf (fun d inRun => Text.isNameChar_of_isAlphanum (Text.mem_runsOf inLabel inRun).1) inRun
      inWord
  have upper := isConstantChar_of_mem_upperChars fun c => isAlphanum_or_underscore inParts
  intro c member
  unfold Text.constantName at member
  simp only at member
  split at member
  · exact List.all_eq_true.1 (by decide : "VALUE".toList.all isConstantChar = true) c member
  · next first rest same =>
      have listed : ∀ c ∈ first :: rest, isConstantChar c = true := same ▸ upper
      rw [String.toList_ofList] at member
      split at member
      · rcases List.mem_cons.1 member with rfl | others
        · rfl
        · exact listed c others
      · exact listed c member

/-- The name of a constant is not empty. -/
theorem constantName_ne_empty (label : String) : Text.constantName label ≠ "" := by
  intro empty
  have chars := congrArg String.toList empty
  unfold Text.constantName at chars
  simp only at chars
  split at chars
  · exact absurd chars (by decide)
  · rw [String.toList_ofList] at chars
    split at chars <;> cases chars

end ResourceScaffold
