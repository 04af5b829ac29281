import ResourceScaffold.Naming
import ResourceScaffold.Schema.Names
import ResourceScaffold.Proofs.Prepared

/-!
# The characters of names

An accepted entity name is made of ASCII letters, digits and underscores, up to a line feed at its end
(`isNameChar_of_checkEntityName`), and its camelCase form of letters and digits alone (`isAlphanum_of_mem_camelCase`): the
passes that mark the words of a name only add underscores, and cutting it into words removes them. The words themselves
hold no separator, whatever the name is (`not_isSeparator_of_mem_wordsOf`).
-/

namespace ResourceScaffold.Text

/-! ## ASCII -/

/-- What holds of the first 128 code points holds of every ASCII character. -/
theorem forall_ascii {p : Char → Prop} (h : ∀ n < 128, p (Char.ofNat n)) {c : Char} (ascii : isAscii c = true) : p c := by
  have known := h c.toNat (of_decide_eq_true ascii)
  rwa [Char.ofNat_toNat] at known

/-- A letter or digit is in ASCII. -/
theorem isAscii_of_isAlphanum {c : Char} (h : c.isAlphanum = true) : isAscii c = true := by
  have ranges : (decide ('A'.val ≤ c.val ∧ c.val ≤ 'Z'.val) || (decide ('a'.val ≤ c.val) && decide (c.val ≤ 'z'.val)) ||
      (decide ('0'.val ≤ c.val) && decide (c.val ≤ '9'.val))) = true := h
  simp only [Bool.or_eq_true, Bool.and_eq_true, decide_eq_true_eq, UInt32.le_iff_toNat_le] at ranges
  have code : c.toNat = c.val.toNat := rfl
  have upper : 'Z'.val.toNat = 90 := rfl
  have lower : 'z'.val.toNat = 122 := rfl
  have digit : '9'.val.toNat = 57 := rfl
  refine decide_eq_true ?_
  omega

/-- A letter is a letter or digit. -/
theorem isAlphanum_of_isAlpha {c : Char} (h : c.isAlpha = true) : c.isAlphanum = true := by
  rw [Char.isAlphanum, h, Bool.true_or]

/-- Letters, digits, the underscore and the line feed. -/
def isNameChar (c : Char) : Bool :=
  c.isAlphanum || c == '_' || c == '\n'

/-- A character of a name is in ASCII. -/
theorem isAscii_of_isNameChar {c : Char} (h : isNameChar c = true) : isAscii c = true := by
  simp only [isNameChar, Bool.or_eq_true, beq_iff_eq] at h
  rcases h with (alphanum | rfl) | rfl
  · exact isAscii_of_isAlphanum alphanum
  · decide
  · decide

/-- A letter or digit can be in a name. -/
theorem isNameChar_of_isAlphanum {c : Char} (h : c.isAlphanum = true) : isNameChar c = true := by
  rw [isNameChar, h, Bool.true_or, Bool.true_or]

/-- The small form of a character of a name can be in one. -/
theorem isNameChar_toLower {c : Char} (h : isNameChar c = true) : isNameChar c.toLower = true :=
  forall_ascii (p := fun c => isNameChar c = true → isNameChar c.toLower = true) (by decide) (isAscii_of_isNameChar h) h

/-- The small form of a letter or digit is one. -/
theorem isAlphanum_toLower {c : Char} (h : c.isAlphanum = true) : c.toLower.isAlphanum = true :=
  forall_ascii (p := fun c => c.isAlphanum = true → c.toLower.isAlphanum = true) (by decide) (isAscii_of_isAlphanum h) h

/-- So is its capital. -/
theorem isAlphanum_toUpper {c : Char} (h : c.isAlphanum = true) : c.toUpper.isAlphanum = true :=
  forall_ascii (p := fun c => c.isAlphanum = true → c.toUpper.isAlphanum = true) (by decide) (isAscii_of_isAlphanum h) h

/-- A letter or digit separates nothing. -/
theorem isSeparator_of_isAlphanum {c : Char} (h : c.isAlphanum = true) : isSeparator c = false :=
  forall_ascii (p := fun c => c.isAlphanum = true → isSeparator c = false) (by decide) (isAscii_of_isAlphanum h) h

/-- A name character that does not separate words is a letter or digit. -/
theorem isAlphanum_of_isNameChar {c : Char} (h : isNameChar c = true) (inWord : isSeparator c = false) :
    c.isAlphanum = true :=
  forall_ascii (p := fun c => isNameChar c = true → isSeparator c = false → c.isAlphanum = true) (by decide)
    (isAscii_of_isNameChar h) h inWord

/-! ## Words -/

/-- The first pass adds underscores only. -/
theorem mem_markCapitalized {skipping : Bool} {s : List Char} {c : Char} (h : c ∈ markCapitalized skipping s) :
    c = '_' ∨ c ∈ s := by
  fun_induction markCapitalized skipping s with
  | case1 skipping a u l rest passed ih =>
      rcases List.mem_cons.1 h with rfl | later
      · exact .inr List.mem_cons_self
      · exact (ih later).imp_right (List.mem_cons_of_mem _)
  | case2 skipping a u l rest passed boundary ih =>
      simp only [List.mem_cons] at h ⊢
      rcases h with rfl | rfl | rfl | rfl | later
      · exact .inr (.inl rfl)
      · exact .inl rfl
      · exact .inr (.inr (.inl rfl))
      · exact .inr (.inr (.inr (.inl rfl)))
      · exact (ih later).imp_right fun member => .inr (.inr (.inr member))
  | case3 skipping a u l rest passed boundary ih =>
      rcases List.mem_cons.1 h with rfl | later
      · exact .inr List.mem_cons_self
      · exact (ih later).imp_right (List.mem_cons_of_mem _)
  | case4 => exact .inr h

/-- So does the second one. -/
theorem mem_markHumps {s : List Char} {c : Char} (h : c ∈ markHumps s) : c = '_' ∨ c ∈ s := by
  fun_induction markHumps s with
  | case1 a b rest boundary ih =>
      simp only [List.mem_cons] at h ih ⊢
      rcases h with rfl | rfl | later
      · exact .inr (.inl rfl)
      · exact .inl rfl
      · exact (ih later).imp_right .inr
  | case2 a b rest boundary ih =>
      rcases List.mem_cons.1 h with rfl | later
      · exact .inr List.mem_cons_self
      · exact (ih later).imp_right (List.mem_cons_of_mem _)
  | case3 => exact .inr h

/-- Lower case maps an ASCII text character by character. -/
theorem lowerFrom_eq_map {inWord : Bool} {s : List Char} (ascii : ∀ c ∈ s, isAscii c = true) :
    lowerFrom inWord s = s.map Char.toLower := by
  induction s generalizing inWord with
  | nil => rfl
  | cons c rest ih =>
      rw [List.forall_mem_cons] at ascii
      have notSigma : c ≠ 'Σ' := by
        rintro rfl
        cases ascii.1
      have notDotted : c ≠ 'İ' := by
        rintro rfl
        cases ascii.1
      rw [lowerFrom, if_neg notSigma, lowerChar, if_neg notDotted, lowerSimple, if_pos ascii.1, ih ascii.2, List.map_cons,
        List.singleton_append]

/-- A text in ASCII is put into small letters one by one. -/
theorem mem_lowerFrom {inWord : Bool} {s : List Char} {c : Char} (ascii : ∀ d ∈ s, isAscii d = true)
    (h : c ∈ lowerFrom inWord s) : ∃ d ∈ s, c = d.toLower := by
  rw [lowerFrom_eq_map ascii] at h
  obtain ⟨d, member, rfl⟩ := List.mem_map.1 h
  exact ⟨d, member, rfl⟩

/-- A text that begins with a character of a run has a run that begins with it. What follows the character in its run is
the first run of the rest, or there is nothing; the other runs are those of the rest. -/
theorem exists_runsOf {p : Char → Bool} {c : Char} (holds : p c = true) (rest : List Char) :
    ∃ run runs, runsOf p (c :: rest) = (c :: run) :: runs ∧
      (run = [] ∧ runsOf p rest = runs ∨ runsOf p rest = run :: runs) := by
  generalize later : runsOf p rest = others
  unfold runsOf
  rw [if_pos holds, later]
  split
  · next d _ run runs =>
      split
      · exact ⟨run, runs, rfl, .inr rfl⟩
      · exact ⟨[], run :: runs, rfl, .inl ⟨rfl, rfl⟩⟩
  · exact ⟨[], others, rfl, .inl ⟨rfl, rfl⟩⟩

/-- A character outside runs is left out. -/
theorem runsOf_cons_of_neg {p : Char → Bool} {c : Char} (outside : p c = false) (rest : List Char) :
    runsOf p (c :: rest) = runsOf p rest := by
  simp [runsOf, outside]

/-- A run consists of characters of the text with the property. -/
theorem mem_runsOf {p : Char → Bool} {s run : List Char} (h : run ∈ runsOf p s) {c : Char} (member : c ∈ run) :
    p c = true ∧ c ∈ s := by
  induction s generalizing run with
  | nil => cases h
  | cons d rest ih =>
      have later {run : List Char} (h : run ∈ runsOf p rest) (member : c ∈ run) : p c = true ∧ c ∈ d :: rest :=
        ⟨(ih h member).1, List.mem_cons_of_mem _ (ih h member).2⟩
      by_cases holds : p d = true
      · obtain ⟨first, runs, runsEq, parts⟩ := exists_runsOf holds rest
        rw [runsEq, List.mem_cons] at h
        rcases h with rfl | other
        · rcases List.mem_cons.1 member with rfl | inFirst
          · exact ⟨holds, List.mem_cons_self⟩
          · rcases parts with ⟨rfl, -⟩ | continued
            · cases inFirst
            · exact later (continued ▸ List.mem_cons_self) inFirst
        · rcases parts with ⟨-, others⟩ | continued
          · exact later (others ▸ other) member
          · exact later (continued ▸ List.mem_cons_of_mem _ other) member
      · rw [runsOf_cons_of_neg (eq_false_of_ne_true holds)] at h
        exact later h member

/-- Runs are not empty. -/
theorem ne_nil_of_mem_runsOf {p : Char → Bool} {s run : List Char} (h : run ∈ runsOf p s) : run ≠ [] := by
  induction s generalizing run with
  | nil => cases h
  | cons c rest ih =>
      by_cases holds : p c = true
      · obtain ⟨first, runs, runsEq, parts⟩ := exists_runsOf holds rest
        rw [runsEq, List.mem_cons] at h
        rcases h with rfl | other
        · exact List.cons_ne_nil _ _
        · rcases parts with ⟨-, others⟩ | continued
          · exact ih (others ▸ other)
          · exact ih (continued ▸ List.mem_cons_of_mem _ other)
      · rw [runsOf_cons_of_neg (eq_false_of_ne_true holds)] at h
        exact ih h

/-- A word holds no separator. -/
theorem not_isSeparator_of_mem_wordsOf {s word : List Char} (h : word ∈ wordsOf s) {c : Char} (member : c ∈ word) :
    isSeparator c = false := by
  simpa using (mem_runsOf h member).1

/-- What holds of the characters of a text and of the underscore holds of the text with its marks. -/
theorem forall_mem_marked {p : Char → Prop} {s : List Char} (mark : p '_') (h : ∀ c ∈ s, p c) :
    ∀ c ∈ markHumps (markCapitalized false s), p c := by
  intro c member
  rcases mem_markHumps member with rfl | member
  · exact mark
  · rcases mem_markCapitalized member with rfl | member
    · exact mark
    · exact h c member

/-- The words of a name of letters, digits and underscores are of letters and digits. -/
theorem isAlphanum_of_mem_wordsOf {s word : List Char} (name : ∀ c ∈ s, isNameChar c = true) (h : word ∈ wordsOf s)
    {c : Char} (member : c ∈ word) : c.isAlphanum = true := by
  have marked := forall_mem_marked (by decide) name
  obtain ⟨-, lowered⟩ := mem_runsOf h member
  obtain ⟨d, hd, rfl⟩ := mem_lowerFrom (fun d hd => isAscii_of_isNameChar (marked d hd)) lowered
  exact isAlphanum_of_isNameChar (isNameChar_toLower (marked d hd)) (not_isSeparator_of_mem_wordsOf h member)

/-- A word of letters and digits keeps to them when it is capitalised. -/
theorem isAlphanum_of_mem_capitalizeChars {word : List Char} (h : ∀ c ∈ word, c.isAlphanum = true) {c : Char}
    (member : c ∈ capitalizeChars word) : c.isAlphanum = true := by
  cases word with
  | nil => cases member
  | cons first rest =>
      have alphanum := h first List.mem_cons_self
      rw [capitalizeChars, titleChar, if_pos (isAscii_of_isAlphanum alphanum)] at member
      rcases List.mem_append.1 member with here | later
      · rw [List.mem_singleton.1 here]
        exact isAlphanum_toUpper alphanum
      · obtain ⟨d, hd, rfl⟩ :=
          mem_lowerFrom (fun d hd => isAscii_of_isAlphanum (h d (List.mem_cons_of_mem _ hd))) later
        exact isAlphanum_toLower (h d (List.mem_cons_of_mem _ hd))

/-- The camelCase form of a name of letters, digits and underscores is of letters and digits. -/
theorem isAlphanum_of_mem_camelCase {s : String} (name : ∀ c ∈ s.toList, isNameChar c = true) {c : Char}
    (h : c ∈ (camelCase s).toList) : c.isAlphanum = true := by
  rw [camelCase, String.toList_ofList] at h
  cases words : wordsOf s.toList with
  | nil =>
      rw [words] at h
      cases h
  | cons word rest =>
      have each : ∀ w ∈ word :: rest, ∀ c ∈ w, c.isAlphanum = true := fun w hw c hc =>
        isAlphanum_of_mem_wordsOf name (words ▸ hw) hc
      rw [words, joinCamel] at h
      rcases List.mem_append.1 h with first | others
      · exact each word List.mem_cons_self c first
      · obtain ⟨w, hw, hc⟩ := List.mem_flatMap.1 others
        exact isAlphanum_of_mem_capitalizeChars (each w (List.mem_cons_of_mem _ hw)) hc

end ResourceScaffold.Text

namespace ResourceScaffold

/-! ## Accepted entity names -/

/-- The characters of an entity name can be in names. -/
theorem isNameChar_of_isEntityWord {s : List Char} (h : isEntityWord s = true) : ∀ c ∈ s, Text.isNameChar c = true := by
  cases s with
  | nil => cases h
  | cons first rest =>
      simp only [isEntityWord, Bool.and_eq_true, List.all_eq_true] at h
      obtain ⟨alpha, tail⟩ := h
      have word {d : Char} (h : (d.isAlphanum || d == '_') = true) : Text.isNameChar d = true := by
        rw [Text.isNameChar, h, Bool.true_or]
      intro c member
      rcases List.mem_cons.1 member with rfl | later
      · simp [Text.isNameChar, Char.isAlphanum, alpha]
      · split at tail
        · next last =>
            rw [← List.dropLast_append_getLast? '\n' last] at later
            rcases List.mem_append.1 later with inner | final
            · exact word (tail c inner)
            · rw [List.mem_singleton.1 final]
              decide
        · exact word (tail c later)

/-- The checks that an accepted name has passed. -/
theorem isEntityWord_of_checkEntityName {s : String} (h : checkEntityName (.text s) = .ok ()) :
    isEntityWord s.toList = true := by
  unfold checkEntityName at h
  split at h
  · cases h
  · rw [Value.asShownText_text, ok_bind] at h
    split at h
    · cases h
    · next word => simpa using word

/-- The identifier of an accepted name is of letters and digits. -/
theorem isAlphanum_of_mem_identifier {s : String} (h : checkEntityName (.text s) = .ok ()) {c : Char}
    (member : c ∈ (ResourceNaming.derive s).entityName.toList) : c.isAlphanum = true :=
  Text.isAlphanum_of_mem_camelCase (isNameChar_of_isEntityWord (isEntityWord_of_checkEntityName h)) member

end ResourceScaffold
