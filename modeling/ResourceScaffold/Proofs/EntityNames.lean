import ResourceScaffold.Proofs.Names

/-!
# The entity names that are accepted

A usable entity name is an ASCII letter followed by ASCII letters, digits and underscores, is no keyword, has no keyword as
its camelCase form and is not reserved (`IsUsableName`). The pattern of the check matches at the end of a text and also
before a line feed that ends it, so the check takes one more kind of text (`checkEntityName_text_iff`):

- a usable name is accepted;
- a name of the grammar followed by a line feed is accepted when its camelCase form is no keyword; the name before the line
  feed itself may be a keyword or reserved, since the tables hold no text that ends in a line feed;
- every other text is refused, by a fault that names the text; so is each text that has a surrogate.

The line feed leaves no trace in the identifier: it separates words, and no word follows it
(`camelCase_append_lineFeed`).
-/

namespace ResourceScaffold.Text

/-! ## A line feed at the end of a name -/

/-- A line feed at the end takes part in no boundary before a capital. -/
theorem markCapitalized_append_lineFeed (skipping : Bool) (s : List Char) :
    markCapitalized skipping (s ++ ['\n']) = markCapitalized skipping s ++ ['\n'] := by
  fun_induction markCapitalized skipping s with
  | case1 skipping a u l rest passed ih =>
      simp only [List.cons_append] at ih ⊢
      rw [markCapitalized, if_pos passed, ih]
  | case2 skipping a u l rest passed boundary ih =>
      simp only [List.cons_append]
      rw [markCapitalized, if_neg passed, if_pos boundary, ih]
  | case3 skipping a u l rest passed boundary ih =>
      simp only [List.cons_append] at ih ⊢
      rw [markCapitalized, if_neg passed, if_neg boundary, ih]
  | case4 skipping s short =>
      -- with two characters before it the line feed stands where a small letter would end the boundary
      match s, short with
      | [], _ => rfl
      | [a], _ => rfl
      | [a, u], _ =>
          have noLetter : ('\n').isLower = false := by decide
          simp [markCapitalized, noLetter]
      | a :: u :: l :: rest, short => exact absurd rfl (short a u l rest)

/-- A line feed at the end is no capital after a small letter. -/
theorem markHumps_append_lineFeed (s : List Char) : markHumps (s ++ ['\n']) = markHumps s ++ ['\n'] := by
  fun_induction markHumps s with
  | case1 a b rest boundary ih =>
      simp only [List.cons_append] at ih ⊢
      rw [markHumps, if_pos boundary, ih]
  | case2 a b rest boundary ih =>
      simp only [List.cons_append] at ih ⊢
      rw [markHumps, if_neg boundary, ih]
  | case3 s short =>
      match s, short with
      | [], _ => rfl
      | [a], _ =>
          have noCapital : ('\n').isUpper = false := by decide
          simp [markHumps, noCapital]
      | a :: b :: rest, short => exact absurd rfl (short a b rest)

/-- A line feed is no letter that would keep a sigma from being final. -/
theorem casedFollows_append_lineFeed (s : List Char) : casedFollows (s ++ ['\n']) = casedFollows s := by
  induction s with
  | nil => decide
  | cons c rest ih => rw [List.cons_append, casedFollows, casedFollows, ih]

/-- A line feed at the end is left alone. -/
theorem lowerFrom_append_lineFeed (inWord : Bool) (s : List Char) :
    lowerFrom inWord (s ++ ['\n']) = lowerFrom inWord s ++ ['\n'] := by
  induction s generalizing inWord with
  | nil => rfl
  | cons c rest ih =>
      rw [List.cons_append, lowerFrom, lowerFrom, ih, casedFollows_append_lineFeed, List.append_assoc]

/-- A character without the property at the end of a text is in no run. -/
theorem runsOf_append_singleton {p : Char → Bool} {c : Char} (outside : p c = false) (s : List Char) :
    runsOf p (s ++ [c]) = runsOf p s := by
  induction s with
  | nil => simp [runsOf, outside]
  | cons d rest ih =>
      cases rest with
      | nil => simp [runsOf, outside]
      | cons e rest =>
          simp only [List.cons_append] at ih ⊢
          unfold runsOf
          rw [ih]
          cases runsOf p (e :: rest) <;> rfl

/-- A line feed at the end of a name adds no word. -/
theorem wordsOf_append_lineFeed (s : List Char) : wordsOf (s ++ ['\n']) = wordsOf s := by
  rw [wordsOf, wordsOf, lowerChars, lowerChars, markCapitalized_append_lineFeed, markHumps_append_lineFeed,
    lowerFrom_append_lineFeed]
  exact runsOf_append_singleton (by decide) _

/-- A line feed at the end of a name leaves its camelCase form as it is. -/
theorem camelCase_append_lineFeed (s : String) : camelCase (s ++ "\n") = camelCase s := by
  have characters : (s ++ "\n").toList = s.toList ++ ['\n'] := by
    rw [String.toList_append]
    rfl
  rw [camelCase, camelCase, characters, wordsOf_append_lineFeed]

/-- A table without line feeds holds no text that ends in one. -/
theorem append_lineFeed_not_mem {table : List String} (noFeed : ∀ entry ∈ table, '\n' ∉ entry.toList) (s : String) :
    s ++ "\n" ∉ table := fun listed => noFeed _ listed (by simp)

end ResourceScaffold.Text

namespace ResourceScaffold

open Text

/-! ## The grammar -/

/-- An ASCII letter followed by ASCII letters, digits and underscores. -/
def IsPlainName (s : List Char) : Prop :=
  ∃ first rest, s = first :: rest ∧ first.isAlpha = true ∧ ∀ c ∈ rest, c.isAlphanum = true ∨ c = '_'

/-- A name of the grammar that is no keyword, does not become one in camelCase and is not reserved. -/
structure IsUsableName (s : String) : Prop where
  plain : IsPlainName s.toList
  noKeyword : s ∉ keywords
  noKeywordIdentifier : camelCase s ∉ keywords
  notReserved : s ∉ reservedNames

/-- A plain name is not empty. -/
theorem IsPlainName.ne_nil {s : List Char} (h : IsPlainName s) : s ≠ [] := by
  obtain ⟨first, rest, rfl, -⟩ := h
  exact List.cons_ne_nil _ _

/-- A plain name is spelled with letters, digits and underscores. -/
theorem IsPlainName.letters {s : List Char} (h : IsPlainName s) : ∀ c ∈ s, c.isAlphanum = true ∨ c = '_' := by
  obtain ⟨first, rest, rfl, alpha, tail⟩ := h
  intro c member
  rcases List.mem_cons.1 member with rfl | later
  · exact .inl (isAlphanum_of_isAlpha alpha)
  · exact tail c later

/-- A plain name holds no line feed. -/
theorem IsPlainName.noFeed {s : List Char} (h : IsPlainName s) : '\n' ∉ s := by
  intro feed
  rcases h.letters _ feed with alphanum | underscore
  · cases alphanum
  · cases underscore

/-- The pattern matches a name of the grammar, or one with a line feed after it. -/
theorem isEntityWord_iff {s : List Char} :
    isEntityWord s = true ↔ IsPlainName s ∨ ∃ w, s = w ++ ['\n'] ∧ IsPlainName w := by
  constructor
  · intro h
    cases s with
    | nil => cases h
    | cons first rest =>
        simp only [isEntityWord, Bool.and_eq_true, List.all_eq_true, Bool.or_eq_true, beq_iff_eq] at h
        obtain ⟨alpha, tail⟩ := h
        by_cases last : rest.getLast? = some '\n'
        · rw [if_pos last] at tail
          refine .inr ⟨first :: rest.dropLast, ?_, first, rest.dropLast, rfl, alpha, tail⟩
          rw [List.cons_append, List.dropLast_append_getLast? '\n' last]
        · rw [if_neg last] at tail
          exact .inl ⟨first, rest, rfl, alpha, tail⟩
  · rintro (plain | ⟨w, rfl, plain⟩)
    · have noFeed := plain.noFeed
      obtain ⟨first, rest, rfl, alpha, tail⟩ := plain
      have last : rest.getLast? ≠ some '\n' := fun last =>
        noFeed (List.mem_cons_of_mem _ (List.mem_of_getLast? last))
      simp only [isEntityWord, if_neg last, alpha, Bool.true_and, List.all_eq_true, Bool.or_eq_true, beq_iff_eq]
      exact tail
    · obtain ⟨first, rest, rfl, alpha, tail⟩ := plain
      have last : (rest ++ ['\n']).getLast? = some '\n' := List.getLast?_concat
      simp only [List.cons_append, isEntityWord, if_pos last, List.dropLast_concat, alpha, Bool.true_and,
        List.all_eq_true, Bool.or_eq_true, beq_iff_eq]
      exact tail

/-! ## The check -/

/-- A text passes the check when it matches the pattern and is in none of the tables; otherwise the fault names it. -/
theorem checkEntityName_text (s : String) :
    (checkEntityName (.text s) = .ok () ↔
        isEntityWord s.toList = true ∧ s ∉ keywords ∧ camelCase s ∉ keywords ∧ s ∉ reservedNames) ∧
      (checkEntityName (.text s) = .ok () ∨ ∃ reason, checkEntityName (.text s) = .error (.ofName (.text s) reason)) := by
  by_cases truthy : (Value.text s).isTruthy = true
  swap
  · have empty : s = "" := by simpa [Value.isTruthy] using truthy
    subst empty
    exact ⟨⟨fun h => (by cases h), fun h => (by cases h.1)⟩, .inr ⟨.empty, rfl⟩⟩
  unfold checkEntityName
  simp only [truthy, Bool.not_true, Bool.false_eq_true, if_false, Value.asShownText_text, ok_bind]
  by_cases word : isEntityWord s.toList = true
  swap
  · simp [word]
  by_cases keyword : s ∈ keywords ∨ camelCase s ∈ keywords
  · have refused : (isKeyword s || isKeyword (camelCase s)) = true := by
      simpa [isKeyword] using keyword
    simp only [word, refused, Bool.not_true, Bool.false_eq_true, if_false, if_true]
    refine ⟨⟨fun h => (by cases h), fun passes => ?_⟩, .inr ⟨_, rfl⟩⟩
    exact absurd keyword (not_or.2 ⟨passes.2.1, passes.2.2.1⟩)
  · have passed : (isKeyword s || isKeyword (camelCase s)) = false := by
      simpa [isKeyword] using keyword
    by_cases reserved : s ∈ reservedNames
    · simp [word, passed, reserved]
    · simp [word, passed, reserved, not_or.1 keyword]

/-- A text of characters is accepted exactly when it is usable or is a name of the grammar, without a keyword as its camelCase
form, with a line feed after it. -/
theorem checkEntityName_eq_ok_iff (s : String) :
    checkEntityName (.text s) = .ok () ↔
      IsUsableName s ∨ ∃ w, s = w ++ "\n" ∧ IsPlainName w.toList ∧ camelCase w ∉ keywords := by
  obtain ⟨passes, -⟩ := checkEntityName_text s
  rw [passes, isEntityWord_iff]
  constructor
  · rintro ⟨plain | ⟨w, characters, plain⟩, noKeyword, noIdentifier, notReserved⟩
    · exact .inl ⟨plain, noKeyword, noIdentifier, notReserved⟩
    · have same : s = String.ofList w ++ "\n" := by
        apply String.toList_injective
        rw [characters, String.toList_append, String.toList_ofList]
        rfl
      subst same
      rw [camelCase_append_lineFeed] at noIdentifier
      exact .inr ⟨_, rfl, by rwa [String.toList_ofList], noIdentifier⟩
  · rintro (usable | ⟨w, rfl, plain, noIdentifier⟩)
    · exact ⟨.inl usable.plain, usable.noKeyword, usable.noKeywordIdentifier, usable.notReserved⟩
    · have characters : (w ++ "\n").toList = w.toList ++ ['\n'] := by
        rw [String.toList_append]
        rfl
      refine ⟨.inr ⟨w.toList, characters, plain⟩, ?_, ?_, ?_⟩
      · exact append_lineFeed_not_mem (by decide +kernel) w
      · rwa [camelCase_append_lineFeed]
      · exact append_lineFeed_not_mem (by decide +kernel) w

/-- A text is accepted as an entity name exactly when it is usable or is a name of the grammar, without a keyword as its
camelCase form, with a line feed after it; any other text, well-formed or not, is refused by a fault that names it. -/
theorem checkEntityName_text_iff (t : WideText) :
    (checkEntityName (.ofWide t) = .ok () ↔
        ∃ s : String, t = s ∧
          (IsUsableName s ∨ ∃ w, s = w ++ "\n" ∧ IsPlainName w.toList ∧ camelCase w ∉ keywords)) ∧
      (checkEntityName (.ofWide t) = .ok () ∨
        ∃ reason, checkEntityName (.ofWide t) = .error (.ofName (.ofWide t) reason)) := by
  by_cases wellFormed : t.isWellFormed = true
  · have characters : t = WideText.ofString t.shown := (WideText.ofString_shown wellFormed).symm
    rw [Value.ofWide_of_isWellFormed wellFormed]
    refine ⟨⟨fun passed => ⟨t.shown, characters, (checkEntityName_eq_ok_iff _).1 passed⟩, ?_⟩, (checkEntityName_text _).2⟩
    rintro ⟨s, rfl, usable⟩
    rw [WideText.shown_ofString]
    exact (checkEntityName_eq_ok_iff s).2 usable
  · have illFormed : t.isWellFormed = false := eq_false_of_ne_true wellFormed
    have value : Value.ofWide t = .illFormed ⟨t, illFormed⟩ := Value.ofWide_text ⟨t, illFormed⟩
    rw [value, checkEntityName_illFormed]
    refine ⟨⟨fun passed => ?_, ?_⟩, .inr ⟨_, rfl⟩⟩
    · cases passed
    · rintro ⟨s, rfl, -⟩
      simp at illFormed

-- A keyword is no usable name, but passes with a line feed.
example : checkEntityName (.text "None") = .error (.ofName (.text "None") .keyword) := by rfl
example : checkEntityName (.text "None\n") = .ok () := by rfl

end ResourceScaffold
