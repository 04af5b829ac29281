import ResourceScaffold.Proofs.WordBoundaries

/-!
# Words that are cut again

Every name in generated code is put together from the words of another name, and some are cut into words again: the segment of
an entity is made of the words of its identifier, and the name of a constant is cut twice.

* `flatten_wordsOf`: nothing is lost. The passes that mark boundaries add underscores only, and the cut drops separators only. So
  the words of an ASCII text, one after the other, are the text in lower case without its separators;
* `wordsOf_intercalate`: nothing is cut further. In words of small characters there is no capital before which a boundary could be
  marked, so they are the words of the text in which a separator joins them;
* `words_stable`: a name in snake_case or kebab-case has the words of the original name, and so the same forms in all three cases.

The camelCase form has no separators, so its words need not be those of the name (`kebabCase_identifier_iff`).
-/

namespace ResourceScaffold.Text

variable {p : Char → Bool} {s word : List Char} {words : List (List Char)} {c separator : Char}

/-! ## What is kept -/

/-- The first pass adds nothing but underscores. -/
theorem filter_markCapitalized (mark : p '_' = false) (skipping : Bool) (s : List Char) :
    (markCapitalized skipping s).filter p = s.filter p := by
  fun_induction markCapitalized skipping s with
  | case1 skipping c u l rest passed ih => rw [List.filter_cons, ih, ← List.filter_cons]
  | case2 skipping c u l rest passed boundary ih =>
      simp only [List.filter_cons, mark, ih, Bool.false_eq_true, if_false]
  | case3 skipping c u l rest passed boundary ih => rw [List.filter_cons, ih, ← List.filter_cons]
  | case4 => rfl

/-- Nor does the second pass. -/
theorem filter_markHumps (mark : p '_' = false) (s : List Char) : (markHumps s).filter p = s.filter p := by
  fun_induction markHumps s with
  | case1 a b rest boundary ih =>
      simp only [List.filter_cons, mark, ih, Bool.false_eq_true, if_false]
  | case2 a b rest boundary ih => rw [List.filter_cons, ih, ← List.filter_cons]
  | case3 => rfl

/-- The runs hold all characters with the property, in order. -/
theorem flatten_runsOf (p : Char → Bool) (s : List Char) : (runsOf p s).flatten = s.filter p := by
  induction s with
  | nil => rfl
  | cons c rest ih =>
      by_cases holds : p c = true
      · obtain ⟨run, runs, first, parts⟩ := exists_runsOf holds rest
        rw [first, List.flatten_cons, List.cons_append, List.filter_cons_of_pos holds, ← ih]
        rcases parts with ⟨rfl, others⟩ | continued
        · rw [others, List.nil_append]
        · rw [continued, List.flatten_cons]
      · rw [runsOf_cons_of_neg (eq_false_of_ne_true holds), ih, List.filter_cons_of_neg holds]

/-- The words of an ASCII text, one after the other, are the text in lower case without its separators. -/
theorem flatten_wordsOf (ascii : ∀ c ∈ s, isAscii c = true) :
    (wordsOf s).flatten = (lowerChars s).filter fun c => !isSeparator c := by
  have mark : (!isSeparator ('_' : Char).toLower) = false := by decide
  calc
    (wordsOf s).flatten = (lowerChars (markHumps (markCapitalized false s))).filter fun c => !isSeparator c :=
      flatten_runsOf _ _
    _ = ((markHumps (markCapitalized false s)).filter fun c => !isSeparator c.toLower).map Char.toLower := by
      rw [lowerChars, lowerFrom_eq_map (forall_mem_marked (by decide) ascii), List.filter_map]
      rfl
    _ = (s.filter fun c => !isSeparator c.toLower).map Char.toLower := by
      rw [filter_markHumps mark, filter_markCapitalized mark]
    _ = (lowerChars s).filter fun c => !isSeparator c := by
      rw [lowerChars, lowerFrom_eq_map ascii, List.filter_map]
      rfl

/-! ## Small words -/

/-- A word of ASCII characters, none of which is a capital or a separator. -/
structure IsSmallWord (word : List Char) : Prop where
  nonempty : word ≠ []
  ascii : ∀ c ∈ word, isAscii c = true
  small : ∀ c ∈ word, c.isUpper = false
  inside : ∀ c ∈ word, isSeparator c = false

/-- The words of an ASCII text are small. -/
theorem isSmallWord_of_mem_wordsOf (ascii : ∀ c ∈ s, isAscii c = true) (listed : word ∈ wordsOf s) : IsSmallWord word := by
  have lowered : ∀ c ∈ word, isAscii c = true ∧ c.isUpper = false := by
    intro c member
    obtain ⟨-, inText⟩ := mem_runsOf listed member
    obtain ⟨d, marked, rfl⟩ := mem_lowerFrom (forall_mem_marked (by decide) ascii) inText
    apply forall_ascii (p := fun d => isAscii d.toLower = true ∧ d.toLower.isUpper = false) (by decide)
    exact forall_mem_marked (by decide) ascii d marked
  exact ⟨ne_nil_of_mem_runsOf listed, fun c member => (lowered c member).1, fun c member => (lowered c member).2,
    fun c => not_isSeparator_of_mem_wordsOf listed⟩

/-! ## Texts without capitals -/

/-- Without a capital letter the first rewrite changes nothing. -/
theorem markCapitalized_of_small (small : ∀ c ∈ s, c.isUpper = false) (skipping : Bool) : markCapitalized skipping s = s := by
  fun_induction markCapitalized skipping s with
  | case1 skipping c u l rest passed ih =>
      rw [ih (List.forall_mem_cons.1 small).2]
  | case2 skipping c u l rest passed boundary ih =>
      have capital : u.isUpper = false := small u (by simp)
      simp [capital] at boundary
  | case3 skipping c u l rest passed boundary ih =>
      rw [ih (List.forall_mem_cons.1 small).2]
  | case4 => rfl

/-- Without a capital letter the second rewrite changes nothing. -/
theorem markHumps_of_small (small : ∀ c ∈ s, c.isUpper = false) : markHumps s = s := by
  fun_induction markHumps s with
  | case1 a b rest boundary ih =>
      have capital : b.isUpper = false := small b (by simp)
      simp [capital] at boundary
  | case2 a b rest boundary ih => rw [ih (List.forall_mem_cons.1 small).2]
  | case3 => rfl

/-- An ASCII text without capitals is cut at its separators and nowhere else. -/
theorem wordsOf_of_small (ascii : ∀ c ∈ s, isAscii c = true) (small : ∀ c ∈ s, c.isUpper = false) :
    wordsOf s = runsOf (fun c => !isSeparator c) s := by
  rw [wordsOf, markCapitalized_of_small small, markHumps_of_small small, lowerChars, lowerFrom_eq_map ascii,
    map_toLower_of_small ascii small]

/-! ## Joined words -/

/-- Runs that are joined by a character outside of runs are the runs of the joined text. -/
theorem runsOf_intercalate (outside : p separator = false) :
    ∀ {words : List (List Char)}, (∀ word ∈ words, word ≠ [] ∧ ∀ c ∈ word, p c = true) →
      runsOf p (List.intercalate [separator] words) = words
  | [], _ => rfl
  | [word], areRuns => by
      obtain ⟨nonempty, inside⟩ := areRuns word List.mem_cons_self
      rw [List.intercalate_singleton, runsOf_of_forall inside nonempty]
  | word :: next :: rest, areRuns => by
      obtain ⟨⟨nonempty, inside⟩, others⟩ := List.forall_mem_cons.1 areRuns
      rw [List.intercalate_cons_cons, List.append_assoc, List.singleton_append,
        runsOf_append_of_neg inside nonempty outside, runsOf_intercalate outside others]

/-- Small words that are joined by a separator are the words of the joined text. -/
theorem wordsOf_intercalate (separates : isSeparator separator = true) (ascii : isAscii separator = true)
    (areSmall : ∀ word ∈ words, IsSmallWord word) : wordsOf (List.intercalate [separator] words) = words := by
  have notCapital : separator.isUpper = false :=
    forall_ascii (p := fun c => isSeparator c = true → c.isUpper = false) (by decide) ascii separates
  have characters : ∀ c ∈ List.intercalate [separator] words, isAscii c = true ∧ c.isUpper = false := by
    intro c member
    rcases mem_intercalate member with between | ⟨word, listed, inWord⟩
    · rw [List.mem_singleton.1 between]
      exact ⟨ascii, notCapital⟩
    · exact ⟨(areSmall word listed).ascii c inWord, (areSmall word listed).small c inWord⟩
  rw [wordsOf_of_small (fun c member => (characters c member).1) fun c member => (characters c member).2]
  apply runsOf_intercalate
  · simp [separates]
  · intro word listed
    have small := areSmall word listed
    exact ⟨small.nonempty, fun c member => by simp [small.inside c member]⟩

/-- Cutting a name loses nothing but separators, and a name in snake_case or kebab-case is cut into the words of which it is made.
So both forms stay as they are when they are made again, and they have the camelCase form of the name. -/
theorem words_stable {x : String} (ascii : ∀ c ∈ x.toList, isAscii c = true) :
    (∀ w ∈ Text.words x, w ≠ "" ∧ ∀ c ∈ w.toList, c.isUpper = false ∧ c ≠ '_' ∧ c ≠ '-' ∧ isBlank c = false) ∧
      String.join (Text.words x) = String.ofList ((lower x).toList.filter fun c => !(c == '_' || c == '-' || isBlank c)) ∧
      Text.words (snakeCase x) = Text.words x ∧ Text.words (kebabCase x) = Text.words x ∧
      snakeCase (snakeCase x) = snakeCase x ∧ kebabCase (kebabCase x) = kebabCase x ∧
      camelCase (snakeCase x) = camelCase x ∧ camelCase (kebabCase x) = camelCase x := by
  have areSmall : ∀ word ∈ wordsOf x.toList, IsSmallWord word := fun word => isSmallWord_of_mem_wordsOf ascii
  have snake : wordsOf (snakeCase x).toList = wordsOf x.toList := by
    rw [snakeCase, String.toList_ofList, wordsOf_intercalate (by decide) (by decide) areSmall]
  have kebab : wordsOf (kebabCase x).toList = wordsOf x.toList := by
    rw [kebabCase, String.toList_ofList, wordsOf_intercalate (by decide) (by decide) areSmall]
  refine ⟨?_, ?_, ?_, ?_, ?_, ?_, ?_, ?_⟩
  · intro w listed
    obtain ⟨word, inText, rfl⟩ := List.mem_map.1 listed
    have small := areSmall word inText
    constructor
    · intro empty
      exact small.nonempty (String.ofList_eq_empty_iff.1 empty)
    · intro c member
      rw [String.toList_ofList] at member
      have inside := small.inside c member
      simp only [isSeparator, Bool.or_eq_false_iff, beq_eq_false_iff_ne] at inside
      exact ⟨small.small c member, inside.1.1, inside.1.2, inside.2⟩
  · apply String.toList_injective
    rw [String.toList_join, String.toList_ofList, lower, String.toList_ofList, Text.words, List.flatMap_map]
    simp only [String.toList_ofList]
    rw [List.flatMap_id', flatten_wordsOf ascii]
    rfl
  · rw [Text.words, Text.words, snake]
  · rw [Text.words, Text.words, kebab]
  · rw [snakeCase, snake, ← snakeCase]
  · rw [kebabCase, kebab, ← kebabCase]
  · rw [camelCase, snake, ← camelCase]
  · rw [camelCase, kebab, ← camelCase]

/-- The laws of the words, at a name with an acronym, a digit, a hump and two separators. -/
theorem server_words_stable :
    (∀ c ∈ "HTTPServer_v2 myURL-ID".toList, isAscii c = true) ∧
      Text.words "HTTPServer_v2 myURL-ID" = ["http", "server", "v2", "my", "url", "id"] ∧
      String.join (Text.words "HTTPServer_v2 myURL-ID") = "httpserverv2myurlid" ∧
      Text.words "http_server_v2_my_url_id" = Text.words "HTTPServer_v2 myURL-ID" ∧
      camelCase "http-server-v2-my-url-id" = camelCase "HTTPServer_v2 myURL-ID" := by
  have ascii : ∀ c ∈ "HTTPServer_v2 myURL-ID".toList, isAscii c = true := List.all_eq_true.1 (by decide +kernel)
  have snake : snakeCase "HTTPServer_v2 myURL-ID" = "http_server_v2_my_url_id" := by decide +kernel
  have kebab : kebabCase "HTTPServer_v2 myURL-ID" = "http-server-v2-my-url-id" := by decide +kernel
  obtain ⟨-, joined, words, -, -, -, -, camel⟩ := words_stable ascii
  refine ⟨ascii, by decide +kernel, ?_, snake ▸ words, kebab ▸ camel⟩
  rw [joined]
  decide +kernel

end ResourceScaffold.Text
