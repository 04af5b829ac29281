import ResourceScaffold.Proofs.RoutePaths

/-!
# The boundaries of words in camelCase

The segment of an entity in URLs is formed from its identifier, in which the words of its name stand without separators. So
the words have to be told from the capitals again.

* `markHumps_markCapitalized`: on one line, the two passes that mark boundaries mark the places before a capital that follows a
  small letter or digit, or that a small letter follows (`isBoundary`), and no others;
* `wordsOf_flatten`: the words of a text that is put together from pieces are the pieces in lower case, each joined to the
  next one if there is no boundary between them (`rejoin`);
* `kebabCase_identifier_iff`: the identifier of an entity has the words of its name iff the capitals tell them (`TellsWords`). Only
  then are the two forms in kebab-case the same, and those of the segment. The letters and digits are the same in any case.

Words that begin with a digit have no capital, and a run of words of one letter is read as one: `Item_2` becomes `item2`, and
`A_B_C` becomes `a-bc`.
-/

namespace ResourceScaffold

namespace Text

variable {p : Char → Bool} {s rest word : List Char} {c u : Char}

/-! ## Marks -/

/-- Whether a character is separated from what follows it: a capital that comes after a small letter or digit, or before a small
letter. -/
def isBoundary (c : Char) (rest : List Char) : Bool :=
  rest[0]?.any Char.isUpper && (c.isLower || c.isDigit || rest[1]?.any Char.isLower)

/-- Marks all boundaries with underscores. -/
def markBoundaries : List Char → List Char
  | [] => []
  | c :: rest => if isBoundary c rest then c :: '_' :: markBoundaries rest else c :: markBoundaries rest

/-- A small letter is no capital. -/
theorem not_isUpper_of_isLower (h : c.isLower = true) : c.isUpper = false := by
  have ascii : isAscii c = true := isAscii_of_isAlphanum (isAlphanum_of_isLower h)
  exact forall_ascii (p := fun c => c.isLower = true → c.isUpper = false) (by decide) ascii h

/-- The second pass marks the place after a character if a capital follows a small letter or digit. -/
theorem markHumps_cons (c : Char) (rest : List Char) :
    markHumps (c :: rest) =
      if (c.isLower || c.isDigit) && rest[0]?.any Char.isUpper then c :: '_' :: markHumps rest else c :: markHumps rest := by
  cases rest with
  | nil => simp [markHumps]
  | cons u rest => rfl

/-- The first pass keeps the first character. -/
theorem head_markCapitalized (skipping : Bool) (s : List Char) : (markCapitalized skipping s)[0]? = s[0]? := by
  cases s with
  | nil => simp [markCapitalized]
  | cons c rest =>
      obtain ⟨others, same⟩ := exists_markCapitalized skipping c rest
      rw [same, List.getElem?_cons_zero, List.getElem?_cons_zero]

/-- A character in front of a marked text is marked by the second pass if a boundary after it depends on no more than the next
character. -/
theorem markHumps_cons_of_marked {marked : List Char} (head : marked[0]? = rest[0]?)
    (later : markHumps marked = markBoundaries rest)
    (near : c.isLower = true ∨ rest[0]?.any Char.isUpper = false ∨ rest[1]?.any Char.isLower = false) :
    markHumps (c :: marked) = markBoundaries (c :: rest) := by
  have same : isBoundary c rest = ((c.isLower || c.isDigit) && rest[0]?.any Char.isUpper) := by
    unfold isBoundary
    rcases near with lower | small | apart
    · simp [lower]
    · simp [small]
    · simp [apart, Bool.and_comm]
  rw [markHumps_cons, head, later, markBoundaries, same]

/-- On one line, the two passes mark all boundaries. -/
theorem markHumps_markCapitalized (skipping : Bool) (line : '\n' ∉ s) :
    markHumps (markCapitalized skipping s) = markBoundaries s := by
  fun_induction markCapitalized skipping s with
  | case1 skipping c u l rest passed ih =>
      have lower : c.isLower = true := (Bool.and_eq_true_iff.1 passed).2
      exact markHumps_cons_of_marked (head_markCapitalized _ _) (ih (List.not_mem_of_not_mem_cons line)) (.inl lower)
  | case2 skipping c u l rest passed capital ih =>
      simp only [Bool.and_eq_true] at capital
      obtain ⟨⟨-, upper⟩, lower⟩ := capital
      have small : l.isUpper = false := not_isUpper_of_isLower lower
      -- the letter after the capital belongs to the match, but the second pass sees it
      have letters : markHumps (l :: markCapitalized true rest) = markBoundaries (l :: rest) :=
        markHumps_cons_of_marked (head_markCapitalized _ _) (ih fun feed => line (by simp [feed])) (.inl lower)
      have word : markHumps (u :: l :: markCapitalized true rest) = markBoundaries (u :: l :: rest) :=
        markHumps_cons_of_marked rfl letters (.inr (.inl (by simp [small])))
      have boundary : isBoundary c (u :: l :: rest) = true := by simp [isBoundary, upper, lower]
      have mark : markHumps ('_' :: u :: l :: markCapitalized true rest) = '_' :: markBoundaries (u :: l :: rest) := by
        rw [markHumps_cons, word]
        rfl
      have marked : markBoundaries (c :: u :: l :: rest) = c :: '_' :: markBoundaries (u :: l :: rest) := if_pos boundary
      rw [markHumps_cons, mark, marked]
      simp
  | case3 skipping c u l rest passed other ih =>
      rw [List.mem_cons, not_or] at line
      refine markHumps_cons_of_marked (head_markCapitalized _ _) (ih line.2) (.inr ?_)
      by_cases upper : u.isUpper = true
      · exact .inr (by simpa [upper, Ne.symm line.1] using other)
      · exact .inl (by simpa using upper)
  | case4 skipping s short =>
      rcases s with _ | ⟨c, _ | ⟨u, _ | ⟨l, rest⟩⟩⟩
      · rfl
      · simp [markHumps, markBoundaries, isBoundary]
      · exact markHumps_cons_of_marked rfl (by simp [markHumps, markBoundaries, isBoundary]) (.inr (.inr (by simp)))
      · exact absurd rfl (short c u l rest)

/-! ## Runs -/

/-- A word in front of others, joined to the first of them. -/
def joinFirst (word : List Char) : List (List Char) → List (List Char)
  | [] => [word]
  | first :: others => (word ++ first) :: others

/-- Putting one text and then another in front of the first word is putting both there. -/
theorem joinFirst_append (front word : List Char) (words : List (List Char)) :
    joinFirst front (joinFirst word words) = joinFirst (front ++ word) words := by
  cases words <;> simp [joinFirst]

/-- A character of a run is joined to the run of the next one, or ends its run. -/
theorem runsOf_cons_cons (holds : p c = true) (u : Char) (rest : List Char) :
    runsOf p (c :: u :: rest) = if p u then joinFirst [c] (runsOf p (u :: rest)) else [c] :: runsOf p rest := by
  by_cases next : p u = true
  · rw [if_pos next]
    generalize later : runsOf p (u :: rest) = others
    unfold runsOf
    rw [if_pos holds, later]
    cases others <;> simp [next, joinFirst]
  · rw [if_neg next, ← runsOf_cons_of_neg (eq_false_of_ne_true next) rest]
    generalize later : runsOf p (u :: rest) = others
    unfold runsOf
    rw [if_pos holds, later]
    cases others <;> simp [next]

/-- A word in front of a text that continues it is joined to the first run. -/
theorem runsOf_append_of_pos (inside : ∀ c ∈ word, p c = true) (holds : p u = true) (rest : List Char) :
    runsOf p (word ++ u :: rest) = joinFirst word (runsOf p (u :: rest)) := by
  obtain ⟨run, runs, later, -⟩ := exists_runsOf holds rest
  induction word with
  | nil => rw [List.nil_append, later, joinFirst, List.nil_append]
  | cons c word ih =>
      rw [List.forall_mem_cons] at inside
      have next : ∃ d tail, word ++ u :: rest = d :: tail ∧ p d = true := by
        cases word with
        | nil => exact ⟨u, rest, rfl, holds⟩
        | cons d word => exact ⟨d, _, rfl, inside.2 d List.mem_cons_self⟩
      obtain ⟨d, tail, text, second⟩ := next
      rw [List.cons_append, text, runsOf_cons_cons inside.1, if_pos second, ← text, ih inside.2, joinFirst_append,
        List.singleton_append]

/-- A word in front of a text that begins outside of runs is a run. -/
theorem runsOf_append_of_neg (inside : ∀ c ∈ word, p c = true) (nonempty : word ≠ []) (outside : p u = false)
    (rest : List Char) : runsOf p (word ++ u :: rest) = word :: runsOf p rest := by
  induction word with
  | nil => exact absurd rfl nonempty
  | cons c word ih =>
      rw [List.forall_mem_cons] at inside
      cases word with
      | nil => rw [List.singleton_append, runsOf_cons_cons inside.1, if_neg (by simp [outside])]
      | cons d word =>
          have second : p d = true := inside.2 d List.mem_cons_self
          rw [List.cons_append, List.cons_append, runsOf_cons_cons inside.1, if_pos second, ← List.cons_append,
            ih inside.2 (List.cons_ne_nil _ _), joinFirst, List.singleton_append]

/-- A text of characters inside runs is a single run. -/
theorem runsOf_of_forall (inside : ∀ c ∈ word, p c = true) (nonempty : word ≠ []) : runsOf p word = [word] := by
  induction word with
  | nil => exact absurd rfl nonempty
  | cons c word ih =>
      rw [List.forall_mem_cons] at inside
      cases word with
      | nil => simp [runsOf, inside.1]
      | cons d word =>
          have second : p d = true := inside.2 d List.mem_cons_self
          rw [runsOf_cons_cons inside.1, if_pos second, ih inside.2 (List.cons_ne_nil _ _), joinFirst, List.singleton_append]

/-! ## Pieces -/

/-- Pieces of letters and digits, without capitals but for the first character. -/
structure IsPiece (piece : List Char) : Prop where
  nonempty : piece ≠ []
  alphanum : ∀ c ∈ piece, c.isAlphanum = true
  small : ∀ c ∈ piece.tail, c.isUpper = false

variable {piece : List Char} {pieces : List (List Char)}

/-- Whether there is a boundary between a piece and the text after it. -/
def endsWord (piece rest : List Char) : Bool :=
  piece.getLast?.any fun c => isBoundary c rest

/-- There is no boundary within a piece. -/
theorem markBoundaries_append (isPiece : IsPiece piece) (rest : List Char) :
    markBoundaries (piece ++ rest) =
      if endsWord piece rest then piece ++ '_' :: markBoundaries rest else piece ++ markBoundaries rest := by
  obtain ⟨nonempty, -, small⟩ := isPiece
  induction piece with
  | nil => exact absurd rfl nonempty
  | cons c piece ih =>
      cases piece with
      | nil => rfl
      | cons d piece =>
          have inner : isBoundary c (d :: (piece ++ rest)) = false := by
            simp [isBoundary, small d List.mem_cons_self]
          have ends : endsWord (c :: d :: piece) rest = endsWord (d :: piece) rest := by
            rw [endsWord, endsWord, List.getLast?_cons_cons]
          have later := ih (List.cons_ne_nil _ _) fun e member => small e (List.mem_cons_of_mem _ member)
          rw [List.cons_append, List.cons_append, markBoundaries, inner, if_neg Bool.false_ne_true, ← List.cons_append, later,
            ends]
          split <;> rfl

/-- The words of a text that is put together from pieces: the pieces in lower case, each joined to the next one if there is no
boundary between them. -/
def rejoin : List (List Char) → List (List Char)
  | [] => []
  | piece :: rest =>
      if endsWord piece rest.flatten then piece.map Char.toLower :: rejoin rest
      else joinFirst (piece.map Char.toLower) (rejoin rest)

/-- The words of letters and digits on one line are the runs between the boundaries, in lower case. -/
theorem wordsOf_eq_runsOf (alphanum : ∀ c ∈ s, c.isAlphanum = true) :
    wordsOf s = runsOf (fun c => !isSeparator c) ((markBoundaries s).map Char.toLower) := by
  have line : '\n' ∉ s := fun feed => absurd (alphanum _ feed) (by decide)
  have marks := markHumps_markCapitalized false line
  have ascii : ∀ c ∈ markBoundaries s, isAscii c = true := by
    intro c member
    rw [← marks] at member
    exact forall_mem_marked (by decide) (fun d inText => isAscii_of_isAlphanum (alphanum d inText)) c member
  rw [wordsOf, marks, lowerChars, lowerFrom_eq_map ascii]

/-- Letters and digits in lower case hold no separator. -/
theorem inWord_of_isAlphanum (alphanum : ∀ c ∈ s, c.isAlphanum = true) :
    ∀ c ∈ s.map Char.toLower, (!isSeparator c) = true := by
  intro c member
  obtain ⟨d, inText, rfl⟩ := List.mem_map.1 member
  rw [isSeparator_of_isAlphanum (isAlphanum_toLower (alphanum d inText))]
  rfl

/-- Marking keeps the first character. -/
theorem exists_markBoundaries (c : Char) (rest : List Char) : ∃ others, markBoundaries (c :: rest) = c :: others := by
  rw [markBoundaries]
  split <;> exact ⟨_, rfl⟩

/-- The words of a text of pieces. -/
theorem wordsOf_flatten (isPieces : ∀ piece ∈ pieces, IsPiece piece) : wordsOf pieces.flatten = rejoin pieces := by
  have alphanum : ∀ c ∈ pieces.flatten, c.isAlphanum = true := by
    intro c member
    obtain ⟨piece, listed, inPiece⟩ := List.mem_flatten.1 member
    exact (isPieces piece listed).alphanum c inPiece
  rw [wordsOf_eq_runsOf alphanum]
  clear alphanum
  induction pieces with
  | nil => rfl
  | cons piece rest ih =>
      rw [List.forall_mem_cons] at isPieces
      obtain ⟨isPiece, later⟩ := isPieces
      have inside := inWord_of_isAlphanum isPiece.alphanum
      have nonempty : piece.map Char.toLower ≠ [] := by simpa using isPiece.nonempty
      rw [List.flatten_cons, markBoundaries_append isPiece, rejoin]
      by_cases ends : endsWord piece rest.flatten = true
      · rw [if_pos ends, if_pos ends, List.map_append, List.map_cons, ← ih later]
        exact runsOf_append_of_neg inside nonempty (by decide) _
      · rw [if_neg ends, if_neg ends, List.map_append, ← ih later]
        cases rest with
        | nil =>
            rw [List.flatten_nil, markBoundaries, List.map_nil, List.append_nil]
            exact runsOf_of_forall inside nonempty
        | cons next rest =>
            have isNext := later next List.mem_cons_self
            obtain ⟨c, tail, rfl⟩ := List.exists_cons_of_ne_nil isNext.nonempty
            have continued : (!isSeparator c.toLower) = true := inWord_of_isAlphanum isNext.alphanum _ List.mem_cons_self
            obtain ⟨others, marked⟩ := exists_markBoundaries c (tail ++ rest.flatten)
            rw [List.flatten_cons, List.cons_append, marked, List.map_cons]
            exact runsOf_append_of_pos inside continued _

/-- Joining a text to the first word keeps the characters. -/
theorem flatten_joinFirst (word : List Char) (words : List (List Char)) :
    (joinFirst word words).flatten = word ++ words.flatten := by
  cases words <;> simp [joinFirst]

/-- Joining pieces changes no character. -/
theorem flatten_rejoin (pieces : List (List Char)) : (rejoin pieces).flatten = pieces.flatten.map Char.toLower := by
  induction pieces with
  | nil => rfl
  | cons piece rest ih =>
      rw [rejoin, List.flatten_cons, List.map_append, ← ih]
      split
      · rw [List.flatten_cons]
      · rw [flatten_joinFirst]

/-- It makes a new word only of no words. -/
theorem length_joinFirst_le (word : List Char) (words : List (List Char)) :
    (joinFirst word words).length ≤ max 1 words.length := by
  cases words <;> simp [joinFirst]

/-- There is no boundary at the end of a text. -/
theorem endsWord_nil (piece : List Char) : endsWord piece [] = false := by
  cases last : piece.getLast? <;> simp [endsWord, last, isBoundary]

/-- A boundary before a piece depends on this piece alone, if the next one does not begin with a small letter. -/
theorem endsWord_append {next : List Char} (nonempty : next ≠ []) (apart : rest[0]?.any Char.isLower = false) :
    endsWord piece (next ++ rest) = endsWord piece next := by
  have same (c : Char) : isBoundary c (next ++ rest) = isBoundary c next := by
    match next with
    | [] => exact absurd rfl nonempty
    | [u] => simp [isBoundary, apart]
    | u :: l :: tail => rfl
  rw [endsWord, endsWord, funext same]

/-- There are boundaries between all pieces. -/
def AllApart (pieces : List (List Char)) : Prop :=
  pieces.IsChain fun piece next => endsWord piece next = true

/-- Pieces after the first one begin with no small letter. -/
def HeadsNotSmall (pieces : List (List Char)) : Prop :=
  ∀ piece ∈ pieces.tail, piece ≠ [] ∧ piece[0]?.any Char.isLower = false

/-- Whether a word ends after a piece depends on the next piece only. -/
theorem HeadsNotSmall.endsWord_flatten {next : List Char} (h : HeadsNotSmall (piece :: next :: pieces)) :
    endsWord piece (next :: pieces).flatten = endsWord piece next := by
  have apart : pieces.flatten[0]?.any Char.isLower = false := by
    cases pieces with
    | nil => rfl
    | cons third pieces =>
        obtain ⟨nonempty, small⟩ := h third (by simp)
        obtain ⟨c, tail, rfl⟩ := List.exists_cons_of_ne_nil nonempty
        simpa using small
  exact endsWord_append (h next List.mem_cons_self).1 apart

/-- What holds of the heads of pieces holds of those of the later ones. -/
theorem HeadsNotSmall.tail (h : HeadsNotSmall (piece :: pieces)) : HeadsNotSmall pieces :=
  fun next member => h next (List.mem_of_mem_tail member)

/-- Pieces with boundaries between them are the words. -/
theorem rejoin_of_allApart (heads : HeadsNotSmall pieces) (apart : AllApart pieces) :
    rejoin pieces = pieces.map (List.map Char.toLower) := by
  induction pieces with
  | nil => rfl
  | cons piece rest ih =>
      cases rest with
      | nil => simp [rejoin, endsWord_nil, joinFirst]
      | cons next rest =>
          obtain ⟨ends, later⟩ := List.isChain_cons_cons.1 apart
          rw [rejoin, heads.endsWord_flatten, if_pos ends, ih heads.tail later]
          rfl

/-- Joining pieces makes no new ones. -/
theorem length_rejoin_le (pieces : List (List Char)) : (rejoin pieces).length ≤ pieces.length := by
  induction pieces with
  | nil => exact le_rfl
  | cons piece rest ih =>
      rw [rejoin, List.length_cons]
      split
      · rw [List.length_cons]
        omega
      · have joined := length_joinFirst_le (piece.map Char.toLower) (rejoin rest)
        omega

/-- As many words as pieces have boundaries between all of them. -/
theorem allApart_of_length_rejoin (heads : HeadsNotSmall pieces) (same : (rejoin pieces).length = pieces.length) :
    AllApart pieces := by
  induction pieces with
  | nil => exact List.isChain_nil
  | cons piece rest ih =>
      cases rest with
      | nil => exact List.isChain_singleton piece
      | cons next rest =>
          have most := length_rejoin_le (next :: rest)
          rw [rejoin, heads.endsWord_flatten] at same
          by_cases ends : endsWord piece next = true
          · rw [if_pos ends, List.length_cons, List.length_cons, Nat.add_right_cancel_iff] at same
            exact List.isChain_cons_cons.2 ⟨ends, ih heads.tail same⟩
          · have joined := length_joinFirst_le (piece.map Char.toLower) (rejoin (next :: rest))
            rw [if_neg ends] at same
            simp only [List.length_cons] at same most
            omega

/-! ## Words in camelCase -/

/-- A word of small letters and digits. -/
structure IsWord (word : List Char) : Prop where
  nonempty : word ≠ []
  alphanum : ∀ c ∈ word, c.isAlphanum = true
  small : ∀ c ∈ word, c.isUpper = false

/-- The pieces of which the camelCase form of words is put together. -/
def camelPieces : List (List Char) → List (List Char)
  | [] => []
  | first :: rest => first :: rest.map capitalizeChars

variable {words : List (List Char)} {first next : List Char}

/-- A text in camelCase is put together from its pieces. -/
theorem joinCamel_eq_flatten (words : List (List Char)) : joinCamel words = (camelPieces words).flatten := by
  cases words with
  | nil => rfl
  | cons first rest => rw [joinCamel, camelPieces, List.flatten_cons, List.flatMap_def]

/-- A small letter in upper case is a capital, and a digit stays the same. -/
theorem toUpper_of_small (alphanum : c.isAlphanum = true) (small : c.isUpper = false) :
    c.toUpper.isUpper = c.isAlpha ∧ c.toUpper.isLower = false ∧ c.toUpper.isDigit = !c.isAlpha ∧ c.toUpper.toLower = c :=
  forall_ascii (p := fun c => c.isAlphanum = true → c.isUpper = false →
    c.toUpper.isUpper = c.isAlpha ∧ c.toUpper.isLower = false ∧ c.toUpper.isDigit = !c.isAlpha ∧ c.toUpper.toLower = c)
    (by decide) (isAscii_of_isAlphanum alphanum) alphanum small

/-- A letter or digit that is no capital is a small letter if it is a letter, and otherwise a digit. -/
theorem isLower_of_small (alphanum : c.isAlphanum = true) (small : c.isUpper = false) :
    c.isLower = c.isAlpha ∧ c.isDigit = !c.isAlpha :=
  forall_ascii (p := fun c => c.isAlphanum = true → c.isUpper = false → c.isLower = c.isAlpha ∧ c.isDigit = !c.isAlpha)
    (by decide) (isAscii_of_isAlphanum alphanum) alphanum small

/-- An ASCII text without capitals is in lower case. -/
theorem map_toLower_of_small (ascii : ∀ c ∈ s, isAscii c = true) (small : ∀ c ∈ s, c.isUpper = false) :
    s.map Char.toLower = s := by
  have same {c : Char} (ascii : isAscii c = true) : c.isUpper = false → c.toLower = c :=
    forall_ascii (p := fun c => c.isUpper = false → c.toLower = c) (by decide) ascii
  calc
    s.map Char.toLower = s.map id := by
      apply List.map_congr_left
      intro c member
      exact same (ascii c member) (small c member)
    _ = s := List.map_id s

namespace IsWord

/-- The first character of a word is a letter or digit, and no capital. -/
theorem head (h : IsWord (c :: word)) : c.isAlphanum = true ∧ c.isUpper = false :=
  ⟨h.alphanum c List.mem_cons_self, h.small c List.mem_cons_self⟩

/-- A word is in ASCII. -/
theorem ascii (h : IsWord word) : ∀ c ∈ word, isAscii c = true :=
  fun c member => isAscii_of_isAlphanum (h.alphanum c member)

/-- A word is capitalised by its first character. -/
theorem capitalizeChars_cons (h : IsWord (c :: word)) : capitalizeChars (c :: word) = c.toUpper :: word := by
  obtain ⟨first, ascii⟩ := List.forall_mem_cons.1 h.ascii
  have lower := map_toLower_of_small ascii (List.forall_mem_cons.1 h.small).2
  rw [capitalizeChars, titleChar, if_pos first, lowerFrom_eq_map ascii, lower, List.singleton_append]

/-- A word is a piece. -/
theorem isPiece (h : IsWord word) : IsPiece word :=
  ⟨h.nonempty, h.alphanum, fun c member => h.small c (List.mem_of_mem_tail member)⟩

/-- So is a word with a capital. -/
theorem isPiece_capitalizeChars (h : IsWord word) : IsPiece (capitalizeChars word) := by
  obtain ⟨c, rest, rfl⟩ := List.exists_cons_of_ne_nil h.nonempty
  refine ⟨?_, fun d member => isAlphanum_of_mem_capitalizeChars h.alphanum member, ?_⟩
  · rw [h.capitalizeChars_cons]
    exact List.cons_ne_nil _ _
  · rw [h.capitalizeChars_cons]
    exact fun d member => h.small d (List.mem_cons_of_mem _ member)

/-- A capitalised word begins with no small letter. -/
theorem head_capitalizeChars (h : IsWord word) :
    capitalizeChars word ≠ [] ∧ (capitalizeChars word)[0]?.any Char.isLower = false := by
  refine ⟨h.isPiece_capitalizeChars.nonempty, ?_⟩
  obtain ⟨c, rest, rfl⟩ := List.exists_cons_of_ne_nil h.nonempty
  obtain ⟨-, notLower, -⟩ := toUpper_of_small h.head.1 h.head.2
  rw [h.capitalizeChars_cons, List.getElem?_cons_zero, Option.any_some, notLower]

/-- The small letters of a word with a capital are the word. -/
theorem map_toLower_capitalizeChars (h : IsWord word) : (capitalizeChars word).map Char.toLower = word := by
  obtain ⟨c, rest, rfl⟩ := List.exists_cons_of_ne_nil h.nonempty
  obtain ⟨-, -, -, lower⟩ := toUpper_of_small h.head.1 h.head.2
  rw [h.capitalizeChars_cons, List.map_cons, lower,
    map_toLower_of_small (List.forall_mem_cons.1 h.ascii).2 (List.forall_mem_cons.1 h.small).2]

end IsWord

section

variable (areWords : ∀ word ∈ words, IsWord word)
include areWords

/-- The pieces of a text in camelCase are words with or without a capital. -/
theorem isPiece_of_mem_camelPieces (member : piece ∈ camelPieces words) : IsPiece piece := by
  cases words with
  | nil => cases member
  | cons first rest =>
      rw [List.forall_mem_cons] at areWords
      rcases List.mem_cons.1 member with rfl | later
      · exact areWords.1.isPiece
      · obtain ⟨word, listed, rfl⟩ := List.mem_map.1 later
        exact (areWords.2 word listed).isPiece_capitalizeChars

/-- Only the first of them may begin with a small letter. -/
theorem headsNotSmall_camelPieces : HeadsNotSmall (camelPieces words) := by
  intro piece member
  cases words with
  | nil => cases member
  | cons first rest =>
      obtain ⟨word, listed, rfl⟩ := List.mem_map.1 member
      exact (areWords word (List.mem_cons_of_mem _ listed)).head_capitalizeChars

/-- The pieces in lower case are the words again. -/
theorem map_toLower_camelPieces : (camelPieces words).map (List.map Char.toLower) = words := by
  cases words with
  | nil => rfl
  | cons first rest =>
      rw [List.forall_mem_cons] at areWords
      obtain ⟨isFirst, areRest⟩ := areWords
      have others : (rest.map capitalizeChars).map (List.map Char.toLower) = rest :=
        calc
          (rest.map capitalizeChars).map (List.map Char.toLower) = rest.map id := by
            rw [List.map_map]
            apply List.map_congr_left
            intro word listed
            exact (areRest word listed).map_toLower_capitalizeChars
          _ = rest := List.map_id rest
      rw [camelPieces, List.map_cons, map_toLower_of_small isFirst.ascii isFirst.small, others]

end

/-! ## Words that the capitals tell -/

/-- Whether the character at a place of a word is a letter. -/
def letterAt (i : Nat) (word : List Char) : Bool :=
  word[i]?.any Char.isAlpha

/-- The capitals tell the words: every word but the first begins with a letter, and of two words after the first that stand side by
side, the former is longer than one letter or the latter begins with two. -/
def TellsWords : List (List Char) → Prop
  | [] => True
  | _ :: rest =>
      (∀ word ∈ rest, letterAt 0 word = true) ∧
        rest.IsChain fun word next => 1 < word.length ∨ letterAt 1 next = true

/-- Whether capitals tell the words can be tested. -/
instance (words : List (List Char)) : Decidable (TellsWords words) :=
  match words with
  | [] => inferInstanceAs (Decidable True)
  | _ :: rest =>
      inferInstanceAs (Decidable ((∀ word ∈ rest, letterAt 0 word = true) ∧
        rest.IsChain fun word next => 1 < word.length ∨ letterAt 1 next = true))

/-- A word with a capital begins after a boundary if it begins with a letter, and either a small letter or digit precedes or its
second character is a letter. -/
theorem isBoundary_capitalizeChars (h : IsWord next) (c : Char) :
    isBoundary c (capitalizeChars next) = (letterAt 0 next && (c.isLower || c.isDigit || letterAt 1 next)) := by
  obtain ⟨d, rest, rfl⟩ := List.exists_cons_of_ne_nil h.nonempty
  obtain ⟨upper, -⟩ := toUpper_of_small h.head.1 h.head.2
  rw [h.capitalizeChars_cons]
  cases rest with
  | nil => simp [isBoundary, letterAt, upper]
  | cons l rest =>
      have listed : l ∈ d :: l :: rest := by simp
      obtain ⟨lower, -⟩ := isLower_of_small (h.alphanum l listed) (h.small l listed)
      simp [isBoundary, letterAt, upper, lower]

/-- After a small letter or digit, a word is told iff it begins with a letter. -/
theorem endsWord_of_small (h : IsWord next) (alphanum : c.isAlphanum = true) (small : c.isUpper = false)
    (last : piece.getLast? = some c) : endsWord piece (capitalizeChars next) = letterAt 0 next := by
  obtain ⟨lower, digit⟩ := isLower_of_small alphanum small
  rw [endsWord, last, Option.any_some, isBoundary_capitalizeChars h, lower, digit, Bool.or_not_self, Bool.true_or,
    Bool.and_true]

/-- A word ends before the next one iff that begins with a letter. -/
theorem IsWord.endsWord (h : IsWord word) (isNext : IsWord next) :
    endsWord word (capitalizeChars next) = letterAt 0 next := by
  have last := List.getLast?_eq_some_getLast h.nonempty
  have member := List.getLast_mem h.nonempty
  exact endsWord_of_small isNext (h.alphanum _ member) (h.small _ member) last

/-- After a capitalised word, a word is told iff it begins with a letter and, where a single letter is before it, with two. -/
theorem IsWord.endsWord_capitalizeChars (h : IsWord word) (isNext : IsWord next) :
    Text.endsWord (capitalizeChars word) (capitalizeChars next) =
      (letterAt 0 next && (!letterAt 0 word || decide (1 < word.length) || letterAt 1 next)) := by
  match word, h with
  | [], h => exact absurd rfl h.nonempty
  | [c], h =>
      obtain ⟨-, lower, digit, -⟩ := toUpper_of_small h.head.1 h.head.2
      rw [h.capitalizeChars_cons, Text.endsWord, List.getLast?_singleton, Option.any_some, isBoundary_capitalizeChars isNext,
        lower, digit]
      simp [letterAt]
  | c :: d :: rest, h =>
      have isRest : d :: rest ≠ [] := List.cons_ne_nil _ _
      have member : (d :: rest).getLast isRest ∈ c :: d :: rest := List.mem_cons_of_mem _ (List.getLast_mem isRest)
      have last : (capitalizeChars (c :: d :: rest)).getLast? = some ((d :: rest).getLast isRest) := by
        rw [h.capitalizeChars_cons, List.getLast?_cons_cons, List.getLast?_eq_some_getLast isRest]
      rw [endsWord_of_small isNext (h.alphanum _ member) (h.small _ member) last]
      simp

/-- Capitalised words after a small letter or digit have boundaries before all of them iff each begins with a letter, and those
after a single letter with two. -/
theorem allApart_map_capitalizeChars_iff (isFirst : IsWord first) (areWords : ∀ word ∈ words, IsWord word) :
    letterAt 0 first = true ∧ AllApart ((first :: words).map capitalizeChars) ↔
      (∀ word ∈ first :: words, letterAt 0 word = true) ∧
        (first :: words).IsChain fun word next => 1 < word.length ∨ letterAt 1 next = true := by
  induction words generalizing first with
  | nil => simp [AllApart]
  | cons next rest ih =>
      obtain ⟨isNext, areRest⟩ := List.forall_mem_cons.1 areWords
      have later := ih isNext areRest
      have ends := isFirst.endsWord_capitalizeChars isNext
      constructor
      · rintro ⟨letter, apart⟩
        obtain ⟨told, others⟩ := List.isChain_cons_cons.1 apart
        rw [ends, letter, Bool.not_true, Bool.false_or, Bool.and_eq_true, Bool.or_eq_true, decide_eq_true_eq] at told
        obtain ⟨letters, chain⟩ := later.1 ⟨told.1, others⟩
        exact ⟨List.forall_mem_cons.2 ⟨letter, letters⟩, List.isChain_cons_cons.2 ⟨told.2, chain⟩⟩
      · rintro ⟨letters, chain⟩
        obtain ⟨letter, letters⟩ := List.forall_mem_cons.1 letters
        obtain ⟨told, chain⟩ := List.isChain_cons_cons.1 chain
        obtain ⟨second, others⟩ := later.2 ⟨letters, chain⟩
        refine ⟨letter, List.isChain_cons_cons.2 ⟨?_, others⟩⟩
        rw [ends, second, letter]
        simpa using told

/-- The pieces of words in camelCase have boundaries between all of them iff the capitals tell the words. -/
theorem allApart_camelPieces_iff (areWords : ∀ word ∈ words, IsWord word) :
    AllApart (camelPieces words) ↔ TellsWords words := by
  match words, areWords with
  | [], _ => simp [AllApart, camelPieces, TellsWords]
  | [first], _ => simp [AllApart, camelPieces, TellsWords]
  | first :: next :: rest, areWords =>
      obtain ⟨isFirst, others⟩ := List.forall_mem_cons.1 areWords
      obtain ⟨isNext, areRest⟩ := List.forall_mem_cons.1 others
      rw [TellsWords, ← allApart_map_capitalizeChars_iff isNext areRest, ← isFirst.endsWord isNext]
      exact List.isChain_cons_cons

/-- The words of the camelCase form of words are these words iff the capitals tell them; this is also when they are as many. In any
case they have the same characters. -/
theorem wordsOf_joinCamel (areWords : ∀ word ∈ words, IsWord word) :
    (wordsOf (joinCamel words) = words ↔ TellsWords words) ∧
      ((wordsOf (joinCamel words)).length = words.length ↔ TellsWords words) ∧
      (wordsOf (joinCamel words)).flatten = words.flatten := by
  have heads := headsNotSmall_camelPieces areWords
  have lower := map_toLower_camelPieces areWords
  have pieces : (camelPieces words).length = words.length := by
    rw [← List.length_map (List.map Char.toLower), lower]
  have joined : wordsOf (joinCamel words) = rejoin (camelPieces words) := by
    rw [joinCamel_eq_flatten, wordsOf_flatten fun piece member => isPiece_of_mem_camelPieces areWords member]
  have told (tells : TellsWords words) : wordsOf (joinCamel words) = words := by
    rw [joined, rejoin_of_allApart heads ((allApart_camelPieces_iff areWords).2 tells), lower]
  have tells (same : (wordsOf (joinCamel words)).length = words.length) : TellsWords words := by
    rw [joined, ← pieces] at same
    exact (allApart_camelPieces_iff areWords).1 (allApart_of_length_rejoin heads same)
  refine ⟨⟨fun same => tells (congrArg List.length same), told⟩, ⟨tells, fun h => congrArg List.length (told h)⟩, ?_⟩
  rw [joined, flatten_rejoin, List.map_flatten, lower]

end Text

/-! ## Segments and identifiers -/

/-- The words of an accepted name are of small letters and digits, and there is one. -/
theorem isWord_of_mem_wordsOf {s : String} (named : checkEntityName (.text s) = .ok ()) :
    Text.wordsOf s.toList ≠ [] ∧ ∀ word ∈ Text.wordsOf s.toList, Text.IsWord word := by
  constructor
  · intro none
    refine (isFileName_identifier named).nonempty ?_
    rw [ResourceNaming.derive, Text.camelCase, none]
    rfl
  · intro word listed
    have name := isNameChar_of_isEntityWord (isEntityWord_of_checkEntityName named)
    refine ⟨Text.ne_nil_of_mem_runsOf listed, fun c member => Text.isAlphanum_of_mem_wordsOf name listed member, ?_⟩
    intro c member
    obtain ⟨-, lowered⟩ := Text.mem_runsOf listed member
    have ascii := Text.forall_mem_marked (by decide) fun d inText => Text.isAscii_of_isNameChar (name d inText)
    obtain ⟨d, marked, rfl⟩ := Text.mem_lowerFrom ascii lowered
    exact Text.forall_ascii (p := fun d => d.toLower.isUpper = false) (by decide) (ascii d marked)

/-- Words without hyphens that are joined by hyphens are their characters, without the hyphens. -/
theorem Text.filter_intercalate_hyphen {words : List (List Char)} (plain : ∀ w ∈ words, '-' ∉ w) :
    (List.intercalate ['-'] words).filter (· != '-') = words.flatten := by
  have kept {w : List Char} (none : '-' ∉ w) : w.filter (· != '-') = w :=
    List.filter_eq_self.2 fun c member => bne_iff_ne.2 fun hyphen => none (hyphen ▸ member)
  match words, plain with
  | [], _ => rfl
  | [w], plain => simpa using kept (plain w List.mem_cons_self)
  | w :: w' :: rest, plain =>
      rw [List.forall_mem_cons] at plain
      rw [List.intercalate_cons_cons, List.filter_append, List.filter_append, kept plain.1,
        filter_intercalate_hyphen plain.2, List.flatten_cons]
      simp

/-- What the segment and the identifier of a name keep of its words: the identifier has the words of the name, and the segment is
the plural of the name, iff the capitals of the identifier tell the words. In any case they differ in hyphens only. -/
theorem kebabCase_identifier_iff {s : String} (named : checkEntityName (.text s) = .ok ()) :
    (Text.kebabCase (Text.camelCase s) = Text.kebabCase s ↔ Text.TellsWords (Text.wordsOf s.toList)) ∧
      ((ResourceNaming.derive s).resource = Text.pluralize (Text.kebabCase s) ↔ Text.TellsWords (Text.wordsOf s.toList)) ∧
      (Text.kebabCase (Text.camelCase s)).toList.filter (· != '-') = (Text.kebabCase s).toList.filter (· != '-') := by
  obtain ⟨some, areWords⟩ := isWord_of_mem_wordsOf named
  obtain ⟨words, lengths, characters⟩ := Text.wordsOf_joinCamel areWords
  have joined : Text.wordsOf (Text.camelCase s).toList = Text.wordsOf (Text.joinCamel (Text.wordsOf s.toList)) := by
    rw [Text.camelCase, String.toList_ofList]
  rw [← joined] at words lengths characters
  have kebab : Text.kebabCase (Text.camelCase s) = Text.kebabCase s ↔ Text.TellsWords (Text.wordsOf s.toList) := by
    rw [← words, Text.kebabCase_eq_iff, Text.words, Text.words]
    exact (List.map_injective_iff.2 fun _ _ => String.ofList_injective).eq_iff
  refine ⟨kebab, ⟨fun segment => ?_, fun tells => congrArg Text.pluralize (kebab.2 tells)⟩, ?_⟩
  · have name : ∀ c ∈ (Text.camelCase s).toList, Text.isNameChar c = true :=
      fun c member => Text.isNameChar_of_isAlphanum (isAlphanum_of_mem_identifier named member)
    have nameS := isNameChar_of_isEntityWord (isEntityWord_of_checkEntityName named)
    obtain ⟨front, -⟩ := (Text.pluralize_kebabCase_eq_iff name nameS).1 segment
    -- the segments agree in all words but the last, so there are as many words
    have fronts := congrArg List.length front
    rw [List.length_dropLast, List.length_dropLast] at fronts
    have someC : Text.wordsOf (Text.camelCase s).toList ≠ [] := by
      intro none
      rw [none] at characters
      obtain ⟨word, listed⟩ := List.exists_mem_of_ne_nil _ some
      exact (areWords word listed).nonempty (List.flatten_eq_nil_iff.1 characters.symm word listed)
    have positive := List.length_pos_of_ne_nil some
    have positiveC := List.length_pos_of_ne_nil someC
    exact lengths.1 (by omega)
  · rw [Text.kebabCase, Text.kebabCase, String.toList_ofList, String.toList_ofList,
      Text.filter_intercalate_hyphen fun _ listed => Text.hyphen_not_mem_of_mem_wordsOf listed,
      Text.filter_intercalate_hyphen fun _ listed => Text.hyphen_not_mem_of_mem_wordsOf listed, characters]

/-- A word that begins with a digit is not told. -/
theorem item_2_untold : checkEntityName (.text "Item_2") = .ok () ∧
    Text.kebabCase (Text.camelCase "Item_2") ≠ Text.kebabCase "Item_2" ∧
    (ResourceNaming.derive "Item_2").resource ≠ Text.pluralize (Text.kebabCase "Item_2") :=
  ⟨rfl, by decide +kernel, by decide +kernel⟩

/-- The capitals of a name with two words tell them, so its segment has both. -/
theorem order_item_told : checkEntityName (.text "Order_Item") = .ok () ∧
    Text.kebabCase (Text.camelCase "Order_Item") = Text.kebabCase "Order_Item" ∧
    (ResourceNaming.derive "Order_Item").resource = Text.pluralize (Text.kebabCase "Order_Item") := by
  have told : Text.TellsWords (Text.wordsOf "Order_Item".toList) := by decide +kernel
  obtain ⟨kebab, resource, -⟩ := kebabCase_identifier_iff (s := "Order_Item") rfl
  exact ⟨rfl, kebab.2 told, resource.2 told⟩

/-- Of single letters side by side, all but the first are read as one word. -/
example : ¬ Text.TellsWords (Text.wordsOf "A_B_C".toList) := by decide +kernel

end ResourceScaffold
