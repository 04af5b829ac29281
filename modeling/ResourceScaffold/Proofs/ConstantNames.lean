import Mathlib.Data.List.Chain
import ResourceScaffold.Proofs.Builders
import ResourceScaffold.Proofs.FileNames

/-!
# The names of constants

The name of a member of an enumeration is made from a label that can be any text. It is cut twice, into runs of ASCII letters
and digits and each of these into words, and joined again by underscores.

* `IsJoined`: letters and digits with single underscores between them. Words are joined, and what is put together from joined
  texts with an underscore between them is (`isJoined_intercalate`). So it makes no difference that the cut is made twice;
* `IsConstantName`: what the name keeps of that in upper case, with an underscore in front of a digit
  (`isConstantName_constantName`);
* `constantName_legal`: the name of each label is an identifier, is no keyword and is none of the names that a class of members
  keeps for itself, those with underscores on both sides.

The members of an enumeration have such names (`EnumDescriptor.isConstantName_of_mem`).
-/

namespace ResourceScaffold

namespace Text

/-! ## Joined words -/

/-- Letters and digits with single underscores between them. -/
structure IsJoined (s : List Char) : Prop where
  nonempty : s ≠ []
  letters : ∀ c ∈ s, c.isAlphanum = true ∨ c = '_'
  first : s.head? ≠ some '_'
  last : s.getLast? ≠ some '_'
  single : s.IsChain fun c d => c ≠ '_' ∨ d ≠ '_'

variable {s t word : List Char} {words : List (List Char)}

/-- An underscore is no letter and no digit. -/
theorem ne_underscore_of_isAlphanum {c : Char} (h : c.isAlphanum = true) : c ≠ '_' := by
  rintro rfl
  cases h

/-- A word alone is a joined name. -/
theorem isJoined_of_word (nonempty : word ≠ []) (alphanum : ∀ c ∈ word, c.isAlphanum = true) : IsJoined word where
  nonempty := nonempty
  letters c member := .inl (alphanum c member)
  first same := ne_underscore_of_isAlphanum (alphanum _ (List.mem_of_head? same)) rfl
  last same := ne_underscore_of_isAlphanum (alphanum _ (List.mem_of_getLast? same)) rfl
  single := by
    apply List.Pairwise.isChain
    apply List.pairwise_of_forall_mem_list
    intro c member _ _
    exact .inl (ne_underscore_of_isAlphanum (alphanum c member))

/-- An underscore between joined texts is a single one, as no other stands beside it. -/
theorem IsJoined.append (hs : IsJoined s) (ht : IsJoined t) : IsJoined (s ++ '_' :: t) where
  nonempty := List.append_ne_nil_of_right_ne_nil _ (List.cons_ne_nil _ _)
  letters := by
    intro c member
    rcases List.mem_append.1 member with inFirst | inRest
    · exact hs.letters c inFirst
    · rcases List.mem_cons.1 inRest with rfl | inSecond
      · exact .inr rfl
      · exact ht.letters c inSecond
  first := by
    rw [List.head?_append_of_ne_nil _ hs.nonempty]
    exact hs.first
  last := by
    rw [List.getLast?_append_of_ne_nil _ (List.cons_ne_nil _ _), List.getLast?_cons_of_ne_nil ht.nonempty]
    exact ht.last
  single := by
    refine List.isChain_append.2 ⟨hs.single, List.isChain_cons.2 ⟨?_, ht.single⟩, ?_⟩
    · intro d isHead
      refine .inr ?_
      rintro rfl
      exact ht.first isHead
    · intro c isLast d _
      refine .inl ?_
      rintro rfl
      exact hs.last isLast

/-- Joined texts stay so when they are joined. -/
theorem isJoined_intercalate (some : words ≠ []) (joined : ∀ word ∈ words, IsJoined word) :
    IsJoined (List.intercalate ['_'] words) := by
  induction words with
  | nil => exact absurd rfl some
  | cons first rest ih =>
      rw [List.forall_mem_cons] at joined
      cases rest with
      | nil =>
          rw [List.intercalate_singleton]
          exact joined.1
      | cons second rest =>
          rw [List.intercalate_cons_cons, List.append_assoc, List.singleton_append]
          exact joined.1.append (ih (List.cons_ne_nil _ _) joined.2)

/-- The words of a name of letters, digits and underscores are joined by underscores. -/
theorem isJoined_wordsOf (name : ∀ c ∈ s, isNameChar c = true) (some : wordsOf s ≠ []) :
    IsJoined (List.intercalate ['_'] (wordsOf s)) := by
  refine isJoined_intercalate some fun word listed => ?_
  exact isJoined_of_word (ne_nil_of_mem_runsOf listed) fun c => isAlphanum_of_mem_wordsOf name listed

/-- A text of letters and digits has at least one word. -/
theorem wordsOf_ne_nil (nonempty : s ≠ []) (alphanum : ∀ c ∈ s, c.isAlphanum = true) : wordsOf s ≠ [] := by
  obtain ⟨c, rest, rfl⟩ := List.exists_cons_of_ne_nil nonempty
  obtain ⟨run, runs, words⟩ := exists_wordsOf (alphanum c List.mem_cons_self) rest
  rw [words]
  exact List.cons_ne_nil _ _

/-! ## Upper case -/

/-- On ASCII text the upper case is taken character by character. -/
theorem upperChars_eq_map (ascii : ∀ c ∈ s, isAscii c = true) : upperChars s = s.map Char.toUpper := by
  induction s with
  | nil => rfl
  | cons c rest ih =>
      rw [List.forall_mem_cons] at ascii
      rw [upperChars, List.flatMap_cons, ← upperChars, ih ascii.2, upperChar, if_pos ascii.1, List.singleton_append,
        List.map_cons]

/-- Upper-casing neither makes nor loses an underscore. -/
theorem toUpper_eq_underscore {c : Char} (h : c.isAlphanum = true ∨ c = '_') : c.toUpper = '_' ↔ c = '_' := by
  rcases h with alphanum | rfl
  · have upper := ne_underscore_of_isAlphanum (isAlphanum_toUpper alphanum)
    simp [upper, ne_underscore_of_isAlphanum alphanum]
  · decide

/-- Upper case keeps joined words joined. -/
theorem IsJoined.upperChars (h : IsJoined s) : IsJoined (upperChars s) := by
  have ascii : ∀ c ∈ s, isAscii c = true := by
    intro c member
    rcases h.letters c member with alphanum | rfl
    · exact isAscii_of_isAlphanum alphanum
    · decide
  have same {c : Char} (member : c ∈ s) (mark : c.toUpper = '_') : c = '_' :=
    (toUpper_eq_underscore (h.letters c member)).1 mark
  rw [upperChars_eq_map ascii]
  constructor
  · simpa using h.nonempty
  · intro c member
    obtain ⟨d, inText, rfl⟩ := List.mem_map.1 member
    exact (h.letters d inText).imp isAlphanum_toUpper fun mark => (toUpper_eq_underscore (.inr mark)).2 mark
  · intro isHead
    rw [List.head?_map] at isHead
    obtain ⟨c, head, mark⟩ := Option.map_eq_some_iff.1 isHead
    exact h.first (same (List.mem_of_head? head) mark ▸ head)
  · intro isLast
    rw [List.getLast?_map] at isLast
    obtain ⟨c, last, mark⟩ := Option.map_eq_some_iff.1 isLast
    exact h.last (same (List.mem_of_getLast? last) mark ▸ last)
  · refine (List.isChain_map _).2 (h.single.imp_of_mem_imp fun c d inC inD apart => ?_)
    exact apart.imp (mt (same inC)) (mt (same inD))

end Text

open Text

/-! ## Names of constants -/

/-- A name of capital letters and digits with single underscores between them, and one in front of a digit at the beginning. -/
structure IsConstantName (s : String) : Prop where
  nonempty : s ≠ ""
  characters : ∀ c ∈ s.toList, isConstantChar c = true
  first : ∀ c ∈ s.toList.head?, c.isDigit = false
  last : s.toList.getLast? ≠ some '_'
  single : s.toList.IsChain fun c d => c ≠ '_' ∨ d ≠ '_'
  underscored : ∀ rest, s.toList = '_' :: rest → ∃ d ∈ rest.head?, d.isDigit = true

/-- A name with underscores on both sides, one or two. A class of members keeps these for itself. -/
def IsReservedMember (s : String) : Prop :=
  ∃ mark ∈ ["_", "__"], ∃ inner, s = mark ++ inner ++ mark

/-- A label without letters and digits is named `VALUE`. The name of any other one is of joined words, with an underscore in
front of a digit. -/
theorem constantName_eq (label : String) :
    constantName label = "VALUE" ∨ ∃ c rest, IsJoined (c :: rest) ∧
      constantName label = String.ofList (if c.isDigit then '_' :: c :: rest else c :: rest) := by
  let parts := (runsOf Char.isAlphanum label.toList).map fun run => List.intercalate ['_'] (wordsOf run)
  by_cases none : parts = []
  · left
    have empty : upperChars (List.intercalate ['_'] parts) = [] := by rw [none]; rfl
    unfold constantName
    simp only
    rw [empty]
  · right
    have joined : ∀ part ∈ parts, IsJoined part := by
      intro part listed
      obtain ⟨run, inLabel, rfl⟩ := List.mem_map.1 listed
      have alphanum : ∀ c ∈ run, c.isAlphanum = true := fun c member => (mem_runsOf inLabel member).1
      exact isJoined_wordsOf (fun c member => isNameChar_of_isAlphanum (alphanum c member))
        (wordsOf_ne_nil (ne_nil_of_mem_runsOf inLabel) alphanum)
    have upper := (isJoined_intercalate none joined).upperChars
    obtain ⟨c, rest, chars⟩ := List.exists_cons_of_ne_nil upper.nonempty
    refine ⟨c, rest, chars ▸ upper, ?_⟩
    unfold constantName
    simp only
    rw [chars]

/-- Whatever the label is, the constant's name is one a constant can have. -/
theorem isConstantName_constantName (label : String) : IsConstantName (constantName label) := by
  have characters := isConstantChar_of_mem_constantName label
  have nonempty := constantName_ne_empty label
  rcases constantName_eq label with value | ⟨c, rest, joined, name⟩
  · rw [value]
    constructor
    · decide
    · simp [isConstantChar]
    · simp
    · decide
    · simp
    · intro rest same
      cases same
  · have notMark : c ≠ '_' := fun mark => joined.first (mark ▸ rfl)
    by_cases digit : c.isDigit = true
    · rw [if_pos digit] at name
      rw [name] at characters nonempty ⊢
      refine ⟨nonempty, characters, ?_, ?_, ?_, ?_⟩ <;> rw [String.toList_ofList]
      · simp
      · rw [List.getLast?_cons_cons]
        exact joined.last
      · exact List.isChain_cons_cons.2 ⟨.inr notMark, joined.single⟩
      · rintro _ same
        cases same
        exact ⟨c, rfl, digit⟩
    · rw [if_neg digit] at name
      rw [name] at characters nonempty ⊢
      refine ⟨nonempty, characters, ?_, ?_, ?_, ?_⟩ <;> rw [String.toList_ofList]
      · simpa using digit
      · exact joined.last
      · exact joined.single
      · intro others same
        exact absurd (List.cons.inj same).1 notMark

/-- The characters of a constant's name are ASCII. -/
theorem isAscii_of_isConstantChar {c : Char} (h : isConstantChar c = true) : isAscii c = true := by
  simp only [isConstantChar, Bool.or_eq_true, beq_iff_eq] at h
  rcases h with (upper | digit) | rfl
  · apply isAscii_of_isAlphanum
    apply isAlphanum_of_isAlpha
    show (c.isUpper || c.isLower) = true
    rw [upper, Bool.true_or]
  · apply isAscii_of_isAlphanum
    rw [Char.isAlphanum, digit, Bool.or_true]
  · decide

namespace IsConstantName

variable {s : String}

/-- A constant begins with a capital or an underscore, so it is an identifier. -/
theorem isIdentifier (h : IsConstantName s) : isIdentifier s = true := by
  have starts {c : Char} (constant : isConstantChar c = true) : c.isDigit = false → isIdentifierStart c = true :=
    forall_ascii (p := fun c => isConstantChar c = true → c.isDigit = false → isIdentifierStart c = true) (by decide)
      (isAscii_of_isConstantChar constant) constant
  have continues {c : Char} (constant : isConstantChar c = true) : isIdentifierContinue c = true :=
    forall_ascii (p := fun c => isConstantChar c = true → isIdentifierContinue c = true) (by decide)
      (isAscii_of_isConstantChar constant) constant
  cases chars : s.toList with
  | nil => exact absurd (String.toList_eq_nil_iff.1 chars) h.nonempty
  | cons c rest =>
      have characters := h.characters
      have first := h.first
      rw [chars] at characters first
      rw [List.forall_mem_cons] at characters
      exact isIdentifier_iff.2
        ⟨c, rest, chars, starts characters.1 (first c rfl), fun d member => continues (characters.2 d member)⟩

/-- Every keyword holds a small letter. -/
theorem not_mem_keywords (h : IsConstantName s) : s ∉ keywords := by
  have small : ∀ keyword ∈ keywords, keyword.toList.all isConstantChar = false := by decide
  intro listed
  exact Bool.false_ne_true ((small s listed).symm.trans (List.all_eq_true.2 h.characters))

/-- A constant ends in no underscore, so it is none of the names that a class keeps for itself. -/
theorem not_isReservedMember (h : IsConstantName s) : ¬ IsReservedMember s := by
  rintro ⟨mark, listed, inner, rfl⟩
  have marked : mark.toList.getLast? = some '_' := by
    simp only [List.mem_cons, List.not_mem_nil, or_false] at listed
    rcases listed with rfl | rfl <;> rfl
  apply h.last
  rw [String.toList_append, List.getLast?_append, marked]
  rfl

end IsConstantName

/-- Every label, whatever its characters, becomes a name that a member can have: a constant, and so an identifier that is no
keyword and none of the names with underscores on both sides. -/
theorem constantName_legal (label : String) :
    IsConstantName (constantName label) ∧ constantName label ∉ keywords ∧ isIdentifier (constantName label) = true ∧
      ¬ IsReservedMember (constantName label) := by
  have constant := isConstantName_constantName label
  exact ⟨constant, constant.not_mem_keywords, constant.isIdentifier, constant.not_isReservedMember⟩

example : constantName "2nd--Place!" = "_2ND_PLACE" := rfl

/-- The members of an enumeration that was built are constants. -/
theorem EnumDescriptor.isConstantName_of_mem {e : Entity} {f : Field} {d : EnumDescriptor} (made : ofField e f = .ok d)
    {m : EnumMember} (member : m ∈ d.members) : IsConstantName m.name := by
  obtain ⟨values, options, -, -, members⟩ := members_eq made
  rw [members] at member
  obtain ⟨option, -, rfl⟩ := List.mem_map.1 member
  exact isConstantName_constantName _

end ResourceScaffold
