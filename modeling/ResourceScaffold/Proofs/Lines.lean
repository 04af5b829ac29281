import Mathlib.Data.List.Infix
import Mathlib.Data.List.TakeWhile
import ResourceScaffold.Code.Text
import ResourceScaffold.Text.Lines

/-!
# Lines of generated code

The text of a module is read back line by line. A line is an import when its first word is `from` or `import`
(`importSource?`); what it imports from is generated code unless it is one of the libraries.

Most texts in generated code are made of fixed parts and of names. Two properties show that no line of such a text is an
import. A text is an `Opening` when it has differed from an import before its end, so that any text without a line feed may
follow. It is `Calm` when each of its lines is blank or has differed from an import; this is kept when texts are joined.
-/

namespace ResourceScaffold.Text

/-! ## Cutting at line feeds -/

/-- Every text has a line. -/
theorem splitOnNewline_ne_nil (s : List Char) : splitOnNewline s ≠ [] := by
  cases s with
  | nil => simp [splitOnNewline]
  | cons c rest =>
      unfold splitOnNewline
      split
      · simp
      · split <;> simp

/-- A text without a line feed is one line. -/
theorem splitOnNewline_of_not_mem {s : List Char} (h : '\n' ∉ s) : splitOnNewline s = [s] := by
  induction s with
  | nil => rfl
  | cons c rest ih =>
      rw [List.mem_cons, not_or] at h
      rw [splitOnNewline, if_neg (Ne.symm h.1), ih h.2]

/-- A text of which the first line is known. -/
theorem splitOnNewline_cons {c : Char} {rest line : List Char} {lines : List (List Char)} (h : c ≠ '\n')
    (split : splitOnNewline rest = line :: lines) : splitOnNewline (c :: rest) = (c :: line) :: lines := by
  rw [splitOnNewline, if_neg h, split]

/-- The last line of a text goes on with the first line of what follows. -/
theorem splitOnNewline_append {s t last first : List Char} {front others : List (List Char)}
    (hs : splitOnNewline s = front ++ [last]) (ht : splitOnNewline t = first :: others) :
    splitOnNewline (s ++ t) = front ++ (last ++ first) :: others := by
  induction s generalizing front last with
  | nil =>
      obtain ⟨rfl, same⟩ := List.append_eq_singleton_iff.1 hs.symm |>.resolve_right (by simp)
      cases same
      exact ht
  | cons c rest ih =>
      by_cases feed : c = '\n'
      · rw [splitOnNewline, if_pos feed] at hs
        rw [List.cons_append, splitOnNewline, if_pos feed]
        cases front with
        | nil => exact absurd (List.cons.inj hs).2 (splitOnNewline_ne_nil rest)
        | cons line lines =>
            obtain ⟨rfl, tail⟩ := List.cons.inj hs
            rw [ih tail, List.cons_append]
      · obtain ⟨line, lines, split⟩ := List.exists_cons_of_ne_nil (splitOnNewline_ne_nil rest)
        rw [splitOnNewline_cons feed split] at hs
        cases front with
        | nil =>
            obtain ⟨rfl, rfl⟩ := List.cons.inj hs
            have inner := ih (show splitOnNewline rest = [] ++ [line] from split)
            exact splitOnNewline_cons feed inner
        | cons head lines' =>
            obtain ⟨rfl, rfl⟩ := List.cons.inj hs
            have inner := ih (show splitOnNewline rest = (line :: lines') ++ [last] from split)
            exact splitOnNewline_cons feed inner

/-- A line feed ends a line. -/
theorem splitOnNewline_append_newline (s t : List Char) :
    splitOnNewline (s ++ '\n' :: t) = splitOnNewline s ++ splitOnNewline t := by
  have front := List.dropLast_concat_getLast (splitOnNewline_ne_nil s)
  have feed : splitOnNewline ('\n' :: t) = [] :: splitOnNewline t := by rw [splitOnNewline, if_pos rfl]
  rw [splitOnNewline_append front.symm feed, List.append_nil, ← List.singleton_append, ← List.append_assoc, front]

/-- A line of two joined texts is a line of either, or the last line of the one and the first line of the other. -/
theorem mem_splitOnNewline_append {s t line : List Char} (h : line ∈ splitOnNewline (s ++ t)) :
    line ∈ splitOnNewline s ∨ line ∈ splitOnNewline t ∨
      ∃ last ∈ splitOnNewline s, ∃ first ∈ splitOnNewline t, line = last ++ first := by
  have front := List.dropLast_concat_getLast (splitOnNewline_ne_nil s)
  obtain ⟨first, others, split⟩ := List.exists_cons_of_ne_nil (splitOnNewline_ne_nil t)
  rw [splitOnNewline_append front.symm split, List.mem_append, List.mem_cons] at h
  rcases h with inFront | rfl | inOthers
  · exact .inl (List.mem_of_mem_dropLast inFront)
  · exact .inr (.inr ⟨_, List.getLast_mem _, first, split ▸ List.mem_cons_self, rfl⟩)
  · exact .inr (.inl (split ▸ List.mem_cons_of_mem _ inOthers))

end ResourceScaffold.Text

namespace ResourceScaffold.Code

/-! ## Lines that are imports -/

/-- The lines of a text. -/
def linesOf (s : String) : List (List Char) :=
  Text.splitOnNewline s.toList

/-- What a line imports from, if it is an import. -/
def importSource? (line : List Char) : Option (List Char) :=
  let code := line.dropWhile (· == ' ')
  let source (keyword : String) := (code.drop keyword.length).takeWhile (· != ' ')
  if "from ".toList.isPrefixOf code then some (source "from ")
  else if "import ".toList.isPrefixOf code then some (source "import ")
  else none

/-- The libraries that generated code imports from. -/
def libraries : List String :=
  ["__future__", "datetime", "enum", "fastapi", "fastapi.testclient", "json", "pydantic", "typing", "unittest.mock"]

/-- Whether a line imports from generated code. -/
def importsGenerated (line : List Char) : Bool :=
  match importSource? line with
  | some source => !libraries.any fun library => library.toList == source
  | none => false

/-! ## Texts that are no imports -/

/-- Whether two texts differ at a place that both have. -/
def differ : List Char → List Char → Bool
  | a :: s, b :: t => a != b || differ s t
  | _, _ => false

/-- Texts that differ still differ when the first one is continued. -/
theorem differ_append {s t : List Char} (h : differ s t = true) (rest : List Char) : differ (s ++ rest) t = true := by
  induction s generalizing t with
  | nil => simp [differ] at h
  | cons a s ih =>
      cases t with
      | nil => simp [differ] at h
      | cons b t =>
          simp only [differ, Bool.or_eq_true] at h
          simp only [List.cons_append, differ, Bool.or_eq_true]
          exact h.imp_right ih

/-- A text that differs from another one does not begin with it. -/
theorem isPrefixOf_of_differ {s t : List Char} (h : differ s t = true) : t.isPrefixOf s = false := by
  induction s generalizing t with
  | nil => simp [differ] at h
  | cons a s ih =>
      cases t with
      | nil => simp [differ] at h
      | cons b t =>
          simp only [differ, Bool.or_eq_true, bne_iff_ne] at h
          rw [List.isPrefixOf, Bool.and_eq_false_iff, beq_eq_false_iff_ne]
          exact h.imp Ne.symm ih

/-- A word that a mark ends differs from each other word that a blank ends. -/
theorem differ_word {word key rest : List Char} {mark : Char} (blank : ' ' ∉ word) (other : mark ∉ key)
    (visible : mark ≠ ' ') : differ (word ++ mark :: rest) (key ++ [' ']) = true := by
  induction word generalizing key with
  | nil =>
      cases key with
      | nil => simp [differ, visible]
      | cons k key =>
          have different : mark ≠ k := fun same => other (same ▸ List.mem_cons_self)
          simp [differ, different]
  | cons c word ih =>
      rw [List.mem_cons, not_or] at blank
      cases key with
      | nil => simp [differ, Ne.symm blank.1]
      | cons k key =>
          simp only [List.cons_append, differ, Bool.or_eq_true]
          exact .inr (ih blank.2 fun member => other (List.mem_cons_of_mem _ member))

/-- Whether a text has differed, after its blanks, from an import. -/
def isOther (s : List Char) : Bool :=
  let code := s.dropWhile (· == ' ')
  differ code "from ".toList && differ code "import ".toList

/-- Whether a text is blank or has differed from an import. -/
def isInert (s : List Char) : Bool :=
  s.all (· == ' ') || isOther s

/-- What follows the blanks of a text is continued with the text. -/
theorem dropWhile_append_of_ne_nil {s rest : List Char} (h : s.dropWhile (· == ' ') ≠ []) :
    (s ++ rest).dropWhile (· == ' ') = s.dropWhile (· == ' ') ++ rest := by
  rw [List.dropWhile_append, if_neg (by simpa using h)]

/-- A text that has differed from an import still has when it is continued. -/
theorem isOther_append {s : List Char} (h : isOther s = true) (rest : List Char) : isOther (s ++ rest) = true := by
  unfold isOther at h ⊢
  rw [Bool.and_eq_true] at h
  have code : s.dropWhile (· == ' ') ≠ [] := by
    intro empty
    rw [empty] at h
    simp [differ] at h
  rw [dropWhile_append_of_ne_nil code, Bool.and_eq_true]
  exact ⟨differ_append h.1 rest, differ_append h.2 rest⟩

/-- Blanks before a text do not matter. -/
theorem isOther_blanks_append {blanks : List Char} (h : blanks.all (· == ' ') = true) (s : List Char) :
    isOther (blanks ++ s) = isOther s := by
  have dropped : (blanks ++ s).dropWhile (· == ' ') = s.dropWhile (· == ' ') := by
    rw [List.dropWhile_append_of_pos (by simpa using h)]
  rw [isOther, isOther, dropped]

/-- Two blank or different texts one after the other are blank or different. -/
theorem isInert_append {s t : List Char} (hs : isInert s = true) (ht : isInert t = true) : isInert (s ++ t) = true := by
  rw [isInert, Bool.or_eq_true] at hs ht ⊢
  rcases hs with blanks | other
  · rw [isOther_blanks_append blanks, List.all_append, blanks, Bool.true_and]
    exact ht
  · exact .inr (isOther_append other t)

/-- A line that has differed from an import is none. -/
theorem importSource?_of_isOther {line : List Char} (h : isOther line = true) : importSource? line = none := by
  rw [isOther, Bool.and_eq_true] at h
  rw [importSource?, isPrefixOf_of_differ h.1, isPrefixOf_of_differ h.2]
  rfl

/-- An inert line is no import. -/
theorem importsGenerated_of_isInert {line : List Char} (h : isInert line = true) : importsGenerated line = false := by
  have noImport : importSource? line = none := by
    rw [isInert, Bool.or_eq_true] at h
    rcases h with blanks | other
    · have nothing : line.dropWhile (· == ' ') = [] := List.dropWhile_eq_nil_iff.2 (by simpa using blanks)
      rw [importSource?, nothing]
      rfl
    · exact importSource?_of_isOther other
  rw [importsGenerated, noImport]

/-! ## Texts of fixed parts and names -/

/-- A text in one line that has differed from an import. -/
structure Opening (s : String) : Prop where
  other : isOther s.toList = true
  noFeed : '\n' ∉ s.toList

/-- A text none of whose lines begins an import. -/
def Calm (s : String) : Prop :=
  ∀ line ∈ linesOf s, isInert line = true

/-- Whether a text is an opening can be tested. -/
instance (s : String) : Decidable (Opening s) :=
  decidable_of_iff (isOther s.toList = true ∧ '\n' ∉ s.toList) ⟨fun h => ⟨h.1, h.2⟩, fun h => ⟨h.other, h.noFeed⟩⟩

/-- Whether a text is calm can be tested. -/
instance (s : String) : Decidable (Calm s) :=
  inferInstanceAs (Decidable (∀ line ∈ linesOf s, isInert line = true))

variable {s t : String}

/-- An opening may be continued in its line. -/
theorem Opening.append (h : Opening s) (noFeed : '\n' ∉ t.toList) : Opening (s ++ t) where
  other := by
    rw [String.toList_append]
    exact isOther_append h.other _
  noFeed := by
    rw [String.toList_append, List.mem_append, not_or]
    exact ⟨h.noFeed, noFeed⟩

/-- A text without a line feed has one line. -/
theorem linesOf_of_noFeed (h : '\n' ∉ s.toList) : linesOf s = [s.toList] :=
  Text.splitOnNewline_of_not_mem h

/-- An opening is calm. -/
theorem Opening.calm (h : Opening s) : Calm s := by
  intro line member
  rw [linesOf_of_noFeed h.noFeed, List.mem_singleton] at member
  rw [member, isInert, h.other, Bool.or_true]

/-- The characters of a literal are compared without decoding it. -/
theorem calm_of_chars {chars : List Char} (h : s = String.ofList chars)
    (inert : ∀ line ∈ Text.splitOnNewline chars, isInert line = true) : Calm s := by
  rwa [h, Calm, linesOf, String.toList_ofList]

/-- A calm text may be continued by a calm one. -/
theorem Calm.append (hs : Calm s) (ht : Calm t) : Calm (s ++ t) := by
  intro line member
  rw [linesOf, String.toList_append] at member
  rcases Text.mem_splitOnNewline_append member with left | right | ⟨last, inLeft, first, inRight, rfl⟩
  · exact hs line left
  · exact ht line right
  · exact isInert_append (hs last inLeft) (ht first inRight)

/-! ## The lines of a module -/

/-- The lines of joined texts, each of which a line feed ends. -/
theorem linesOf_intercalate {texts : List String} (h : texts ≠ []) :
    linesOf (String.intercalate "\n" texts ++ "\n") = texts.flatMap linesOf ++ [[]] := by
  have feed (s : String) (t : List Char) : Text.splitOnNewline (s.toList ++ "\n".toList ++ t) =
      linesOf s ++ Text.splitOnNewline t := by
    rw [List.append_assoc]
    exact Text.splitOnNewline_append_newline s.toList t
  induction texts with
  | nil => exact absurd rfl h
  | cons first rest ih =>
      cases rest with
      | nil =>
          have split := feed first []
          rw [List.append_nil] at split
          rw [String.intercalate_singleton, linesOf, String.toList_append, split]
          simp [Text.splitOnNewline]
      | cons second rest =>
          rw [String.intercalate_cons_cons, String.append_assoc, linesOf, String.toList_append, String.toList_append, feed,
            List.flatMap_cons, List.append_assoc, ← ih (List.cons_ne_nil _ _)]
          rfl

/-- The lines of a module are those of its parts, and an empty one after the last line feed. -/
theorem SourceModule.linesOf_content {m : SourceModule} (h : m.lines ≠ []) :
    linesOf m.content = m.lines.flatMap linesOf ++ [[]] :=
  linesOf_intercalate h

end ResourceScaffold.Code
