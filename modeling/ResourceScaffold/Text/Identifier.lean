import ResourceScaffold.Text.CharacterClass
import ResourceScaffold.Text.CodePoint

/-!
# Identifiers and keywords of the generated code
-/

namespace ResourceScaffold.Text

/-- Whether a text is an identifier: a start character followed by continue characters. -/
def isIdentifierChars : List Char → Bool
  | [] => false
  | c :: rest => isIdentifierStart c && rest.all isIdentifierContinue

/-- Whether a string is an identifier. -/
def isIdentifier (s : String) : Bool :=
  isIdentifierChars s.toList

/-- An identifier is a character that may begin one, and then characters that may follow. -/
theorem isIdentifier_iff {s : String} :
    isIdentifier s = true ↔
      ∃ first rest, s.toList = first :: rest ∧ isIdentifierStart first = true ∧ ∀ c ∈ rest, isIdentifierContinue c = true := by
  unfold isIdentifier
  cases chars : s.toList with
  | nil => simp [isIdentifierChars]
  | cons first rest =>
      rw [isIdentifierChars, Bool.and_eq_true, List.all_eq_true]
      constructor
      · intro usable
        exact ⟨first, rest, rfl, usable⟩
      · rintro ⟨first', rest', same, usable⟩
        cases same
        exact usable

/-- The replacement character is in no identifier, so a text with a surrogate is not shown as one. -/
theorem isIdentifier_shown (t : IllFormedText) : isIdentifier t.text.shown = false := by
  have unusable : isIdentifierStart '\ufffd' = false ∧ isIdentifierContinue '\ufffd' = false := by decide +kernel
  have member := t.replacement_mem_shown
  rw [Bool.eq_false_iff]
  intro usable
  obtain ⟨first, rest, chars, start, continues⟩ := isIdentifier_iff.1 usable
  rw [chars, List.mem_cons] at member
  rcases member with rfl | later
  · exact Bool.false_ne_true (unusable.1.symm.trans start)
  · exact Bool.false_ne_true (unusable.2.symm.trans (continues _ later))

/-- The words that generated code cannot use as names. -/
def keywords : List String :=
  ["False", "None", "True", "and", "as", "assert", "async", "await", "break", "class", "continue", "def", "del",
   "elif", "else", "except", "finally", "for", "from", "global", "if", "import", "in", "is", "lambda", "nonlocal",
   "not", "or", "pass", "raise", "return", "try", "while", "with", "yield"]

/-- Whether a string is a keyword. -/
def isKeyword (s : String) : Bool :=
  keywords.contains s

end ResourceScaffold.Text
