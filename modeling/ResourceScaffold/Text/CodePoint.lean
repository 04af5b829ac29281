/-!
# Code points

A text that is written with escapes can hold surrogates: code points that are halves of a pair and no characters. Such a text is
ill-formed. It differs from every other text and has a literal, but no encoding, so it can neither be sent nor stored.
-/

namespace ResourceScaffold

/-- A code point: a character, or one of the surrogates, which are none. -/
inductive CodePoint where
  | char (c : Char)
  /-- The surrogate with a number, counted from the first one. -/
  | surrogate (n : Fin 0x800)
  deriving DecidableEq, Repr, Inhabited

namespace CodePoint

/-- The code point with a number. -/
def ofNat (n : Nat) : CodePoint :=
  if h : 0xd800 ≤ n ∧ n < 0xe000 then surrogate ⟨n - 0xd800, by omega⟩ else char (Char.ofNat n)

/-- The number of a code point. -/
def toNat : CodePoint → Nat
  | char c => c.toNat
  | surrogate n => 0xd800 + n

/-- Whether a code point is a character with a property. -/
def satisfies (p : Char → Bool) : CodePoint → Bool
  | char c => p c
  | surrogate _ => false

/-- Whether a code point is a surrogate. -/
def isSurrogate : CodePoint → Bool
  | char _ => false
  | surrogate _ => true

/-- The character that shows a code point: a surrogate is shown by the replacement character. -/
def shown : CodePoint → Char
  | char c => c
  | surrogate _ => '\ufffd'

end CodePoint

/-- A text of code points. -/
structure WideText where
  points : List CodePoint
  deriving DecidableEq, Repr, Inhabited

namespace WideText

/-- A text of characters. -/
def ofString (s : String) : WideText :=
  ⟨s.toList.map .char⟩

instance : Coe String WideText := ⟨ofString⟩

instance : Append WideText := ⟨fun s t => ⟨s.points ++ t.points⟩⟩

/-- Several texts one after the other, with a text between them. -/
def intercalate (separator : WideText) (parts : List WideText) : WideText :=
  ⟨(parts.intersperse separator).flatMap points⟩

/-- Whether a text has no surrogates. -/
def isWellFormed (t : WideText) : Bool :=
  t.points.all fun p => !p.isSurrogate

/-- The characters that show a text. -/
def shown (t : WideText) : String :=
  String.ofList (t.points.map CodePoint.shown)

@[simp] theorem points_ofString (s : String) : (ofString s).points = s.toList.map .char := rfl

@[simp] theorem shown_ofString (s : String) : (ofString s).shown = s := by
  simp [shown, CodePoint.shown, Function.comp_def]

@[simp] theorem isWellFormed_ofString (s : String) : (ofString s).isWellFormed = true := by
  simp [isWellFormed, CodePoint.isSurrogate]

/-- A text without surrogates is a text of characters. -/
theorem ofString_shown {t : WideText} (h : t.isWellFormed = true) : ofString t.shown = t := by
  obtain ⟨points⟩ := t
  rw [isWellFormed, List.all_eq_true] at h
  simp only [ofString, shown, String.toList_ofList, List.map_map, mk.injEq]
  rw [List.map_congr_left (g := id), List.map_id]
  intro p member
  cases p with
  | char c => rfl
  | surrogate n => cases h _ member

/-- A text after another one is well-formed iff both are. -/
@[simp] theorem isWellFormed_append (s t : WideText) : (s ++ t).isWellFormed = (s.isWellFormed && t.isWellFormed) :=
  List.all_append

end WideText

/-- A text that has a surrogate. -/
structure IllFormedText where
  text : WideText
  illFormed : text.isWellFormed = false
  deriving DecidableEq, Repr

namespace IllFormedText

/-- A text that has a surrogate is not empty. -/
theorem points_ne_nil (t : IllFormedText) : t.text.points ≠ [] := by
  intro empty
  have illFormed := t.illFormed
  rw [WideText.isWellFormed, empty] at illFormed
  cases illFormed

/-- The replacement character shows a surrogate, so it is in what is shown of a text that has one. -/
theorem replacement_mem_shown (t : IllFormedText) : '\ufffd' ∈ t.text.shown.toList := by
  have illFormed := t.illFormed
  rw [WideText.isWellFormed, List.all_eq_false] at illFormed
  obtain ⟨p, member, surrogate⟩ := illFormed
  rw [WideText.shown, String.toList_ofList, List.mem_map]
  refine ⟨p, member, ?_⟩
  cases p with
  | char c => exact absurd rfl surrogate
  | surrogate n => rfl

/-- A text that is not well formed is shown with at least one character. -/
theorem shown_ne_empty (t : IllFormedText) : t.text.shown ≠ "" := by
  intro empty
  have member := t.replacement_mem_shown
  rw [empty] at member
  cases member

end IllFormedText

end ResourceScaffold
