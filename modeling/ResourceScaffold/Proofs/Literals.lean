import ResourceScaffold.Json.Writer
import ResourceScaffold.Proofs.Lines
import ResourceScaffold.Value.Layout

/-!
# Literals in generated code

The literal of a value holds no control character (`Value.isVisible_literal`): texts and bytes escape them, and everything else
is made of numbers, brackets and fixed words. So it is in one line, and as it begins like no import, it is an opening
(`Value.opening_literal`).

A literal over several lines is made of literals, marks and line breaks; what is true of these and of joined texts is true of
it (`Value.layout_keeps`). In particular it is calm (`Value.calm_layout`).
-/

namespace ResourceScaffold

open Code

/-! ## Texts in one line -/

/-- Two texts one after the other have no line feed iff neither of them has one. -/
theorem feed_not_mem_append {s t : String} : '\n' ∉ (s ++ t).toList ↔ '\n' ∉ s.toList ∧ '\n' ∉ t.toList := by
  rw [String.toList_append, List.mem_append, not_or]

/-- A character of joined texts is one of a text or of the separator. -/
theorem mem_intercalate_texts {separator : String} {texts : List String} {c : Char}
    (h : c ∈ (separator.intercalate texts).toList) : c ∈ separator.toList ∨ ∃ t ∈ texts, c ∈ t.toList := by
  induction texts with
  | nil => simp at h
  | cons first rest ih =>
      cases rest with
      | nil =>
          rw [String.intercalate_singleton] at h
          exact .inr ⟨first, List.mem_cons_self, h⟩
      | cons second rest =>
          rw [String.intercalate_cons_cons, String.toList_append, String.toList_append, List.mem_append, List.mem_append] at h
          rcases h with (here | between) | later
          · exact .inr ⟨first, List.mem_cons_self, here⟩
          · exact .inl between
          · exact (ih later).imp_right fun ⟨t, listed, member⟩ => ⟨t, List.mem_cons_of_mem _ listed, member⟩

/-- Texts joined by a separator have no line feed if neither they nor the separator have one. -/
theorem feed_not_mem_intercalate {separator : String} {texts : List String} (h : '\n' ∉ separator.toList)
    (each : ∀ t ∈ texts, '\n' ∉ t.toList) : '\n' ∉ (separator.intercalate texts).toList := by
  intro feed
  rcases mem_intercalate_texts feed with between | ⟨t, listed, inText⟩
  · exact h between
  · exact each t listed inText

/-- A text that begins with none of a blank and the first letters of imports. -/
theorem isOther_cons {c : Char} {rest : List Char} (blank : c ≠ ' ') (f : c ≠ 'f') (i : c ≠ 'i') :
    isOther (c :: rest) = true := by
  simp [isOther, differ, blank, f, i]

/-! ## Visible texts -/

/-- A text without control characters. -/
def IsVisible (s : String) : Prop :=
  ∀ c ∈ s.toList, 32 ≤ c.toNat

/-- Whether a text is visible can be tested. -/
instance (s : String) : Decidable (IsVisible s) :=
  List.decidableBAll _ s.toList

namespace IsVisible

variable {s t : String}

/-- A visible text has no control character. -/
theorem not_mem (h : IsVisible s) {b : Char} (control : b.toNat < 32) : b ∉ s.toList :=
  fun member => Nat.not_lt_of_le (h b member) control

/-- In particular it has no line feed. -/
theorem noFeed (h : IsVisible s) : '\n' ∉ s.toList :=
  h.not_mem (by decide)

/-- A visible text after another one is visible. -/
theorem append (hs : IsVisible s) (ht : IsVisible t) : IsVisible (s ++ t) := by
  intro c member
  rw [String.toList_append, List.mem_append] at member
  exact member.elim (hs c) (ht c)

/-- Visible texts joined by a visible separator are visible. -/
theorem intercalate {texts : List String} (separator : IsVisible s) (each : ∀ t ∈ texts, IsVisible t) :
    IsVisible (s.intercalate texts) := by
  intro c member
  rcases mem_intercalate_texts member with between | ⟨t, listed, inText⟩
  · exact separator c between
  · exact each t listed c inText

/-- A visible text that begins like no import is an opening. -/
theorem opening (h : IsVisible s) (other : isOther s.toList = true) : Opening s :=
  ⟨other, h.noFeed⟩

end IsVisible

/-- Characters that are written out are compared one by one. -/
theorem visible_of_all {chars : List Char} (fixed : chars.all (32 ≤ ·.toNat) = true) {c : Char} (member : c ∈ chars) :
    32 ≤ c.toNat :=
  of_decide_eq_true (List.all_eq_true.1 fixed c member)

/-- Characters from the blank on make a visible text. -/
theorem isVisible_ofList {s : List Char} (h : ∀ c ∈ s, 32 ≤ c.toNat) : IsVisible (String.ofList s) := by
  rwa [IsVisible, String.toList_ofList]

/-! ## Numbers -/

namespace Text

/-- The digits of a number are those collected before and digits of the base. -/
theorem mem_toDigitsCore {base fuel n : Nat} {digits : List Char} {c : Char}
    (h : c ∈ Nat.toDigitsCore base fuel n digits) : c ∈ digits ∨ ∃ k, c = Nat.digitChar k := by
  induction fuel generalizing n digits with
  | zero => exact .inl h
  | succ fuel ih =>
      have first {k : Nat} (member : c ∈ Nat.digitChar k :: digits) : c ∈ digits ∨ ∃ k, c = Nat.digitChar k := by
        rcases List.mem_cons.1 member with rfl | others
        · exact .inr ⟨k, rfl⟩
        · exact .inl others
      rw [Nat.toDigitsCore] at h
      split at h
      · exact first h
      · rcases ih h with member | digit
        · exact first member
        · exact .inr digit

/-- Padded hexadecimal digits are visible. -/
theorem visible_of_mem_hexPadded {width n : Nat} {c : Char} (h : c ∈ hexPadded width n) : 32 ≤ c.toNat := by
  rcases List.mem_append.1 h with zero | digit
  · rw [List.eq_of_mem_replicate zero]
    decide
  · rcases mem_toDigitsCore digit with none | ⟨k, rfl⟩
    · cases none
    · by_cases small : k < 16
      · have each : ∀ k < 16, 32 ≤ (Nat.digitChar k).toNat := by decide
        exact each k small
      · rw [Nat.digitChar_eq_star.2 (Nat.le_of_not_lt small)]
        decide

end Text

/-- The characters of finite numbers. -/
def isNumeral (c : Char) : Bool :=
  c.isDigit || c == '.' || c == '-' || c == '+' || c == 'e'

/-- The text of a finite number. -/
structure IsNumber (s : String) : Prop where
  nonempty : s.toList ≠ []
  numerals : ∀ c ∈ s.toList, isNumeral c = true

namespace IsNumber

variable {s : String}

/-- Numerals are visible. -/
theorem isVisible (h : IsNumber s) : IsVisible s := by
  intro c member
  refine Nat.le_of_not_lt fun control => ?_
  have none : ∀ n < 32, isNumeral (Char.ofNat n) = false := by decide
  have numeral := h.numerals c member
  rw [← Char.ofNat_toNat c, none _ control] at numeral
  cases numeral

/-- A number is in one line and begins like no import. -/
theorem opening (h : IsNumber s) : Opening s := by
  refine h.isVisible.opening ?_
  cases chars : s.toList with
  | nil => exact absurd chars h.nonempty
  | cons c rest =>
      have different {d : Char} (other : isNumeral d = false) : c ≠ d := by
        rintro rfl
        rw [h.numerals c (by simp [chars])] at other
        cases other
      exact isOther_cons (different rfl) (different rfl) (different rfl)

end IsNumber

/-- Numerals that are at least one make a number. -/
theorem isNumber_ofList {s : List Char} (nonempty : s ≠ []) (h : ∀ c ∈ s, isNumeral c = true) :
    IsNumber (String.ofList s) :=
  ⟨by rwa [String.toList_ofList], by rwa [String.toList_ofList]⟩

/-- A decimal digit is a numeral. -/
theorem isNumeral_of_mem_natDigits {n : Nat} {c : Char} (h : c ∈ natDigits n) : isNumeral c = true := by
  rw [isNumeral, Nat.isDigit_of_mem_toDigits (by decide) (by decide) h]
  rfl

/-- An integer is written as a number. -/
theorem isNumber_intText (i : Int) : IsNumber (intText i) := by
  cases i with
  | ofNat n => exact isNumber_ofList Nat.toDigits_ne_nil fun c => isNumeral_of_mem_natDigits
  | negSucc n =>
      refine isNumber_ofList (List.cons_ne_nil _ _) fun c member => ?_
      rcases List.mem_cons.1 member with rfl | digit
      · rfl
      · exact isNumeral_of_mem_natDigits digit

/-- So are the digits of a floating-point number, with a point or an exponent. -/
theorem Binary64.isNumeral_of_mem_digitsText {digits : List Char} (h : ∀ c ∈ digits, isNumeral c = true) {e : Int}
    {c : Char} (member : c ∈ digitsText digits e) : isNumeral c = true := by
  have zeros {n : Nat} (zero : c ∈ List.replicate n '0') : isNumeral c = true := by
    rw [List.eq_of_mem_replicate zero]
    rfl
  have taken {n : Nat} (part : c ∈ digits.take n) : isNumeral c = true := h c (List.mem_of_mem_take part)
  have dropped {n : Nat} (part : c ∈ digits.drop n) : isNumeral c = true := h c (List.mem_of_mem_drop part)
  unfold digitsText at member
  split at member
  · split at member
    · simp only [List.mem_cons, List.mem_append] at member
      rcases member with rfl | rfl | zero | digit
      · rfl
      · rfl
      · exact zeros zero
      · exact h c digit
    · simp only [List.mem_cons, List.mem_append] at member
      rcases member with (part | zero) | rfl | fraction
      · exact taken part
      · exact zeros zero
      · rfl
      · split at fraction
        · rw [List.mem_singleton.1 fraction]
          rfl
        · exact dropped fraction
  · simp only [List.mem_cons, List.mem_append] at member
    rcases member with (part | fraction) | rfl | sign | zero | digit
    · exact taken part
    · split at fraction
      · cases fraction
      · rcases List.mem_cons.1 fraction with rfl | part
        · rfl
        · exact dropped part
    · rfl
    · rw [sign]
      split <;> rfl
    · exact zeros zero
    · exact isNumeral_of_mem_natDigits digit

/-- There is at least one of them. -/
theorem Binary64.digitsText_ne_nil (digits : List Char) (e : Int) : digitsText digits e ≠ [] := by
  unfold digitsText
  split
  · split <;> simp
  · simp

/-- A finite floating-point number is written as a number. -/
theorem Binary64.isNumber_finite (negative : Bool) (mantissa : Nat) (exponent : Int) :
    IsNumber (finite negative mantissa exponent).text := by
  let body := if mantissa = 0 then ['0', '.', '0'] else
    digitsText (natDigits (shortest mantissa exponent).1)
      ((shortest mantissa exponent).2 + (natDigits (shortest mantissa exponent).1).length - 1)
  have numeral : body ≠ [] ∧ ∀ c ∈ body, isNumeral c = true := by
    by_cases zero : mantissa = 0
    · simp only [body, if_pos zero]
      exact ⟨List.cons_ne_nil _ _, List.all_eq_true.1 (by decide)⟩
    · simp only [body, if_neg zero]
      exact ⟨digitsText_ne_nil _ _, fun c => isNumeral_of_mem_digitsText fun c => isNumeral_of_mem_natDigits⟩
  have text : (finite negative mantissa exponent).text = String.ofList (if negative then '-' :: body else body) := rfl
  rw [text]
  cases negative with
  | true =>
      refine isNumber_ofList (List.cons_ne_nil _ _) fun c member => ?_
      rcases List.mem_cons.1 member with rfl | others
      · rfl
      · exact numeral.2 c others
  | false => exact isNumber_ofList numeral.1 numeral.2

/-- Every floating-point number is written in visible characters. -/
theorem Binary64.isVisible_text (x : Binary64) : IsVisible x.text := by
  cases x with
  | nan => decide
  | infinite negative => cases negative <;> decide
  | finite negative mantissa exponent => exact (isNumber_finite negative mantissa exponent).isVisible

/-- A floating-point number begins like no import. -/
theorem Binary64.opening_text (x : Binary64) : Opening x.text := by
  cases x with
  | nan => decide
  | infinite negative => cases negative <;> decide
  | finite negative mantissa exponent => exact (isNumber_finite negative mantissa exponent).opening

/-! ## Texts, bytes and dates -/

namespace Text

/-- A character that stands for itself in a literal is no control character. -/
theorem visible_of_isPrintable {c : Char} (h : isPrintable c = true) : 32 ≤ c.toNat := by
  by_cases ascii : isAscii c = true
  · rw [isPrintable, if_pos ascii, Bool.and_eq_true] at h
    exact of_decide_eq_true h.1
  · have high : ¬ c.toNat < 128 := fun low => ascii (decide_eq_true low)
    omega

/-- A character of a quoted text is visible, because control characters are escaped. -/
theorem visible_of_mem_quoteChar {quote c d : Char} (visible : 32 ≤ quote.toNat) (h : d ∈ quoteChar quote c) :
    32 ≤ d.toNat := by
  have number (chars : List Char) (fixed : chars.all (32 ≤ ·.toNat) = true) {width n : Nat}
      (member : d ∈ chars ++ hexPadded width n) : 32 ≤ d.toNat :=
    (List.mem_append.1 member).elim (visible_of_all fixed) visible_of_mem_hexPadded
  unfold quoteChar at h
  split at h
  · next special =>
      simp only [List.mem_cons, List.not_mem_nil, or_false] at h
      rcases h with rfl | rfl
      · decide
      · rcases special with rfl | rfl
        · exact visible
        · decide
  · repeat' split at h
    · exact visible_of_all (by decide) h
    · exact visible_of_all (by decide) h
    · exact visible_of_all (by decide) h
    · next printable =>
        rw [List.mem_singleton.1 h]
        exact visible_of_isPrintable printable
    · exact number ['\\', 'x'] (by decide) h
    · exact number ['\\', 'u'] (by decide) h
    · exact number ['\\', 'U'] (by decide) h

/-- What a code point is written as in a literal is no control character. -/
theorem visible_of_mem_quotePoint {quote d : Char} {p : CodePoint} (visible : 32 ≤ quote.toNat) (h : d ∈ quotePoint quote p) :
    32 ≤ d.toNat := by
  cases p with
  | char c => exact visible_of_mem_quoteChar visible h
  | surrogate n =>
      rw [quotePoint, List.mem_cons, List.mem_cons] at h
      rcases h with rfl | rfl | digit
      · decide
      · decide
      · exact visible_of_mem_hexPadded digit

/-- A text is quoted by one of two marks. -/
theorem quoteFor_eq (s : List CodePoint) : quoteFor s = '"' ∨ quoteFor s = '\'' := by
  unfold quoteFor
  split
  · exact .inl rfl
  · exact .inr rfl

/-- Both of them are visible. -/
theorem visible_quoteFor (s : List CodePoint) : 32 ≤ (quoteFor s).toNat := by
  rcases quoteFor_eq s with double | single
  · rw [double]
    decide
  · rw [single]
    decide

/-- A quoted text is visible, whatever is in it. -/
theorem isVisible_quotedChars (s : List CodePoint) : IsVisible (String.ofList (quotedChars s)) := by
  refine isVisible_ofList fun c member => ?_
  rw [quotedChars, List.mem_cons, List.mem_append, List.mem_flatMap, List.mem_singleton] at member
  rcases member with rfl | ⟨d, -, escaped⟩ | rfl
  · exact visible_quoteFor s
  · exact visible_of_mem_quotePoint (visible_quoteFor s) escaped
  · exact visible_quoteFor s

/-- A quoted text is in one line and begins like no import. -/
theorem opening_quotedChars (s : List CodePoint) : Opening (String.ofList (quotedChars s)) := by
  refine (isVisible_quotedChars s).opening ?_
  rw [String.toList_ofList, quotedChars]
  rcases quoteFor_eq s with double | single
  · rw [double]
    exact isOther_cons (by decide) (by decide) (by decide)
  · rw [single]
    exact isOther_cons (by decide) (by decide) (by decide)

/-- Quoted bytes are visible. -/
theorem isVisible_quotedBytes (data : List UInt8) : IsVisible (quotedBytes data) := by
  have quote := visible_quoteFor (data.map fun b => .char (Char.ofNat b.toNat))
  refine isVisible_ofList fun c member => ?_
  rw [List.mem_cons, List.mem_cons, List.mem_append, List.mem_flatMap, List.mem_singleton] at member
  rcases member with rfl | rfl | ⟨b, -, escaped⟩ | rfl
  · decide
  · exact quote
  · unfold quoteByte at escaped
    split at escaped
    · exact visible_of_mem_quoteChar quote escaped
    · simp only [List.mem_cons] at escaped
      rcases escaped with rfl | rfl | digit
      · decide
      · decide
      · exact visible_of_mem_hexPadded digit
  · exact quote

/-- They begin like no import. -/
theorem opening_quotedBytes (data : List UInt8) : Opening (quotedBytes data) := by
  refine (isVisible_quotedBytes data).opening ?_
  rw [quotedBytes, String.toList_ofList]
  exact isOther_cons (by decide) (by decide) (by decide)

end Text

/-- An offset from universal time is written in visible characters. -/
theorem isVisible_offsetLiteral (minutes : Int) : IsVisible (offsetLiteral minutes) := by
  have number (i : Int) := (isNumber_intText i).isVisible
  have fixed : IsVisible "datetime.timezone(datetime.timedelta(" ∧ IsVisible "seconds=" ∧ IsVisible "))" := by decide
  have days : IsVisible "days=" := by decide
  unfold offsetLiteral
  simp only
  split
  · decide
  · refine (((fixed.1.append ?_).append fixed.2.1).append (number _)).append fixed.2.2
    split
    · decide
    · exact (days.append (number _)).append (by decide)

/-- The numbers of a date, with commas between them. -/
theorem isVisible_numbers (numbers : List Nat) :
    IsVisible (String.intercalate ", " (numbers.map (intText ∘ Int.ofNat))) := by
  refine .intercalate (by decide) fun t member => ?_
  obtain ⟨n, -, rfl⟩ := List.mem_map.1 member
  exact (isNumber_intText _).isVisible

/-- A date is written in visible characters. -/
theorem Moment.isVisible_literal (m : Moment) : IsVisible m.literal := by
  have call : IsVisible "datetime.date(" ∧ IsVisible "datetime.datetime(" ∧ IsVisible ", tzinfo=" ∧ IsVisible ")" := by decide
  unfold Moment.literal
  cases m.time with
  | none => exact (call.1.append (isVisible_numbers _)).append call.2.2.2
  | some t =>
      refine ((call.2.1.append ?_).append ?_).append call.2.2.2
      · refine .intercalate (by decide) fun text member => ?_
        rcases List.mem_cons.1 member with rfl | part
        · exact isVisible_numbers _
        · obtain ⟨n, -, rfl⟩ := List.mem_map.1 part
          exact (isNumber_intText _).isVisible
      · cases t.offset with
        | none => decide
        | some minutes => exact call.2.2.1.append (isVisible_offsetLiteral minutes)

/-- A date begins like no import. -/
theorem Moment.opening_literal (m : Moment) : Opening m.literal := by
  refine m.isVisible_literal.opening ?_
  have call : isOther "datetime.date(".toList = true ∧ isOther "datetime.datetime(".toList = true := by decide
  unfold Moment.literal
  cases m.time with
  | none =>
      simp only [String.toList_append]
      exact isOther_append (isOther_append call.1 _) _
  | some t =>
      simp only [String.toList_append]
      exact isOther_append (isOther_append (isOther_append call.2 _) _) _

/-! ## Values in one line -/

/-- What stands for a collection inside itself begins like no import. -/
theorem Value.opening_ellipsis (v : Value) : Opening v.ellipsis := by
  cases v with
  | list items => exact (by decide : Opening "[...]")
  | _ => exact (by decide : Opening "\x7b...\x7d")

/-- It is visible. -/
theorem Value.isVisible_ellipsis (v : Value) : IsVisible v.ellipsis := by
  cases v with
  | list items => exact (by decide : IsVisible "[...]")
  | _ => exact (by decide : IsVisible "\x7b...\x7d")

/-- Texts between brackets, with commas between them. -/
theorem isVisible_bracketed {left right : String} {texts : List String} (hl : IsVisible left) (hr : IsVisible right)
    (each : ∀ t ∈ texts, IsVisible t) : IsVisible (left ++ String.intercalate ", " texts ++ right) :=
  (hl.append (.intercalate (by decide) each)).append hr

mutual

/-- The literal of a value is visible: texts in it are quoted. -/
theorem Value.isVisible_literalWithin (around : List Nat) : (v : Value) → IsVisible (v.literalWithin around)
  | .null => (by decide : IsVisible "None")
  | .bool true => (by decide : IsVisible "True")
  | .bool false => (by decide : IsVisible "False")
  | .int i => (isNumber_intText i).isVisible
  | .float x => x.isVisible_text
  | .text s => Text.isVisible_quotedChars (WideText.ofString s).points
  | .illFormed t => Text.isVisible_quotedChars t.text.points
  | .moment m => m.isVisible_literal
  | .bytes data => Text.isVisible_quotedBytes data
  | .list items => isVisible_bracketed (by decide) (by decide) (isVisible_itemLiterals around items)
  | .pair a b => by
      have bracket : IsVisible "(" := by decide
      have first := a.isVisible_literalWithin around
      have second := b.isVisible_literalWithin around
      exact (((bracket.append first).append (by decide)).append second).append (by decide)
  | .set [] => (by decide : IsVisible "set()")
  | .set (item :: rest) => isVisible_bracketed (by decide) (by decide) (isVisible_itemLiterals around (item :: rest))
  | .mapping entries => isVisible_bracketed (by decide) (by decide) (isVisible_entryLiterals around entries)
  | .marked mark v => by
      unfold Value.literalWithin
      split
      · exact v.isVisible_ellipsis
      · exact v.isVisible_literalWithin (mark :: around)

/-- So are the literals of the items of a list. -/
theorem isVisible_itemLiterals (around : List Nat) : (items : List Value) →
    ∀ t ∈ itemLiterals around items, IsVisible t
  | [] => fun t member => by cases member
  | item :: rest => fun t member => by
      rcases List.mem_cons.1 member with rfl | others
      · exact item.isVisible_literalWithin around
      · exact isVisible_itemLiterals around rest t others

/-- So are those of the entries of a mapping. -/
theorem isVisible_entryLiterals (around : List Nat) : (entries : List (Value × Value)) →
    ∀ t ∈ entryLiterals around entries, IsVisible t
  | [] => fun t member => by cases member
  | entry :: rest => fun t member => by
      rcases List.mem_cons.1 member with rfl | others
      · exact isVisible_entryLiteral around entry
      · exact isVisible_entryLiterals around rest t others

/-- So is that of one entry. -/
theorem isVisible_entryLiteral (around : List Nat) : (entry : Value × Value) → IsVisible (entryLiteral around entry)
  | (key, value) =>
      ((key.isVisible_literalWithin around).append (by decide)).append (value.isVisible_literalWithin around)

end

/-- The literal of a value holds no control character. -/
theorem Value.isVisible_literal (v : Value) : IsVisible v.literal :=
  v.isVisible_literalWithin []

/-- A text that continues an opening bracket begins like no import if the bracket does. -/
theorem isOther_bracketed {left : String} (h : isOther left.toList = true) (inner right : String) :
    isOther (left ++ inner ++ right).toList = true := by
  rw [String.toList_append, String.toList_append]
  exact isOther_append (isOther_append h _) _

/-- The literal of a value begins like no import. -/
theorem Value.opening_literalWithin (around : List Nat) (v : Value) : Opening (v.literalWithin around) := by
  refine (v.isVisible_literalWithin around).opening ?_
  match v with
  | .null => exact (by decide : Opening "None").other
  | .bool true => exact (by decide : Opening "True").other
  | .bool false => exact (by decide : Opening "False").other
  | .int i => exact (isNumber_intText i).opening.other
  | .float x => exact x.opening_text.other
  | .text s => exact (Text.opening_quotedChars (WideText.ofString s).points).other
  | .illFormed t => exact (Text.opening_quotedChars t.text.points).other
  | .moment m => exact m.opening_literal.other
  | .bytes data => exact (Text.opening_quotedBytes data).other
  | .list items => exact isOther_bracketed (by decide) _ _
  | .pair a b =>
      have bracket : isOther "(".toList = true := by decide
      simp only [Value.literalWithin, String.toList_append]
      exact isOther_append (isOther_append (isOther_append (isOther_append bracket _) _) _) _
  | .set [] => exact (by decide : Opening "set()").other
  | .set (item :: rest) => exact isOther_bracketed (by decide) _ _
  | .mapping entries => exact isOther_bracketed (by decide) _ _
  | .marked mark v =>
      unfold Value.literalWithin
      split
      · exact v.opening_ellipsis.other
      · exact (v.opening_literalWithin (mark :: around)).other

/-- The literal of a value is in one line and begins like no import. -/
theorem Value.opening_literal (v : Value) : Opening v.literal :=
  v.opening_literalWithin []

/-! ## Values over several lines -/

namespace Layout

/-- A property that literals, marks and line breaks have, and joined texts if each of them has it. -/
structure Keeps (p : String → Prop) : Prop where
  literal : ∀ v : Value, p v.literal
  mark : ∀ t ∈ ["(", ")", "[", "]", "\x7b", "\x7d", ",", ": "], p t
  newline : ∀ n, p (newline n)
  empty : p ""
  append : ∀ {s t}, p s → p t → p (s ++ t)

namespace Keeps

variable {p : String → Prop} (h : Keeps p) {indent allowance : Nat}
include h

/-- A property that is kept by literals holds of a quoted text. -/
theorem quotedChars (s : List CodePoint) : p (String.ofList (Text.quotedChars s)) := by
  have text := h.literal (.ofWide ⟨s⟩)
  rwa [Value.literal_ofWide] at text

/-- It holds of quoted bytes. -/
theorem quotedBytes (data : List UInt8) : p (Text.quotedBytes data) :=
  h.literal (.bytes data)

/-- It holds of texts joined by a separator that has it. -/
theorem intercalate {separator : String} {texts : List String} (between : p separator) (each : ∀ t ∈ texts, p t) :
    p (separator.intercalate texts) := by
  induction texts with
  | nil => exact h.empty
  | cons first rest ih =>
      have others := ih fun t member => each t (List.mem_cons_of_mem _ member)
      have head := each first List.mem_cons_self
      cases rest with
      | nil => rwa [String.intercalate_singleton]
      | cons second rest =>
          rw [String.intercalate_cons_cons]
          exact h.append (h.append head between) others

/-- It holds of the lines into which the words of a text are gathered. -/
theorem joinParts {current : List CodePoint} {parts : List (List CodePoint)} :
    ∀ t ∈ joinParts indent allowance current parts, p t := by
  have piece (points : List CodePoint) :
      ∀ t ∈ if points.isEmpty then [] else [String.ofList (Text.quotedChars points)], p t := by
    intro t member
    split at member
    · cases member
    · rw [List.mem_singleton.1 member]
      exact h.quotedChars points
  induction parts generalizing current with
  | nil => exact piece current
  | cons part rest ih =>
      intro t member
      unfold Layout.joinParts at member
      simp only at member
      generalize fits (Text.quotedChars (current ++ part)).length indent _ = whole at member
      split at member
      · exact ih t member
      · rcases List.mem_append.1 member with here | later
        · exact piece current t here
        · exact ih t later

/-- It holds of the pieces of the lines of a text. -/
theorem lineChunks {lines : List (List CodePoint)} : ∀ t ∈ lineChunks indent allowance lines, p t := by
  induction lines with
  | nil => exact fun t none => absurd none List.not_mem_nil
  | cons line rest ih =>
      intro t member
      unfold Layout.lineChunks at member
      simp only at member
      rcases List.mem_append.1 member with here | later
      · generalize fits (Text.quotedChars line).length indent _ = whole at here
        split at here
        · rw [List.mem_singleton.1 here]
          exact h.quotedChars line
        · exact h.joinParts t here
      · exact ih t later

/-- It holds of the lines into which groups of bytes are gathered. -/
theorem joinGroups {current : List UInt8} {groups : List (List UInt8)} :
    ∀ t ∈ joinGroups indent allowance current groups, p t := by
  have piece (bytes : List UInt8) : ∀ t ∈ if bytes.isEmpty then [] else [Text.quotedBytes bytes], p t := by
    intro t member
    split at member
    · cases member
    · rw [List.mem_singleton.1 member]
      exact h.quotedBytes bytes
  induction groups generalizing current with
  | nil => exact piece current
  | cons group rest ih =>
      intro t member
      unfold Layout.joinGroups at member
      simp only at member
      generalize fits (Text.quotedBytes (current ++ group)).length indent _ = whole at member
      split at member
      · exact ih t member
      · rcases List.mem_append.1 member with here | later
        · exact piece current t here
        · exact ih t later

/-- Pieces below each other, perhaps in parentheses. -/
theorem pieces {pieces : List String} (each : ∀ t ∈ pieces, p t) (outermost : Bool) :
    p (if outermost then "(" ++ String.intercalate (Layout.newline indent) pieces ++ ")"
      else String.intercalate (Layout.newline indent) pieces) := by
  have body := h.intercalate (h.newline indent) each
  cases outermost with
  | true => exact h.append (h.append (h.mark _ (by simp)) body) (h.mark _ (by simp))
  | false => exact body

/-- It holds of a text that is broken into pieces. -/
theorem brokenText (outermost : Bool) (t : WideText) : p (brokenText indent allowance outermost t) := by
  unfold Layout.brokenText
  simp only
  split
  · exact h.quotedChars _
  · exact h.pieces h.lineChunks outermost

/-- It holds of bytes that are broken into pieces. -/
theorem brokenBytes (outermost : Bool) (data : List UInt8) : p (brokenBytes indent allowance outermost data) :=
  h.pieces h.joinGroups outermost

/-- Parts of a collection below each other, between brackets. -/
theorem stacked {left right : String} {parts : List String} (hl : p left) (hr : p right) (each : ∀ t ∈ parts, p t) :
    p (left ++ String.intercalate ("," ++ Layout.newline indent) parts ++ right) :=
  h.append (h.append hl (h.intercalate (h.append (h.mark _ (by simp)) (h.newline indent)) each)) hr

end Keeps

end Layout

open Layout

section

variable {p : String → Prop}

mutual

/-- It holds of the layout of a value, at any indentation and width. -/
theorem Value.layoutAt_keeps (h : Keeps p) (indent allowance : Nat) (outermost : Bool) : (v : Value) →
    p (v.layoutAt indent allowance outermost)
  | .text s => by
      unfold Value.layoutAt
      simp only
      split
      · exact h.quotedChars (WideText.ofString s).points
      · exact h.brokenText outermost s
  | .illFormed t => by
      unfold Value.layoutAt
      simp only
      split
      · exact h.quotedChars t.text.points
      · exact h.brokenText outermost t.text
  | .bytes data => by
      unfold Value.layoutAt
      simp only
      split
      · exact h.quotedBytes data
      · exact h.brokenBytes outermost data
  | .list items => by
      unfold Value.layoutAt
      simp only
      split
      · exact h.literal _
      · exact h.stacked (h.mark _ (by simp)) (h.mark _ (by simp)) (itemLayouts_keeps h indent allowance items)
  | .pair first second => by
      unfold Value.layoutAt
      simp only
      split
      · exact h.literal _
      · have above := first.layoutAt_keeps h (indent + 1) 1 false
        have under := second.layoutAt_keeps h (indent + 1) (allowance + 1) false
        have left := h.append (h.append (h.mark "(" (by simp)) above) (h.mark "," (by simp))
        exact h.append (h.append (h.append left (h.newline _)) under) (h.mark ")" (by simp))
  | .mapping entries => by
      unfold Value.layoutAt
      simp only
      split
      · exact h.literal _
      · exact h.stacked (h.mark _ (by simp)) (h.mark _ (by simp)) (entryLayouts_keeps h indent allowance entries)
  | .marked _ v => v.layoutAt_keeps h indent allowance outermost
  | .null => h.literal _
  | .bool _ => h.literal _
  | .int _ => h.literal _
  | .float _ => h.literal _
  | .moment _ => h.literal _
  | .set _ => h.literal _

/-- It holds of the layouts of the items of a list. -/
theorem itemLayouts_keeps (h : Keeps p) (indent allowance : Nat) : (items : List Value) →
    ∀ t ∈ itemLayouts indent allowance items, p t
  | [] => fun t member => by cases member
  | item :: rest => fun t member => by
      rcases List.mem_cons.1 member with rfl | others
      · exact item.layoutAt_keeps h _ _ false
      · exact itemLayouts_keeps h indent allowance rest t others

/-- It holds of the layouts of the entries of a mapping. -/
theorem entryLayouts_keeps (h : Keeps p) (indent allowance : Nat) : (entries : List (Value × Value)) →
    ∀ t ∈ entryLayouts indent allowance entries, p t
  | [] => fun t member => by cases member
  | entry :: rest => fun t member => by
      rcases List.mem_cons.1 member with rfl | others
      · exact entryLayout_keeps h indent _ entry
      · exact entryLayouts_keeps h indent allowance rest t others

/-- It holds of the layout of one entry. -/
theorem entryLayout_keeps (h : Keeps p) (indent allowance : Nat) : (entry : Value × Value) →
    p (entryLayout indent allowance entry)
  | (key, value) => h.append (h.append (h.literal key) (h.mark ": " (by simp))) (value.layoutAt_keeps h _ allowance false)

end

/-- The parts of the literal of a value determine what is kept of it. -/
theorem Value.layout_keeps (h : Keeps p) (v : Value) : p v.layout :=
  v.layoutAt_keeps h 0 0 true

end

/-- A line feed and blanks keep a text calm. -/
theorem Layout.calm_newline (n : Nat) : Calm (newline n) := by
  intro line member
  have blanks : '\n' ∉ List.replicate n ' ' := fun feed => absurd (List.eq_of_mem_replicate feed) (by decide)
  have split : linesOf (newline n) = [[], List.replicate n ' '] := by
    simp only [linesOf, newline, String.toList_append, String.toList_ofList]
    have lines := Text.splitOnNewline_append_newline [] (List.replicate n ' ')
    rw [Text.splitOnNewline_of_not_mem blanks] at lines
    exact lines
  rw [split] at member
  simp only [List.mem_cons, List.not_mem_nil, or_false] at member
  rcases member with rfl | rfl
  · rfl
  · simp [isInert]

/-- No line of the literal of a value begins an import. -/
theorem Value.calm_layout (v : Value) : Calm v.layout :=
  v.layout_keeps
    { literal := fun v => v.opening_literal.calm, mark := by decide, newline := calm_newline, empty := by decide
      append := Calm.append }

/-! ## JSON texts -/

/-- A text as JSON is visible, because what is not is escaped. -/
theorem Json.isVisible_string (t : WideText) : IsVisible (Json.string t) := by
  have unit {n : Nat} {d : Char} (member : d ∈ unitEscape n) : 32 ≤ d.toNat := by
    simp only [unitEscape, List.mem_cons] at member
    rcases member with rfl | rfl | digit
    · decide
    · decide
    · exact Text.visible_of_mem_hexPadded digit
  have escaped {c d : Char} (member : d ∈ escapeChar c) : 32 ≤ d.toNat := by
    unfold escapeChar at member
    repeat' split at member
    · exact visible_of_all (by decide) member
    · exact visible_of_all (by decide) member
    · exact visible_of_all (by decide) member
    · exact visible_of_all (by decide) member
    · exact visible_of_all (by decide) member
    · exact visible_of_all (by decide) member
    · exact visible_of_all (by decide) member
    · next printable =>
        rw [List.mem_singleton.1 member]
        exact printable.1
    · exact unit member
    · exact (List.mem_append.1 member).elim unit unit
  refine isVisible_ofList fun c member => ?_
  rw [stringChars, List.mem_cons, List.mem_append, List.mem_flatMap, List.mem_singleton] at member
  rcases member with rfl | ⟨p, -, member⟩ | rfl
  · decide
  · cases p with
    | char d => exact escaped member
    | surrogate n => exact unit member
  · decide

end ResourceScaffold
