import ResourceScaffold.Value.Basic
import ResourceScaffold.Number.Text
import ResourceScaffold.Text.Quoted

/-!
# Values in text

`Value.literal` writes a value as it stands in generated code and, quoted, in messages; `Value.wide` is the same except
that a text is written as it is, and `Value.display` shows that in characters. A collection inside itself is left out.
-/

namespace ResourceScaffold

/-- An offset from universal time as it follows a time of day. -/
def offsetText (minutes : Int) : String :=
  (if minutes < 0 then "-" else "+") ++ natPadded 2 (minutes.natAbs / 60) ++ ":" ++ natPadded 2 (minutes.natAbs % 60)

/-- The arguments with which an offset from universal time is constructed, and the constructor. -/
def offsetLiteral (minutes : Int) : String :=
  let seconds := minutes * 60
  if minutes = 0 then "datetime.timezone.utc"
  else
    let days := seconds.fdiv 86400
    let rest := seconds.fmod 86400
    "datetime.timezone(datetime.timedelta(" ++
      (if days = 0 then "" else "days=" ++ intText days ++ ", ") ++ "seconds=" ++ intText rest ++ "))"

/-- A date in the order year, month, day; a time of day after a blank. -/
def Moment.text (m : Moment) : String :=
  natPadded 4 m.year ++ "-" ++ natPadded 2 m.month ++ "-" ++ natPadded 2 m.day ++
    match m.time with
    | none => ""
    | some t =>
        " " ++ natPadded 2 t.hour ++ ":" ++ natPadded 2 t.minute ++ ":" ++ natPadded 2 t.second ++
          (if t.microsecond = 0 then "" else "." ++ natPadded 6 t.microsecond) ++
          (match t.offset with
            | none => ""
            | some minutes => offsetText minutes)

/-- The constructor call that denotes a date. -/
def Moment.literal (m : Moment) : String :=
  let date := String.intercalate ", " ([m.year, m.month, m.day].map (intText ∘ Int.ofNat))
  match m.time with
  | none => "datetime.date(" ++ date ++ ")"
  | some t =>
      let seconds :=
        if t.microsecond ≠ 0 then [t.second, t.microsecond] else if t.second ≠ 0 then [t.second] else []
      "datetime.datetime(" ++
        String.intercalate ", " (date :: ((t.hour :: t.minute :: seconds).map (intText ∘ Int.ofNat))) ++
        (match t.offset with
          | none => ""
          | some minutes => ", tzinfo=" ++ offsetLiteral minutes) ++ ")"

/-- What stands for a collection inside its own literal. -/
def Value.ellipsis : Value → String
  | .list _ => "[...]"
  | _ => "\x7b...\x7d"

mutual

/-- The literal of a value inside collections with the given marks. -/
def Value.literalWithin (around : List Nat) : Value → String
  | .null => "None"
  | .bool b => if b then "True" else "False"
  | .int i => intText i
  | .float x => x.text
  | .text s => Text.quoted s
  | .illFormed t => Text.quoted t.text
  | .moment m => m.literal
  | .bytes data => Text.quotedBytes data
  | .list items => "[" ++ String.intercalate ", " (itemLiterals around items) ++ "]"
  | .pair a b => "(" ++ a.literalWithin around ++ ", " ++ b.literalWithin around ++ ")"
  | .set [] => "set()"
  | .set (item :: rest) => "\x7b" ++ String.intercalate ", " (itemLiterals around (item :: rest)) ++ "\x7d"
  | .mapping entries => "\x7b" ++ String.intercalate ", " (entryLiterals around entries) ++ "\x7d"
  | .marked mark v => if around.contains mark then v.ellipsis else v.literalWithin (mark :: around)

/-- The literals of list items. -/
def itemLiterals (around : List Nat) : List Value → List String
  | [] => []
  | item :: rest => item.literalWithin around :: itemLiterals around rest

/-- The literals of mapping entries. -/
def entryLiterals (around : List Nat) : List (Value × Value) → List String
  | [] => []
  | entry :: rest => entryLiteral around entry :: entryLiterals around rest

/-- The literal of one mapping entry. -/
def entryLiteral (around : List Nat) : Value × Value → String
  | (key, value) => key.literalWithin around ++ ": " ++ value.literalWithin around

end

/-- The literal of a value. -/
def Value.literal (v : Value) : String :=
  v.literalWithin []

/-- A value as it is inserted into a text of characters, where an ill-formed text can only be shown. -/
def Value.display : Value → String
  | .text s => s
  | .illFormed t => t.text.shown
  | .moment m => m.text
  | value => value.literal

/-- A value as it is inserted into a text of code points. -/
def Value.wide : Value → WideText
  | .illFormed t => t.text
  | value => value.display

@[simp] theorem Value.display_text (s : String) : (Value.text s).display = s := rfl

@[simp] theorem Value.wide_text (s : String) : (Value.text s).wide = s := rfl

/-- A value is shown as the text that is inserted for it. -/
@[simp] theorem Value.shown_wide (v : Value) : v.wide.shown = v.display := by
  cases v <;> simp [wide, display]

/-- A text of code points is inserted as it is. -/
@[simp] theorem Value.wide_ofWide (t : WideText) : (ofWide t).wide = t := by
  unfold ofWide
  split
  · rfl
  · next wellFormed => exact WideText.ofString_shown (by simpa using wellFormed)

/-- A text is the one that is inserted for it. -/
theorem Value.IsText.ofWide_wide {v : Value} (h : v.IsText) : ofWide v.wide = v := by
  cases h with
  | text s => exact ofWide_ofString s
  | illFormed t => exact ofWide_text t

/-- The literal of a text of code points. -/
theorem Value.literal_ofWide (t : WideText) : (ofWide t).literal = Text.quoted t := by
  unfold ofWide
  split
  · rfl
  · next wellFormed =>
      exact congrArg Text.quoted (WideText.ofString_shown (by simpa using wellFormed))

end ResourceScaffold
