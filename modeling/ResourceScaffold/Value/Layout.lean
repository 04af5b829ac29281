import ResourceScaffold.Value.Literal
import ResourceScaffold.Text.Lines

/-!
# Literals over several lines

A literal that does not fit into a line of 80 characters is broken: a mapping or list has one entry per line, a text is
cut after its line breaks and between its words into adjacent literals, and bytes are cut into groups of four. Widths
count characters from the start of the literal; `allowance` is the room that closing brackets need after it.
-/

namespace ResourceScaffold

namespace Layout

/-- The width of a line. -/
def lineWidth : Nat := 80

/-- Whether a text of the given length fits between `indent` and `allowance`. -/
def fits (length indent allowance : Nat) : Bool :=
  decide (length + indent + allowance ≤ lineWidth)

/-- The longest parts of a line that are a run of non-blank code points and the blanks after it. -/
def wordParts (line : List CodePoint) : List (List CodePoint) :=
  match line with
  | [] => []
  | [p] => [[p]]
  | p :: q :: rest =>
      match wordParts (q :: rest) with
      | part :: parts =>
          if p.satisfies Text.isBlank && !q.satisfies Text.isBlank then [p] :: part :: parts else (p :: part) :: parts
      | [] => [[p]]

/-- Joins parts greedily into pieces whose literals fit, given the part joined so far. The last part of the last line has
to leave room for `allowance` too. -/
def joinParts (indent allowance : Nat) (current : List CodePoint) : List (List CodePoint) → List String
  | [] => if current.isEmpty then [] else [String.ofList (Text.quotedChars current)]
  | part :: rest =>
      let room := if rest.isEmpty then allowance else 0
      if fits (Text.quotedChars (current ++ part)).length indent room then
        joinParts indent allowance (current ++ part) rest
      else
        (if current.isEmpty then [] else [String.ofList (Text.quotedChars current)]) ++
          joinParts indent allowance part rest

/-- The literals into which the lines of a text are cut. -/
def lineChunks (indent allowance : Nat) : List (List CodePoint) → List String
  | [] => []
  | line :: rest =>
      let room := if rest.isEmpty then allowance else 0
      let whole := Text.quotedChars line
      (if fits whole.length indent room then [String.ofList whole]
        else joinParts indent room [] (wordParts line)) ++ lineChunks indent allowance rest

/-- A line break and `n` spaces. -/
def newline (n : Nat) : String :=
  "\n" ++ String.ofList (List.replicate n ' ')

/-- A text that does not fit into its line: its pieces below each other, in parentheses when it is the whole literal. A
single piece is written as the literal of the last line. -/
def brokenText (indent allowance : Nat) (outermost : Bool) (t : WideText) : String :=
  let lines := Text.splitLines t.points
  let indent := if outermost then indent + 1 else indent
  let allowance := if outermost then allowance + 1 else allowance
  match lineChunks indent allowance lines with
  | [_] => String.ofList (Text.quotedChars (lines.getLast?.getD []))
  | chunks =>
      let body := String.intercalate (newline indent) chunks
      if outermost then "(" ++ body ++ ")" else body

/-- Bytes in groups of four, the last of which may be shorter. -/
def byteGroups : List UInt8 → List (List UInt8)
  | a :: b :: c :: d :: rest => [a, b, c, d] :: byteGroups rest
  | [] => []
  | rest => [rest]

/-- Joins groups of bytes greedily into pieces whose literals fit, given the bytes joined so far. A last group that is
shorter has to leave room for `allowance` too. -/
def joinGroups (indent allowance : Nat) (current : List UInt8) : List (List UInt8) → List String
  | [] => if current.isEmpty then [] else [Text.quotedBytes current]
  | group :: rest =>
      let room := if group.length < 4 then allowance else 0
      if fits (Text.quotedBytes (current ++ group)).length indent room then
        joinGroups indent allowance (current ++ group) rest
      else
        (if current.isEmpty then [] else [Text.quotedBytes current]) ++ joinGroups indent allowance group rest

/-- Bytes that do not fit into their line: their pieces below each other, in parentheses when they are the whole
literal. -/
def brokenBytes (indent allowance : Nat) (outermost : Bool) (data : List UInt8) : String :=
  let indent := if outermost then indent + 1 else indent
  let allowance := if outermost then allowance + 1 else allowance
  let body := String.intercalate (newline indent) (joinGroups indent allowance [] (byteGroups data))
  if outermost then "(" ++ body ++ ")" else body

end Layout

open Layout

mutual

/-- The literal of a value that begins at column `indent` and is followed by `allowance` characters on its last line. -/
def Value.layoutAt (indent allowance : Nat) (outermost : Bool) : Value → String
  | .text s =>
      let whole := Text.quoted s
      if s.isEmpty || fits whole.length indent allowance then whole else brokenText indent allowance outermost s
  | .illFormed t =>
      let whole := Text.quoted t.text
      if fits whole.length indent allowance then whole else brokenText indent allowance outermost t.text
  | .bytes data =>
      let whole := Text.quotedBytes data
      if data.length ≤ 4 || fits whole.length indent allowance then whole
      else brokenBytes indent allowance outermost data
  | .list items =>
      let whole := (Value.list items).literal
      if fits whole.length indent allowance then whole
      else "[" ++ String.intercalate ("," ++ newline (indent + 1)) (itemLayouts indent allowance items) ++ "]"
  | .pair first second =>
      let whole := (Value.pair first second).literal
      if fits whole.length indent allowance then whole
      else "(" ++ first.layoutAt (indent + 1) 1 false ++ "," ++ newline (indent + 1) ++
        second.layoutAt (indent + 1) (allowance + 1) false ++ ")"
  | .mapping entries =>
      let whole := (Value.mapping entries).literal
      if fits whole.length indent allowance then whole
      else "\x7b" ++ String.intercalate ("," ++ newline (indent + 1)) (entryLayouts indent allowance entries) ++ "\x7d"
  | .marked _ v => v.layoutAt indent allowance outermost
  | value => value.literal

/-- The literals of the items of a broken list. -/
def itemLayouts (indent allowance : Nat) : List Value → List String
  | [] => []
  | item :: rest =>
      item.layoutAt (indent + 1) (if rest.isEmpty then allowance + 1 else 1) false :: itemLayouts indent allowance rest

/-- The literals of the entries of a broken mapping. -/
def entryLayouts (indent allowance : Nat) : List (Value × Value) → List String
  | [] => []
  | entry :: rest =>
      entryLayout indent (if rest.isEmpty then allowance + 1 else 1) entry :: entryLayouts indent allowance rest

/-- The literal of one entry of a broken mapping. -/
def entryLayout (indent allowance : Nat) : Value × Value → String
  | (key, value) =>
      key.literal ++ ": " ++ value.layoutAt (indent + 1 + key.literal.length + 2) allowance false

end

/-- The literal of a value, over several lines if it is long. -/
def Value.layout (v : Value) : String :=
  v.layoutAt 0 0 true

end ResourceScaffold
