/-!
# Places in a YAML text

A cursor is a place in a text with its line and column, both counted from zero. The end of the text reads as the null
character, which no text holds.
-/

namespace ResourceScaffold.Yaml

/-- Why a text is not read. -/
inductive ReadError where
  /-- The text is no YAML document, or one with tags or keys that have no value here. -/
  | malformed
  /-- A number, date or character has a form that is read, but no value. -/
  | noValue
  /-- Nothing is left of a number without its underscores, or of an integer without its sign. -/
  | noDigits
  /-- A number has no floating-point counterpart. -/
  | tooLarge
  /-- A scalar is tagged as a boolean and is none. -/
  | notABoolean
  /-- A scalar is tagged as a date and is none. -/
  | notADate
  /-- A mapping is tagged as a date. -/
  | dateAsMapping
  /-- Collections are nested too deeply, or the default of a mapping is the mapping itself. -/
  | tooDeep
  deriving DecidableEq, Repr

/-- A place in a text. -/
structure Cursor where
  rest : List Char
  index : Nat := 0
  line : Nat := 0
  column : Nat := 0
  deriving Repr, Inhabited

/-- Characters that end a line. -/
def isBreak (c : Char) : Bool :=
  c == '\n' || c == '\r' || c == '\x85' || c == '\u2028' || c == '\u2029'

/-- The end of the text or of a line. -/
def isLineEnd (c : Char) : Bool :=
  c == '\x00' || isBreak c

/-- A space, or the end of the text or of a line. -/
def isGap (c : Char) : Bool :=
  c == ' ' || isLineEnd c

/-- A space or tab, or the end of the text or of a line. -/
def isWideGap (c : Char) : Bool :=
  c == '\t' || isGap c

/-- Brackets and commas of flow collections. -/
def isFlowMark (c : Char) : Bool :=
  c == ',' || c == '[' || c == ']' || c == '\x7b' || c == '\x7d'

/-- Characters of anchors, directive names and tag handles. -/
def isNameChar (c : Char) : Bool :=
  c.isAlphanum || c == '-' || c == '_'

namespace Cursor

/-- The character `k` places ahead. -/
def ahead (c : Cursor) (k : Nat) : Char :=
  (c.rest.drop k).headD '\x00'

/-- The character at the cursor. -/
def peek (c : Cursor) : Char :=
  c.rest.headD '\x00'

/-- The cursor after one character. A carriage return before a line feed does not end its line, and a byte order mark
takes no column. -/
def step (c : Cursor) : Cursor :=
  match c.rest with
  | [] => c
  | ch :: rest =>
      let joined := ch == '\r' && rest.head? == some '\n'
      if isBreak ch && !joined then { rest, index := c.index + 1, line := c.line + 1, column := 0 }
      else
        { rest, index := c.index + 1, line := c.line,
          column := if ch = Char.ofNat 0xfeff then c.column else c.column + 1 }

/-- The cursor after `n` characters. -/
def advance : Nat → Cursor → Cursor
  | 0, c => c
  | n + 1, c => advance n c.step

/-- The longest run of characters with a property, and the cursor after it. -/
def takeWhile (c : Cursor) (p : Char → Bool) : List Char × Cursor :=
  let run := c.rest.takeWhile p
  (run, advance run.length c)

/-- The cursor after the longest run of characters with a property. -/
def skipWhile (c : Cursor) (p : Char → Bool) : Cursor :=
  (c.takeWhile p).2

/-- The cursor after a comment, if one begins here. -/
def skipComment (c : Cursor) : Cursor :=
  if c.peek = '#' then c.skipWhile fun ch => !isLineEnd ch else c

/-- The line break at the cursor as one character, and the cursor after it. -/
def lineBreak? (c : Cursor) : Option (Char × Cursor) :=
  match c.rest with
  | '\r' :: '\n' :: _ => some ('\n', c.step.step)
  | ch :: _ =>
      if ch = '\u2028' ∨ ch = '\u2029' then some (ch, c.step)
      else if isBreak ch then some ('\n', c.step)
      else none
  | [] => none

/-- Whether the cursor is at a mark between documents: three hyphens or three dots, and a gap. -/
def atDocumentMark (c : Cursor) (mark : Char) : Bool :=
  c.peek == mark && c.ahead 1 == mark && c.ahead 2 == mark && isWideGap (c.ahead 3)

/-- Whether the cursor is at a mark that begins or ends a document. -/
def atAnyDocumentMark (c : Cursor) : Bool :=
  c.atDocumentMark '-' || c.atDocumentMark '.'

end Cursor

end ResourceScaffold.Yaml
