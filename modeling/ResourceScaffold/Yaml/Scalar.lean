import ResourceScaffold.Text.CodePoint
import ResourceScaffold.Text.Hexadecimal
import ResourceScaffold.Yaml.Cursor

/-!
# Scalars of YAML

Plain, quoted and block scalars, read from a cursor at their beginning. Lines are folded: a single line break becomes a
space, and of several the first is dropped. Loops run on fuel that the length of the text bounds.
-/

namespace ResourceScaffold.Yaml

/-- What a reader returns: what it read and the cursor after it. -/
abbrev Reading (α : Type) := Except ReadError (α × Cursor)

/-! ## Plain scalars -/

/-- The line breaks and spaces after the first break in a plain scalar; `none` at a mark between documents. -/
def plainBreaks : Nat → List Char → Cursor → Option (List Char) × Cursor
  | 0, done, c => (some done, c)
  | fuel + 1, done, c =>
      if c.peek = ' ' then plainBreaks fuel done c.step
      else match c.lineBreak? with
        | some (ch, c) => if c.atAnyDocumentMark then (none, c) else plainBreaks fuel (done ++ [ch]) c
        | none => (some done, c)

/-- What stands for the gap after a piece of a plain scalar, nothing if the scalar ends here; and whether the gap crosses
a line. -/
def plainGap (fuel : Nat) (c : Cursor) : List Char × Bool × Cursor :=
  let (spaces, c) := c.takeWhile (· == ' ')
  match c.lineBreak? with
  | none => (spaces, false, c)
  | some (first, c) =>
      if c.atAnyDocumentMark then ([], true, c)
      else match plainBreaks fuel [] c with
        | (none, c) => ([], true, c)
        | (some breaks, c) =>
            let opening := if first ≠ '\n' then [first] else if breaks.isEmpty then [' '] else []
            (opening ++ breaks, true, c)

/-- A piece of a plain scalar: up to a gap, a colon before a gap, or in a flow collection its marks. -/
def plainPiece (inFlow : Bool) : List Char → List Char
  | [] => []
  | c :: rest =>
      let next := rest.headD '\x00'
      if isWideGap c || (c == ':' && (isWideGap next || (inFlow && isFlowMark next))) ||
          (inFlow && (isFlowMark c || c == '?')) then []
      else c :: plainPiece inFlow rest

/-- The pieces of a plain scalar, joined by their gaps; also whether its last gap crosses a line. Lines have to be
indented to `indent` at least, except in flow collections. -/
def plainFrom (inFlow : Bool) (indent : Int) : Nat → List Char → List Char → Bool → Cursor → List Char × Bool × Cursor
  | 0, done, _, crossed, c => (done, crossed, c)
  | fuel + 1, done, gap, crossed, c =>
      if c.peek = '#' then (done, crossed, c)
      else
        let piece := plainPiece inFlow c.rest
        if piece.isEmpty then (done, crossed, c)
        else
          let done := done ++ gap ++ piece
          let (gap, crossed, c) := plainGap fuel (Cursor.advance piece.length c)
          if gap.isEmpty || c.peek == '#' || (!inFlow && (c.column : Int) < indent) then (done, crossed, c)
          else plainFrom inFlow indent fuel done gap crossed c

/-! ## Quoted scalars -/

/-- The characters that letters stand for after a backslash. -/
def escapes : List (Char × Char) :=
  [('0', '\x00'), ('a', '\x07'), ('b', '\x08'), ('t', '\t'), ('\t', '\t'), ('n', '\n'), ('v', '\x0b'), ('f', '\x0c'),
   ('r', '\r'), ('e', '\x1b'), (' ', ' '), ('"', '"'), ('\\', '\\'), ('/', '/'), ('N', '\x85'), ('_', '\xa0'),
   ('L', '\u2028'), ('P', '\u2029')]

/-- The count of hexadecimal digits after the letters of numbered escapes. -/
def numberedEscapes : List (Char × Nat) :=
  [('x', 2), ('u', 4), ('U', 8)]

/-- A number of exactly `count` hexadecimal digits. -/
def hexDigits? (count : Nat) (c : Cursor) : Option (Nat × Cursor) :=
  let digits := c.rest.take count
  if digits.length = count then (Text.hexNumber? digits).map (·, Cursor.advance count c) else none

/-- The code point with a number, which has to be one of 32 bits with a sign. Two surrogates after each other stay two. -/
def numberedPoint (n : Nat) : Except ReadError CodePoint :=
  if 0x80000000 ≤ n then .error .tooLarge
  else if 0x110000 ≤ n then .error .noValue
  else .ok (.ofNat n)

/-- The line breaks in a quoted scalar after the first one, with the blanks around them dropped. -/
def quotedBreaks : Nat → List Char → Cursor → Reading (List Char)
  | 0, done, c => .ok (done, c)
  | fuel + 1, done, c =>
      if c.atAnyDocumentMark then .error .malformed
      else
        let c := c.skipWhile fun ch => ch == ' ' || ch == '\t'
        match c.lineBreak? with
        | some (ch, c) => quotedBreaks fuel (done ++ [ch]) c
        | none => .ok (done, c)

/-- The blanks in a quoted scalar, or what stands for them if they cross lines. -/
def quotedGap (fuel : Nat) (c : Cursor) : Reading (List Char) :=
  let (blanks, c) := c.takeWhile fun ch => ch == ' ' || ch == '\t'
  if c.peek = '\x00' then .error .malformed
  else match c.lineBreak? with
    | none => .ok (blanks, c)
    | some (first, c) =>
        match quotedBreaks fuel [] c with
        | .error e => .error e
        | .ok (breaks, c) =>
            let opening := if first ≠ '\n' then [first] else if breaks.isEmpty then [' '] else []
            .ok (opening ++ breaks, c)

/-- What an escape stands for; the cursor is after its backslash. -/
def escape (fuel : Nat) (c : Cursor) : Reading (List CodePoint) :=
  match escapes.lookup c.peek with
  | some ch => .ok ([.char ch], c.step)
  | none =>
      match numberedEscapes.lookup c.peek with
      | some count =>
          match hexDigits? count c.step with
          | some (n, c) => (numberedPoint n).map fun p => ([p], c)
          | none => .error .malformed
      | none =>
          match c.lineBreak? with
          | some (_, c) => (quotedBreaks fuel [] c).map fun (breaks, c) => (breaks.map .char, c)
          | none => .error .malformed

/-- A quoted scalar after its opening mark; `done` holds the code points read so far, last first. -/
def quotedFrom (double : Bool) : Nat → List CodePoint → Cursor → Reading WideText
  | 0, _, _ => .error .malformed
  | fuel + 1, done, c =>
      let ch := c.peek
      if ch = '\x00' then .error .malformed
      else if isWideGap ch then
        match quotedGap fuel c with
        | .error e => .error e
        | .ok (gap, c) => quotedFrom double fuel (gap.reverse.map .char ++ done) c
      else if double then
        if ch = '"' then .ok (⟨done.reverse⟩, c.step)
        else if ch = '\\' then
          match escape fuel c.step with
          | .error e => .error e
          | .ok (points, c) => quotedFrom double fuel (points.reverse ++ done) c
        else quotedFrom double fuel (.char ch :: done) c.step
      else if ch = '\'' then
        if c.ahead 1 = '\'' then quotedFrom double fuel (.char '\'' :: done) c.step.step
        else .ok (⟨done.reverse⟩, c.step)
      else quotedFrom double fuel (.char ch :: done) c.step

/-! ## Block scalars -/

/-- What becomes of the line breaks at the end of a block scalar: one is kept, none, or all. -/
inductive Chomping where
  | clip
  | strip
  | keep
  deriving DecidableEq, Repr

/-- The chomping that an indicator asks for. -/
def chomping? (c : Cursor) : Option (Chomping × Cursor) :=
  match c.peek with
  | '+' => some (.keep, c.step)
  | '-' => some (.strip, c.step)
  | _ => none

/-- The indentation that an indicator asks for; zero is refused. -/
def increment? (c : Cursor) : Except ReadError (Option (Nat × Cursor)) :=
  let ch := c.peek
  if ch.isDigit then
    if ch = '0' then .error .malformed else .ok (some (ch.toNat - 48, c.step))
  else .ok none

/-- The indicators of a block scalar, in either order. -/
def blockHeader (c : Cursor) : Reading (Chomping × Option Nat) :=
  match chomping? c with
  | some (chomping, c) =>
      match increment? c with
      | .error e => .error e
      | .ok (some (n, c)) => .ok ((chomping, some n), c)
      | .ok none => .ok ((chomping, none), c)
  | none =>
      match increment? c with
      | .error e => .error e
      | .ok none => .ok ((.clip, none), c)
      | .ok (some (n, c)) =>
          match chomping? c with
          | some (chomping, c) => .ok ((chomping, some n), c)
          | none => .ok ((.clip, some n), c)

/-- The rest of a line that holds nothing but spaces and a comment, and its end. -/
def endOfLine (c : Cursor) : Except ReadError Cursor :=
  let c := (c.skipWhile (· == ' ')).skipComment
  if isLineEnd c.peek then .ok ((c.lineBreak?.map Prod.snd).getD c) else .error .malformed

/-- The line breaks before the first line of a block scalar, and the greatest column of the spaces among them. -/
def blockIndentation : Nat → List Char → Nat → Cursor → List Char × Nat × Cursor
  | 0, done, widest, c => (done, widest, c)
  | fuel + 1, done, widest, c =>
      if c.peek = ' ' then blockIndentation fuel done (max widest c.step.column) c.step
      else match c.lineBreak? with
        | some (ch, c) => blockIndentation fuel (done ++ [ch]) widest c
        | none => (done, widest, c)

/-- Spaces up to a column. -/
def indentTo (column : Nat) : Nat → Cursor → Cursor
  | 0, c => c
  | fuel + 1, c => if c.column < column ∧ c.peek = ' ' then indentTo column fuel c.step else c

/-- The line breaks between lines of a block scalar; the cursor stops at its column, or before it at another character. -/
def blockBreaks (column : Nat) : Nat → List Char → Cursor → List Char × Cursor
  | 0, done, c => (done, c)
  | fuel + 1, done, c =>
      let c := indentTo column (column + 1) c
      match c.lineBreak? with
      | some (ch, c) => blockBreaks column fuel (done ++ [ch]) c
      | none => (done, c)

/-- Whether a line begins with a blank. -/
def startsBlank (c : Cursor) : Bool :=
  c.peek == ' ' || c.peek == '\t'

/-- The lines of a block scalar, given the breaks before the next one; the result ends with its last line break and the
breaks after that. -/
def blockLines (folded : Bool) (column : Nat) :
    Nat → List Char → List Char → List Char → Cursor → List Char × List Char × List Char × Cursor
  | 0, done, lastBreak, breaks, c => (done, lastBreak, breaks, c)
  | fuel + 1, done, lastBreak, breaks, c =>
      if c.column ≠ column ∨ c.peek = '\x00' then (done, lastBreak, breaks, c)
      else
        let indented := startsBlank c
        let (line, c) := c.takeWhile fun ch => !isLineEnd ch
        let done := done ++ breaks ++ line
        let (lastBreak, c) := match c.lineBreak? with
          | some (ch, c) => ([ch], c)
          | none => ([], c)
        let (breaks, c) := blockBreaks column fuel [] c
        if c.column = column ∧ c.peek ≠ '\x00' then
          let joint :=
            if folded && lastBreak == ['\n'] && !indented && !startsBlank c then
              if breaks.isEmpty then [' '] else []
            else lastBreak
          blockLines folded column fuel (done ++ joint) [] breaks c
        else (done, lastBreak, breaks, c)

/-- A block scalar after its indicator, in a block that is indented to `indent`. -/
def blockScalar (folded : Bool) (indent : Int) (fuel : Nat) (c : Cursor) : Reading (List Char) :=
  match blockHeader c with
  | .error e => .error e
  | .ok ((chomping, increment), c) =>
      if !isGap c.peek then .error .malformed
      else match endOfLine c with
        | .error e => .error e
        | .ok c =>
            let least := max (indent + 1) 1 |>.toNat
            let (breaks, column, c) := match increment with
              | none =>
                  let (breaks, widest, c) := blockIndentation fuel [] 0 c
                  (breaks, max least widest, c)
              | some n =>
                  let column := least + n - 1
                  let (breaks, c) := blockBreaks column fuel [] c
                  (breaks, column, c)
            let (text, lastBreak, breaks, c) := blockLines folded column fuel [] [] breaks c
            .ok (match chomping with
              | .clip => text ++ lastBreak
              | .strip => text
              | .keep => text ++ lastBreak ++ breaks, c)

end ResourceScaffold.Yaml
