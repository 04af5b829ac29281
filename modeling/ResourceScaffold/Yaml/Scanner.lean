import ResourceScaffold.Number.Numeral
import ResourceScaffold.Yaml.Scalar
import ResourceScaffold.Yaml.Token

/-!
# YAML text to tokens

The scanner makes the tokens of a text. Indentation outside of flow collections becomes tokens that open and close
blocks. A key of a mapping is only known for one when its colon is met, so the scanner remembers for each flow level
where a key may have begun, and inserts the tokens of the key there.
-/

namespace ResourceScaffold.Yaml

/-- A place at which the key of a mapping may have begun. -/
structure PendingKey where
  /-- The flow level of the place. -/
  level : Nat
  /-- The count of tokens before it. -/
  position : Nat
  /-- Whether the line has to be a key. -/
  required : Bool
  index : Nat
  line : Nat
  column : Nat
  deriving Repr, Inhabited

/-- The state of the scanner. -/
structure Scanner where
  cursor : Cursor
  /-- The tokens so far. -/
  tokens : Array Token := #[]
  /-- The depth of flow collections. -/
  flow : Nat := 0
  /-- The column of the current block, -1 outside of all. -/
  indent : Int := -1
  /-- The columns of the blocks around it. -/
  outer : List Int := []
  /-- Whether the key of a mapping may begin here. -/
  keyAllowed : Bool := true
  pending : List PendingKey := []
  deriving Inhabited

namespace Scanner

/-- The scanner with one more token. -/
def push (s : Scanner) (t : Token) : Scanner :=
  { s with tokens := s.tokens.push t }

/-- The scanner with a token inserted after the first `position` ones. -/
def insert (s : Scanner) (position : Nat) (t : Token) : Scanner :=
  { s with tokens := (s.tokens.extract 0 position).push t ++ s.tokens.extract position s.tokens.size }

/-- The key that may have begun on the current flow level. -/
def pendingKey? (s : Scanner) : Option PendingKey :=
  s.pending.find? fun k => k.level == s.flow

/-- The scanner without a pending key on the current flow level; a required key is missed. -/
def dropPending (s : Scanner) : Except ReadError Scanner :=
  match s.pendingKey? with
  | some k => if k.required then .error .malformed else .ok { s with pending := s.pending.filter fun k => k.level != s.flow }
  | none => .ok s

/-- The scanner with a pending key here, if a key is allowed. A key that begins a line of a block is required. -/
def savePending (s : Scanner) : Except ReadError Scanner :=
  if s.keyAllowed then do
    let s ← s.dropPending
    let c := s.cursor
    let required := s.flow == 0 && s.indent == (c.column : Int)
    let key := {
      level := s.flow, position := s.tokens.size, required, index := c.index, line := c.line, column := c.column }
    return { s with pending := key :: s.pending }
  else .ok s

/-- Whether a pending key can no longer become a key: it has to end on its line, within 1024 characters. -/
def isStale (s : Scanner) (k : PendingKey) : Bool :=
  k.line != s.cursor.line || decide (1024 < s.cursor.index - k.index)

/-- The scanner without the pending keys that can no longer become keys. -/
def dropStale (s : Scanner) : Except ReadError Scanner :=
  if s.pending.any fun k => s.isStale k && k.required then .error .malformed
  else .ok { s with pending := s.pending.filter fun k => !s.isStale k }

/-- Closes the blocks that are indented more than a column. -/
def closeBlocks (column : Int) (s : Scanner) : Scanner :=
  if s.flow != 0 then s
  else go s.outer s
where
  /-- Closes blocks, given the columns of those around the current one. -/
  go : List Int → Scanner → Scanner
    | [], s => s
    | out :: rest, s =>
        if column < s.indent then go rest { s.push .blockEnd with indent := out, outer := rest } else s

/-- Opens a block at a column, if it is indented more than the current one; says whether it did. -/
def openBlock (s : Scanner) (column : Nat) : Scanner × Bool :=
  if s.indent < column then ({ s with indent := column, outer := s.indent :: s.outer }, true) else (s, false)

/-- The scanner after one character. -/
def step (s : Scanner) : Scanner :=
  { s with cursor := s.cursor.step }

/-- The scanner at a cursor. -/
def moveTo (s : Scanner) (c : Cursor) : Scanner :=
  { s with cursor := c }

/-- Skips spaces, comments and line breaks. Outside of flow collections a key may begin on a new line. -/
def skipToToken : Nat → Scanner → Scanner
  | 0, s => s
  | fuel + 1, s =>
      let c := (s.cursor.skipWhile (· == ' ')).skipComment
      match c.lineBreak? with
      | some (_, c) => skipToToken fuel { s with cursor := c, keyAllowed := s.keyAllowed || s.flow == 0 }
      | none => s.moveTo c

/-! ## Directives and tags -/

/-- A number of a version. -/
def versionNumber (c : Cursor) : Reading Nat :=
  let (digits, c) := c.takeWhile Char.isDigit
  if digits.isEmpty then .error .malformed
  else match natOfDigits? 10 digits with
    | some n => .ok (n, c)
    | none => .error .noValue

/-- Characters that tags may hold. -/
def isTagChar (c : Char) : Bool :=
  c.isAlphanum || "-;/?:@&=+$,_.!~*'()[]%".toList.contains c

/-- Bytes written by percent signs, read as text. -/
def percentBytes : Nat → List UInt8 → Cursor → Reading (List UInt8)
  | 0, done, c => .ok (done, c)
  | fuel + 1, done, c =>
      if c.peek = '%' then
        match hexDigits? 2 c.step with
        | some (n, c) => percentBytes fuel (done ++ [n.toUInt8]) c
        | none => .error .malformed
      else .ok (done, c)

/-- The rest of a tag. -/
def tagText : Nat → List Char → Cursor → Reading (List Char)
  | 0, done, c => .ok (done, c)
  | fuel + 1, done, c =>
      if c.peek = '%' then
        match percentBytes fuel [] c with
        | .error e => .error e
        | .ok (bytes, c) =>
            match String.fromUTF8? ⟨bytes.toArray⟩ with
            | some text => tagText fuel (done ++ text.toList) c
            | none => .error .malformed
      else if isTagChar c.peek then tagText fuel (done ++ [c.peek]) c.step
      else .ok (done, c)

/-- The rest of a tag, which is not empty. -/
def tagSuffix (fuel : Nat) (c : Cursor) : Reading String :=
  match tagText fuel [] c with
  | .error e => .error e
  | .ok (text, c) => if text.isEmpty then .error .malformed else .ok (String.ofList text, c)

/-- A handle of tags: an exclamation mark, or a name between two. -/
def tagHandle (c : Cursor) : Reading String :=
  if c.peek ≠ '!' then .error .malformed
  else
    let (name, after) := c.step.takeWhile isNameChar
    if after.peek = '!' then .ok (String.ofList ('!' :: (name ++ ['!'])), after.step)
    else if name.isEmpty && after.peek == ' ' then .ok ("!", after)
    else .error .malformed

/-- A directive after its percent sign. -/
def directive (fuel : Nat) (c : Cursor) : Except ReadError (Token × Cursor) := do
  let (name, c) := c.takeWhile isNameChar
  if name.isEmpty || !isGap c.peek then .error .malformed
  else
    let skipSpaces (c : Cursor) : Cursor := c.skipWhile (· == ' ')
    let (token, c) ← (match String.ofList name with
      | "YAML" => do
          let (major, c) ← versionNumber (skipSpaces c)
          if c.peek ≠ '.' then .error .malformed
          else
            let (_, c) ← versionNumber c.step
            if isGap c.peek then return (Token.version major, c) else .error .malformed
      | "TAG" => do
          let (handle, c) ← tagHandle (skipSpaces c)
          if c.peek ≠ ' ' then .error .malformed
          else
            let (start, c) ← tagSuffix fuel (skipSpaces c)
            if isGap c.peek then return (Token.tagHandle handle start, c) else .error .malformed
      | _ => return (Token.otherDirective, c.skipWhile fun ch => !isLineEnd ch) : Except ReadError (Token × Cursor))
    let c ← endOfLine c
    return (token, c)

/-- A tag of a node. -/
def tag (fuel : Nat) (c : Cursor) : Except ReadError (Token × Cursor) := do
  let next := c.ahead 1
  let (token, c) ← (if next = '<' then do
      let (suffix, c) ← tagSuffix fuel c.step.step
      if c.peek = '>' then return (Token.tag none suffix, c.step) else .error .malformed
    else if isWideGap next then return (Token.tag none "!", c.step)
    else do
      let word := c.rest.tail.takeWhile fun ch => !isGap ch
      if word.contains '!' then
        let (handle, c) ← tagHandle c
        let (suffix, c) ← tagSuffix fuel c
        return (Token.tag (some handle) suffix, c)
      else
        let (suffix, c) ← tagSuffix fuel c.step
        return (Token.tag (some "!") suffix, c) : Except ReadError (Token × Cursor))
  if isGap c.peek then return (token, c) else .error .malformed

/-- The name of an anchor or alias after its indicator. -/
def anchorName (c : Cursor) : Reading String :=
  let (name, c) := c.takeWhile isNameChar
  if name.isEmpty then .error .malformed
  else if isWideGap c.peek || "?:,]\x7d%@".toList.contains c.peek || c.peek == Char.ofNat 96 then
    .ok (String.ofList name, c)
  else .error .malformed

/-! ## Tokens -/

/-- The end of the text. -/
def fetchEnd (s : Scanner) : Except ReadError Scanner := do
  let s ← (s.closeBlocks (-1)).dropPending
  return { s.push .streamEnd with keyAllowed := false, pending := [] }

/-- A directive. -/
def fetchDirective (fuel : Nat) (s : Scanner) : Except ReadError Scanner := do
  let s ← (s.closeBlocks (-1)).dropPending
  let (token, c) ← directive fuel s.cursor.step
  return { s.push token with cursor := c, keyAllowed := false }

/-- A mark that begins or ends a document. -/
def fetchDocumentMark (t : Token) (s : Scanner) : Except ReadError Scanner := do
  let s ← (s.closeBlocks (-1)).dropPending
  return { s.push t with cursor := Cursor.advance 3 s.cursor, keyAllowed := false }

/-- The beginning of a flow collection, which may itself be a key. -/
def fetchFlowStart (t : Token) (s : Scanner) : Except ReadError Scanner := do
  let s ← s.savePending
  return { s.push t with cursor := s.cursor.step, flow := s.flow + 1, keyAllowed := true }

/-- The end of a flow collection. -/
def fetchFlowEnd (t : Token) (s : Scanner) : Except ReadError Scanner := do
  let s ← s.dropPending
  return { s.push t with cursor := s.cursor.step, flow := s.flow - 1, keyAllowed := false }

/-- A comma between the entries of a flow collection. -/
def fetchFlowEntry (s : Scanner) : Except ReadError Scanner := do
  let s ← s.dropPending
  return { s.push .flowEntry with cursor := s.cursor.step, keyAllowed := true }

/-- The block that an indicator at the cursor begins, if its column does. -/
def openAt (s : Scanner) (opening : Token) : Except ReadError Scanner :=
  if s.flow != 0 then .ok s
  else if !s.keyAllowed then .error .malformed
  else
    let (s, opened) := s.openBlock s.cursor.column
    .ok (if opened then s.push opening else s)

/-- A hyphen before an entry of a sequence. -/
def fetchBlockEntry (s : Scanner) : Except ReadError Scanner := do
  let s ← (← s.openAt .blockSequenceStart).dropPending
  return { s.push .blockEntry with cursor := s.cursor.step, keyAllowed := true }

/-- A question mark before a key. -/
def fetchKey (s : Scanner) : Except ReadError Scanner := do
  let s ← (← s.openAt .blockMappingStart).dropPending
  return { s.push .key with cursor := s.cursor.step, keyAllowed := s.flow == 0 }

/-- A colon before a value. If a key is pending, its tokens are inserted where it began. -/
def fetchValue (s : Scanner) : Except ReadError Scanner :=
  match s.pendingKey? with
  | some k =>
      let s := { s with pending := s.pending.filter fun k => k.level != s.flow }
      let s := s.insert k.position .key
      let s :=
        if s.flow == 0 then
          let (s, opened) := s.openBlock k.column
          if opened then s.insert k.position .blockMappingStart else s
        else s
      .ok { s.push .value with cursor := s.cursor.step, keyAllowed := false }
  | none => do
      let s ← (← s.openAt .blockMappingStart).dropPending
      return { s.push .value with cursor := s.cursor.step, keyAllowed := s.flow == 0 }

/-- An alias, an anchor or a tag, which may begin a key. -/
def fetchProperty (read : Cursor → Reading Token) (s : Scanner) : Except ReadError Scanner := do
  let s ← s.savePending
  let (token, c) ← read s.cursor
  return { s.push token with cursor := c, keyAllowed := false }

/-- A block scalar. -/
def fetchBlockScalar (folded : Bool) (fuel : Nat) (s : Scanner) : Except ReadError Scanner := do
  let s ← s.dropPending
  let (text, c) ← blockScalar folded s.indent fuel s.cursor.step
  return { s.push (.scalar (String.ofList text) false) with cursor := c, keyAllowed := true }

/-- A quoted scalar. -/
def fetchQuoted (double : Bool) (fuel : Nat) (s : Scanner) : Except ReadError Scanner := do
  let s ← s.savePending
  let (text, c) ← quotedFrom double fuel [] s.cursor.step
  return { s.push (.scalar text false) with cursor := c, keyAllowed := false }

/-- A plain scalar. -/
def fetchPlain (fuel : Nat) (s : Scanner) : Except ReadError Scanner := do
  let s ← s.savePending
  let (text, crossed, c) := plainFrom (s.flow != 0) (s.indent + 1) fuel [] [] false s.cursor
  return { s.push (.scalar (String.ofList text) true) with cursor := c, keyAllowed := crossed }

/-- Whether a plain scalar begins at the cursor. -/
def startsPlain (s : Scanner) : Bool :=
  let ch := s.cursor.peek
  let indicator := "-?:,[]\x7b\x7d#&*!|>'\"%@".toList.contains ch || ch == Char.ofNat 96
  (!isWideGap ch && !indicator) ||
    (!isWideGap (s.cursor.ahead 1) && (ch == '-' || (s.flow == 0 && (ch == '?' || ch == ':'))))

/-- The next token. -/
def fetch (fuel : Nat) (s : Scanner) : Except ReadError Scanner := do
  let s ← (skipToToken fuel s).dropStale
  let s := s.closeBlocks s.cursor.column
  let c := s.cursor
  let ch := c.peek
  let spaced := isWideGap (c.ahead 1)
  if ch = '\x00' then s.fetchEnd
  else if ch = '%' ∧ c.column = 0 then s.fetchDirective fuel
  else if c.column = 0 ∧ c.atDocumentMark '-' then s.fetchDocumentMark .documentStart
  else if c.column = 0 ∧ c.atDocumentMark '.' then s.fetchDocumentMark .documentEnd
  else if ch = '[' then s.fetchFlowStart .flowSequenceStart
  else if ch = '\x7b' then s.fetchFlowStart .flowMappingStart
  else if ch = ']' then s.fetchFlowEnd .flowSequenceEnd
  else if ch = '\x7d' then s.fetchFlowEnd .flowMappingEnd
  else if ch = ',' then s.fetchFlowEntry
  else if ch = '-' ∧ spaced then s.fetchBlockEntry
  else if ch = '?' ∧ (s.flow ≠ 0 ∨ spaced) then s.fetchKey
  else if ch = ':' ∧ (s.flow ≠ 0 ∨ spaced) then s.fetchValue
  else if ch = '*' then s.fetchProperty fun c => (anchorName c.step).map fun (name, c) => (.reference name, c)
  else if ch = '&' then s.fetchProperty fun c => (anchorName c.step).map fun (name, c) => (.anchor name, c)
  else if ch = '!' then s.fetchProperty (tag fuel)
  else if ch = '|' ∧ s.flow = 0 then s.fetchBlockScalar false fuel
  else if ch = '>' ∧ s.flow = 0 then s.fetchBlockScalar true fuel
  else if ch = '\'' then s.fetchQuoted false fuel
  else if ch = '"' then s.fetchQuoted true fuel
  else if s.startsPlain then s.fetchPlain fuel
  else .error .malformed

/-- The tokens that are settled: a key or a block may still begin before the ones from the first pending key on. -/
def settled (s : Scanner) : Array Token :=
  let pending := s.pending.filter fun k => !s.isStale k
  s.tokens.extract 0 (pending.foldl (fun n k => min n k.position) s.tokens.size)

/-- Tokens to the end of the text; each but the last takes at least one character. Where the text cannot be read, the
settled tokens before it end with a mark. -/
def fetchAll (fuel : Nat) : Nat → Scanner → Array Token
  | 0, s => s.settled.push (.unreadable .malformed)
  | rounds + 1, s =>
      match s.fetch fuel with
      | .error e => s.settled.push (.unreadable e)
      | .ok s => if s.tokens.back? == some .streamEnd then s.tokens else fetchAll fuel rounds s

end Scanner

/-- Characters that a text may hold. -/
def isAllowed (c : Char) : Bool :=
  let n := c.toNat
  n == 9 || n == 10 || n == 13 || (0x20 ≤ n && n ≤ 0x7e) || n == 0x85 || (0xa0 ≤ n && n ≤ 0xd7ff) ||
    (0xe000 ≤ n && n ≤ 0xfffd) || 0x10000 ≤ n

/-- The tokens of a text. A byte order mark at its beginning is passed over. -/
def tokens (text : List Char) : Array Token :=
  if !text.all isAllowed then #[.unreadable .malformed]
  else
    let start : Cursor := { rest := text }
    let cursor := if start.peek = Char.ofNat 0xfeff then start.step else start
    Scanner.fetchAll (text.length + 2) (text.length + 2) { cursor }

end ResourceScaffold.Yaml
