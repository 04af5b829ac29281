import ResourceScaffold.Text.Case

/-!
# Patterns

Patterns without repetition, matched without regard to case by trying alternatives in order. Groups record the text they
matched. A search finds the leftmost place where a pattern matches.
-/

namespace ResourceScaffold.Text

/-- Two characters are alike when they fold to the same one: lower case, with the dotless i as i and the long s as s. -/
def fold (c : Char) : Char :=
  match lowerSimple c with
  | 'ı' => 'i'
  | 'ſ' => 's'
  | c => c

/-- A pattern without repetition. -/
inductive Pattern where
  /-- Matches the empty text. -/
  | empty
  /-- One of the given characters, which are in lower case. -/
  | oneOf (chars : List Char)
  /-- Any character but the given ones. -/
  | noneOf (chars : List Char)
  /-- A character that is not alike to an ASCII character. -/
  | nonAscii
  | seq (first second : Pattern)
  | alt (first second : Pattern)
  /-- Prefers to match the pattern over skipping it. -/
  | optional (p : Pattern)
  | group (index : Nat) (p : Pattern)
  | textStart
  /-- The end of the text, or the place before a line feed that ends it. -/
  | textEnd
  /-- A place between a word character and another one. -/
  | wordBoundary
  deriving Repr, Inhabited

/-- A place in a text while a pattern is matched: the characters before it, last first, those after it, and the groups
matched so far, latest first. -/
structure Cursor where
  before : List Char
  after : List Char
  groups : List (Nat × List Char)
  deriving Repr, Inhabited

namespace Pattern

/-- A text, given in lower case. -/
def word (s : String) : Pattern :=
  s.toList.foldr (fun c rest => seq (oneOf [c]) rest) empty

/-- One of several texts, tried in order. -/
def words : List String → Pattern
  | [] => oneOf []
  | [s] => word s
  | s :: rest => alt (word s) (words rest)

/-- Patterns one after the other. -/
def sequence (ps : List Pattern) : Pattern :=
  ps.foldr seq empty

/-- One character with a property. -/
def step (p : Char → Bool) (k : Cursor → Option Cursor) (at_ : Cursor) : Option Cursor :=
  match at_.after with
  | c :: rest => if p (fold c) then k { at_ with before := c :: at_.before, after := rest } else none
  | [] => none

/-- Matches a pattern at a place and continues with `k` after it; when the rest fails, the next alternative is tried. -/
def matchThen : Pattern → (Cursor → Option Cursor) → Cursor → Option Cursor
  | empty, k, at_ => k at_
  | oneOf chars, k, at_ => step (fun c => chars.contains c) k at_
  | noneOf chars, k, at_ => step (fun c => !chars.contains c) k at_
  | nonAscii, k, at_ => step (fun c => !isAscii c) k at_
  | seq first second, k, at_ => matchThen first (matchThen second k) at_
  | alt first second, k, at_ => matchThen first k at_ <|> matchThen second k at_
  | optional p, k, at_ => matchThen p k at_ <|> k at_
  | group index p, k, at_ =>
      matchThen p (fun done =>
        k { done with
          groups := (index, at_.after.take (at_.after.length - done.after.length)) :: done.groups }) at_
  | textStart, k, at_ => if at_.before.isEmpty then k at_ else none
  | textEnd, k, at_ => if at_.after.isEmpty || at_.after == ['\n'] then k at_ else none
  | wordBoundary, k, at_ =>
      let isWord (s : List Char) := (s.head?.map isWordChar).getD false
      if isWord at_.before != isWord at_.after then k at_ else none

/-- The leftmost match from a place on: where it begins and where it ends. -/
def searchFrom (p : Pattern) (before : List Char) : List Char → Option (Cursor × Cursor)
  | [] =>
      let start : Cursor := ⟨before, [], []⟩
      (p.matchThen some start).map (start, ·)
  | c :: rest =>
      let start : Cursor := ⟨before, c :: rest, []⟩
      match p.matchThen some start with
      | some done => some (start, done)
      | none => searchFrom p (c :: before) rest

/-- The leftmost match in a text. -/
def search (p : Pattern) (s : List Char) : Option (Cursor × Cursor) :=
  searchFrom p [] s

end Pattern

end ResourceScaffold.Text
