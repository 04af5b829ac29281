import ResourceScaffold.Text.CharacterClass
import ResourceScaffold.Text.CodePoint

/-!
# Lines of a text

Cutting a text after its line breaks, and reading the three newline conventions as one.
-/

namespace ResourceScaffold.Text

/-- The lines of a text, each with its line break; a carriage return and the line feed after it are one break. -/
def splitLines : List CodePoint → List (List CodePoint)
  | [] => []
  | .char '\r' :: .char '\n' :: rest => [.char '\r', .char '\n'] :: splitLines rest
  | p :: rest =>
      if p.satisfies isLineBreak then [p] :: splitLines rest
      else match splitLines rest with
        | [] => [[p]]
        | line :: lines => (p :: line) :: lines

/-- A text with every carriage return, and every pair of carriage return and line feed, read as one line feed. -/
def universalNewlinesChars : List Char → List Char
  | [] => []
  | '\r' :: '\n' :: rest => '\n' :: universalNewlinesChars rest
  | c :: rest => (if c = '\r' then '\n' else c) :: universalNewlinesChars rest

/-- `universalNewlinesChars` on strings. -/
def universalNewlines (s : String) : String :=
  String.ofList (universalNewlinesChars s.toList)

/-- The parts between line feeds; one more than there are line feeds. -/
def splitOnNewline : List Char → List (List Char)
  | [] => [[]]
  | c :: rest =>
      if c = '\n' then [] :: splitOnNewline rest
      else match splitOnNewline rest with
        | [] => [[c]]
        | line :: lines => (c :: line) :: lines

end ResourceScaffold.Text
