import ResourceScaffold.Text.Case

/-!
# Words of a name

A name in PascalCase, camelCase, snake_case or kebab-case is cut into lower-case words. Two passes mark the
boundaries with underscores: the first before a capital letter that begins a run of small letters, the second
between a small letter or digit and a capital. The marked text is then lower-cased and cut at underscores, hyphens
and white space. `snakeCase`, `kebabCase` and `camelCase` join the words again.
-/

namespace ResourceScaffold.Text

/-- Marks the boundary before each capital letter that is followed by a small one and preceded by a character on the
same line. The small letters after it belong to the match: while `skipping` they are passed over and none of them can be
the character before the next boundary. -/
def markCapitalized : Bool → List Char → List Char
  | skipping, c :: u :: l :: rest =>
      if skipping && c.isLower then c :: markCapitalized true (u :: l :: rest)
      else if c != '\n' && u.isUpper && l.isLower then c :: '_' :: u :: l :: markCapitalized true rest
      else c :: markCapitalized false (u :: l :: rest)
  | _, short => short

/-- Marks the boundary between a small letter or digit and a capital letter. -/
def markHumps : List Char → List Char
  | a :: b :: rest =>
      if (a.isLower || a.isDigit) && b.isUpper then a :: '_' :: markHumps (b :: rest)
      else a :: markHumps (b :: rest)
  | short => short

/-- The longest runs of characters with a property, in order. -/
def runsOf (p : Char → Bool) : List Char → List (List Char)
  | [] => []
  | c :: rest =>
      if p c then
        match rest, runsOf p rest with
        | d :: _, run :: runs => if p d then (c :: run) :: runs else [c] :: run :: runs
        | _, runs => [c] :: runs
      else runsOf p rest

/-- Characters between words. -/
def isSeparator (c : Char) : Bool :=
  c == '_' || c == '-' || isBlank c

/-- The lower-case words of a name, as characters. -/
def wordsOf (s : List Char) : List (List Char) :=
  runsOf (fun c => !isSeparator c) (lowerChars (markHumps (markCapitalized false s)))

/-- The lower-case words of a name. -/
def words (name : String) : List String :=
  (wordsOf name.toList).map String.ofList

/-- The words joined by underscores. -/
def snakeCase (name : String) : String :=
  String.ofList (List.intercalate ['_'] (wordsOf name.toList))

/-- The words joined by hyphens. -/
def kebabCase (name : String) : String :=
  String.ofList (List.intercalate ['-'] (wordsOf name.toList))

/-- The first word as it is and the others capitalised, without a separator. -/
def joinCamel : List (List Char) → List Char
  | [] => []
  | word :: rest => word ++ rest.flatMap capitalizeChars

/-- The words joined without separators, each but the first with a capital. -/
def camelCase (name : String) : String :=
  String.ofList (joinCamel (wordsOf name.toList))

/-- An upper-case identifier for a free-form label: the ASCII words of the label joined by underscores, `VALUE` if there
is none, and an underscore in front of a leading digit. -/
def constantName (label : String) : String :=
  let parts := (runsOf Char.isAlphanum label.toList).map fun run => List.intercalate ['_'] (wordsOf run)
  match upperChars (List.intercalate ['_'] parts) with
  | [] => "VALUE"
  | c :: rest => String.ofList (if c.isDigit then '_' :: c :: rest else c :: rest)

end ResourceScaffold.Text
