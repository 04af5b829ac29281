/-!
# Paths

A path is a count of leading slashes and the names between slashes; empty names and single dots say nothing and are left
out, double dots are kept. `Location` is the place a path leads to in a tree without links: the names from the root.
-/

namespace ResourceScaffold

/-- A path: whether it is absolute, and its names. Two leading slashes are kept apart from one. -/
structure FilePath where
  slashes : Nat
  parts : List String
  deriving DecidableEq, Repr, Inhabited

/-- A place in a file tree: the names of the directories from the root on, and its own. -/
abbrev Location := List String

/-- The parts of a text between slashes. -/
def splitSlashes : List Char → List (List Char)
  | [] => [[]]
  | c :: rest =>
      match splitSlashes rest with
      | part :: parts => if c = '/' then [] :: part :: parts else (c :: part) :: parts
      | [] => [[c]]

namespace FilePath

/-- The path that a text denotes. -/
def ofString (s : String) : FilePath :=
  let chars := s.toList
  let leading := (chars.takeWhile (· == '/')).length
  { slashes := if leading = 2 then 2 else min leading 1
    parts := ((splitSlashes chars).map String.ofList).filter fun part => part != "" && part != "." }

/-- Whether a path starts at the root. -/
def isAbsolute (p : FilePath) : Bool :=
  p.slashes != 0

/-- The text of a path; the empty relative path is a single dot. -/
def text (p : FilePath) : String :=
  if p.slashes = 0 ∧ p.parts.isEmpty then "."
  else String.ofList (List.replicate p.slashes '/') ++ String.intercalate "/" p.parts

/-- The suffix of the last name: what follows its last dot, with the dot, unless the dot begins or ends the name. -/
def suffix (p : FilePath) : String :=
  let name := (p.parts.getLast?.getD "").toList
  let stem := (name.reverse.dropWhile (· != '.')).reverse.dropLast
  let rest := name.drop (stem.length + 1)
  if stem.isEmpty || rest.isEmpty then "" else String.ofList ('.' :: rest)

end FilePath

namespace Location

/-- The place that is reached from `base` by following names; a double dot leads up, and the root is above itself. -/
def follow (base : Location) (parts : List String) : Location :=
  parts.foldl (fun here part => if part = ".." then here.dropLast else here ++ [part]) base

/-- The place to which a path leads from the directory `base`, by its names alone. -/
def resolve (base : Location) (p : FilePath) : Location :=
  follow (if p.isAbsolute then [] else base) p.parts

/-- Whether a place is `directory` or below it. -/
def isWithin (here directory : Location) : Bool :=
  directory.isPrefixOf here

/-- The text of a place. -/
def text (here : Location) : String :=
  "/" ++ String.intercalate "/" here

/-- The text of a place below `directory`, as seen from there. -/
def relativeText (directory here : Location) : String :=
  String.intercalate "/" (here.drop directory.length)

end Location

end ResourceScaffold
