import ResourceScaffold.Text.CharacterClass
import ResourceScaffold.Text.CaseTable

/-!
# Case mappings

Lower case, upper case and capitalisation of a text, with the one-to-many mappings (`ß` to `SS`) and the two lower-case
forms of sigma. A mapping is applied character by character except for the capital sigma, which looks at its
surroundings.
-/

namespace ResourceScaffold.Text

/-- Looks a code point up in runs `(first, last, step, target)` sorted by their first components. -/
def lookupRun : List (Nat × Nat × Nat × Nat) → Nat → Option Nat
  | [], _ => none
  | (first, last, step, target) :: rest, n =>
      if n < first then none
      else if n ≤ last ∧ (n - first) % step = 0 then some (target + (n - first))
      else lookupRun rest n

/-- Looks a code point up among mappings to several characters. -/
def lookupExpansion : List (Nat × List Nat) → Nat → Option (List Nat)
  | [], _ => none
  | (key, image) :: rest, n => if n = key then some image else lookupExpansion rest n

/-- The one-to-one lower-case mapping. -/
def lowerSimple (c : Char) : Char :=
  if isAscii c then c.toLower
  else if c = 'İ' then 'i'
  else ((lookupRun lowerRuns c.toNat).map Char.ofNat).getD c

/-- The lower-case mapping of a character that stands alone. -/
def lowerChar (c : Char) : List Char :=
  if c = 'İ' then ['i', Char.ofNat 0x307] else [lowerSimple c]

/-- The upper-case mapping of a character. -/
def upperChar (c : Char) : List Char :=
  if isAscii c then [c.toUpper]
  else match lookupExpansion upperExpansions c.toNat with
    | some image => image.map Char.ofNat
    | none => [((lookupRun upperRuns c.toNat).map Char.ofNat).getD c]

/-- The title-case mapping of a character. -/
def titleChar (c : Char) : List Char :=
  if isAscii c then [c.toUpper]
  else match lookupExpansion titleExceptions c.toNat with
    | some image => image.map Char.ofNat
    | none => upperChar c

/-- Characters that are skipped when looking for the letters around a sigma. -/
def isCaseIgnorable (c : Char) : Bool :=
  if isAscii c then c == '\'' || c == '.' || c == ':' || c == '^' || c == Char.ofNat 96
  else inRanges caseIgnorableRanges c.toNat

/-- Letters with case, other than the skipped ones. -/
def isCased (c : Char) : Bool :=
  if isAscii c then c.isAlpha else inRanges casedRanges c.toNat

/-- Whether the first character that is not skipped is a letter with case. -/
def casedFollows : List Char → Bool
  | [] => false
  | c :: rest => if isCaseIgnorable c then casedFollows rest else isCased c

/-- Lower case of the rest of a text; `inWord` says that the nearest character before it that is not skipped is a letter
with case. A capital sigma becomes the final form at the end of a word. -/
def lowerFrom (inWord : Bool) : List Char → List Char
  | [] => []
  | c :: rest =>
      (if c = 'Σ' then [if inWord && !casedFollows rest then 'ς' else 'σ'] else lowerChar c) ++
        lowerFrom (if isCaseIgnorable c then inWord else isCased c) rest

/-- Lower case of a text. -/
def lowerChars (s : List Char) : List Char :=
  lowerFrom false s

/-- Upper case of a text. -/
def upperChars (s : List Char) : List Char :=
  s.flatMap upperChar

/-- The first character in title case, the others in lower case. -/
def capitalizeChars : List Char → List Char
  | [] => []
  | c :: rest => titleChar c ++ lowerFrom (!isCaseIgnorable c && isCased c) rest

/-- Lower case of a string. -/
def lower (s : String) : String :=
  String.ofList (lowerChars s.toList)

/-- Upper case of a string. -/
def upper (s : String) : String :=
  String.ofList (upperChars s.toList)

end ResourceScaffold.Text
