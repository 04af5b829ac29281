import ResourceScaffold.Text.PluralRules

/-!
# Plurals

The plural of an English word, in the case of the word. `pluralize` forms the plural of the last part of a hyphenated
name.
-/

namespace ResourceScaffold.Text

/-- The text `t` in the case of the text `model`: small, capital or capitalised. -/
def inCaseOf (model t : List Char) : List Char :=
  if model = t then t
  else if model = lowerChars model then lowerChars t
  else if model = upperChars model then upperChars t
  else if model.take 1 = upperChars (model.take 1) then upperChars (t.take 1) ++ lowerChars (t.drop 1)
  else lowerChars t

/-- The text that a rule puts in place of a match. -/
def PluralRule.replacement (rule : PluralRule) (whole : List Char) (groups : List (Nat × List Char)) : List Char :=
  rule.plural.flatMap fun part =>
    match part with
    | .text s => s.toList
    | .group 0 => whole
    | .group index => (groups.lookup index).getD []

/-- A word with its ending replaced by a rule, if the rule applies. An empty ending takes the case of the character
before it. -/
def PluralRule.apply? (rule : PluralRule) (word : List Char) : Option (List Char) :=
  (rule.ending.search word).map fun (start, done) =>
    let whole := start.after.take (start.after.length - done.after.length)
    let model := if whole.isEmpty then start.before.take 1 else whole
    start.before.reverse ++ inCaseOf model (rule.replacement whole done.groups) ++ done.after

/-- The plural of a word. -/
def pluralChars (word : List Char) : List Char :=
  let token := String.ofList (lowerChars word)
  if irregularPlurals.any fun entry => entry.2 == token then inCaseOf word token.toList
  else match irregularPlurals.reverse.lookup token with
    | some plural => inCaseOf word plural.toList
    | none =>
        if word.isEmpty || uncountableWords.contains token then word
        else (pluralRules.reverse.findSome? fun rule => rule.apply? word).getD word

/-- The characters up to and with the last hyphen, and those after it. -/
def splitLastHyphen : List Char → List Char × List Char
  | [] => ([], [])
  | c :: rest =>
      let (front, last) := splitLastHyphen rest
      if c = '-' ∨ !front.isEmpty then (c :: front, last) else (front, c :: last)

/-- A name with its last hyphenated part in the plural. -/
def pluralize (name : String) : String :=
  let (front, last) := splitLastHyphen name.toList
  String.ofList (front ++ pluralChars last)

end ResourceScaffold.Text
