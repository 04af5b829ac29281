import ResourceScaffold.Text.Pattern

/-!
# Rules of English plurals

The words with a plural of their own, the words without a plural, and the rules on endings.
-/

namespace ResourceScaffold.Text

/-- What a rule puts in place of an ending: texts and matched groups, group 0 being the whole ending. -/
inductive PluralPart where
  | text (s : String)
  | group (index : Nat)
  deriving Repr

/-- A rule on endings. -/
structure PluralRule where
  ending : Pattern
  plural : List PluralPart
  deriving Repr

/-- Words with a plural of their own, as pairs of the singular and the plural. -/
def irregularPlurals : List (String × String) :=
  [("i", "we"), ("me", "us"), ("he", "they"), ("she", "they"), ("them", "them"), ("myself", "ourselves"),
   ("yourself", "yourselves"), ("itself", "themselves"), ("herself", "themselves"), ("himself", "themselves"),
   ("themself", "themselves"), ("is", "are"), ("was", "were"), ("has", "have"), ("this", "these"), ("that", "those"),
   ("my", "our"), ("its", "their"), ("his", "their"), ("her", "their"), ("echo", "echoes"), ("dingo", "dingoes"),
   ("volcano", "volcanoes"), ("tornado", "tornadoes"), ("torpedo", "torpedoes"), ("genus", "genera"),
   ("viscus", "viscera"), ("stigma", "stigmata"), ("stoma", "stomata"), ("dogma", "dogmata"), ("lemma", "lemmata"),
   ("schema", "schemata"), ("anathema", "anathemata"), ("ox", "oxen"), ("axe", "axes"), ("die", "dice"),
   ("yes", "yeses"), ("foot", "feet"), ("eave", "eaves"), ("goose", "geese"), ("tooth", "teeth"), ("quiz", "quizzes"),
   ("human", "humans"), ("proof", "proofs"), ("carve", "carves"), ("valve", "valves"), ("looey", "looies"),
   ("thief", "thieves"), ("groove", "grooves"), ("pickaxe", "pickaxes"), ("passerby", "passersby"),
   ("canvas", "canvases")]

/-- Words that are their own plural. -/
def uncountableWords : List String :=
  ["adulthood", "advice", "agenda", "aid", "aircraft", "alcohol", "ammo", "analytics", "anime", "athletics",
   "audio", "bison", "blood", "bream", "buffalo", "butter", "carp", "cash", "chassis", "chess",
   "clothing", "cod", "commerce", "cooperation", "corps", "debris", "diabetes", "digestion", "elk", "energy",
   "equipment", "excretion", "expertise", "firmware", "flounder", "fun", "gallows", "garbage", "graffiti", "hardware",
   "headquarters", "health", "herpes", "highjinks", "homework", "housework", "information", "jeans", "justice", "kudos",
   "labour", "literature", "machinery", "mackerel", "mail", "media", "mews", "moose", "music", "mud",
   "manga", "news", "only", "personnel", "pike", "plankton", "pliers", "police", "pollution", "premises",
   "rain", "research", "rice", "salmon", "scissors", "series", "sewage", "shambles", "shrimp", "software",
   "staff", "swine", "tennis", "traffic", "transportation", "trout", "tuna", "wealth", "welfare", "whiting",
   "wildebeest", "wildlife", "you"]

section

open Pattern

/-- A stem, the first group, followed by one of two endings. -/
private def stemEnding (stems endings : List String) : Pattern :=
  sequence [group 1 (words stems), words endings, textEnd]

/-- The rules on endings; of the rules whose ending occurs in a word, the last one applies. -/
def pluralRules : List PluralRule :=
  [⟨sequence [optional (word "s"), textEnd], [.text "s"]⟩,
   ⟨sequence [nonAscii, textEnd], [.group 0]⟩,
   ⟨sequence [group 1 (sequence [noneOf ['a', 'e', 'i', 'o', 'u'], word "ese"]), textEnd], [.group 1]⟩,
   ⟨sequence [group 1 (words ["ax", "test"]), word "is", textEnd], [.group 1, .text "es"]⟩,
   ⟨sequence [group 1 (alt (word "alias") (alt (sequence [noneOf ['a', 'o', 'u'], word "us"])
      (alt (sequence [word "t", oneOf ['l', 'm'], word "as"]) (words ["gas", "ris"])))), textEnd],
    [.group 1, .text "es"]⟩,
   ⟨sequence [group 1 (sequence [word "e", oneOf ['m', 'n'], word "u"]), optional (word "s"), textEnd],
    [.group 1, .text "s"]⟩,
   ⟨sequence [group 1 (alt (sequence [noneOf ['l'], word "ias"])
      (alt (sequence [oneOf ['a', 'e', 'i', 'o', 'u'], word "las"])
        (alt (sequence [oneOf ['e', 'j', 'z', 'r'], word "as"]) (sequence [oneOf ['i', 'u'], word "am"])))), textEnd],
    [.group 1]⟩,
   ⟨stemEnding ["alumn", "syllab", "vir", "radi", "nucle", "fung", "cact", "stimul", "termin", "bacill", "foc", "uter",
      "loc", "strat"] ["us", "i"], [.group 1, .text "i"]⟩,
   ⟨stemEnding ["alumn", "alg", "vertebr"] ["a", "ae"], [.group 1, .text "ae"]⟩,
   ⟨sequence [group 1 (words ["seraph", "cherub"]), optional (word "im"), textEnd], [.group 1, .text "im"]⟩,
   ⟨sequence [group 1 (words ["her", "at", "gr"]), word "o", textEnd], [.group 1, .text "oes"]⟩,
   ⟨stemEnding ["agend", "addend", "millenni", "dat", "extrem", "bacteri", "desiderat", "strat", "candelabr", "errat",
      "ov", "symposi", "curricul", "automat", "quor"] ["a", "um"], [.group 1, .text "a"]⟩,
   ⟨stemEnding ["apheli", "hyperbat", "periheli", "asyndet", "noumen", "phenomen", "criteri", "organ", "prolegomen",
      "hedr", "automat"] ["a", "on"], [.group 1, .text "a"]⟩,
   ⟨sequence [word "sis", textEnd], [.text "ses"]⟩,
   ⟨sequence [alt (sequence [group 1 (words ["kni", "wi", "li"]), word "fe"])
      (sequence [group 2 (words ["ar", "l", "ea", "eo", "oa", "hoo"]), word "f"]), textEnd],
    [.group 1, .group 2, .text "ves"]⟩,
   ⟨sequence [group 1 (alt (noneOf ['a', 'e', 'i', 'o', 'u', 'y']) (word "qu")), word "y", textEnd],
    [.group 1, .text "ies"]⟩,
   ⟨sequence [group 1 (sequence [noneOf ['c', 'h'], oneOf ['i', 'e', 'o'], oneOf ['l', 'n']]), word "ey", textEnd],
    [.group 1, .text "ies"]⟩,
   ⟨sequence [group 1 (words ["x", "ch", "ss", "sh", "zz"]), textEnd], [.group 1, .text "es"]⟩,
   ⟨stemEnding ["matr", "cod", "mur", "sil", "vert", "ind", "append"] ["ix", "ex"], [.group 1, .text "ices"]⟩,
   ⟨sequence [wordBoundary, group 1 (alt (sequence [optional (word "tit"), word "m"]) (word "l")),
      words ["ice", "ouse"], textEnd], [.group 1, .text "ice"]⟩,
   ⟨stemEnding ["pe"] ["rson", "ople"], [.group 1, .text "ople"]⟩,
   ⟨sequence [group 1 (word "child"), optional (word "ren"), textEnd], [.group 1, .text "ren"]⟩,
   ⟨sequence [word "eaux", textEnd], [.group 0]⟩,
   ⟨sequence [word "m", oneOf ['a', 'e'], word "n", textEnd], [.text "men"]⟩,
   ⟨sequence [textStart, word "thou", textEnd], [.text "you"]⟩,
   ⟨sequence [word "pok", oneOf ['e', 'é'], word "mon", textEnd], [.group 0]⟩,
   ⟨sequence [noneOf ['a', 'e', 'i', 'o', 'u'], word "ese", textEnd], [.group 0]⟩,
   ⟨sequence [word "deer", textEnd], [.group 0]⟩,
   ⟨sequence [word "fish", textEnd], [.group 0]⟩,
   ⟨sequence [word "measles", textEnd], [.group 0]⟩,
   ⟨sequence [word "o", oneOf ['i', 'u'], word "s", textEnd], [.group 0]⟩,
   ⟨sequence [word "pox", textEnd], [.group 0]⟩,
   ⟨sequence [word "sheep", textEnd], [.group 0]⟩]

end

end ResourceScaffold.Text
