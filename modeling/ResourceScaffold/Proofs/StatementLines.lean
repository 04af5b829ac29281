import ResourceScaffold.Proofs.Literals
import ResourceScaffold.Proofs.Loading
import ResourceScaffold.Proofs.Spelling

/-!
# The lines of statements

The line of an import from generated code is an import of that code (`Import.importsGenerated_line`), whether it is indented
or marked; the lines of classes, functions and endpoints are calm as long as their names are words. So the lines of a list
of statements that import from generated code are those of its imports (`generatedLines_of_plain`).
-/

namespace ResourceScaffold.Code

/-- Texts in one line follow an opening. -/
theorem Opening.intercalate {s first separator : String} {texts : List String} (h : Opening (s ++ first))
    (hSeparator : '\n' ∉ separator.toList) (each : ∀ t ∈ texts, '\n' ∉ t.toList) :
    Opening (s ++ separator.intercalate (first :: texts)) := by
  cases texts with
  | nil => rwa [String.intercalate_singleton]
  | cons second rest =>
      rw [String.intercalate_cons_cons, ← String.append_assoc, ← String.append_assoc]
      exact (h.append hSeparator).append (feed_not_mem_intercalate hSeparator each)

/-! ## Imports -/

/-- An import can be read back from its line: it names what it imports from by one word, and this is a library exactly if
it is one. -/
structure Import.Spelled (i : Import) : Prop where
  source : IsWord i.origin.dotted
  names : ∀ name ∈ i.names, '\n' ∉ name.toList
  known : i.origin.dotted ∈ libraries ↔ i.generatedPath? = none

namespace Import.Spelled

variable {i : Import}

/-- The line of an import is one line. -/
theorem noFeed (h : i.Spelled) : '\n' ∉ i.line.toList := by
  simp only [line, feed_not_mem_append]
  exact ⟨⟨⟨by decide, h.source.noFeed⟩, by decide⟩, feed_not_mem_intercalate (by decide) h.names⟩

/-- Blanks before an import and a comment after it do not matter. -/
theorem importsGenerated_line (h : i.Spelled) (blanks : List Char) (indent : blanks.all (· == ' ') = true)
    (rest : List Char) : importsGenerated (blanks ++ i.line.toList ++ rest) = i.generatedPath?.isSome := by
  have line : i.line.toList = "from ".toList ++ (i.origin.dotted.toList ++
      (' ' :: ("import ".toList ++ (String.intercalate ", " i.names).toList))) := by
    simp [Import.line]
  have code : (blanks ++ i.line.toList ++ rest).dropWhile (· == ' ') = i.line.toList ++ rest := by
    rw [List.append_assoc, List.dropWhile_append_of_pos (by simpa using indent), line]
    rfl
  have word : ∀ c ∈ i.origin.dotted.toList, (c != ' ') = true := fun c member => by
    simpa using (h.source c member).1
  have source : importSource? (blanks ++ i.line.toList ++ rest) = some i.origin.dotted.toList := by
    unfold importSource?
    simp only
    rw [code, line, List.append_assoc, if_pos (List.isPrefixOf_iff_prefix.2 (List.prefix_append _ _))]
    have dropped (s : List Char) : ("from ".toList ++ s).drop "from ".length = s := rfl
    rw [dropped, List.append_assoc, List.takeWhile_append_of_pos word]
    simp
  have listed : (libraries.any fun library => library.toList == i.origin.dotted.toList) = i.generatedPath?.isNone := by
    rw [Bool.eq_iff_iff, List.any_eq_true, Option.isNone_iff_eq_none, ← h.known]
    simp [String.toList_inj]
  rw [importsGenerated, source]
  simp only [listed]
  cases i.generatedPath? <;> rfl

end Import.Spelled

/-- The line of an import before or after a class, as it is read back. -/
theorem linesOf_indented {i : Import} (h : i.Spelled) (indent comment : String) (hi : '\n' ∉ indent.toList)
    (hc : '\n' ∉ comment.toList) : linesOf (indent ++ i.line ++ comment) = [(indent ++ i.line ++ comment).toList] := by
  refine linesOf_of_noFeed ?_
  simp only [feed_not_mem_append]
  exact ⟨⟨hi, h.noFeed⟩, hc⟩

/-! ## Classes -/

/-- The lines of a member of a class are calm. -/
def Member.IsCalm (m : Member) : Prop :=
  ∀ t ∈ m.lines, Calm t

/-- Whether the lines of a member are calm can be tested. -/
instance (m : Member) : Decidable m.IsCalm :=
  inferInstanceAs (Decidable (∀ t ∈ m.lines, Calm t))

/-- A line of documentation is calm. -/
theorem isCalm_documentation {text : String} (h : '\n' ∉ text.toList) : (Member.documentation text).IsCalm := by
  intro t member
  rw [List.mem_singleton.1 member]
  have quotes : Opening "    \"\"\"" := by decide
  exact ((quotes.append h).append (by decide)).calm

/-- A word that a mark ends begins like no import, if no keyword has the mark. -/
theorem opening_word {name rest : String} (indent mark : String) (h : IsWord name) (noFeed : '\n' ∉ rest.toList)
    {c : Char} {more : List Char} (blanks : indent.toList.all (· == ' ') = true) (marked : mark.toList = c :: more)
    (markFeed : '\n' ∉ mark.toList) (other : c ∉ "from".toList ++ "import".toList) (visible : c ≠ ' ') :
    Opening (indent ++ name ++ mark ++ rest) := by
  rw [List.mem_append, not_or] at other
  constructor
  · have code : (indent ++ name ++ mark ++ rest).toList =
        indent.toList ++ (name.toList ++ c :: (more ++ rest.toList)) := by simp [marked]
    have word : (name.toList ++ c :: (more ++ rest.toList)).dropWhile (· == ' ') =
        name.toList ++ c :: (more ++ rest.toList) := by
      cases chars : name.toList with
      | nil => simp [visible]
      | cons d others =>
          have seen : d ≠ ' ' := (h d (by simp [chars])).1
          simp [seen]
    rw [code, isOther_blanks_append blanks, isOther, word, Bool.and_eq_true]
    have blank : ("from ".toList = "from".toList ++ [' ']) ∧ ("import ".toList = "import".toList ++ [' ']) := ⟨rfl, rfl⟩
    rw [blank.1, blank.2]
    exact ⟨differ_word h.noBlank other.1 visible, differ_word h.noBlank other.2 visible⟩
  · have indentFeed : '\n' ∉ indent.toList := fun member => by
      have all := List.all_eq_true.1 blanks _ member
      exact absurd all (by decide)
    simp only [feed_not_mem_append]
    exact ⟨⟨⟨indentFeed, h.noFeed⟩, markFeed⟩, noFeed⟩

/-- The declaration of a name of one word begins like no import. -/
theorem opening_declaration {name rest : String} (h : IsWord name) (noFeed : '\n' ∉ rest.toList) (indent : String)
    (blanks : indent.toList.all (· == ' ') = true) : Opening (indent ++ name ++ ": " ++ rest) :=
  opening_word indent ": " h noFeed blanks (show ": ".toList = ':' :: [' '] from rfl) (by decide) (by decide) (by decide)

/-- The text of a type is in one line, if its name is. -/
theorem feed_not_mem_typeExpr {a : TypeExpr} (h : '\n' ∉ a.name.toList) : '\n' ∉ a.text.toList := by
  have base : '\n' ∉ (if a.isList then "List[" ++ a.name ++ "]" else a.name).toList := by
    split
    · simp only [feed_not_mem_append]
      exact ⟨⟨by decide, h⟩, by decide⟩
    · exact h
  unfold TypeExpr.text
  simp only
  split
  · simp only [feed_not_mem_append]
    exact ⟨⟨by decide, base⟩, by decide⟩
  · exact base

/-- A field begins like no import. -/
theorem opening_field (type : TypeExpr) {name : String} {requestName : Option String} (h : IsWord name)
    (hType : '\n' ∉ type.name.toList) (hRequest : ∀ request, requestName = some request → '\n' ∉ request.toList) :
    Opening ("    " ++ name ++ ": " ++ type.text ++ fieldDefault type requestName) := by
  have default : '\n' ∉ (fieldDefault type requestName).toList := by
    unfold fieldDefault
    split
    · split
      · next request =>
          simp only [feed_not_mem_append]
          exact ⟨⟨by decide, hRequest request rfl⟩, by decide⟩
      · decide
    · decide
  have declared := opening_declaration h (feed_not_mem_append.2 ⟨feed_not_mem_typeExpr hType, default⟩) "    " (by decide)
  rwa [← String.append_assoc] at declared

/-- A field is calm, if its name is a word and the others are in one line. -/
theorem isCalm_field {name : String} {type : TypeExpr} {requestName : Option String} (h : IsWord name)
    (hType : '\n' ∉ type.name.toList) (hRequest : ∀ request, requestName = some request → '\n' ∉ request.toList) :
    (Member.field name type requestName).IsCalm := by
  intro t member
  rw [List.mem_singleton.1 member]
  exact (opening_field _ h hType hRequest).calm

/-- A name in capital letters begins like no import. -/
theorem opening_constant {name : String} (nonempty : name ≠ "") (h : ∀ c ∈ name.toList, isConstantChar c = true) :
    Opening name := by
  have word : IsWord name := isWord_of_forall h rfl rfl
  refine ⟨?_, word.noFeed⟩
  cases chars : name.toList with
  | nil => exact absurd (String.toList_eq_nil_iff.1 chars) nonempty
  | cons c rest =>
      have upper := h c (by simp [chars])
      refine isOther_cons ?_ ?_ ?_ <;>
      · rintro rfl
        cases upper

/-- An opening may be indented. -/
theorem Opening.indent {s : String} (h : Opening s) : Opening ("    " ++ s) := by
  refine ⟨?_, feed_not_mem_append.2 ⟨by decide, h.noFeed⟩⟩
  rw [String.toList_append, isOther_blanks_append (by decide)]
  exact h.other

/-- A constant is named in capital letters. -/
theorem isCalm_constant {name value : String} (nonempty : name ≠ "") (h : ∀ c ∈ name.toList, isConstantChar c = true)
    (hValue : '\n' ∉ value.toList) : (Member.constant name value).IsCalm := by
  intro t member
  rw [List.mem_singleton.1 member]
  exact (((opening_constant nonempty h).indent.append (by decide)).append hValue).calm

/-- The lines of a method are indented. -/
theorem isCalm_method {lines : List String} (h : ∀ t ∈ lines, Calm t) : (Member.method lines).IsCalm := by
  intro t member
  obtain ⟨line, listed, rfl⟩ := List.mem_map.1 member
  have blanks : Calm "    " := by decide
  split
  · decide
  · exact blanks.append (h line listed)

/-- The lines of a class are calm if those of its members are. -/
theorem calm_of_mem_classLines {c : ClassDefinition} (name : '\n' ∉ c.name.toList)
    (bases : ∀ base ∈ c.bases, '\n' ∉ base.toList) (members : ∀ m ∈ c.members, m.IsCalm) : ∀ t ∈ c.lines, Calm t := by
  intro t member
  rcases List.mem_cons.1 member with rfl | inBody
  · have opening : Opening "class " := by decide
    refine (((opening.append name).append ?_).append (by decide)).calm
    split
    · decide
    · simp only [feed_not_mem_append]
      exact ⟨⟨by decide, feed_not_mem_intercalate (by decide) bases⟩, by decide⟩
  · obtain ⟨m, listed, inLines⟩ := List.mem_flatMap.1 inBody
    exact members m listed t inLines

/-! ## Endpoints -/

/-- A parameter whose parts are in one line, under a name of one word. -/
structure Parameter.Spelled (p : Parameter) : Prop where
  name : IsWord p.name
  type : '\n' ∉ p.type.name.toList
  default : ∀ value, p.default = some value → '\n' ∉ value.toList

/-- What makes the lines of an endpoint calm. -/
structure Endpoint.Spelled (e : Endpoint) : Prop where
  path : '\n' ∉ e.path.toList
  response : ∀ type, e.response = some type → '\n' ∉ type.name.toList
  name : '\n' ∉ e.name.toList
  parameters : ∀ p ∈ e.parameters, p.Spelled
  body : ∀ t ∈ e.body, Calm t

/-- The text of a parameter after its name. -/
def Parameter.annotation (p : Parameter) : String :=
  p.type.text ++
    match p.default with
    | some value => " = " ++ value
    | none => ""

/-- A parameter is written as its name and its annotation. -/
theorem Parameter.text_eq (p : Parameter) : p.text = p.name ++ ": " ++ p.annotation := by
  cases default : p.default <;> simp [text, annotation, default, String.append_assoc]

namespace Parameter.Spelled

variable {p : Parameter}

/-- The annotation of a parameter is in one line. -/
theorem annotation (h : p.Spelled) : '\n' ∉ p.annotation.toList := by
  rw [Parameter.annotation, feed_not_mem_append]
  refine ⟨feed_not_mem_typeExpr h.type, ?_⟩
  split
  · next value given => exact feed_not_mem_append.2 ⟨by decide, h.default value given⟩
  · decide

/-- So is the parameter. -/
theorem noFeed (h : p.Spelled) : '\n' ∉ p.text.toList := by
  simp only [text_eq, feed_not_mem_append]
  exact ⟨⟨h.name.noFeed, by decide⟩, h.annotation⟩

/-- An indented parameter begins like no import. -/
theorem opening (h : p.Spelled) : Opening ("    " ++ p.text) := by
  have declared := opening_declaration h.name h.annotation "    " (by decide)
  have grouped : "    " ++ p.name ++ ": " ++ p.annotation = "    " ++ p.text := by
    rw [text_eq]
    simp only [String.append_assoc]
  rwa [grouped] at declared

end Parameter.Spelled

namespace Endpoint.Spelled

variable {e : Endpoint}

/-- The decorator of a route begins like no import. -/
theorem opening_decorator (h : e.Spelled) : Opening e.decorator := by
  have router : Opening "@router." := by decide
  have method : '\n' ∉ e.method.name.toList := by cases e.method <;> decide
  refine ((((((router.append method).append (by decide)).append h.path).append (by decide)).append ?_).append ?_).append
    (by decide)
  · split
    · next model given => exact feed_not_mem_append.2 ⟨by decide, feed_not_mem_typeExpr (h.response model given)⟩
    · decide
  · split
    · next code given => exact feed_not_mem_append.2 ⟨by decide, (isNumber_intText _).isVisible.noFeed⟩
    · decide

/-- The lines of a signature are calm. -/
theorem calm_signature (h : e.Spelled) : ∀ t ∈ e.signature, Calm t := by
  have start : Opening ("async def " ++ e.name ++ "(") :=
    ((by decide : Opening "async def ").append h.name).append (by decide)
  have close : Calm "):" := by decide
  have parameters : '\n' ∉ (String.intercalate ", " (e.parameters.map Parameter.text)).toList := by
    refine feed_not_mem_intercalate (by decide) fun t member => ?_
    obtain ⟨p, listed, rfl⟩ := List.mem_map.1 member
    exact (h.parameters p listed).noFeed
  intro t member
  unfold signature at member
  cases layout : e.layout with
  | inline =>
      simp only [layout, List.mem_singleton] at member
      rw [member]
      exact ((start.append parameters).append (by decide)).calm
  | joined =>
      simp only [layout, List.mem_cons, List.not_mem_nil, or_false] at member
      rcases member with rfl | rfl | rfl
      · exact start.calm
      · cases listed : e.parameters with
        | nil => exact (by decide : Calm ("    " ++ String.intercalate ", " []))
        | cons p others =>
            have first := (h.parameters p (by simp [listed])).opening
            have rest : ∀ t ∈ others.map Parameter.text, '\n' ∉ t.toList := by
              intro t member
              obtain ⟨q, inOthers, rfl⟩ := List.mem_map.1 member
              exact (h.parameters q (by simp [listed, inOthers])).noFeed
            exact (first.intercalate (by decide) rest).calm
      · exact close
  | stacked =>
      simp only [layout, List.cons_append, List.mem_cons, List.mem_append, List.map_map, List.mem_map, List.not_mem_nil,
        or_false] at member
      rcases member with rfl | ⟨p, listed, rfl⟩ | rfl
      · exact start.calm
      · exact ((h.parameters p listed).opening.append (by decide)).calm
      · exact close

/-- The lines of an endpoint are calm. -/
theorem calm_lines (h : e.Spelled) : ∀ t ∈ e.lines, Calm t := by
  intro t member
  rw [lines] at member
  have blanks : Calm "    " := by decide
  rcases List.mem_cons.1 member with rfl | others
  · exact h.opening_decorator.calm
  · rcases List.mem_append.1 others with inSignature | inBody
    · exact h.calm_signature t inSignature
    · obtain ⟨line, listed, rfl⟩ := List.mem_map.1 inBody
      exact blanks.append (h.body line listed)

end Endpoint.Spelled

/-! ## Statements -/

/-- A statement whose only line from generated code, if it has one, is that of an import where it stands. -/
def Statement.IsPlain : Statement → Prop
  | importNames i => i.Spelled
  | importForTypes _ => False
  | importLate _ => False
  | s => ∀ t ∈ s.lines, ∀ line ∈ linesOf t, importsGenerated line = false

/-- A statement that imports where it stands, or none of whose lines begins an import. -/
def Statement.IsCalm : Statement → Prop
  | importModule name => name = "json"
  | importNames i => i.Spelled
  | importForTypes _ => False
  | importLate _ => False
  | s => ∀ t ∈ s.lines, Calm t

/-- The lines of statements that import from generated code. -/
def generatedLines (body : List Statement) : List (List Char) :=
  ((body.flatMap Statement.lines).flatMap linesOf).filter importsGenerated

/-- The imports of generated modules are found statement by statement. -/
theorem generatedLines_cons (s : Statement) (body : List Statement) :
    generatedLines (s :: body) = (s.lines.flatMap linesOf).filter importsGenerated ++ generatedLines body := by
  rw [generatedLines, List.flatMap_cons, List.flatMap_append, List.filter_append]
  rfl

/-- The line of an import, or none if it reads a library. -/
theorem filter_linesOf_import {i : Import} (h : i.Spelled) (indent comment : String)
    (hi : indent.toList.all (· == ' ') = true) (hc : '\n' ∉ comment.toList) :
    (linesOf (indent ++ i.line ++ comment)).filter importsGenerated =
      if i.generatedPath?.isSome then [(indent ++ i.line ++ comment).toList] else [] := by
  have indentFeed : '\n' ∉ indent.toList := fun member => absurd (List.all_eq_true.1 hi _ member) (by decide)
  rw [linesOf_indented h indent comment indentFeed hc, List.filter_singleton, String.toList_append, String.toList_append,
    h.importsGenerated_line _ hi]
  cases i.generatedPath? <;> rfl

/-- The lines of plain statements that import from generated code are those of their imports. -/
theorem generatedLines_of_plain {body : List Statement} (h : ∀ s ∈ body, s.IsPlain) :
    generatedLines body = (body.filterMap Statement.directImport?).map fun i => i.line.toList := by
  induction body with
  | nil => rfl
  | cons s rest ih =>
      have others := ih fun s member => h s (List.mem_cons_of_mem _ member)
      have plain := h s List.mem_cons_self
      have quiet (calm : ∀ t ∈ s.lines, ∀ line ∈ linesOf t, importsGenerated line = false) :
          (s.lines.flatMap linesOf).filter importsGenerated = [] := by
        rw [List.filter_eq_nil_iff]
        intro line member
        obtain ⟨t, listed, inLines⟩ := List.mem_flatMap.1 member
        simp [calm t listed line inLines]
      rw [generatedLines_cons, others]
      cases s with
      | importNames i =>
          have line := filter_linesOf_import plain "" "" rfl (by decide)
          rw [String.empty_append, String.append_empty] at line
          rw [Statement.lines, List.flatMap_singleton, line]
          cases generated : i.generatedPath? <;> simp [Statement.directImport?, Option.guard, generated]
      | importForTypes imports => exact absurd plain id
      | importLate i => exact absurd plain id
      | _ => rw [quiet plain]; rfl

/-- The lines of imports after a class. -/
theorem generatedLines_importLate {imports : List Import} (h : ∀ i ∈ imports, i.Spelled ∧ i.generatedPath?.isSome) :
    generatedLines (imports.map .importLate) = imports.map fun i => (i.line ++ "  # noqa: E402").toList := by
  induction imports with
  | nil => rfl
  | cons i rest ih =>
      obtain ⟨spelled, generated⟩ := h i List.mem_cons_self
      have line := filter_linesOf_import spelled "" "  # noqa: E402" rfl (by decide)
      rw [String.empty_append, if_pos generated] at line
      rw [List.map_cons, generatedLines_cons, ih fun i member => h i (List.mem_cons_of_mem _ member), Statement.lines,
        List.flatMap_singleton, line]
      rfl

/-- The lines of imports for types. -/
theorem linesOf_importForTypes {imports : List Import} (h : ∀ i ∈ imports, i.Spelled) :
    (Statement.importForTypes imports).lines.flatMap linesOf =
      "if TYPE_CHECKING:".toList :: imports.map fun i => ("    " ++ i.line).toList := by
  have each : (imports.map fun i => "    " ++ i.line).flatMap linesOf = imports.map fun i => ("    " ++ i.line).toList := by
    rw [List.flatMap_map, List.map_eq_flatMap]
    refine List.flatMap_congr fun i member => ?_
    have line := linesOf_indented (h i member) "    " "" (by decide) (by decide)
    rwa [String.append_empty] at line
  rw [Statement.lines, List.flatMap_cons, each]
  rfl

/-- Calm lines are no imports. -/
theorem importsGenerated_of_calm {texts : List String} (h : ∀ t ∈ texts, Calm t) :
    ∀ t ∈ texts, ∀ line ∈ linesOf t, importsGenerated line = false :=
  fun t listed line member => importsGenerated_of_isInert (h t listed line member)

/-- A calm statement is plain. -/
theorem Statement.IsCalm.isPlain {s : Statement} (h : s.IsCalm) : s.IsPlain := by
  cases s with
  | importModule name =>
      obtain rfl := h
      show ∀ t ∈ ["import json"], ∀ line ∈ linesOf t, importsGenerated line = false
      decide
  | importNames i => exact h
  | importForTypes imports => exact h
  | importLate i => exact h
  | _ => exact importsGenerated_of_calm h

/-- A line of calm statements that could be an import is the one that imports a module, or one that imports names. -/
theorem mem_lines_of_calm {body : List Statement} (h : ∀ s ∈ body, s.IsCalm) {line : List Char} (loud : isInert line = false) :
    line ∈ (body.flatMap Statement.lines).flatMap linesOf ↔
      (.importModule "json" ∈ body ∧ line = "import json".toList) ∨ ∃ i, .importNames i ∈ body ∧ line = i.line.toList := by
  constructor
  · intro member
    obtain ⟨text, listed, inText⟩ := List.mem_flatMap.1 member
    obtain ⟨s, inBody, inLines⟩ := List.mem_flatMap.1 listed
    have calm := h s inBody
    -- the lines of all other statements are inert
    have quiet (calm : ∀ t ∈ s.lines, Calm t) : False := by
      rw [calm text inLines line inText] at loud
      cases loud
    cases s with
    | importModule name =>
        obtain rfl := calm
        obtain rfl := List.mem_singleton.1 inLines
        have single : linesOf "import json" = ["import json".toList] := linesOf_of_noFeed (by decide)
        rw [show "import " ++ "json" = "import json" from rfl, single, List.mem_singleton] at inText
        exact .inl ⟨inBody, inText⟩
    | importNames i =>
        obtain rfl := List.mem_singleton.1 inLines
        rw [linesOf_of_noFeed (Import.Spelled.noFeed calm), List.mem_singleton] at inText
        exact .inr ⟨i, inBody, inText⟩
    | importForTypes imports => exact calm.elim
    | importLate i => exact calm.elim
    | _ => exact (quiet calm).elim
  · rintro (⟨inBody, rfl⟩ | ⟨i, inBody, rfl⟩)
    · exact List.mem_flatMap.2 ⟨_, List.mem_flatMap.2 ⟨_, inBody, List.mem_singleton_self _⟩, by decide⟩
    · refine List.mem_flatMap.2 ⟨_, List.mem_flatMap.2 ⟨_, inBody, List.mem_singleton_self _⟩, ?_⟩
      rw [linesOf_of_noFeed (Import.Spelled.noFeed (h _ inBody))]
      exact List.mem_singleton_self _

/-! ## Definitions -/

/-- The texts with which a line can begin that defines a name. -/
def definitionStarts (name : String) : List String :=
  ["class " ++ name ++ "(", "class " ++ name ++ ":", "def " ++ name ++ "(", "async def " ++ name ++ "(", name ++ " = "]

/-- The line defines the name at the top level. -/
def Binds (name : String) (line : List Char) : Prop :=
  ∃ start ∈ definitionStarts name, start.toList <+: line

/-- The first line of a text begins like the text. -/
theorem exists_line_of_start {start : String} (h : '\n' ∉ start.toList) (rest : String) :
    ∃ line ∈ linesOf (start ++ rest), start.toList <+: line := by
  obtain ⟨first, others, split⟩ := List.exists_cons_of_ne_nil (Text.splitOnNewline_ne_nil rest.toList)
  have whole : Text.splitOnNewline start.toList = [] ++ [start.toList] := Text.splitOnNewline_of_not_mem h
  rw [linesOf, String.toList_append, Text.splitOnNewline_append whole split]
  exact ⟨start.toList ++ first, List.mem_cons_self, List.prefix_append _ _⟩

/-- A statement begins like the function that it is. -/
def Statement.StartsFunction : Statement → Prop
  | function name lines => ∃ rest more, lines = ("def " ++ name ++ "(" ++ rest) :: more
  | _ => True

/-- A name that a statement defines is defined by one of its lines. -/
theorem Statement.exists_binding_line {s : Statement} {name : String} (h : name ∈ s.defines) (noFeed : '\n' ∉ name.toList)
    (starts : s.StartsFunction) : ∃ line ∈ s.lines.flatMap linesOf, Binds name line := by
  have found (start rest : String) {text : String} (listed : start ∈ definitionStarts name) (inLines : text ∈ s.lines)
      (begins : text = start ++ rest) : ∃ line ∈ s.lines.flatMap linesOf, Binds name line := by
    have startFeed : '\n' ∉ start.toList := by
      simp only [definitionStarts, List.mem_cons, List.not_mem_nil, or_false] at listed
      rcases listed with rfl | rfl | rfl | rfl | rfl <;> simp [noFeed]
    obtain ⟨line, member, prefixed⟩ := exists_line_of_start startFeed rest
    exact ⟨line, List.mem_flatMap.2 ⟨text, inLines, begins ▸ member⟩, start, listed, prefixed⟩
  cases s with
  | assign other value =>
      cases List.mem_singleton.1 h
      exact found (name ++ " = ") value (by simp [definitionStarts]) List.mem_cons_self rfl
  | define c =>
      cases List.mem_singleton.1 h
      by_cases bare : c.bases.isEmpty
      · refine found ("class " ++ c.name ++ ":") "" (by simp [definitionStarts]) List.mem_cons_self ?_
        simp [ClassDefinition.heading, bare]
      · refine found ("class " ++ c.name ++ "(") (String.intercalate ", " c.bases ++ ")" ++ ":")
          (by simp [definitionStarts]) List.mem_cons_self ?_
        simp [ClassDefinition.heading, bare, String.append_assoc]
  | function other lines =>
      cases List.mem_singleton.1 h
      obtain ⟨rest, more, rfl⟩ := starts
      exact found ("def " ++ name ++ "(") rest (by simp [definitionStarts]) List.mem_cons_self rfl
  | endpoint e =>
      cases List.mem_singleton.1 h
      have first : ∃ rest, "async def " ++ e.name ++ "(" ++ rest ∈ e.signature := by
        unfold Endpoint.signature
        cases e.layout with
        | inline =>
            refine ⟨String.intercalate ", " (e.parameters.map Parameter.text) ++ "):", List.mem_singleton.2 ?_⟩
            simp only [String.append_assoc]
        | _ => exact ⟨"", by simp⟩
      obtain ⟨rest, inSignature⟩ := first
      have inLines : "async def " ++ e.name ++ "(" ++ rest ∈ e.lines :=
        List.mem_append_left _ (List.mem_cons_of_mem _ inSignature)
      exact found ("async def " ++ e.name ++ "(") rest (by simp [definitionStarts]) inLines rfl
  | _ => cases h

end ResourceScaffold.Code
