import ResourceScaffold.Proofs.Bindings
import ResourceScaffold.Proofs.ImportLines

/-!
# The types of properties are bound

The annotations of a data class are read when the class is first used. What they mention is by then bound in the module of the
class, and here it is looked for in the lines of the module, around those of the class (`ClassLayout`).

* The type of a property is made of names that are built in or imported from a library, or it is the class itself or a filter
  above it, or it is imported from generated code: above the class or, for what may refer back, for types and again after the
  class (`ClassLayout.Accounts`).
* Nothing else is defined or imported, and a line of an import tells which class it imports (`ClassLayout.Resolves`).

Of each class of an entity with names of letters, digits and underscores that differ in camelCase, the module has such lines
(`annotations_resolve`).
-/

namespace ResourceScaffold

open Code

/-! ## Lines around a class -/

namespace Code

/-- The names that a line imports from a library. -/
def libraryNames (line : List Char) : List (List Char) :=
  if (importSource? line).isSome && !importsGenerated line then (Text.runsOf (fun c => c != ' ' && c != ',') line).drop 3
  else []

/-- Whether a line begins a class. -/
def beginsClass (line : List Char) : Bool :=
  "class ".toList.isPrefixOf line

/-- The names in a type. -/
def typeNames (type : String) : List String :=
  (Text.runsOf (fun c => !(['[', ']', ',', ' '].contains c)) type.toList).map String.ofList

end Code

/-- The line that imports the class that a reference names, from the module of its owner. -/
def Reference.importLine (r : Reference) : String :=
  (Import.ofClass (Text.camelCase r.entity.display) r.name.display).line

/-- The line as it stands among the imports for types. -/
def Reference.lineForTypes (r : Reference) : List Char :=
  ("    " ++ r.importLine).toList

/-- The line as it stands after the class. -/
def Reference.lateLine (r : Reference) : List Char :=
  (r.importLine ++ "  # noqa: E402").toList

/-- The line is one of those that import the class that a reference names. -/
def Reference.HasLine (r : Reference) (line : List Char) : Prop :=
  if r.kind.isDeferred then line = r.lineForTypes ∨ line = r.lateLine else line = r.importLine.toList

/-- The lines of a module around those of its class. -/
structure ClassLayout where
  /-- The imports with which the module begins. -/
  header : List (List Char)
  /-- The imports for types. -/
  types : List (List Char)
  /-- The filters. -/
  filters : List (List Char)
  /-- What follows the class. -/
  tail : List (List Char)

namespace ClassLayout

/-- The lines before those of the class. -/
def above (l : ClassLayout) : List (List Char) :=
  l.header ++ l.types ++ l.filters

/-- The header imports the name from a library. -/
def Imports (l : ClassLayout) (name : String) : Prop :=
  ∃ line ∈ l.header, name.toList ∈ libraryNames line

/-- The lines account for the type of a property: by what the property refers to, if it refers to anything. -/
inductive Accounts (l : ClassLayout) (d : Descriptor) (p : Property) : Prop where
  | scalar {t : ScalarType} (plain : p.reference = none) (type : p.type = .text t.typeName)
      (known : ∀ name ∈ typeNames t.typeName, name ∈ ["str", "int", "float", "bool"] ∨ l.Imports name)
  /-- What is referred to has the name of the class, and is the class itself. -/
  | itself {r : Reference} (refers : p.reference = some r) (own : r.name = d.name) (type : p.type = d.name)
  | filter {r : Reference} {f : Filter} (refers : p.reference = some r) (kind : r.kind = .filter)
      (type : p.type = .text f.name) (defined : f.definition.lines.flatMap linesOf <:+: l.filters)
      (once : l.above.count f.definition.heading.toList = 1)
  | direct {r : Reference} (refers : p.reference = some r) (other : r.name ≠ d.name)
      (kind : r.kind = .enumeration ∨ r.kind = .whereUnique) (type : p.type = r.name)
      (once : l.above.count r.importLine.toList = 1)
  | deferred {r : Reference} (refers : p.reference = some r) (other : r.name ≠ d.name)
      (kind : r.kind = .entity ∨ r.kind = .whereInput) (type : p.type = r.name)
      (forTypes : l.types.count r.lineForTypes = 1) (late : l.tail.count r.lateLine = 1)

/-- The lines of a module resolve the types of the properties of its class, and hold no class and no import besides. -/
structure Resolves (l : ClassLayout) (d : Descriptor) (m : SourceModule) : Prop where
  /-- These are the lines of the module. -/
  content : linesOf m.content = l.above ++ d.definition.lines.flatMap linesOf ++ l.tail
  /-- The imports for types, if there are any, stand under their condition. -/
  conditional : l.types = [] ∨
    ∃ block, l.types = "if TYPE_CHECKING:".toList :: block ∧ ∀ line ∈ block, "    ".toList <+: line
  /-- All types are accounted for. -/
  accounts : ∀ p ∈ d.properties, l.Accounts d p
  /-- So are the types that make a property optional or a list. -/
  wrappers : l.Imports "Optional" ∧ l.Imports "List"
  /-- The condition is known iff something stands under it. -/
  checking : l.Imports "TYPE_CHECKING" ↔ ∃ line ∈ l.types, importsGenerated line = true
  /-- Each other class is a filter that a property refers to. -/
  onlyFilters : ∀ line ∈ l.above ++ l.tail, beginsClass line = true →
    ∃ p ∈ d.properties, ∃ (r : Reference) (f : Filter), p.reference = some r ∧ r.kind = .filter ∧ r.name = .text f.name ∧
      line = f.definition.heading.toList
  /-- Each import of generated code is of a class that a property refers to. -/
  onlyImports : ∀ line ∈ linesOf m.content, importsGenerated line = true →
    ∃ p ∈ d.properties, ∃ r, p.reference = some r ∧ r.kind ≠ .filter ∧ r.name ≠ d.name ∧ r.HasLine line
  /-- Different classes are imported by different lines. -/
  apart : ∀ p ∈ d.properties, ∀ q ∈ d.properties, ∀ r r', p.reference = some r → q.reference = some r' →
    r.kind ≠ .filter → r'.kind ≠ .filter → r.importLine = r'.importLine →
      r.entity = r'.entity ∧ r.name.display = r'.name.display

end ClassLayout

/-! ## Names of letters, digits and underscores -/

/-- A text of letters, digits and underscores. -/
def Value.IsWordName (v : Value) : Prop :=
  ∃ s, v = .text s ∧ ∀ c ∈ s.toList, Text.isWordChar c = true

/-- An entity and what the lookup of ids leads to have names of letters, digits and underscores, and different names differ in
camelCase. -/
structure Entity.HasWordNames (ids : Entries) (e : Entity) : Prop where
  own : e.name.IsWordName
  targets : ∀ entry ∈ ids, entry.2.IsWordName
  apart : ∀ v ∈ e.name :: ids.map Prod.snd, ∀ w ∈ e.name :: ids.map Prod.snd,
    Text.camelCase v.display = Text.camelCase w.display → v = w

/-- The name of an entity that can be a word is one. -/
theorem Value.IsWordName.isWord {v : Value} (h : v.IsWordName) : IsWord v.display := by
  obtain ⟨s, rfl, letters⟩ := h
  exact isWord_of_forall letters (by decide) (by decide)

/-- The camelCase form of a name of letters, digits and underscores holds no mark. -/
theorem Value.IsWordName.not_mem_camelCase {v : Value} (h : v.IsWordName) {b : Char} (mark : Text.IsMark b)
    (outside : Text.isWordChar b = false) : b ∉ (Text.camelCase v.display).toList := by
  obtain ⟨s, rfl, letters⟩ := h
  refine mark.not_mem_camelCase fun member => ?_
  rw [letters b member] at outside
  cases outside

/-- So is its form in camelCase. -/
theorem Value.IsWordName.isWord_camelCase {v : Value} (h : v.IsWordName) : IsWord (Text.camelCase v.display) :=
  Text.isWord_of_not_mem (h.not_mem_camelCase (by decide) (by decide)) (h.not_mem_camelCase (by decide) (by decide))

section names

variable {ids : Entries} {e : Entity} {d : Descriptor} {r : Reference} {kind : DescriptorKind}
  {imports : List ClassImport}

/-- What a relation leads to stands in the lookup. -/
theorem mem_of_relatedName {f : Field} {target : Value} (found : relatedName e f ids = .ok target) :
    target ∈ ids.map Prod.snd := by
  unfold relatedName at found
  simp only at found
  split at found
  · cases found
  · obtain ⟨key, -, rest⟩ := bind_eq_ok.1 found
    split at rest
    · next name filed =>
        cases rest
        obtain ⟨id, listed, -⟩ := Table.mem_of_find? filed
        exact List.mem_map_of_mem listed
    · cases rest

variable (names : e.HasWordNames ids)
include names

/-- The name of the entity and those that its lookup leads to can be words. -/
theorem Entity.HasWordNames.isWordName {v : Value} (listed : v ∈ e.name :: ids.map Prod.snd) : v.IsWordName := by
  rcases List.mem_cons.1 listed with rfl | target
  · exact names.own
  · obtain ⟨entry, member, rfl⟩ := List.mem_map.1 target
    exact names.targets entry member

omit names in
/-- The owner of a class that is referred to is the entity itself or stands in the lookup. -/
theorem Reference.Arises.entity_mem (h : r.Arises ids e kind) (other : r.kind ≠ .filter) :
    r.entity ∈ e.name :: ids.map Prod.snd := by
  cases h with
  | relation _ _ found => exact List.mem_cons_of_mem _ (mem_of_relatedName found)
  | enumeration => exact List.mem_cons_self
  | filter => exact absurd rfl other

/-- A class that is referred to has a name of one word. -/
theorem Reference.Arises.isWord_name (h : r.Arises ids e kind) (fields : ∀ f ∈ e.fields, checkFieldName e f = .ok ()) :
    IsWord r.name.display := by
  cases h with
  | @relation f target other _ _ found _ =>
      have word := (names.isWordName (List.mem_cons_of_mem _ (mem_of_relatedName found))).isWord
      exact word.append (isWord_suffix other)
  | @enumeration f name member _ named =>
      obtain ⟨s, text, usable, -⟩ := checkFieldName_eq_ok (fields f member)
      obtain ⟨own, entity, -⟩ := names.own
      have word := names.own.isWord
      rw [entity, Value.display_text] at word
      exact isWord_enumName entity word text (Text.isWord_of_isIdentifier usable) named
  | filter filter => cases filter <;> decide

/-- The class mentions words. -/
theorem Descriptor.IsClassOf.spelled_of_names (h : d.IsClassOf ids e)
    (fields : ∀ f ∈ e.fields, checkFieldName e f = .ok ()) : d.Spelled := by
  obtain ⟨own, entity, -⟩ := names.own
  have word := names.own.isWord
  rw [entity, Value.display_text] at word
  refine h.spelled fields entity word fun f _ target found => ?_
  have wordName := names.isWordName (List.mem_cons_of_mem _ (mem_of_relatedName found))
  have targetWord := wordName.isWord
  obtain ⟨s, rfl, -⟩ := wordName
  exact ⟨s, rfl, targetWord⟩

/-- The imports of the class can be read back. -/
theorem Descriptor.IsClassOf.imports_spelled (h : d.IsClassOf ids e)
    (fields : ∀ f ∈ e.fields, checkFieldName e f = .ok ()) (made : d.classImports = .ok imports) :
    ∀ i ∈ imports, i.source.Spelled := by
  intro i listed
  obtain ⟨ref, inClass, other, -, -, source⟩ := d.exists_reference made listed
  obtain ⟨arises, -⟩ := h.references inClass
  have owned := names.isWordName (arises.entity_mem other)
  rw [source]
  exact spelled_ofClass (classPath_spelled owned.isWord_camelCase (arises.isWord_name names fields))

end names

/-! ## The parts of a module -/

section parts

variable {ids : Entries} {e : Entity} {d : Descriptor} {r : Reference} {imports : List ClassImport} {filters : List Filter}

/-- The statements that define the filters of a class. -/
def filterStatements (filters : List Filter) : List Statement :=
  [.blank, .blank] ++ filters.flatMap fun f => [.define f.definition, .blank, .blank]

/-- The lines around a class with the given imports and filters. -/
def ClassLayout.ofImports (imports : List ClassImport) (filters : List Filter) : ClassLayout where
  header := statementLines (headStatements imports)
  types := typeLines (deferredImports imports)
  filters := statementLines (filterStatements filters)
  tail := statementLines (lateImports imports) ++ [[]]

namespace ClassLayout

/-- The lines of the module are those above the class, those of the class, and those after it. -/
theorem ofImports_content (spelled : ∀ i ∈ imports, i.source.Spelled) (entityName : String) :
    linesOf (d.moduleWith entityName imports filters).content = (ofImports imports filters).above ++
      d.definition.lines.flatMap linesOf ++ (ofImports imports filters).tail := by
  have own : statementLines [.define d.definition] = d.definition.lines.flatMap linesOf := by
    rw [statementLines, List.flatMap_singleton]
    rfl
  have body : d.classStatements filters = filterStatements filters ++ [.define d.definition] := rfl
  rw [Descriptor.linesOf_moduleWith spelled, body, statementLines_append, own]
  simp only [above, ofImports, List.append_assoc]

/-- The imports for types are indented under their condition, if there are any. -/
theorem ofImports_conditional : (ofImports imports filters).types = [] ∨
    ∃ block, (ofImports imports filters).types = "if TYPE_CHECKING:".toList :: block ∧
      ∀ line ∈ block, "    ".toList <+: line := by
  unfold ofImports typeLines
  split
  · exact .inl rfl
  · refine .inr ⟨_, rfl, fun line listed => ?_⟩
    obtain ⟨i, -, rfl⟩ := List.mem_map.1 listed
    rw [String.toList_append]
    exact List.prefix_append _ _

end ClassLayout

/-! ### Lines of imports -/

/-- Imports stand in one line each. -/
theorem statementLines_importNames {sources : List Import} (spelled : ∀ i ∈ sources, i.Spelled) :
    statementLines (sources.map .importNames) = sources.map fun i => i.line.toList := by
  rw [statementLines, List.flatMap_map, List.flatMap_assoc, List.map_eq_flatMap]
  refine List.flatMap_congr fun i listed => ?_
  rw [Statement.lines, List.flatMap_singleton]
  exact linesOf_of_noFeed (spelled i listed).noFeed

/-- The lines of the header: imports of libraries, then those of other classes. -/
theorem statementLines_headStatements (spelled : ∀ i ∈ imports, i.source.Spelled) :
    statementLines (headStatements imports) = statementLines (libraryImports (!(deferredImports imports).isEmpty)) ++
      (if (directImports imports).isEmpty then [] else [] :: (directImports imports).map fun i => i.line.toList) ++
      if (deferredImports imports).isEmpty then [] else [[]] := by
  have direct := statementLines_importNames fun i listed => spelled _ (mem_directImports.1 listed)
  have blank (body : List Statement) : statementLines (.blank :: body) = [] :: statementLines body := rfl
  rw [headStatements, statementLines_append, statementLines_append]
  congr 2
  · split
    · rfl
    · rw [blank, direct]
  · split <;> rfl

/-- The names that the imports of libraries give. -/
theorem libraryNames_libraryImports (deferring : Bool) :
    (statementLines (libraryImports deferring)).flatMap libraryNames =
      (["annotations", "datetime"] ++ (if deferring then ["TYPE_CHECKING"] else []) ++
        ["Any", "Dict", "List", "Optional", "BaseModel", "ConfigDict", "Field"]).map String.toList := by
  cases deferring <;> decide +kernel

/-- An import of a generated module names no library. -/
theorem libraryNames_of_generated {line : List Char} (generated : importsGenerated line = true) : libraryNames line = [] := by
  rw [libraryNames, generated, Bool.not_true, Bool.and_false]
  rfl

/-- The header imports from libraries what every class needs, and what deferred imports need if there are any. -/
theorem ClassLayout.ofImports_imports_iff (made : d.classImports = .ok imports) (spelled : ∀ i ∈ imports, i.source.Spelled)
    {name : String} : (ofImports imports filters).Imports name ↔
      name ∈ classLibraryNames ∨ deferredImports imports ≠ [] ∧ name = "TYPE_CHECKING" := by
  have direct : ((directImports imports).map fun i => i.line.toList).flatMap libraryNames = [] := by
    rw [List.flatMap_eq_nil_iff]
    intro line member
    obtain ⟨i, listed, rfl⟩ := List.mem_map.1 member
    have inClass := mem_directImports.1 listed
    have reads := (spelled _ inClass).importsGenerated_line [] rfl []
    rw [List.nil_append, List.append_nil, d.classImports_generated made inClass] at reads
    exact libraryNames_of_generated reads
  have others : (if (directImports imports).isEmpty then []
      else [] :: (directImports imports).map fun i => i.line.toList).flatMap libraryNames = [] := by
    split
    · rfl
    · rw [List.flatMap_cons, direct]
      rfl
  have blank : (if (deferredImports imports).isEmpty then [] else [[]]).flatMap libraryNames = [] := by
    split <;> rfl
  have listed : (ofImports imports filters).Imports name ↔
      name.toList ∈ (statementLines (headStatements imports)).flatMap libraryNames := List.mem_flatMap.symm
  rw [listed, statementLines_headStatements spelled, List.flatMap_append, List.flatMap_append, others, blank,
    List.append_nil, List.append_nil, libraryNames_libraryImports,
    List.mem_map_of_injective fun _ _ same => String.toList_inj.1 same]
  cases deferredImports imports with
  | nil => simp [classLibraryNames]
  | cons i rest =>
      simp only [List.isEmpty_cons, Bool.not_false, if_true, ne_eq, reduceCtorEq, not_false_eq_true, true_and]
      grind [classLibraryNames]

/-! ### Lines of imports of generated code -/

/-- The lines of filters import nothing. -/
theorem filter_importsGenerated_filterStatements :
    (statementLines (filterStatements filters)).filter importsGenerated = [] := by
  rw [List.filter_eq_nil_iff]
  intro line member
  obtain ⟨s, inBody, t, inStatement, inText⟩ := mem_statementLines.1 member
  simp only [filterStatements, List.mem_append, List.mem_cons, List.not_mem_nil, or_false, List.mem_flatMap] at inBody
  have calm : ∀ t ∈ s.lines, Calm t := by
    rcases inBody with (rfl | rfl) | ⟨f, -, rfl | rfl | rfl⟩
    · exact isCalm_blank
    · exact isCalm_blank
    · exact f.calm_definition
    · exact isCalm_blank
    · exact isCalm_blank
  rw [importsGenerated_of_calm calm t inStatement line inText]
  exact Bool.false_ne_true

/-- Of the lines that import for types all but the first import from generated code. -/
theorem ClassLayout.filter_importsGenerated_types (made : d.classImports = .ok imports)
    (spelled : ∀ i ∈ imports, i.source.Spelled) :
    (ofImports imports filters).types.filter importsGenerated =
      (deferredImports imports).map fun i => ("    " ++ i.line).toList := by
  have each : ∀ line ∈ (deferredImports imports).map fun i => ("    " ++ i.line).toList, importsGenerated line = true := by
    intro line member
    obtain ⟨i, listed, rfl⟩ := List.mem_map.1 member
    have inClass := mem_deferredImports.1 listed
    have reads := (spelled _ inClass).importsGenerated_line "    ".toList (by decide) []
    rwa [List.append_nil, ← String.toList_append, d.classImports_generated made inClass] at reads
  unfold ofImports typeLines
  dsimp only
  split
  · next none => rw [List.isEmpty_iff.1 none, List.map_nil, List.filter_nil]
  · rw [List.filter_cons_of_neg (by decide), List.filter_eq_self.2 each]

/-- The lines above a class that import from generated code. -/
theorem ClassLayout.filter_importsGenerated_above (made : d.classImports = .ok imports)
    (spelled : ∀ i ∈ imports, i.source.Spelled) :
    (ofImports imports filters).above.filter importsGenerated =
      ((directImports imports).map fun i => i.line.toList) ++
        (deferredImports imports).map fun i => ("    " ++ i.line).toList := by
  have header := generatedLines_of_plain (isPlain_headStatements spelled)
  rw [directImports_headStatements made] at header
  rw [above, List.filter_append, List.filter_append, filter_importsGenerated_types made spelled]
  show generatedLines (headStatements imports) ++ _ ++ (statementLines (filterStatements filters)).filter _ = _
  rw [header, filter_importsGenerated_filterStatements, List.append_nil]

/-- The lines below a class that import from generated code. -/
theorem ClassLayout.filter_importsGenerated_tail (made : d.classImports = .ok imports)
    (spelled : ∀ i ∈ imports, i.source.Spelled) :
    (ofImports imports filters).tail.filter importsGenerated =
      (deferredImports imports).map fun i => (i.line ++ "  # noqa: E402").toList := by
  rw [← generatedLines_lateImports spelled fun i listed => d.classImports_generated made listed, ofImports, List.filter_append]
  exact List.append_nil _

/-! ### Lines that begin classes -/

/-- A line that begins with another letter begins no class. -/
theorem beginsClass_cons {c : Char} (other : c ≠ 'c') (rest : List Char) : beginsClass (c :: rest) = false := by
  have first : ('c' == c) = false := by simpa using other.symm
  show ('c' == c && _) = false
  rw [first, Bool.false_and]

/-- The heading of a class begins one. -/
theorem beginsClass_heading (c : ClassDefinition) : beginsClass c.heading.toList = true := by
  simp only [ClassDefinition.heading, String.toList_append, List.append_assoc]
  exact List.isPrefixOf_iff_prefix.2 (List.prefix_append _ _)

/-- An import begins none. -/
theorem beginsClass_line (i : Import) (comment : String) : beginsClass (i.line ++ comment).toList = false := by
  simp only [Import.line, String.toList_append, List.append_assoc]
  exact beginsClass_cons (by decide) _

/-- Texts in one line begin no class if they do not begin so. -/
theorem filter_beginsClass_of_texts {texts : List String}
    (each : ∀ t ∈ texts, '\n' ∉ t.toList ∧ beginsClass t.toList = false) :
    (texts.flatMap linesOf).filter beginsClass = [] := by
  rw [List.filter_eq_nil_iff]
  intro line member
  obtain ⟨t, listed, inText⟩ := List.mem_flatMap.1 member
  obtain ⟨noFeed, other⟩ := each t listed
  rw [linesOf_of_noFeed noFeed, List.mem_singleton] at inText
  rw [inText, other]
  exact Bool.false_ne_true

/-- Of the lines of a filter only the first begins a class. -/
theorem Filter.filter_beginsClass_definition (f : Filter) :
    (f.definition.lines.flatMap linesOf).filter beginsClass = [f.definition.heading.toList] := by
  have heading : '\n' ∉ f.definition.heading.toList := by cases f <;> decide
  have members : ((f.definition.members.flatMap Member.lines).flatMap linesOf).filter beginsClass = [] := by
    refine filter_beginsClass_of_texts fun t inMembers => ?_
    obtain ⟨m, listed, inMember⟩ := List.mem_flatMap.1 inMembers
    simp only [definition, List.mem_append, List.mem_cons, List.not_mem_nil, or_false, List.mem_map] at listed
    rcases listed with (rfl | rfl) | ⟨o, inFilter, rfl⟩
    · rw [List.mem_singleton.1 inMember]
      decide
    · rw [List.mem_singleton.1 inMember]
      decide
    · obtain ⟨name, request⟩ := isWord_operator inFilter
      have type : '\n' ∉ f.valueType.typeName.toList := by cases f <;> decide
      rw [List.mem_singleton.1 inMember]
      have opening := opening_field { name := _, isList := o.isList, optional := true } name type request
      refine ⟨opening.noFeed, ?_⟩
      simp only [String.toList_append, List.append_assoc]
      exact beginsClass_cons (by decide) _
  rw [ClassDefinition.lines, List.flatMap_cons, List.filter_append, members, linesOf_of_noFeed heading, List.append_nil,
    List.filter_cons_of_pos (beginsClass_heading _), List.filter_nil]

/-- The lines of the filters are those of their classes, each with two empty ones after it. -/
theorem statementLines_filterStatements :
    statementLines (filterStatements filters) =
      [[], []] ++ filters.flatMap fun f => f.definition.lines.flatMap linesOf ++ [[], []] := by
  have block (f : Filter) : statementLines [.define f.definition, .blank, .blank] =
      f.definition.lines.flatMap linesOf ++ [[], []] := by
    simp only [statementLines, List.flatMap_cons, List.flatMap_nil, List.flatMap_append, List.append_nil]
    rfl
  rw [filterStatements, statementLines_append]
  congr 1
  rw [statementLines, List.flatMap_assoc, List.flatMap_assoc]
  refine List.flatMap_congr fun f _ => ?_
  rw [← block f, statementLines, List.flatMap_assoc]

/-- The filters begin with the lines of their classes. -/
theorem filter_beginsClass_filterStatements :
    (statementLines (filterStatements filters)).filter beginsClass = filters.map fun f => f.definition.heading.toList := by
  rw [statementLines_filterStatements, List.filter_append, List.filter_flatMap, List.map_eq_flatMap]
  refine List.flatMap_congr fun f _ => ?_
  rw [List.filter_append, f.filter_beginsClass_definition]
  rfl

/-- Above a class only its filters begin classes. -/
theorem ClassLayout.filter_beginsClass_above (spelled : ∀ i ∈ imports, i.source.Spelled) :
    (ofImports imports filters).above.filter beginsClass = filters.map fun f => f.definition.heading.toList := by
  have header : (statementLines (headStatements imports)).filter beginsClass = [] := by
    refine filter_beginsClass_of_texts fun t inLines => ?_
    obtain ⟨s, inBody, inStatement⟩ := List.mem_flatMap.1 inLines
    rcases headStatements_cases spelled inBody with rfl | ⟨i, spelledImport, rfl⟩
    · rw [List.mem_singleton.1 inStatement]
      decide
    · rw [List.mem_singleton.1 inStatement]
      have begins := beginsClass_line i ""
      rw [String.append_empty] at begins
      exact ⟨spelledImport.noFeed, begins⟩
  have types : (typeLines (deferredImports imports)).filter beginsClass = [] := by
    unfold typeLines
    split
    · rfl
    · rw [List.filter_cons_of_neg (by decide), List.filter_eq_nil_iff]
      intro line indented
      obtain ⟨i, -, rfl⟩ := List.mem_map.1 indented
      rw [String.toList_append, show "    ".toList = ' ' :: "   ".toList from rfl, List.cons_append,
        beginsClass_cons (by decide)]
      exact Bool.false_ne_true
  rw [above, List.filter_append, List.filter_append]
  show (statementLines (headStatements imports)).filter _ ++ (typeLines _).filter _ ++
    (statementLines (filterStatements filters)).filter _ = _
  rw [header, types, filter_beginsClass_filterStatements, List.nil_append, List.nil_append]

/-- After a class no class begins. -/
theorem ClassLayout.filter_beginsClass_tail (spelled : ∀ i ∈ imports, i.source.Spelled) :
    (ofImports imports filters).tail.filter beginsClass = [] := by
  have late : (statementLines (lateImports imports)).filter beginsClass = [] := by
    refine filter_beginsClass_of_texts fun t inLines => ?_
    obtain ⟨s, inBody, inStatement⟩ := List.mem_flatMap.1 inLines
    unfold lateImports at inBody
    simp only at inBody
    split at inBody
    · cases inBody
    · simp only [List.mem_cons, List.mem_map] at inBody
      rcases inBody with rfl | rfl | ⟨i, listed, rfl⟩
      · rw [List.mem_singleton.1 inStatement]
        decide
      · rw [List.mem_singleton.1 inStatement]
        decide
      · have noFeed := (spelled _ (mem_deferredImports.1 listed)).noFeed
        rw [List.mem_singleton.1 inStatement]
        exact ⟨feed_not_mem_append.2 ⟨noFeed, by decide⟩, beginsClass_line i _⟩
  rw [ofImports, List.filter_append, late]
  rfl

/-! ### Lines that occur once -/

/-- The imports of a class that are deferred, or those that are not, have different lines. -/
theorem Descriptor.nodup_lines (made : d.classImports = .ok imports) (test : ClassImport → Bool) (late : Bool)
    (same : ∀ i, test i = true → i.deferred = late) :
    ((sortImports ((imports.filter test).map ClassImport.source)).map Import.line).Nodup := by
  have pairs : (imports.map fun i => (i.deferred, i.source.line)).Nodup := by
    obtain ⟨all, -, distinct⟩ := bind_eq_ok.1 made
    cases distinct
    exact nodup_map_distinctBy _ _
  have kept := pairs.sublist (List.filter_sublist (p := test).map _)
  have constant : (imports.filter test).map (fun i => (i.deferred, i.source.line)) =
      (((imports.filter test).map ClassImport.source).map Import.line).map (Prod.mk late) := by
    rw [List.map_map, List.map_map]
    refine List.map_congr_left fun i member => ?_
    rw [same i (List.mem_filter.1 member).2]
    rfl
  rw [constant] at kept
  have sorted := (List.mergeSort_perm ((imports.filter test).map ClassImport.source) fun i j => decide (i.line ≤ j.line))
  exact (sorted.map Import.line).nodup_iff.2 (List.Nodup.of_map _ kept)

/-- So they have different lines when all are written in one way. -/
theorem Descriptor.nodup_directLines (made : d.classImports = .ok imports) :
    ((directImports imports).map fun i => i.line.toList).Nodup := by
  have lines := d.nodup_lines made (fun i => !i.deferred) false (by simp)
  have written := lines.map (f := String.toList) fun _ _ same => String.toList_inj.1 same
  rwa [List.map_map] at written

/-- The lines of deferred imports differ, whatever stands around them. -/
theorem Descriptor.nodup_deferredLines (made : d.classImports = .ok imports) (before after : String) :
    ((deferredImports imports).map fun i => (before ++ i.line ++ after).toList).Nodup := by
  have lines := d.nodup_lines made (fun i => i.deferred) true (by simp)
  have written := lines.map (f := fun line => (before ++ line ++ after).toList) fun _ _ same =>
    String.toList_inj.1 (by simpa using same)
  rwa [List.map_map] at written

section counts

variable (made : d.classImports = .ok imports) (spelled : ∀ i ∈ imports, i.source.Spelled)
include made spelled

/-- A direct import has its line once above the class. -/
theorem ClassLayout.count_direct {i : Import} (listed : i ∈ directImports imports) :
    (ofImports imports filters).above.count i.line.toList = 1 := by
  refine count_eq_one_of_filter (filter_importsGenerated_above made spelled) ?_
    (List.mem_append_left _ (List.mem_map_of_mem (f := fun i : Import => i.line.toList) listed))
  have indented := d.nodup_deferredLines made "    " ""
  simp only [String.append_empty] at indented
  refine List.nodup_append.2 ⟨d.nodup_directLines made, indented, fun line direct line' deferred => ?_⟩
  -- only the lines of the deferred imports are indented
  obtain ⟨j, -, rfl⟩ := List.mem_map.1 direct
  obtain ⟨k, -, rfl⟩ := List.mem_map.1 deferred
  simp [Import.line]

/-- A deferred import has its line once among the imports for types. -/
theorem ClassLayout.count_forTypes {i : Import} (listed : i ∈ deferredImports imports) :
    (ofImports imports filters).types.count ("    " ++ i.line).toList = 1 := by
  have indented := d.nodup_deferredLines made "    " ""
  simp only [String.append_empty] at indented
  exact count_eq_one_of_filter (filter_importsGenerated_types made spelled) indented
    (List.mem_map_of_mem (f := fun i : Import => ("    " ++ i.line).toList) listed)

/-- A deferred import has its line once after the class. -/
theorem ClassLayout.count_late {i : Import} (listed : i ∈ deferredImports imports) :
    (ofImports imports filters).tail.count (i.line ++ "  # noqa: E402").toList = 1 := by
  have late := d.nodup_deferredLines made "" "  # noqa: E402"
  simp only [String.empty_append] at late
  exact count_eq_one_of_filter (filter_importsGenerated_tail made spelled) late
    (List.mem_map_of_mem (f := fun i : Import => (i.line ++ "  # noqa: E402").toList) listed)

omit made in
/-- A filter of the class is defined once above it. -/
theorem ClassLayout.count_heading (filtersMade : d.filters = .ok filters) {f : Filter} (listed : f ∈ filters) :
    (ofImports imports filters).above.count f.definition.heading.toList = 1 := by
  have names : (filters.map Filter.name).Nodup := by
    rw [d.map_name_filters filtersMade]
    have distinct := nodup_map_distinctBy (fun name : String => name)
      ((d.references.filter fun r => r.kind == .filter).map fun r => r.name.display)
    rwa [List.map_id'] at distinct
  have injective : Function.Injective fun f : Filter => f.definition.heading.toList := by
    intro f g same
    cases f <;> cases g <;> first | rfl | exact absurd same (by decide)
  exact count_eq_one_of_filter (filter_beginsClass_above spelled) ((List.Nodup.of_map _ names).map injective)
    (List.mem_map_of_mem (f := fun f : Filter => f.definition.heading.toList) listed)

end counts

end parts

/-! ## The types of a class -/

section resolves

variable {ids : Entries} {e : Entity} {d : Descriptor} {imports : List ClassImport} {filters : List Filter} {p : Property}

/-- References to what is read and to what filters are deferred. -/
theorem ReferenceKind.isDeferred_iff (kind : ReferenceKind) :
    kind.isDeferred = true ↔ kind = .entity ∨ kind = .whereInput := by
  cases kind <;> decide

/-- The other ones, except to filters, are to enumerations and to classes that identify. -/
theorem ReferenceKind.direct_of_not_isDeferred {kind : ReferenceKind} (direct : kind.isDeferred = false)
    (other : kind ≠ .filter) : kind = .enumeration ∨ kind = .whereUnique := by
  cases kind with
  | enumeration => exact .inl rfl
  | whereUnique => exact .inr rfl
  | filter => exact absurd rfl other
  | entity | whereInput => cases direct

section accounts

variable (names : e.HasWordNames ids) (isClass : d.IsClassOf ids e) (made : d.classImports = .ok imports)
  (spelled : ∀ i ∈ imports, i.source.Spelled) (filtersMade : d.filters = .ok filters) {r : Reference}
  (refers : p.reference = some r) (type : p.type = r.name) (inClass : r ∈ d.references) (other : r.name ≠ d.name)
include isClass spelled refers type inClass

include filtersMade in
/-- A filter that a property refers to is defined above the class. -/
theorem ClassLayout.accounts_filter (isFilter : r.kind = .filter) : (ofImports imports filters).Accounts d p := by
  obtain ⟨f, listed, display⟩ := (d.exists_filter_iff filtersMade).2 ⟨r, inClass, isFilter, rfl⟩
  obtain ⟨f', named⟩ := (isClass.references inClass).1.filter_name isFilter
  rw [named, Value.display_text] at display
  refine .filter refers isFilter (by rw [type, named, display]) ?_ (count_heading spelled filtersMade listed)
  show f.definition.lines.flatMap linesOf <:+: statementLines (filterStatements filters)
  rw [statementLines_filterStatements, List.flatMap_def]
  have block := List.infix_of_mem_flatten (List.mem_map_of_mem
    (f := fun f : Filter => f.definition.lines.flatMap linesOf ++ [[], []]) listed)
  exact ((List.prefix_append _ _).isInfix.trans block).trans (List.suffix_append _ _).isInfix

include names made other in
/-- Another class that a property refers to is imported. -/
theorem ClassLayout.accounts_import (notFilter : r.kind ≠ .filter) : (ofImports imports filters).Accounts d p := by
  obtain ⟨owner, entity, -⟩ := names.isWordName ((isClass.references inClass).1.entity_mem notFilter)
  obtain ⟨⟨late, i⟩, listed, sameKind, line⟩ := d.exists_import made inClass notFilter entity
  have importLine : r.importLine = i.line := by rw [Reference.importLine, entity, Value.display_text, line]
  cases deferred : r.kind.isDeferred with
  | false =>
      rw [deferred] at sameKind
      cases sameKind
      refine .direct refers other (ReferenceKind.direct_of_not_isDeferred deferred notFilter) type ?_
      rw [importLine]
      exact count_direct made spelled (mem_directImports.2 listed)
  | true =>
      rw [deferred] at sameKind
      cases sameKind
      have forTypes : (ofImports imports filters).types.count ("    " ++ i.line).toList = 1 :=
        count_forTypes made spelled (mem_deferredImports.2 listed)
      have after : (ofImports imports filters).tail.count (i.line ++ "  # noqa: E402").toList = 1 :=
        count_late made spelled (mem_deferredImports.2 listed)
      rw [← importLine] at forTypes after
      exact .deferred refers other (r.kind.isDeferred_iff.1 deferred) type forTypes after

end accounts

/-- The lines around a class account for the type of each property. -/
theorem ClassLayout.accounts (names : e.HasWordNames ids) (isClass : d.IsClassOf ids e) (made : d.classImports = .ok imports)
    (spelled : ∀ i ∈ imports, i.source.Spelled) (filtersMade : d.filters = .ok filters) (hp : p ∈ d.properties) :
    (ofImports imports filters).Accounts d p := by
  obtain ⟨s, entity, -⟩ := names.own
  cases refers : p.reference with
  | none =>
      obtain ⟨t, type⟩ := isClass.type_of_none hp refers
      refine .scalar refers type fun name inType => ?_
      have known : ∀ name ∈ typeNames t.typeName, name ∈ ["str", "int", "float", "bool"] ∨ name ∈ classLibraryNames := by
        cases t <;> decide
      exact (known name inType).imp_right fun library => (ofImports_imports_iff made spelled).2 (.inl library)
  | some r =>
      have type := isClass.type_of_reference hp refers
      by_cases itself : r.name = d.name
      · exact .itself refers itself (type.trans itself)
      · have inClass := (d.mem_references_iff_of_name (isClass.name_eq entity)).2 ⟨⟨p, hp, refers⟩, itself⟩
        by_cases isFilter : r.kind = .filter
        · exact accounts_filter isClass spelled filtersMade refers type inClass isFilter
        · exact accounts_import names isClass made spelled refers type inClass itself isFilter

/-- Where a module imports a deferred class for types, it also needs to know whether types are checked. -/
theorem ClassLayout.imports_checking_iff (made : d.classImports = .ok imports) (spelled : ∀ i ∈ imports, i.source.Spelled) :
    (ofImports imports filters).Imports "TYPE_CHECKING" ↔
      ∃ line ∈ (ofImports imports filters).types, importsGenerated line = true := by
  have deferred : (∃ line ∈ (ofImports imports filters).types, importsGenerated line = true) ↔
      deferredImports imports ≠ [] := by
    have none := List.filter_eq_nil_iff (l := (ofImports imports filters).types) (p := importsGenerated)
    rw [filter_importsGenerated_types made spelled, List.map_eq_nil_iff] at none
    rw [ne_eq, none]
    push Not
    rfl
  rw [ofImports_imports_iff made spelled, deferred, or_iff_right (by decide)]
  exact and_iff_left rfl

/-- Each class that begins above or after a class is a filter that the class refers to. -/
theorem ClassLayout.onlyFilters (isClass : d.IsClassOf ids e) {s : String} (own : d.name = .text s)
    (spelled : ∀ i ∈ imports, i.source.Spelled) (filtersMade : d.filters = .ok filters) {line : List Char}
    (listed : line ∈ (ofImports imports filters).above ++ (ofImports imports filters).tail)
    (begins : beginsClass line = true) :
    ∃ p ∈ d.properties, ∃ (r : Reference) (f : Filter), p.reference = some r ∧ r.kind = .filter ∧ r.name = .text f.name ∧
      line = f.definition.heading.toList := by
  rcases List.mem_append.1 listed with above | tail
  · have heading := List.mem_filter.2 ⟨above, begins⟩
    rw [filter_beginsClass_above spelled] at heading
    obtain ⟨f, inModule, rfl⟩ := List.mem_map.1 heading
    obtain ⟨r, inClass, isFilter, display⟩ := (d.exists_filter_iff filtersMade).1 ⟨f, inModule, rfl⟩
    obtain ⟨⟨p, hp, refers⟩, -⟩ := (d.mem_references_iff_of_name own).1 inClass
    obtain ⟨f', named⟩ := (isClass.references inClass).1.filter_name isFilter
    rw [named, Value.display_text] at display
    exact ⟨p, hp, r, f, refers, isFilter, by rw [named, display], rfl⟩
  · have found := List.mem_filter.2 ⟨tail, begins⟩
    rw [filter_beginsClass_tail spelled] at found
    cases found

/-- Each line that imports from generated code is that of a class that the class refers to. -/
theorem ClassLayout.exists_reference_of_line (calm : d.Spelled) (made : d.classImports = .ok imports)
    (spelled : ∀ i ∈ imports, i.source.Spelled) (entityName : String) {line : List Char}
    (listed : line ∈ linesOf (d.moduleWith entityName imports filters).content) (generated : importsGenerated line = true) :
    ∃ r ∈ d.references, r.kind ≠ .filter ∧ r.HasLine line := by
  have imported {i : ClassImport} (inClass : i ∈ imports)
      (written : if i.deferred then line = ("    " ++ i.source.line).toList ∨ line = (i.source.line ++ "  # noqa: E402").toList
        else line = i.source.line.toList) : ∃ r ∈ d.references, r.kind ≠ .filter ∧ r.HasLine line := by
    obtain ⟨r, refers, notFilter, late, -, source⟩ := d.exists_reference made inClass
    have importLine : r.importLine = i.source.line := by rw [Reference.importLine, source]
    rw [late, ← importLine] at written
    exact ⟨r, refers, notFilter, written⟩
  rw [ofImports_content spelled, List.mem_append, List.mem_append] at listed
  rcases listed with (above | inClass) | tail
  · have found := List.mem_filter.2 ⟨above, generated⟩
    rw [filter_importsGenerated_above made spelled, List.mem_append] at found
    rcases found with direct | deferred
    · obtain ⟨i, listed, rfl⟩ := List.mem_map.1 direct
      exact imported (mem_directImports.1 listed) rfl
    · obtain ⟨i, listed, rfl⟩ := List.mem_map.1 deferred
      exact imported (mem_deferredImports.1 listed) (.inl rfl)
  · obtain ⟨t, inDefinition, inText⟩ := List.mem_flatMap.1 inClass
    rw [importsGenerated_of_calm calm.calm_definition t inDefinition line inText] at generated
    cases generated
  · have found := List.mem_filter.2 ⟨tail, generated⟩
    rw [filter_importsGenerated_tail made spelled] at found
    obtain ⟨i, listed, rfl⟩ := List.mem_map.1 found
    exact imported (mem_deferredImports.1 listed) (.inr rfl)

/-- Classes with one line are one class. -/
theorem Entity.HasWordNames.eq_of_importLine {r r' : Reference} {kind kind' : DescriptorKind} (names : e.HasWordNames ids)
    (arises : r.Arises ids e kind) (arises' : r'.Arises ids e kind') (notFilter : r.kind ≠ .filter)
    (notFilter' : r'.kind ≠ .filter) (same : r.importLine = r'.importLine) :
    r.entity = r'.entity ∧ r.name.display = r'.name.display := by
  have listed := arises.entity_mem notFilter
  have listed' := arises'.entity_mem notFilter'
  have plain {v : Value} (h : v.IsWordName) :
      '.' ∉ (Text.camelCase v.display).toList ∧ '/' ∉ (Text.camelCase v.display).toList :=
    ⟨h.not_mem_camelCase (by decide) (by decide), h.not_mem_camelCase (by decide) (by decide)⟩
  obtain ⟨owners, classes⟩ :=
    Import.ofClass_inj_of_line (plain (names.isWordName listed)) (plain (names.isWordName listed')) same
  exact ⟨names.apart _ listed _ listed' owners, classes⟩

end resolves

/-- Each class of an entity has a module, if the names of the fields are accepted and those of the entity and of what the lookup
leads to are of letters, digits and underscores and differ in camelCase; and the lines of the module resolve the types of all
properties. -/
theorem annotations_resolve {ids : Entries} {e : Entity} {d : Descriptor} (names : e.HasWordNames ids)
    (fields : ∀ f ∈ e.fields, checkFieldName e f = .ok ()) (isClass : d.IsClassOf ids e) (entityName : String) :
    ∃ m l, d.toModule entityName = .ok m ∧ ClassLayout.Resolves l d m := by
  obtain ⟨m, returned⟩ := isClass.toModule_returns_of_owned (fun r inClass notFilter => by
    obtain ⟨owner, entity, -⟩ := names.isWordName ((isClass.references inClass).1.entity_mem notFilter)
    rw [entity]
    exact .text owner) entityName
  obtain ⟨imports, filters, made, filtersMade, rfl⟩ := Descriptor.toModule_eq_ok.1 returned
  have spelled := isClass.imports_spelled names fields made
  obtain ⟨s, entity, -⟩ := names.own
  have own := isClass.name_eq entity
  refine ⟨_, .ofImports imports filters, returned, ?_⟩
  have library : ∀ name ∈ classLibraryNames, (ClassLayout.ofImports imports filters).Imports name := fun _ listed =>
    (ClassLayout.ofImports_imports_iff made spelled).2 (.inl listed)
  exact
    { content := ClassLayout.ofImports_content spelled entityName
      conditional := ClassLayout.ofImports_conditional
      accounts := fun p hp => ClassLayout.accounts names isClass made spelled filtersMade hp
      wrappers := ⟨library _ (by decide), library _ (by decide)⟩
      checking := ClassLayout.imports_checking_iff made spelled
      onlyFilters := fun line => ClassLayout.onlyFilters isClass own spelled filtersMade
      onlyImports := fun line listed generated => by
        obtain ⟨r, inClass, notFilter, hasLine⟩ := ClassLayout.exists_reference_of_line (isClass.spelled_of_names names fields)
          made spelled entityName listed generated
        obtain ⟨⟨p, hp, refers⟩, other⟩ := (d.mem_references_iff_of_name own).1 inClass
        exact ⟨p, hp, r, refers, notFilter, other, hasLine⟩
      apart := fun p hp q hq r r' refers refers' notFilter notFilter' same =>
        names.eq_of_importLine (isClass.made.arises p hp r refers) (isClass.made.arises q hq r' refers') notFilter notFilter'
          same }

/-- An article has two texts and a status, is written and reviewed by people, and may follow another article. -/
def Entity.article : Entity :=
  let field (name : String) (dataType : DataType) (target : String) : Field :=
    { name := .text name
      dataType
      required := false
      unique := false
      searchable := true
      properties := [(.text "relatedEntityId", .text target)] }
  { name := .text "Article"
    id := .text "article"
    fields :=
      [field "title" .singleLineText "", field "author" .lookup "person", field "status" .optionSet "",
        field "reviewer" .lookup "person", field "previous" .lookup "article", field "summary" .multiLineText ""] }

/-- The lookup of articles and people. -/
def articleIds : Entries :=
  [(.text "article", .text "Article"), (.text "person", .text "Person")]

/-- The names of an article and its lookup can be words. -/
theorem Entity.article_hasWordNames : article.HasWordNames articleIds := by
  have article : (Value.text "Article").IsWordName := ⟨_, rfl, List.all_eq_true.1 (by decide)⟩
  have person : (Value.text "Person").IsWordName := ⟨_, rfl, List.all_eq_true.1 (by decide)⟩
  refine ⟨article, ?_, ?_⟩
  · simp only [articleIds, List.forall_mem_cons]
    exact ⟨article, person, by simp⟩
  · intro v hv w hw same
    simp only [articleIds, List.map_cons, List.map_nil, List.mem_cons, List.not_mem_nil, or_false] at hv hw
    rcases hv with rfl | rfl | rfl <;> rcases hw with rfl | rfl | rfl <;> first | rfl | exact absurd same (by decide)

/-- The class that filters articles mentions a filter twice, the class that filters people twice, an enumeration and itself. -/
theorem Entity.article_annotations : ∃ d m l, whereDescriptor article articleIds = .ok d ∧
    d.properties.map (fun p => p.type.display) = ["StringFilter", "PersonWhereInput", "EnumArticleStatus", "PersonWhereInput",
      "ArticleWhereInput", "StringFilter"] ∧
    d.toModule "article" = .ok m ∧ ClassLayout.Resolves l d m := by
  obtain ⟨d, filters⟩ := isOk_iff.1 (show (whereDescriptor article articleIds).isOk = true from rfl)
  have fields : ∀ f ∈ article.fields, checkFieldName article f = .ok () := by
    simp only [article, List.forall_mem_cons]
    exact ⟨rfl, rfl, rfl, rfl, rfl, rfl, by simp⟩
  obtain ⟨m, l, returned, resolves⟩ := annotations_resolve article_hasWordNames fields (.filter filters) "article"
  have types : (whereDescriptor article articleIds).map (fun d => d.properties.map fun p => p.type.display) =
      .ok ["StringFilter", "PersonWhereInput", "EnumArticleStatus", "PersonWhereInput", "ArticleWhereInput", "StringFilter"] :=
    rfl
  rw [filters] at types
  exact ⟨d, m, l, filters, Except.ok.inj types, returned, resolves⟩

end ResourceScaffold
