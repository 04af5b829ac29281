import ResourceScaffold.Proofs.Linking
import ResourceScaffold.Proofs.Paths
import ResourceScaffold.Proofs.StatementLines

/-!
# The lines of generated modules

Apart from the deferred imports of data classes, every statement of a generated module is plain: its only line that imports
from generated code is that of an import where it stands. What it takes is that names are words (`Resource.Spelled`,
`Descriptor.Spelled`), which holds of a generation from entities whose names are words.
-/

namespace ResourceScaffold

open Code

/-! ## Imports -/

/-- An import from one of the libraries. -/
theorem spelled_library {name : String} {names : List String} (listed : name ∈ libraries)
    (noFeed : ∀ n ∈ names, '\n' ∉ n.toList) : Import.Spelled { origin := .library name, names } where
  source := by
    have words : ∀ library ∈ libraries, IsWord library := by decide
    exact words name listed
  names := noFeed
  known := ⟨fun _ => rfl, fun _ => listed⟩

/-- The import form of a path that is a word is one. -/
theorem isWord_importPath {path : String} (h : IsWord path) : IsWord (importPath path) := by
  have kept : ∀ c ∈ dropSuffix path.toList, c ∈ path.toList := by
    intro c member
    unfold dropSuffix at member
    split at member
    · exact List.mem_of_mem_take member
    · exact member
  intro c member
  rw [importPath, String.toList_ofList] at member
  obtain ⟨d, inPath, rfl⟩ := List.mem_map.1 member
  split
  · decide
  · exact h d (kept d inPath)

/-- A module under a directory is no library, if its path has an underscore or another directory. -/
theorem importPath_not_mem_libraries {path : String} (nested : '/' ∈ path.toList)
    (marked : '_' ∈ path.toList ∨ 2 ≤ path.toList.count '/') : importPath (path ++ ".py") ∉ libraries := by
  have plain : ∀ library ∈ libraries, ¬ ('.' ∈ library.toList ∧ ('_' ∈ library.toList ∨ 2 ≤ library.toList.count '.')) := by
    decide
  intro listed
  refine plain _ listed ?_
  rw [toList_importPath]
  refine ⟨List.mem_map.2 ⟨'/', nested, rfl⟩, marked.imp (fun member => List.mem_map.2 ⟨'_', member, rfl⟩) fun twice => ?_⟩
  refine twice.trans ?_
  exact List.count_le_count_map (f := fun c => if c = '/' then '.' else c) (x := '/')

/-! ## Words of a generation -/

/-- The names of a resource are words. -/
structure Resource.Spelled (r : Resource) : Prop where
  name : IsWord r.name
  identifier : IsWord (r.identifier ResourceNaming.derive)
  resource : IsWord (ResourceNaming.derive r.name).resource
  classes : ∀ name ∈ r.classNames, IsWord name

/-- The names that a class mentions are words, or types in one line. -/
structure Descriptor.Spelled (d : Descriptor) : Prop where
  name : IsWord d.name.display
  properties : ∀ p ∈ d.properties, IsWord p.name.display ∧ '\n' ∉ p.type.display.toList

/-- The suffix of a class is a word. -/
theorem isWord_suffix (kind : DescriptorKind) : IsWord kind.suffix := by
  cases kind <;> decide

section

variable {schema : Schema} {classes : Table Descriptor} {byName : Table Entity} {rs : List Resource} {e : Entity}
  {r : Resource} {d : Descriptor} {ids : Entries}

/-- The fields of an entity have names of one word. -/
theorem isWord_field (made : entityDescriptor e schema.ids = .ok d) {f : Field} (member : f ∈ e.fields) :
    ∃ s, f.name = .text s ∧ IsWord s := by
  obtain ⟨s, text, usable, -⟩ := checkFieldName_eq_ok (checkFieldName_of_entityDescriptor made member)
  exact ⟨s, text, Text.isWord_of_isIdentifier usable⟩

/-- The types of the properties of a class hold no control character that the names in it do not hold. -/
theorem Descriptor.IsClassOf.not_mem_type {b : Char} (mark : Text.IsMark b) (control : b.toNat < 32)
    (h : d.IsClassOf ids e) (fields : ∀ f ∈ e.fields, checkFieldName e f = .ok ()) {name : String}
    (entity : e.name = .text name) (hname : b ∉ name.toList)
    (targets : ∀ f ∈ e.relationFields, ∀ target, relatedName e f ids = .ok target → ∃ s, target = .text s ∧ b ∉ s.toList)
    {p : Property} (hp : p ∈ d.properties) : b ∉ p.type.display.toList := by
  obtain ⟨_, -, ofField⟩ := h.exists_field hp
  rcases ofField.type with ⟨t, type⟩ | ⟨ref, reference, type⟩
  · have visible : IsVisible t.typeName := by cases t <;> decide
    rw [type]
    exact visible.not_mem control
  · rw [type]
    cases h.made.arises p hp ref reference with
    | @relation f target other inFields relates found refers =>
        obtain ⟨s, rfl, absent⟩ := targets f (List.mem_filter.2 ⟨inFields, relates⟩) target found
        have suffix : IsVisible other.suffix := by cases other <;> decide
        rw [Value.display_text, Value.display_text, String.toList_append, List.mem_append, not_or]
        exact ⟨absent, suffix.not_mem control⟩
    | @enumeration f enumeration inFields enumerates named =>
        obtain ⟨s, text, usable, -⟩ := checkFieldName_eq_ok (fields f inFields)
        exact mark.not_mem_enumName entity hname text (mark.not_mem_identifier usable) named
    | filter filter =>
        have visible : IsVisible filter.name := by cases filter <;> decide
        exact visible.not_mem control

/-- A class of an entity mentions words, if its references do. -/
theorem Descriptor.IsClassOf.spelled (h : d.IsClassOf ids e) (fields : ∀ f ∈ e.fields, checkFieldName e f = .ok ())
    {name : String} (entity : e.name = .text name) (hname : IsWord name)
    (targets : ∀ f ∈ e.relationFields, ∀ target, relatedName e f ids = .ok target → ∃ s, target = .text s ∧ IsWord s) :
    d.Spelled where
  name := by
    rw [h.name_eq entity, Value.display_text]
    exact hname.append (isWord_suffix _)
  properties := by
    intro p hp
    obtain ⟨f, member, ofField⟩ := h.exists_field hp
    obtain ⟨s, text, usable, -⟩ := checkFieldName_eq_ok (fields f member)
    refine ⟨by rw [ofField.name, text]; exact Text.isWord_of_isIdentifier usable, ?_⟩
    refine h.not_mem_type (by decide) (by decide) fields entity hname.noFeed (fun f field target found => ?_) hp
    obtain ⟨s, related, word⟩ := targets f field target found
    exact ⟨s, related, word.noFeed⟩

/-- The entities of a schema have names of letters, digits and underscores. -/
def Schema.HasWordNames (schema : Schema) : Prop :=
  ∀ e ∈ schema.entities, ∃ s, e.name = .text s ∧ ∀ c ∈ s.toList, Text.isWordChar c = true

variable (names : schema.HasWordNames) (h : schema.Generated ResourceNaming.derive classes byName rs)
include names h

/-- The names of the resources are words. -/
theorem Schema.Generated.spelled (member : r ∈ rs) : r.Spelled := by
  obtain ⟨e, listed, of⟩ := h.owner member
  have word : IsWord r.name := by
    obtain ⟨s, text, letters⟩ := names e listed
    rw [of.name] at text
    cases text
    exact isWord_of_forall letters (by decide) (by decide)
  have named : checkEntityName (.text r.name) = .ok () := of.name ▸ h.prepared.named listed
  refine ⟨word, isWord_identifier named, isWord_resource named, fun name inClasses => ?_⟩
  rcases List.mem_append.1 inClasses with data | enumeration
  · have suffixes := congrArg (List.map Value.display) (classes_names of.name of.read of.inputs)
    rw [List.map_map, List.map_map] at suffixes
    rw [show (fun d : Descriptor => d.name.display) = Value.display ∘ Descriptor.name from rfl, suffixes] at data
    obtain ⟨kind, -, rfl⟩ := List.mem_map.1 data
    exact word.append (isWord_suffix kind)
  · obtain ⟨d, inEnums, rfl⟩ := List.mem_map.1 enumeration
    obtain ⟨f, inFields, made⟩ := exists_mem_of_mapM_eq_ok of.enumerations inEnums
    obtain ⟨s, text, fieldWord⟩ := isWord_field of.read (List.mem_filter.1 inFields).1
    exact isWord_enumName of.name word text fieldWord (enumName_of_ofField made)

/-- The classes of an entity of the batch mention words. -/
theorem Schema.Generated.class_spelled (of : Resource.Of schema ResourceNaming.derive classes byName e r) (member : r ∈ rs)
    (isClass : d.IsClassOf schema.ids e) : d.Spelled := by
  have fields : ∀ f ∈ e.fields, checkFieldName e f = .ok () := fun f => checkFieldName_of_entityDescriptor of.read
  refine isClass.spelled fields of.name (h.spelled names member).name fun f field target found => ?_
  obtain ⟨r', listed, related⟩ := h.target of field
  rw [related] at found
  cases found
  exact ⟨r'.name, rfl, (h.spelled names listed).name⟩

end

/-! ## Paths -/

/-- The path of the module of a class is a word if its parts are, and what it is imported under is no library. -/
theorem classPath_spelled {owner className : String} (ho : IsWord owner) (hc : IsWord className) :
    IsWord (classPath owner className) ∧ importPath (classPath owner className) ∉ libraries := by
  have fixed : IsWord "/base/" ∧ IsWord ".py" := by decide
  refine ⟨((ho.append fixed.1).append hc).append fixed.2, importPath_not_mem_libraries (by simp) (.inr ?_)⟩
  have slashes : "/base/".toList.count '/' = 2 := by decide
  simp only [String.toList_append, List.count_append, slashes]
  omega

/-- The path of a module of a resource is a word, and what it is imported under is no library. -/
theorem Resource.Of.path_spelled {schema : Schema} {classes : Table Descriptor} {byName : Table Entity} {e : Entity}
    {r : Resource} (of : Resource.Of schema ResourceNaming.derive classes byName e r) (h : r.Spelled) {part : Part}
    {m : SourceModule} (hasPart : r.HasPart ResourceNaming.derive part m) :
    IsWord m.path ∧ importPath m.path ∉ libraries := by
  have listed : m ∈ r.block ResourceNaming.derive ++ [r.readModule] := by
    rw [← of.parts_snd]
    exact List.mem_map.2 ⟨(part, m), of.mem_parts.2 hasPart, rfl⟩
  have slash : IsWord "/" ∧ IsWord ".py" := by decide
  rcases List.mem_append.1 (of.paths_perm.subset (List.mem_map_of_mem listed)) with isClass | other
  · obtain ⟨name, inClasses, path⟩ := List.mem_map.1 isClass
    rw [← path]
    exact classPath_spelled h.identifier (h.classes name inClasses)
  · obtain ⟨file, inFiles, path⟩ := List.mem_map.1 other
    have ends : ∃ stem, file = stem ++ ".py" ∧ IsWord stem ∧ '_' ∈ stem.toList := by
      have word : IsWord "_service" ∧ IsWord "_controller" ∧ IsWord "_module" ∧ IsWord "test_" := by decide
      simp only [resourceFiles, List.mem_cons, List.not_mem_nil, or_false] at inFiles
      rcases inFiles with rfl | rfl | rfl | rfl
      · exact ⟨_ ++ "_service", by simp [String.append_assoc], h.identifier.append word.1, by simp⟩
      · exact ⟨_ ++ "_controller", by simp [String.append_assoc], h.identifier.append word.2.1, by simp⟩
      · exact ⟨_ ++ "_module", by simp [String.append_assoc], h.identifier.append word.2.2.1, by simp⟩
      · refine ⟨"test_" ++ r.identifier ResourceNaming.derive ++ "_controller", by simp [String.append_assoc], ?_, by simp⟩
        exact (word.2.2.2.append h.identifier).append word.2.1
    obtain ⟨stem, rfl, stemWord, underscore⟩ := ends
    rw [← path]
    refine ⟨(h.identifier.append slash.1).append (stemWord.append slash.2), ?_⟩
    rw [← String.append_assoc]
    exact importPath_not_mem_libraries (by simp) (.inl (by simp [underscore]))

/-- An import from a module of a resource. -/
theorem spelled_generated {path : String} {names : List String} (h : IsWord path ∧ importPath path ∉ libraries)
    (noFeed : ∀ n ∈ names, '\n' ∉ n.toList) : Import.Spelled { origin := .generated path, names } where
  source := isWord_importPath h.1
  names := noFeed
  known := ⟨fun listed => absurd listed h.2, fun none => by cases none⟩

/-- The import of a class from its module. -/
theorem spelled_ofClass {owner className : String}
    (h : IsWord (classPath owner className) ∧ importPath (classPath owner className) ∉ libraries) :
    (Import.ofClass owner className).Spelled := by
  refine spelled_generated h fun n member => ?_
  rw [List.mem_singleton.1 member]
  intro feed
  exact h.1.noFeed (by simp [classPath, feed])

section

variable {schema : Schema} {classes : Table Descriptor} {byName : Table Entity} {rs : List Resource} {e : Entity}
  {r : Resource} (names : schema.HasWordNames) (h : schema.Generated ResourceNaming.derive classes byName rs)
include names h

/-- The import of a class that a resource provides. -/
theorem Schema.Generated.ofClass_spelled {part : Part} {owner className : String} (member : r ∈ rs)
    (provided : r.Provides ResourceNaming.derive part (Import.ofClass owner className)) :
    (Import.ofClass owner className).Spelled := by
  obtain ⟨e, -, of⟩ := h.owner member
  obtain ⟨m, hasPart, path, -⟩ := provided
  have word := of.path_spelled (h.spelled names member) hasPart
  rw [← Option.some.inj path] at word
  exact spelled_ofClass word

/-- The imports of a class of an entity of the batch can be read back. -/
theorem Schema.Generated.classImport_spelled (of : Resource.Of schema ResourceNaming.derive classes byName e r)
    (member : r ∈ rs) {d : Descriptor} (isClass : d.IsClassOf schema.ids e) {imports : List ClassImport}
    (made : d.classImports = .ok imports) : ∀ i ∈ imports, i.source.Spelled := by
  intro i listed
  obtain ⟨ref, -, -, -, -, source⟩ := d.exists_reference made listed
  obtain ⟨r', listed', part, provided, -⟩ := h.classImport_provided member of isClass made listed
  rw [source] at provided ⊢
  exact h.ofClass_spelled names listed' provided

end

/-! ## Enumerations, services and wiring modules -/

/-- The class of a service is a word. -/
theorem isWord_serviceClass {entityType : String} (h : IsWord entityType) : IsWord (serviceClass entityType) :=
  h.append (by decide)

/-- So is the class of a wiring. -/
theorem isWord_wiringClass {entityType : String} (h : IsWord entityType) : IsWord (wiringClass entityType) :=
  h.append (by decide)

/-- A blank line is calm. -/
theorem isCalm_blank : Statement.blank.IsCalm := by
  intro t listed
  rw [List.mem_singleton.1 listed]
  decide

/-- A blank line is plain. -/
theorem isPlain_blank : Statement.blank.IsPlain :=
  isCalm_blank.isPlain

/-- The members of an enumeration have the names that are made from labels. -/
theorem EnumDescriptor.exists_label {e : Entity} {f : Field} {d : EnumDescriptor} (made : EnumDescriptor.ofField e f = .ok d) :
    ∀ m ∈ d.members, ∃ label, m.name = Text.constantName label := by
  obtain ⟨values, options, -, -, members⟩ := members_eq made
  intro m listed
  rw [members] at listed
  obtain ⟨v, -, rfl⟩ := List.mem_map.1 listed
  exact ⟨_, rfl⟩

/-- The statements of the module of an enumeration are plain. -/
theorem EnumDescriptor.isPlain {e : Entity} {f : Field} {d : EnumDescriptor} (made : EnumDescriptor.ofField e f = .ok d)
    (name : IsWord d.name.display) (entityName : String) : ∀ s ∈ (d.toModule entityName).body, s.IsPlain := by
  intro s member
  simp only [toModule, List.mem_cons, List.not_mem_nil, or_false] at member
  rcases member with rfl | rfl | rfl | rfl
  · exact spelled_library (by decide) (by decide)
  · exact isPlain_blank
  · exact isPlain_blank
  · refine importsGenerated_of_calm (calm_of_mem_classLines name.noFeed (by simp) fun m listed => ?_)
    obtain ⟨constant, inMembers, rfl⟩ := List.mem_map.1 listed
    obtain ⟨label, named⟩ := exists_label made constant inMembers
    rw [named]
    exact isCalm_constant (constantName_ne_empty label) (isConstantChar_of_mem_constantName label)
      (Json.isVisible_string _).noFeed

/-- The lines of the methods of services are calm. -/
theorem calm_of_mem_serviceMethods {lines : List String} (h : lines ∈ serviceMethods) : ∀ t ∈ lines, Calm t := by
  have calm : ∀ lines ∈ serviceMethods, ∀ t ∈ lines, Calm t := by
    simp only [serviceMethods, List.forall_mem_cons]
    and_intros <;> first | exact calm_of_chars rfl (by decide) | exact fun t none => absurd none List.not_mem_nil
  exact calm lines h

/-- The statements of the module of a service are plain. -/
theorem isPlain_service {entityName entityType : String} (h : IsWord entityType) :
    ∀ s ∈ (serviceModule entityName entityType).body, s.IsPlain := by
  intro s member
  simp only [serviceModule, List.mem_cons, List.not_mem_nil, or_false] at member
  rcases member with rfl | rfl | rfl | rfl
  · exact spelled_library (by decide) (by decide)
  · exact isPlain_blank
  · exact isPlain_blank
  · refine importsGenerated_of_calm (calm_of_mem_classLines ?_ (by simp) fun m listed => ?_)
    · exact (isWord_serviceClass h).noFeed
    · simp only [List.mem_append, List.mem_cons, List.not_mem_nil, or_false, List.mem_flatMap] at listed
      rcases listed with (rfl | rfl | rfl) | ⟨lines, inMethods, rfl | rfl⟩
      · exact isCalm_documentation (by simp [h.noFeed])
      · exact by decide
      · intro t inLines
        have model : Opening ("    " ++ "model" ++ " = ") := by decide
        rw [List.mem_singleton.1 inLines]
        exact (model.append (by simp [h.noFeed])).calm
      · exact by decide
      · exact isCalm_method (calm_of_mem_serviceMethods inMethods)

/-- The statements of a wiring module are plain. -/
theorem isPlain_wiring {path entityType service controller : String} (h : IsWord entityType)
    (hs : IsWord service ∧ importPath service ∉ libraries) (hc : IsWord controller ∧ importPath controller ∉ libraries) :
    ∀ s ∈ (wiringModule path entityType service controller).body, s.IsPlain := by
  have serviceFeed := (isWord_serviceClass h).noFeed
  intro s member
  simp only [wiringModule, List.mem_cons, List.not_mem_nil, or_false] at member
  rcases member with rfl | rfl | rfl | rfl | rfl | rfl | rfl | rfl | rfl
  · exact spelled_library (by decide) (by decide)
  · exact isPlain_blank
  · exact spelled_library (by decide) (by decide)
  · exact isPlain_blank
  · exact spelled_generated hc (by decide)
  · exact spelled_generated hs (by simpa using serviceFeed)
  · exact isPlain_blank
  · exact isPlain_blank
  · refine importsGenerated_of_calm (calm_of_mem_classLines ?_ (by simp) fun m listed => ?_)
    · exact (isWord_wiringClass h).noFeed
    · simp only [List.mem_cons, List.not_mem_nil, or_false] at listed
      rcases listed with rfl | rfl | rfl | rfl | rfl
      · exact isCalm_documentation (by simp [h.noFeed])
      · exact by decide
      · refine isCalm_method fun t inLines => ?_
        simp only [List.mem_cons, List.not_mem_nil, or_false] at inLines
        rcases inLines with rfl | rfl | rfl
        · exact ((Opening.append (by decide) serviceFeed).append (by decide)).calm
        · exact ((Opening.append (by decide) serviceFeed).append (by decide)).calm
        · decide
      · exact by decide
      · exact isCalm_method (by decide)

/-! ## Data classes -/

/-- The configuration of a class is calm. -/
theorem isCalm_modelConfig : Member.modelConfig.IsCalm := by
  intro t member
  rw [List.mem_singleton.1 member]
  exact calm_of_chars rfl (by decide)

/-- The names of operators and those that requests give them are words. -/
theorem Filter.isWord_operator {f : Filter} {o : Operator} (h : o ∈ f.operators) :
    IsWord o.name ∧ ∀ request, o.requestName = some request → '\n' ∉ request.toList := by
  have each : ∀ o ∈ f.operators, IsWord o.name ∧ ∀ request ∈ o.requestName, '\n' ∉ request.toList := by
    cases f <;> decide
  exact each o h

/-- The lines of a filter class are calm. -/
theorem Filter.calm_definition (f : Filter) : ∀ t ∈ f.definition.lines, Calm t := by
  refine calm_of_mem_classLines ?_ (by simp [Filter.definition]) fun m listed => ?_
  · show '\n' ∉ f.name.toList
    cases f <;> decide
  · simp only [Filter.definition, List.mem_append, List.mem_cons, List.not_mem_nil, or_false, List.mem_map] at listed
    rcases listed with (rfl | rfl) | ⟨o, inFilter, rfl⟩
    · exact isCalm_modelConfig
    · decide
    · obtain ⟨name, request⟩ := isWord_operator inFilter
      refine isCalm_field name ?_ request
      show '\n' ∉ f.valueType.typeName.toList
      cases f <;> decide

/-- The lines of a class whose properties are words are calm. -/
theorem Descriptor.Spelled.calm_definition {d : Descriptor} (h : d.Spelled) : ∀ t ∈ d.definition.lines, Calm t := by
  refine calm_of_mem_classLines h.name.noFeed (by simp [Descriptor.definition]) fun m listed => ?_
  simp only [Descriptor.definition, List.mem_append, List.mem_cons, List.not_mem_nil, or_false] at listed
  rcases listed with (rfl | rfl) | body
  · exact isCalm_modelConfig
  · decide
  · split at body
    · rw [List.mem_singleton.1 body]
      decide
    · obtain ⟨p, inClass, rfl⟩ := List.mem_map.1 body
      obtain ⟨name, type⟩ := h.properties p inClass
      exact isCalm_field name type (by simp)

/-- The statements before the imports for types. -/
def headStatements (imports : List ClassImport) : List Statement :=
  libraryImports (!(deferredImports imports).isEmpty) ++
  (if (directImports imports).isEmpty then [] else .blank :: (directImports imports).map .importNames) ++
  if (deferredImports imports).isEmpty then [] else [.blank]

/-- The imports for types. -/
def typeImports (imports : List ClassImport) : List Statement :=
  if (deferredImports imports).isEmpty then [] else [.importForTypes (deferredImports imports)]

/-- The statements from the imports for types to the end of the class. -/
def Descriptor.classStatements (d : Descriptor) (filters : List Filter) : List Statement :=
  [.blank, .blank] ++ filters.flatMap (fun f => [.define f.definition, .blank, .blank]) ++ [.define d.definition]

/-- The module of a class consists of the head, the imports for types, the class with its filters, and the late imports. -/
theorem Descriptor.body_moduleWith (d : Descriptor) (entityName : String) (imports : List ClassImport)
    (filters : List Filter) :
    (d.moduleWith entityName imports filters).body =
      headStatements imports ++ typeImports imports ++ d.classStatements filters ++ lateImports imports := by
  have types : (if (deferredImports imports).isEmpty then []
      else [Statement.blank, .importForTypes (deferredImports imports)]) =
      (if (deferredImports imports).isEmpty then [] else [.blank]) ++ typeImports imports := by
    unfold typeImports
    split <;> rfl
  simp only [moduleWith, opening, types, headStatements, classStatements, List.append_assoc]

section

variable {d : Descriptor} {imports : List ClassImport} (spelled : ∀ i ∈ imports, i.source.Spelled)
include spelled

/-- The statements before the imports for types are imports, with blank lines between them. -/
theorem headStatements_cases {s : Statement} (member : s ∈ headStatements imports) :
    s = .blank ∨ ∃ i : Import, i.Spelled ∧ s = .importNames i := by
  simp only [headStatements, List.mem_append] at member
  rcases member with (library | direct) | blank
  · generalize (!(deferredImports imports).isEmpty) = deferring at library
    simp only [libraryImports, List.mem_cons, List.not_mem_nil, or_false] at library
    rcases library with rfl | rfl | rfl | rfl | rfl | rfl
    · exact .inr ⟨_, spelled_library (by decide) (by decide), rfl⟩
    · exact .inl rfl
    · exact .inr ⟨_, spelled_library (by decide) (by decide), rfl⟩
    · exact .inr ⟨_, spelled_library (by decide) (by cases deferring <;> decide), rfl⟩
    · exact .inl rfl
    · exact .inr ⟨_, spelled_library (by decide) (by decide), rfl⟩
  · split at direct
    · cases direct
    · rcases List.mem_cons.1 direct with rfl | imported
      · exact .inl rfl
      · obtain ⟨i, listed, rfl⟩ := List.mem_map.1 imported
        exact .inr ⟨i, spelled _ (mem_directImports.1 listed), rfl⟩
  · split at blank
    · cases blank
    · exact .inl (List.mem_singleton.1 blank)

/-- The head is plain. -/
theorem isPlain_headStatements : ∀ s ∈ headStatements imports, s.IsPlain := by
  intro s member
  rcases headStatements_cases spelled member with rfl | ⟨i, spelledImport, rfl⟩
  · exact isPlain_blank
  · exact spelledImport

omit spelled in
/-- The class with its filters is plain. -/
theorem Descriptor.Spelled.isPlain_classStatements (h : d.Spelled) (filters : List Filter) :
    ∀ s ∈ d.classStatements filters, s.IsPlain := by
  intro s member
  simp only [Descriptor.classStatements, List.mem_append, List.mem_cons, List.not_mem_nil, or_false, List.mem_flatMap]
    at member
  rcases member with ((rfl | rfl) | ⟨f, -, rfl | rfl | rfl⟩) | rfl
  · exact isPlain_blank
  · exact isPlain_blank
  · exact importsGenerated_of_calm f.calm_definition
  · exact isPlain_blank
  · exact isPlain_blank
  · exact importsGenerated_of_calm h.calm_definition

/-- The lines after a class import what is deferred. -/
theorem generatedLines_lateImports (generated : ∀ i ∈ imports, i.source.generatedPath?.isSome) :
    generatedLines (lateImports imports) =
      (deferredImports imports).map fun i => (i.line ++ "  # noqa: E402").toList := by
  have late : ∀ i ∈ deferredImports imports, i.Spelled ∧ i.generatedPath?.isSome := fun i listed =>
    ⟨spelled _ (mem_deferredImports.1 listed), generated _ (mem_deferredImports.1 listed)⟩
  have blank : (Statement.blank.lines.flatMap linesOf).filter importsGenerated = [] := by decide
  unfold lateImports
  simp only
  split
  · next none =>
      rw [List.isEmpty_iff.1 none]
      rfl
  · rw [generatedLines_cons, generatedLines_cons, blank, generatedLines_importLate late]
    rfl

end

end ResourceScaffold
