import ResourceScaffold.Proofs.ModuleLines
import ResourceScaffold.Proofs.Samples

/-!
# The lines of controllers and tests

The statements of a controller and of the tests of a resource are plain: names are words, and samples are written as literals
(`Controller.Spelled.isPlain`, `TestPlan.isPlain`). The address of the sample record is the sample of a scalar field, hence
in one line (`TestPlan.isVisible_segment`).
-/

namespace ResourceScaffold

open Code

/-! ## Controllers -/

/-- The names that a controller mentions are words, or names in one line. -/
structure Controller.Spelled (c : Controller) : Prop where
  entityName : IsWord c.entityName
  letters : ∀ d ∈ c.entityType.toList, Text.isNameChar d = true
  entityType : IsWord c.entityType
  resource : IsWord c.resource
  read : '\n' ∉ c.read.name.display.toList
  inputs : ∀ d ∈ c.inputs.toList, '\n' ∉ d.name.display.toList
  key : ∀ key, c.key? = some key → IsWord key.name ∧ '\n' ∉ key.type.toList
  relations : ∀ r ∈ c.relations, '\n' ∉ r.target.name.display.toList ∧
    ∀ name, r.field.name = .text name → '\n' ∉ name.toList
  imports : ∀ i ∈ c.serviceImport :: c.classImports, i.Spelled

/-- The name of the constant that holds the selection is in capital letters. -/
theorem Controller.isConstantChar_selectName {c : Controller} (letters : ∀ d ∈ c.entityType.toList, Text.isNameChar d = true) :
    ∀ d ∈ c.selectName.toList, isConstantChar d = true := by
  intro d member
  rw [selectName, Text.upper, String.toList_append, String.toList_ofList, List.mem_append] at member
  rcases member with upper | suffix
  · refine isConstantChar_of_mem_upperChars (fun d inSnake => ?_) d upper
    rw [Text.snakeCase, String.toList_ofList] at inSnake
    refine isAlphanum_or_underscore (fun word listed d inWord => .inl ?_) inSnake
    exact Text.isAlphanum_of_mem_wordsOf letters listed inWord
  · exact List.all_eq_true.1 (by decide : "_SELECT".toList.all isConstantChar = true) d suffix

namespace Controller.Spelled

variable {c : Controller} {key : KeyParameter}

/-- The name of the constant for a selection begins like no import. -/
theorem opening_selectName (h : c.Spelled) : Opening c.selectName := by
  refine opening_constant (fun empty => ?_) (isConstantChar_selectName h.letters)
  have chars := congrArg String.toList empty
  simp [selectName] at chars

/-- The service that is passed to a route stands in one line. -/
theorem serviceParameter (h : c.Spelled) : c.serviceParameter.Spelled where
  name := by
    show IsWord "service"
    decide
  type := (isWord_serviceClass h.entityType).noFeed
  default := by
    rintro value given
    cases given
    decide

/-- So does the body of a route. -/
theorem dataParameter {d : Descriptor} (h : '\n' ∉ d.name.display.toList) : (dataParameter d).Spelled where
  name := by
    show IsWord "data"
    decide
  type := h
  default := fun value given => by cases given

/-- So does the parameter that addresses a record. -/
theorem keyParameter (h : c.Spelled) (hk : c.key? = some key) : key.parameter.Spelled where
  name := (h.key key hk).1
  type := (h.key key hk).2
  default := fun value given => by cases given

/-! ### Routes of the collection -/

/-- The texts of the route that creates stand in one line each. -/
theorem createEndpoint (h : c.Spelled) : c.createEndpoint.Spelled where
  path := by
    show '\n' ∉ "".toList
    decide
  response := by
    rintro type given
    cases given
    exact h.read
  name := feed_not_mem_append.2 ⟨by decide, h.entityName.noFeed⟩
  parameters := by
    intro p member
    simp only [Controller.createEndpoint, List.mem_cons, List.not_mem_nil, or_false] at member
    rcases member with rfl | rfl
    · exact dataParameter (h.inputs _ (by simp [InputDescriptors.toList]))
    · exact h.serviceParameter
  body := by
    intro t member
    rw [List.mem_singleton.1 member]
    exact ((Opening.append (by decide) h.opening_selectName.noFeed).append (by decide)).calm

/-- So do those of the one that lists. -/
theorem listEndpoint (h : c.Spelled) : c.listEndpoint.Spelled where
  path := by
    show '\n' ∉ "".toList
    decide
  response := by
    rintro type given
    cases given
    exact h.read
  name := feed_not_mem_append.2 ⟨by decide, h.entityName.noFeed⟩
  parameters := by
    intro p member
    simp only [Controller.listEndpoint, List.mem_cons, List.not_mem_nil, or_false] at member
    rcases member with rfl | rfl | rfl | rfl
    · exact ⟨by decide, by decide, fun value given => by cases given; decide⟩
    · exact ⟨by decide, by decide, fun value given => by cases given; decide⟩
    · exact ⟨by decide, by decide, fun value given => by cases given; decide⟩
    · exact h.serviceParameter
  body := by
    have filter := h.inputs c.inputs.whereInput (by simp [InputDescriptors.toList])
    intro t member
    simp only [Controller.listEndpoint, List.mem_cons, List.not_mem_nil, or_false] at member
    rcases member with rfl | rfl | rfl | rfl | rfl | rfl | rfl
    · exact calm_of_chars rfl (by decide)
    · exact ((((Opening.append (by decide) filter).append (by decide)).append filter).append (by decide)).calm
    · exact calm_of_chars rfl (by decide)
    · exact calm_of_chars rfl (by decide)
    · exact calm_of_chars rfl (by decide)
    · exact (Opening.append (by decide) h.opening_selectName.noFeed).calm
    · exact calm_of_chars rfl (by decide)

/-! ### Routes of single records -/

/-- The path of a record has no line feed. -/
theorem noFeed_path (h : c.Spelled) (hk : c.key? = some key) : '\n' ∉ key.path.toList := by
  have name := (h.key key hk).1.noFeed
  simp only [KeyParameter.path, feed_not_mem_append]
  exact ⟨⟨by decide, name⟩, by decide⟩

/-- Neither has the condition on it. -/
theorem noFeed_condition (h : c.Spelled) (hk : c.key? = some key) : '\n' ∉ key.condition.toList := by
  have name := (h.key key hk).1.noFeed
  simp only [KeyParameter.condition, feed_not_mem_append]
  exact ⟨⟨⟨⟨by decide, name⟩, by decide⟩, name⟩, by decide⟩

/-- The lines that answer when there is no record are calm. -/
theorem calm_unlessFound (h : c.Spelled) (hk : c.key? = some key) : ∀ t ∈ c.unlessFound key, Calm t := by
  have name := (h.key key hk).1.noFeed
  intro t member
  simp only [unlessFound, List.mem_cons, List.not_mem_nil, or_false] at member
  rcases member with rfl | rfl
  · exact calm_of_chars rfl (by decide)
  · have start := (Opening.append (by decide : Opening "    raise HTTPException(status_code=404, detail=f\"")
      h.entityType.noFeed).append (by decide : '\n' ∉ " with ".toList)
    exact ((((start.append name).append (by decide)).append name).append (by decide)).calm

/-- The parameters of the routes of single records are a key, perhaps data, and the service. -/
theorem recordParameters (h : c.Spelled) (hk : c.key? = some key) {p : Parameter}
    (member : p ∈ [key.parameter, c.serviceParameter]) : p.Spelled := by
  simp only [List.mem_cons, List.not_mem_nil, or_false] at member
  rcases member with rfl | rfl
  · exact h.keyParameter hk
  · exact h.serviceParameter

/-- The texts of the route that reads stand in one line each. -/
theorem readEndpoint (h : c.Spelled) (hk : c.key? = some key) : (c.readEndpoint key).Spelled where
  path := h.noFeed_path hk
  response := by
    rintro type given
    cases given
    exact h.read
  name := feed_not_mem_append.2 ⟨by decide, h.entityName.noFeed⟩
  parameters := fun p member => h.recordParameters hk member
  body := by
    intro t member
    simp only [Controller.readEndpoint, List.mem_append, List.mem_singleton] at member
    rcases member with (rfl | missing) | rfl
    · have start := Opening.append (by decide : Opening "result = await service.find_one(where=") (h.noFeed_condition hk)
      exact (((start.append (by decide)).append h.opening_selectName.noFeed).append (by decide)).calm
    · exact h.calm_unlessFound hk t missing
    · exact calm_of_chars rfl (by decide)

/-- So do those of the one that updates. -/
theorem updateEndpoint (h : c.Spelled) (hk : c.key? = some key) : (c.updateEndpoint key).Spelled where
  path := h.noFeed_path hk
  response := by
    rintro type given
    cases given
    exact h.read
  name := feed_not_mem_append.2 ⟨by decide, h.entityName.noFeed⟩
  parameters := by
    intro p member
    simp only [Controller.updateEndpoint, List.mem_cons, List.not_mem_nil, or_false] at member
    rcases member with rfl | rfl | rfl
    · exact h.keyParameter hk
    · exact dataParameter (h.inputs _ (by simp [InputDescriptors.toList]))
    · exact h.serviceParameter
  body := by
    intro t member
    simp only [Controller.updateEndpoint, List.mem_append, List.mem_cons, List.not_mem_nil, or_false] at member
    rcases member with ((rfl | rfl | rfl) | missing) | rfl
    · exact calm_of_chars rfl (by decide)
    · have start := Opening.append (by decide : Opening "    where=") (h.noFeed_condition hk)
      exact ((start.append (by decide)).append h.opening_selectName.noFeed).calm
    · exact calm_of_chars rfl (by decide)
    · exact h.calm_unlessFound hk t missing
    · exact calm_of_chars rfl (by decide)

/-- So do those of the one that deletes. -/
theorem deleteEndpoint (h : c.Spelled) (hk : c.key? = some key) : (c.deleteEndpoint key).Spelled where
  path := h.noFeed_path hk
  response := fun type given => by cases given
  name := feed_not_mem_append.2 ⟨by decide, h.entityName.noFeed⟩
  parameters := fun p member => h.recordParameters hk member
  body := by
    intro t member
    simp only [Controller.deleteEndpoint, List.mem_append, List.mem_singleton] at member
    rcases member with (rfl | missing) | rfl
    · have start := Opening.append (by decide : Opening "result = await service.delete(where=") (h.noFeed_condition hk)
      exact (start.append (by decide)).calm
    · exact h.calm_unlessFound hk t missing
    · exact calm_of_chars rfl (by decide)

/-! ### Routes of relations -/

variable {r : Relation} {name : String}

/-- The path of a relation of a record has no line feed. -/
theorem noFeed_relationPath (h : c.Spelled) (hk : c.key? = some key) (name : String) :
    '\n' ∉ (key.path ++ "/" ++ Text.kebabCase name).toList := by
  simp only [feed_not_mem_append]
  exact ⟨⟨h.noFeed_path hk, by decide⟩, (Text.isWord_kebabCase name).noFeed⟩

/-- The texts of the route that reads the targets of a relation stand in one line each. -/
theorem relatedEndpoint (h : c.Spelled) (hk : c.key? = some key) (listed : r ∈ c.relations)
    (named : r.field.name = .text name) : (c.relatedEndpoint key r name).Spelled where
  path := h.noFeed_relationPath hk name
  response := by
    rintro type given
    cases given
    exact (h.relations r listed).1
  name := by
    simp only [Controller.relatedEndpoint, feed_not_mem_append]
    exact ⟨⟨⟨by decide, h.entityName.noFeed⟩, by decide⟩, (Text.isWord_snakeCase name).noFeed⟩
  parameters := fun p member => h.recordParameters hk member
  body := by
    intro t member
    rw [List.mem_singleton.1 member]
    have start := Opening.append (by decide : Opening "return await service.find_related(where=") (h.noFeed_condition hk)
    have field := (start.append (by decide : '\n' ∉ ", field=\"".toList)).append ((h.relations r listed).2 name named)
    exact (((field.append (by decide)).append r.selection.opening_literal.noFeed).append (by decide)).calm

/-- So do those of a route that connects or disconnects them. -/
theorem linkEndpoint (h : c.Spelled) (hk : c.key? = some key) (listed : r ∈ c.relations)
    (named : r.field.name = .text name) (method : Method) {action : String} (ha : '\n' ∉ action.toList) :
    (c.linkEndpoint key r name method action).Spelled where
  path := h.noFeed_relationPath hk name
  response := fun type given => by cases given
  name := by
    simp only [Controller.linkEndpoint, feed_not_mem_append]
    exact ⟨⟨⟨⟨ha, by decide⟩, h.entityName.noFeed⟩, by decide⟩, (Text.isWord_snakeCase name).noFeed⟩
  parameters := by
    intro p member
    simp only [Controller.linkEndpoint, List.mem_cons, List.not_mem_nil, or_false] at member
    rcases member with rfl | rfl | rfl
    · exact h.keyParameter hk
    · refine ⟨(by decide : IsWord "body"), ?_, fun value given => by cases given⟩
      exact feed_not_mem_append.2 ⟨(h.relations r listed).1, by decide⟩
    · exact h.serviceParameter
  body := by
    intro t member
    simp only [Controller.linkEndpoint, List.mem_cons, List.not_mem_nil, or_false] at member
    rcases member with rfl | rfl
    · have call := (Opening.append (by decide : Opening "await service.") ha).append (by decide : '\n' ∉ "(where=".toList)
      have field := (call.append (h.noFeed_condition hk)).append (by decide : '\n' ∉ ", field=\"".toList)
      exact ((field.append ((h.relations r listed).2 name named)).append (by decide)).calm
    · exact calm_of_chars rfl (by decide)

/-- Every route of a controller is spelled in words. -/
theorem endpoints (h : c.Spelled) {endpoints : List Endpoint} (made : c.endpoints = .ok endpoints) :
    ∀ e ∈ endpoints, e.Spelled := by
  unfold Controller.endpoints at made
  intro e member
  cases hk : c.key? with
  | none =>
      simp only [hk] at made
      cases made
      simp only [List.mem_cons, List.not_mem_nil, or_false] at member
      rcases member with rfl | rfl
      · exact h.createEndpoint
      · exact h.listEndpoint
  | some key =>
      simp only [hk] at made
      obtain ⟨relations, steps, rest⟩ := bind_eq_ok.1 made
      cases rest
      simp only [List.mem_append, List.mem_cons, List.not_mem_nil, or_false] at member
      rcases member with ((rfl | rfl) | rfl | rfl | rfl) | related
      · exact h.createEndpoint
      · exact h.listEndpoint
      · exact h.readEndpoint hk
      · exact h.updateEndpoint hk
      · exact h.deleteEndpoint hk
      · obtain ⟨routes, inRoutes, inList⟩ := List.mem_flatten.1 related
        obtain ⟨r, listed, step⟩ := exists_mem_of_mapM_eq_ok steps inRoutes
        obtain ⟨name, text, rest⟩ := bind_eq_ok.1 step
        have named : r.field.name = .text name := by
          cases value : r.field.name <;> rw [value] at text <;> cases text
          rfl
        cases rest
        rcases List.mem_cons.1 inList with rfl | links
        · exact h.relatedEndpoint hk listed named
        · split at links
          · simp only [List.mem_cons, List.not_mem_nil, or_false] at links
            rcases links with rfl | rfl
            · exact h.linkEndpoint hk listed named .post (by decide)
            · exact h.linkEndpoint hk listed named .delete (by decide)
          · cases links

/-! ### The module -/

/-- The statements before the routes are calm. -/
theorem calm_opening (h : c.Spelled) : ∀ s ∈ c.opening, s.IsCalm := by
  have serviceFeed := (isWord_serviceClass h.entityType).noFeed
  intro s member
  simp only [opening, List.mem_append, List.mem_cons, List.not_mem_nil, or_false, List.mem_map] at member
  rcases member with (((rfl | date) | rfl | rfl | rfl | rfl | rfl | rfl) | ⟨i, listed, rfl⟩) | rfl | rfl | rfl | rfl | rfl |
    rfl | rfl | rfl
  · exact rfl
  · split at date
    · rw [List.mem_singleton.1 date]
      exact spelled_library (by decide) (by decide)
    · cases date
  · exact spelled_library (by decide) (by decide)
  · exact isCalm_blank
  · exact spelled_library (by decide) (by decide)
  · exact spelled_library (by decide) (by decide)
  · exact isCalm_blank
  · exact h.imports _ List.mem_cons_self
  · exact h.imports i (List.mem_cons_of_mem _ listed)
  · exact isCalm_blank
  · exact isCalm_blank
  · intro t inLines
    rw [List.mem_singleton.1 inLines]
    have start : Opening ("router" ++ " = ") := by decide
    refine (start.append ?_).calm
    simp only [feed_not_mem_append]
    exact ⟨⟨⟨⟨by decide, h.resource.noFeed⟩, by decide⟩, h.resource.noFeed⟩, by decide⟩
  · exact isCalm_blank
  · intro t inLines
    rw [List.mem_singleton.1 inLines]
    exact (h.opening_selectName.append (by decide)).calm.append c.select.calm_layout
  · exact isCalm_blank
  · exact isCalm_blank
  · intro t inLines
    simp only [Statement.lines, List.mem_cons, List.not_mem_nil, or_false] at inLines
    rcases inLines with rfl | rfl
    · exact ((Opening.append (by decide) serviceFeed).append (by decide)).calm
    · exact ((Opening.append (by decide) serviceFeed).append (by decide)).calm

/-- The statements of a controller are imports, or have calm lines. -/
theorem calm_moduleWith (h : c.Spelled) {endpoints : List Endpoint} (made : c.endpoints = .ok endpoints) :
    ∀ s ∈ (c.moduleWith endpoints).body, s.IsCalm := by
  intro s member
  simp only [moduleWith, List.mem_append, List.mem_flatMap, List.mem_cons, List.not_mem_nil, or_false] at member
  rcases member with opened | ⟨e, listed, rfl | rfl | rfl⟩
  · exact h.calm_opening s opened
  · exact isCalm_blank
  · exact isCalm_blank
  · exact (h.endpoints made e listed).calm_lines

/-- The statements of a controller are plain. -/
theorem isPlain (h : c.Spelled) {endpoints : List Endpoint} (made : c.endpoints = .ok endpoints) :
    ∀ s ∈ (c.moduleWith endpoints).body, s.IsPlain :=
  fun s member => (h.calm_moduleWith made s member).isPlain

end Controller.Spelled

section

variable {schema : Schema} {classes : Table Descriptor} {byName : Table Entity} {rs : List Resource} {e : Entity}
  {r : Resource} (names : schema.HasWordNames) (h : schema.Generated ResourceNaming.derive classes byName rs)
include names h

/-- The controllers of a generation are spelled in words. -/
theorem Schema.Generated.controller_spelled (member : r ∈ rs) (listed : e ∈ schema.entities)
    (of : Resource.Of schema ResourceNaming.derive classes byName e r) : r.controller.Spelled := by
  obtain ⟨read, entityType, inputs, service, entityName, resource⟩ := h.controller_eq listed of
  have spelled := h.spelled names member
  have named : checkEntityName (.text r.name) = .ok () := of.name ▸ h.prepared.named listed
  have spelledClass {d : Descriptor} (isClass : d ∈ r.read :: r.inputs.toList) : d.Spelled :=
    h.class_spelled names of member (of.isClassOf isClass)
  refine
    { entityName := entityName ▸ spelled.identifier
      letters := entityType ▸ isNameChar_of_isEntityWord (isEntityWord_of_checkEntityName named)
      entityType := entityType ▸ spelled.name
      resource := resource ▸ spelled.resource
      read := ?_, inputs := fun d input => ?_, key := fun key hk => ?_, relations := fun relation inRelations => ?_
      imports := fun i imported => ?_ }
  · rw [read]
    exact (spelledClass List.mem_cons_self).name.noFeed
  · rw [inputs] at input
    exact (spelledClass (List.mem_cons_of_mem _ input)).name.noFeed
  · obtain ⟨p, keyed, made⟩ := Option.bind_eq_some_iff.1 hk
    rw [Controller.keyProperty?, inputs] at keyed
    have unique : r.inputs.whereUniqueInput.Spelled := spelledClass (by simp [InputDescriptors.toList])
    obtain ⟨name, type⟩ := unique.properties p (Descriptor.mem_of_keyProperty? keyed)
    unfold KeyParameter.ofProperty? at made
    split at made
    · cases made
    · cases made
      exact ⟨name, type⟩
  · obtain ⟨field, r', listed', -, target, -⟩ := h.relation of inRelations
    obtain ⟨s, text, word⟩ := isWord_field of.read (List.mem_filter.1 field).1
    refine ⟨?_, fun name same => ?_⟩
    · rw [← target]
      exact ((h.spelled names listed').classes _ (by simp [Resource.classNames])).noFeed
    · rw [text] at same
      cases same
      exact word.noFeed
  · rcases List.mem_cons.1 imported with rfl | ofClass
    · rw [Controller.serviceImport, service, entityType]
      refine spelled_generated (of.path_spelled spelled .service) fun n inNames => ?_
      rw [List.mem_singleton.1 inNames]
      exact (isWord_serviceClass spelled.name).noFeed
    · obtain ⟨r', listed', kind, provided, className, rfl⟩ := h.controllerImport_provided member listed of ofClass
      exact h.ofClass_spelled names listed' provided

end

/-! ## Tests -/

/-- A test is plain if its name has no line feed and its lines are calm. -/
theorem isPlain_testFunction {name : String} {body : List String} (hname : '\n' ∉ name.toList) (h : ∀ t ∈ body, Calm t) :
    ∀ s ∈ testFunction name body, s.IsPlain := by
  intro s member
  simp only [testFunction, List.mem_cons, List.not_mem_nil, or_false] at member
  rcases member with rfl | rfl | rfl
  · exact isPlain_blank
  · exact isPlain_blank
  · refine importsGenerated_of_calm fun t inLines => ?_
    rcases List.mem_cons.1 inLines with rfl | inBody
    · exact ((Opening.append (by decide) hname).append (by decide)).calm
    · obtain ⟨line, listed, rfl⟩ := List.mem_map.1 inBody
      exact (by decide : Calm "    ").append (h line listed)

section

variable {resource entityName : String} (hr : '\n' ∉ resource.toList) (hn : '\n' ∉ entityName.toList)
include hr hn

/-- The tests of single records are plain if their address is in one line. -/
theorem isPlain_recordTests {key : TestKey} (hk : '\n' ∉ key.segment.toList) :
    ∀ s ∈ recordTests resource entityName key, s.IsPlain := by
  have url : '\n' ∉ ("\"/" ++ resource ++ "/" ++ key.segment ++ "\"").toList := by
    simp only [feed_not_mem_append]
    exact ⟨⟨⟨⟨by decide, hr⟩, by decide⟩, hk⟩, by decide⟩
  have field := key.name.opening_literal.noFeed
  have request {call : String} (start : Opening call) :
      Calm (call ++ ("\"/" ++ resource ++ "/" ++ key.segment ++ "\"") ++ ")") :=
    ((start.append url).append (by decide)).calm
  intro s member
  simp only [recordTests, List.mem_append] at member
  rcases member with (found | notFound) | deleted
  · refine isPlain_testFunction (feed_not_mem_append.2 ⟨by decide, hn⟩) (fun t inBody => ?_) s found
    simp only [List.mem_cons, List.not_mem_nil, or_false] at inBody
    rcases inBody with rfl | rfl | rfl | rfl
    · exact calm_of_chars rfl (by decide)
    · exact request (by decide)
    · exact calm_of_chars rfl (by decide)
    · exact ((((Opening.append (by decide) field).append (by decide)).append field).append (by decide)).calm
  · refine isPlain_testFunction ?_ (fun t inBody => ?_) s notFound
    · simp only [feed_not_mem_append]
      exact ⟨⟨by decide, hn⟩, by decide⟩
    · simp only [List.mem_cons, List.not_mem_nil, or_false] at inBody
      rcases inBody with rfl | rfl | rfl
      · exact calm_of_chars rfl (by decide)
      · exact request (by decide)
      · exact calm_of_chars rfl (by decide)
  · refine isPlain_testFunction (feed_not_mem_append.2 ⟨by decide, hn⟩) (fun t inBody => ?_) s deleted
    simp only [List.mem_cons, List.not_mem_nil, or_false] at inBody
    rcases inBody with rfl | rfl | rfl
    · exact calm_of_chars rfl (by decide)
    · exact request (by decide)
    · exact calm_of_chars rfl (by decide)

omit hr hn in
/-- The function that registers a router with an application calls a class named by a word. -/
theorem isPlain_makeClient {entityType : String} (h : IsWord entityType) :
    (Statement.function "make_client"
      ["def make_client(service):",
       "    app = FastAPI()",
       "    " ++ wiringClass entityType ++ "(service).register(app)",
       "    return TestClient(app)"]).IsPlain := by
  refine importsGenerated_of_calm fun t inLines => ?_
  simp only [Statement.lines, List.mem_cons, List.not_mem_nil, or_false] at inLines
  rcases inLines with rfl | rfl | rfl | rfl
  · exact calm_of_chars rfl (by decide)
  · exact calm_of_chars rfl (by decide)
  · have call : "(service).register(app)".toList = '(' :: "service).register(app)".toList := rfl
    have noRest : '\n' ∉ "".toList := by decide
    have registers := opening_word "    " "(service).register(app)" (isWord_wiringClass h) noRest (by decide) call
      (by decide) (by decide) (by decide)
    rw [String.append_empty] at registers
    exact registers.calm
  · exact calm_of_chars rfl (by decide)

omit hr hn in
/-- The function that makes a service for tests is plain. -/
theorem isPlain_makeService {entityType : String} (h : IsWord entityType) :
    (Statement.function "make_service"
      ["def make_service(**methods):",
       "    service = MagicMock(spec=" ++ serviceClass entityType ++ ")",
       "    for name, value in methods.items():",
       "        setattr(service, name, AsyncMock(return_value=value))",
       "    return service"]).IsPlain := by
  refine importsGenerated_of_calm fun t inLines => ?_
  simp only [Statement.lines, List.mem_cons, List.not_mem_nil, or_false] at inLines
  rcases inLines with rfl | rfl | rfl | rfl | rfl
  · exact calm_of_chars rfl (by decide)
  · exact ((Opening.append (by decide) (isWord_serviceClass h).noFeed).append (by decide)).calm
  · exact calm_of_chars rfl (by decide)
  · exact calm_of_chars rfl (by decide)
  · exact calm_of_chars rfl (by decide)

/-- The statements of a test module are plain if the address of its record is in one line. -/
theorem TestPlan.isPlain {plan : TestPlan} {entityType service wiring : String} (h : IsWord entityType)
    (hs : IsWord service ∧ importPath service ∉ libraries) (hw : IsWord wiring ∧ importPath wiring ∉ libraries)
    (hk : ∀ key, plan.key = some key → '\n' ∉ key.segment.toList) :
    ∀ s ∈ (plan.moduleWith resource entityName entityType service wiring).body, s.IsPlain := by
  have serviceFeed := (isWord_serviceClass h).noFeed
  have wiringFeed := (isWord_wiringClass h).noFeed
  have sample (name : String) (start : Opening (name ++ " = ")) (v : Value) : (Statement.assign name v.layout).IsPlain := by
    refine importsGenerated_of_calm fun t inLines => ?_
    rw [List.mem_singleton.1 inLines]
    exact start.calm.append v.calm_layout
  intro s member
  simp only [moduleWith, List.mem_append, List.mem_cons, List.not_mem_nil, or_false] at member
  rcases member with (((rfl | rfl | rfl | rfl | rfl | rfl | rfl | rfl | rfl | rfl | rfl | rfl | rfl | rfl | rfl | rfl | rfl) |
    created) | many) | record
  · exact spelled_library (by decide) (by decide)
  · exact isPlain_blank
  · exact spelled_library (by decide) (by decide)
  · exact spelled_library (by decide) (by decide)
  · exact isPlain_blank
  · exact spelled_generated hw (by simpa using wiringFeed)
  · exact spelled_generated hs (by simpa using serviceFeed)
  · exact isPlain_blank
  · exact sample "CREATE_INPUT" (by decide) _
  · exact isPlain_blank
  · exact sample "RESULT" (by decide) _
  · exact isPlain_blank
  · exact isPlain_blank
  · exact isPlain_makeClient h
  · exact isPlain_blank
  · exact isPlain_blank
  · exact isPlain_makeService h
  · refine isPlain_testFunction (feed_not_mem_append.2 ⟨by decide, hn⟩) (fun t inBody => ?_) s created
    simp only [List.mem_cons, List.not_mem_nil, or_false] at inBody
    rcases inBody with rfl | rfl | rfl | rfl
    · exact calm_of_chars rfl (by decide)
    · exact ((Opening.append (by decide) hr).append (by decide)).calm
    · exact calm_of_chars rfl (by decide)
    · exact calm_of_chars rfl (by decide)
  · refine isPlain_testFunction (feed_not_mem_append.2 ⟨by decide, hn⟩) (fun t inBody => ?_) s many
    simp only [List.mem_cons, List.not_mem_nil, or_false] at inBody
    rcases inBody with rfl | rfl | rfl | rfl
    · exact calm_of_chars rfl (by decide)
    · exact ((Opening.append (by decide) hr).append (by decide)).calm
    · exact calm_of_chars rfl (by decide)
    · exact calm_of_chars rfl (by decide)
  · split at record
    · next key keyed => exact isPlain_recordTests hr hn (hk key keyed) s record
    · cases record

end

end ResourceScaffold
