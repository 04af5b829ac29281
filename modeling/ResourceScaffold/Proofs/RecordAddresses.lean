import ResourceScaffold.Proofs.SampleTypes
import ResourceScaffold.Proofs.Segments
import ResourceScaffold.Proofs.Signatures

/-!
# How routes and tests address single records

The controller of an entity and its tests choose the key separately: the one from the class that identifies the entity, the
other from the fields, with a value that the sample record may not have. Both choices are related to `Entity.keyField?`
(`Resource.Of.key_rel`, `TestPlan.key_rel`), so they agree.

* `Code.SourceModule.RoutesBy m key` says that the routes of single records of a controller are those of a parameter.
* `Code.SourceModule.TestsBy m resource entityName name v` says that the tests send requests for the record `RESULT` to the
  address that ends in the text of `v`, which is what the record has under the name.
* `generate_addresses`: single records have routes iff they have tests iff a filterable field identifies the entity, and the
  routes and the tests address them by the key field. Its value in the tests is of the type of the parameter.
-/

namespace ResourceScaffold

open Code

/-! ## Routes and tests of single records -/

/-- Some route is not one of the collection, whose path is empty. -/
def Code.SourceModule.HasRecordRoute (m : SourceModule) : Prop :=
  ∃ route, .endpoint route ∈ m.body ∧ route.path ≠ ""

/-- The module has a function of the given name. -/
def Code.SourceModule.HasFunction (m : SourceModule) (name : String) : Prop :=
  ∃ lines, .function name lines ∈ m.body

/-- Single records are read, updated and deleted at the path of a parameter, and each route other than those of the collection
begins with that path and takes the parameter first. -/
structure Code.SourceModule.RoutesBy (m : SourceModule) (key : KeyParameter) : Prop where
  reads : ∃ route, .endpoint route ∈ m.body ∧ route.method = .get ∧ route.path = key.path
  updates : ∃ route, .endpoint route ∈ m.body ∧ route.method = .patch ∧ route.path = key.path
  deletes : ∃ route, .endpoint route ∈ m.body ∧ route.method = .delete ∧ route.path = key.path
  addressed : ∀ route, .endpoint route ∈ m.body → route.path ≠ "" →
    key.path.toList <+: route.path.toList ∧ route.parameters.head? = some key.parameter

/-- What stands for a value in a URL: a text as it is shown, and any other value as JSON. -/
inductive Value.IsSegment : Value → String → Prop where
  | text {v : Value} (text : v.IsText) : IsSegment v v.display
  | json {v : Value} (other : ¬ v.IsText) : IsSegment v (Json.write v)

/-- The text is a single segment of a path, and can stand in a quoted text. -/
def IsPathSegment (segment : String) : Prop :=
  segment ≠ "" ∧ ∀ c ∈ segment.toList, c ≠ '/' ∧ c ≠ '"' ∧ c ≠ '\''

-- of the characters only those of the text are tried
instance (segment : String) : Decidable (IsPathSegment segment) :=
  @instDecidableAnd _ _ _ (List.decidableBAll _ _)

/-- The tests of a single record: `RESULT` has a value under the name, and requests for the record are sent to the address of
the resource followed by the text of the value. -/
structure Code.SourceModule.TestsBy (m : SourceModule) (resource entityName name : String) (v : Value) : Prop where
  known : ∃ record : Entries, .assign "RESULT" (Value.mapping record).layout ∈ m.body ∧
    Table.lookup record (.text name) = .ok v
  requests : ∃ segment, v.IsSegment segment ∧ IsPathSegment segment ∧
    (∃ lines, .function ("test_find_one_" ++ entityName) lines ∈ m.body ∧
      "    response = make_client(service).get(\"/" ++ resource ++ "/" ++ segment ++ "\")" ∈ lines ∧
      "    assert response.json()[" ++ (Value.text name).literal ++ "] == RESULT[" ++ (Value.text name).literal ++ "]"
        ∈ lines) ∧
    (∃ lines, .function ("test_find_one_" ++ entityName ++ "_not_found") lines ∈ m.body ∧
      "    response = make_client(service).get(\"/" ++ resource ++ "/" ++ segment ++ "\")" ∈ lines) ∧
    ∃ lines, .function ("test_delete_" ++ entityName) lines ∈ m.body ∧
      "    response = make_client(service).delete(\"/" ++ resource ++ "/" ++ segment ++ "\")" ∈ lines

section

variable {schema : Schema} {naming : NamingStrategy} {classes : Table Descriptor} {byName : Table Entity} {e : Entity}
  {ids : Entries} {f : Field} {r : Resource} {modules : List SourceModule} {plan : TestPlan}

/-! ## The key of the controller -/

/-- A route is one of the collection or addresses a single record by the parameter. -/
theorem Controller.Route.addressed {c : Controller} {key : KeyParameter} (keyed : c.key? = some key) {route : Endpoint}
    (h : c.Route route) :
    route.path = "" ∨ key.path.toList <+: route.path.toList ∧ route.parameters.head? = some key.parameter := by
  -- the parameter of a route is that of the controller
  have same {key' : KeyParameter} (keyed' : c.key? = some key') : key' = key :=
    Option.some.inj (keyed'.symm.trans keyed)
  have under (name : String) : key.path.toList <+: (key.path ++ "/" ++ Text.kebabCase name).toList := by
    rw [String.toList_append, String.toList_append, List.append_assoc]
    exact List.prefix_append _ _
  cases h with
  | create | list => exact .inl rfl
  | read keyed' | update keyed' | delete keyed' =>
      obtain rfl := same keyed'
      exact .inr ⟨List.prefix_refl _, rfl⟩
  | related keyed' | connect keyed' | disconnect keyed' =>
      obtain rfl := same keyed'
      exact .inr ⟨under _, rfl⟩

/-- The path of a record is not empty. -/
theorem KeyParameter.path_ne_empty (key : KeyParameter) : key.path ≠ "" := by
  intro empty
  simp [path, ← String.toList_inj] at empty

/-- The routes of single records are those of the parameter of the controller. -/
theorem Resource.Of.routesBy (h : Of schema naming classes byName e r) {key : KeyParameter}
    (keyed : r.controller.key? = some key) : r.controllerModule.RoutesBy key where
  reads := ⟨_, h.mem_controllerModule.2 (.read keyed), rfl, rfl⟩
  updates := ⟨_, h.mem_controllerModule.2 (.update keyed), rfl, rfl⟩
  deletes := ⟨_, h.mem_controllerModule.2 (.delete keyed), rfl, rfl⟩
  addressed := fun _ inModule record => ((h.mem_controllerModule.1 inModule).addressed keyed).resolve_left record

/-- Single records have routes iff the controller has a parameter that addresses them. -/
theorem Resource.Of.hasRecordRoute_iff (h : Of schema naming classes byName e r) :
    r.controllerModule.HasRecordRoute ↔ ∃ key, r.controller.key? = some key := by
  constructor
  · rintro ⟨route, inModule, record⟩
    cases h.mem_controllerModule.1 inModule with
    | create | list => exact absurd rfl record
    | read keyed | update keyed | delete keyed | related keyed | connect keyed | disconnect keyed => exact ⟨_, keyed⟩
  · rintro ⟨key, keyed⟩
    exact ⟨_, h.mem_controllerModule.2 (.read keyed), key.path_ne_empty⟩

/-! ## The key of the tests -/

/-- The key of the tests is the key field, with the value that the record has under its name. -/
theorem TestPlan.key_rel (planned : ofEntity e ids = .ok plan) :
    Option.Rel (fun f key => key.name = f.name ∧ Table.lookup plan.record f.name = .ok key.value) e.keyField? plan.key := by
  obtain ⟨payload, -, rest⟩ := bind_eq_ok.1 planned
  obtain ⟨record, -, rest⟩ := bind_eq_ok.1 rest
  obtain ⟨unique, identified, rest⟩ := bind_eq_ok.1 rest
  have related := keyField_rel identified
  cases keyed : unique.keyProperty? with
  | none =>
      simp only [keyed] at rest related
      cases rest
      cases none : e.keyField? with
      | none => exact .none
      | some f =>
          rw [none] at related
          cases related
  | some p =>
      simp only [keyed] at rest related
      obtain ⟨record', -, rest⟩ := bind_eq_ok.1 rest
      obtain ⟨v, found, rest⟩ := bind_eq_ok.1 rest
      cases rest
      cases some : e.keyField? with
      | none =>
          rw [some] at related
          cases related
      | some f =>
          rw [some] at related
          cases related with
          | some step =>
              have name := (whereUniqueProperty_ofField step).2.name
              rw [name] at found
              exact .some ⟨name, found⟩

/-- The functions of a test module: two that make what is tested, the tests of the collection and, with a key, those of single
records. -/
theorem TestPlan.function_cases {resource entityName entityType service wiring name : String} {lines : List String}
    (listed : .function name lines ∈ (plan.moduleWith resource entityName entityType service wiring).body) :
    name = "make_client" ∨ name = "make_service" ∨ name = "test_create_" ++ entityName ∨
      name = "test_find_many_" ++ entityName ∨ ∃ key, plan.key = some key := by
  cases keyed : plan.key with
  | some key => exact .inr (.inr (.inr (.inr ⟨key, rfl⟩)))
  | none =>
      simp only [moduleWith, keyed, testFunction, List.cons_append, List.nil_append, List.append_nil, List.mem_cons,
        List.not_mem_nil, or_false, reduceCtorEq, false_or, Statement.function.injEq] at listed
      rcases listed with ⟨rfl, -⟩ | ⟨rfl, -⟩ | ⟨rfl, -⟩ | ⟨rfl, -⟩ <;> simp

/-- The tests of one record stand in the test module of every plan with a key. -/
theorem TestPlan.mem_moduleWith {resource entityName entityType service wiring : String} {key : TestKey}
    (keyed : plan.key = some key) {s : Statement} (listed : s ∈ recordTests resource entityName key) :
    s ∈ (plan.moduleWith resource entityName entityType service wiring).body := by
  unfold moduleWith
  rw [keyed]
  exact List.mem_append_right _ listed

/-- A test function starts with its own line of definition. -/
theorem mem_testFunction (name : String) (body : List String) :
    .function name (("def " ++ name ++ "():") :: body.map fun line => "    " ++ line) ∈ testFunction name body := by
  simp [testFunction]

/-- The test that finds a record and the one that deletes it are there iff there is a key. -/
theorem TestPlan.hasFunction_iff (plan : TestPlan) (resource entityName entityType service wiring : String) {front : String}
    (ofRecord : front = "test_find_one_" ∨ front = "test_delete_") :
    (plan.moduleWith resource entityName entityType service wiring).HasFunction (front ++ entityName) ↔
      ∃ key, plan.key = some key := by
  constructor
  · rintro ⟨lines, inModule⟩
    have begins {whole : String} (same : front ++ entityName = whole) : front.toList <+: whole.toList := by
      rw [← same, String.toList_append]
      exact List.prefix_append _ _
    have apart {other : String} (same : front ++ entityName = other ++ entityName) : front = other :=
      (String.append_left_inj entityName).1 same
    rcases function_cases inModule with client | service | create | list | keyed
    · rcases ofRecord with rfl | rfl <;> exact absurd (begins client) (by decide)
    · rcases ofRecord with rfl | rfl <;> exact absurd (begins service) (by decide)
    · rcases ofRecord with rfl | rfl <;> exact absurd (apart create) (by decide)
    · rcases ofRecord with rfl | rfl <;> exact absurd (apart list) (by decide)
    · exact keyed
  · rintro ⟨key, keyed⟩
    rcases ofRecord with rfl | rfl
    · exact ⟨_, mem_moduleWith keyed (List.mem_append_left _ (List.mem_append_left _ (mem_testFunction _ _)))⟩
    · exact ⟨_, mem_moduleWith keyed (List.mem_append_right _ (mem_testFunction _ _))⟩

/-- What stands for the value of a key in a URL is its segment. -/
theorem TestKey.isSegment (key : TestKey) : key.value.IsSegment key.segment := by
  unfold segment
  split
  · next s text =>
      rw [text]
      exact .text (.text s)
  · next t text =>
      rw [text]
      exact .text (.illFormed t)
  · next noText noIllFormed =>
      refine .json fun text => ?_
      generalize key.value = v at text noText noIllFormed
      cases text with
      | text s => exact noText s rfl
      | illFormed t => exact noIllFormed t rfl

/-- Samples can stand in paths. -/
theorem isPathSegment_sample {type : DataType} {key : TestKey} (value : key.value = Sample.ofDataType type) :
    IsPathSegment key.segment := by
  rw [TestKey.segment, value]
  cases type <;> decide

/-- The tests of single records send requests to the address that ends in the segment of the key. -/
theorem TestPlan.testsBy {resource entityName entityType service wiring s : String} {key : TestKey}
    (keyed : plan.key = some key) (named : key.name = .text s) (found : Table.lookup plan.record (.text s) = .ok key.value)
    (segment : IsPathSegment key.segment) :
    (plan.moduleWith resource entityName entityType service wiring).TestsBy resource entityName s key.value where
  known := ⟨plan.record, by simp [moduleWith], found⟩
  requests := by
    have inTests {name : String} {body : List String}
        (listed : ∀ s ∈ testFunction name body, s ∈ recordTests resource entityName key) :
        .function name (("def " ++ name ++ "():") :: body.map fun line => "    " ++ line)
          ∈ (plan.moduleWith resource entityName entityType service wiring).body :=
      mem_moduleWith keyed (listed _ (mem_testFunction name body))
    refine ⟨key.segment, key.isSegment, segment,
      ⟨_, inTests fun _ => List.mem_append_left _ ∘ List.mem_append_left _, ?_, ?_⟩,
      ⟨_, inTests fun _ => List.mem_append_left _ ∘ List.mem_append_right _, ?_⟩,
      ⟨_, inTests fun _ => List.mem_append_right _, ?_⟩⟩
    all_goals simp [← String.toList_inj, named]

/-! ## Both keys -/

/-- A field of an entity that can be read is found by its name. -/
theorem find?_sameKey {d : Descriptor} (made : entityDescriptor e ids = .ok d) (member : f ∈ e.fields) :
    e.fields.find? (fun g => g.name.sameKey f.name) = some f := by
  obtain ⟨s, text⟩ := exists_text_of_field made member
  have passes : f.name.sameKey f.name = true := by simp [Value.sameKey, text]
  have some : (e.fields.find? fun g => g.name.sameKey f.name).isSome := List.find?_isSome.2 ⟨f, member, passes⟩
  obtain ⟨g, found⟩ := Option.isSome_iff_exists.1 some
  have same := List.find?_some found
  rw [Value.sameKey, Bool.and_eq_true, beq_iff_eq] at same
  rw [found, field_unique member (List.mem_of_find?_eq_some found) (checkFieldName_of_entityDescriptor made member) same.2]

/-- The key field is there iff a filterable field identifies the entity. -/
theorem Entity.exists_keyField?_iff (e : Entity) :
    (∃ f, e.keyField? = some f) ↔ ∃ f ∈ e.fields, f.isFilterable = true ∧ f.isIdentifying = true := by
  constructor
  · rintro ⟨f, keyed⟩
    obtain ⟨member, passes⟩ := List.mem_filter.1 (mem_of_keyField? keyed)
    exact ⟨f, member, Bool.and_eq_true_iff.1 passes⟩
  · rintro ⟨f, member, passes⟩
    exact exists_keyField? (List.mem_filter.2 ⟨member, Bool.and_eq_true_iff.2 passes⟩)

/-- Of every entity of a generation, single records have routes iff they have tests, which is iff a filterable field identifies
the entity. Both address them by the key field. The parameter of the routes has its name and type, and the record of the tests
has a value of that type under its name, whose text is the last segment of the address. The key field is found by its name. -/
theorem generate_addresses (h : (schema.generate naming).outcome = .ok modules) (inBatch : e ∈ schema.entities) :
    ∃ controller ∈ modules, ∃ tests ∈ modules,
      controller.path = controllerPath (e.identifier naming) ∧ tests.path = testPath (e.identifier naming) ∧
      (controller.HasRecordRoute ↔ ∃ f ∈ e.fields, f.isFilterable = true ∧ f.isIdentifying = true) ∧
      (tests.HasFunction ("test_find_one_" ++ e.identifier naming) ↔
        ∃ f ∈ e.fields, f.isFilterable = true ∧ f.isIdentifying = true) ∧
      (tests.HasFunction ("test_delete_" ++ e.identifier naming) ↔
        ∃ f ∈ e.fields, f.isFilterable = true ∧ f.isIdentifying = true) ∧
      ∀ f, e.keyField? = some f → ∃ name t v, f.name = .text name ∧ f.kind = .scalar t ∧ t ≠ .json ∧ t.Accepts v ∧
        controller.RoutesBy { name, type := t.typeName } ∧
        tests.TestsBy (e.resource naming) (e.identifier naming) name v ∧
        e.fields.find? (fun g => g.name.sameKey f.name) = some f := by
  obtain ⟨classes, byName, rs, generated, rfl⟩ := generate_eq_ok h
  obtain ⟨r, listed, of⟩ := generated.resource inBatch
  obtain ⟨-, -, -, -, entityName, -⟩ := generated.controller_eq inBatch of
  obtain ⟨endpoints, -, rendered⟩ := Controller.toModule_eq_ok.1 of.controllerModule
  obtain ⟨plan, planned, tested⟩ := testModule_eq_ok.1 of.tests
  have resource : e.resource naming = (naming r.name).resource := by rw [Entity.resource, of.name, Value.display_text]
  rw [← e.exists_keyField?_iff, of.identifier_eq, resource]
  refine ⟨r.controllerModule, generated.mem_modules.2 ⟨r, listed, _, .controller⟩, r.tests,
    generated.mem_modules.2 ⟨r, listed, _, .tests⟩, ?_, ?_, ?_, ?_, ?_, ?_⟩
  · rw [rendered, ← entityName]
    rfl
  · rw [tested]
    rfl
  · rw [of.hasRecordRoute_iff, exists_iff_of_rel of.key_rel]
  · rw [tested, plan.hasFunction_iff _ _ _ _ _ (.inl rfl), exists_iff_of_rel (TestPlan.key_rel planned)]
  · rw [tested, plan.hasFunction_iff _ _ _ _ _ (.inr rfl), exists_iff_of_rel (TestPlan.key_rel planned)]
  · intro f keyed
    have member : f ∈ e.fields := (List.mem_filter.1 (Entity.mem_of_keyField? keyed)).1
    obtain ⟨key, routeKey, text, t, kind, other, type⟩ := exists_right_of_rel of.key_rel keyed
    obtain ⟨test, testKey, named, found⟩ := exists_right_of_rel (TestPlan.key_rel planned) keyed
    obtain ⟨g, member', t', -, same, value⟩ := TestPlan.exists_key_field of.read planned testKey
    -- the sample is that of the key field, as no other field has its name
    have sampled : g = f :=
      field_unique member member' (checkFieldName_of_entityDescriptor of.read member) (by rw [← same, named])
    rw [sampled] at value
    rw [text] at named found
    refine ⟨key.name, t, test.value, text, kind, other, ?_, ?_, ?_, find?_sameKey of.read member⟩
    · rw [value]
      exact accepts_sample kind
    · rw [← type]
      exact of.routesBy routeKey
    · rw [tested]
      exact TestPlan.testsBy testKey named found (isPathSegment_sample value)

end

/-- Sensors are identified by the time at which they were installed, which need not be known, and by their number. -/
def Schema.sensors : Schema :=
  { entities :=
      [{ name := .text "Sensor"
         id := .null
         fields :=
           [{ name := .text "label", dataType := .singleLineText, required := true, unique := false, searchable := true
              properties := [] },
            { name := .text "installedAt", dataType := .dateTime, required := false, unique := true, searchable := false
              properties := [] },
            { name := .text "number", dataType := .wholeNumber, required := true, unique := true, searchable := true
              properties := [] }] }]
    ids := [] }

/-- Routes and tests of sensors address them by the time at which they were installed. -/
theorem Schema.sensors_addressed : ∃ modules, (sensors.generate ResourceNaming.derive).outcome = .ok modules ∧
    ∃ controller ∈ modules, ∃ tests ∈ modules, controller.HasRecordRoute ∧ tests.HasFunction "test_delete_sensor" ∧
      controller.RoutesBy { name := "installedAt", type := "datetime" } ∧
      ∃ v, ScalarType.dateTime.Accepts v ∧ tests.TestsBy "sensors" "sensor" "installedAt" v := by
  have returns : (sensors.generate ResourceNaming.derive).outcome.isOk = true := rfl
  obtain ⟨modules, made⟩ := isOk_iff.1 returns
  obtain ⟨controller, isModule, tests, isModule', -, -, routes, -, deletes, addressed⟩ :=
    generate_addresses made (List.mem_singleton_self _)
  obtain ⟨name, t, v, text, kind, -, accepts, routesBy, testsBy, -⟩ := addressed _ rfl
  cases text
  cases kind
  refine ⟨modules, made, controller, isModule, tests, isModule', routes.2 ?_, deletes.2 ?_, routesBy, v, accepts, testsBy⟩
  · exact ⟨_, List.mem_cons_of_mem _ List.mem_cons_self, rfl, rfl⟩
  · exact ⟨_, List.mem_cons_of_mem _ List.mem_cons_self, rfl, rfl⟩

end ResourceScaffold
