import ResourceScaffold.Log.Record
import ResourceScaffold.Proofs.Reports

/-!
# The log of a generation

A run keeps what it reported before a failure, and the modules of each entity are made to the end whatever becomes of those of
the entities before it. So the log tells how far a generation came.

* `Run.events_all`, `Run.events_all_andThen`: several runs report one after the other, none of them among the reports of another;
* `Schema.Prepared.events_resourceModules`: once the classes are made, the modules of an entity report that they are begun, and
  then that those of its data classes are made iff all enumerations of the entity can be built. No later step reports anything,
  so it makes no difference whether the controller or the tests fail;
* `Schema.Prepared.events_generate`: a generation reports this about each of its entities, in order, and then its return;
* `Schema.generate_records`: the records of that. The first one tells that a generation has begun and the last one that it has
  returned, and the others are about the entities, each of which has its own (`Schema.IsLog`).
-/

namespace ResourceScaffold

open Code

/-! ## Reports of runs -/

namespace Run

variable {α β : Type}

/-- A value at hand is handed on, and nothing is reported. -/
theorem ofExcept_ok_andThen (a : α) (next : α → Run β) : (ofExcept (.ok a)).andThen next = next a := rfl

/-- A fault at hand ends the run before the next part. -/
theorem ofExcept_error_andThen (fault : Fault) (next : α → Run β) :
    (ofExcept (.error fault)).andThen next = ofExcept (.error fault) := rfl

/-- An event comes before everything the next part reports. -/
theorem events_report_andThen (e : Event) (next : Unit → Run β) :
    ((report e).andThen next).events = e :: (next ()).events := rfl

/-- A step that reports nothing is silent if all that may follow is. -/
theorem events_ofExcept_andThen_eq_nil (x : Except Fault α) {next : α → Run β} (silent : ∀ a, (next a).events = []) :
    ((ofExcept x).andThen next).events = [] := by
  cases x with
  | ok a => exact silent a
  | error fault => rfl

/-- Several runs report one after the other, those that fail too. -/
theorem events_all (rs : List (Run α)) : (all rs).events = rs.flatMap events := by
  induction rs with
  | nil => rfl
  | cons r rest ih => rw [all, ih, List.flatMap_cons]

/-- Parts that run one after another report one after another, then the part that follows reports. -/
theorem events_all_andThen (rs : List (Run α)) (next : List (Except Fault α) → Run β) :
    ((all rs).andThen next).events = rs.flatMap events ++ (next (rs.map outcome)).events := by
  rw [andThen_ok (outcome_all rs), events_all]

end Run

/-! ## What the modules of an entity report -/

/-- Whether all enumerations of an entity can be built. -/
def Entity.buildsEnumerations (e : Entity) : Bool :=
  e.enumFields.all fun f => (EnumDescriptor.ofField e f).isOk

/-- What is reported about an entity once the classes of its batch are made. -/
def Entity.events (e : Entity) : List Event :=
  .creating e.name.display ::
    if e.buildsEnumerations then [.rendered e.name.display (4 + e.enumFields.length)] else []

section

variable {schema : Schema} {naming : NamingStrategy} {classes : Table Descriptor} {byName : Table Entity} {ids : Entries}
  {e : Entity} {inputs : InputDescriptors} {data : List SourceModule}

/-- An entity has four data modules and one for each enumeration. -/
theorem length_dataModules {entityName : String} (made : dataModules e inputs entityName = .ok data) :
    data.length = 4 + e.enumFields.length := by
  obtain ⟨enumerations, built, rest⟩ := bind_eq_ok.1 made
  obtain ⟨modules, rendered, rest⟩ := bind_eq_ok.1 rest
  cases rest
  have enums := (mapM_eq_ok.1 built).length_eq
  have classes := (mapM_eq_ok.1 rendered).length_eq
  have four : inputs.toList.length = 4 := rfl
  rw [List.length_append, List.length_map]
  omega

/-- The data modules of an entity are made iff its enumerations can be built. -/
theorem isOk_dataModules (name : e.name.IsText) (texts : ids.AreTexts) (made : inputDescriptors e ids = .ok inputs)
    (entityName : String) : (dataModules e inputs entityName).isOk = e.buildsEnumerations := by
  have modules : ∃ ms, inputs.toList.mapM (fun d => d.toModule entityName) = .ok ms :=
    exists_mapM_eq_ok fun d member => (InputDescriptors.isClassOf made member).toModule_returns name texts entityName
  obtain ⟨ms, rendered⟩ := modules
  apply Bool.eq_iff_iff.2
  rw [Entity.buildsEnumerations, List.all_eq_true, isOk_iff]
  constructor
  · rintro ⟨data, written⟩ f listed
    obtain ⟨enumerations, built, -⟩ := bind_eq_ok.1 written
    obtain ⟨d, -, step⟩ := mem_results_of_mapM_eq_ok built listed
    exact isOk_iff.2 ⟨d, step⟩
  · intro builds
    obtain ⟨enumerations, built⟩ := exists_mapM_eq_ok fun f listed => isOk_iff.1 (builds f listed)
    exact ⟨_, by rw [dataModules, built, ok_bind, rendered]; rfl⟩

/-- Once the classes are made, the modules of an entity report no more and no less than `Entity.events`. -/
theorem Schema.Prepared.events_resourceModules (h : schema.Prepared naming classes byName) (texts : schema.ids.AreTexts)
    (member : e ∈ schema.entities) : (resourceModules schema.ids classes byName naming e).events = e.events := by
  obtain ⟨name, text⟩ := h.text member
  obtain ⟨read, described⟩ := h.described member
  obtain ⟨inputs, made⟩ := inputDescriptors_returns described
  have builds := isOk_dataModules (h.isText member) texts made (naming name).entityName
  have passed : e.name.asText = .ok name := by rw [text, Value.asText_text]
  have display : e.name.display = name := by rw [text, Value.display_text]
  simp only [resourceModules, Run.bind_eq, Run.pure_eq, h.named member, passed, made, Run.ofExcept_ok_andThen,
    Run.events_report_andThen]
  rw [Entity.events, display]
  congr 1
  cases written : dataModules e inputs (naming name).entityName with
  | error fault =>
      rw [written] at builds
      rw [← builds]
      rfl
  | ok data =>
      rw [written] at builds
      rw [← builds, Run.ofExcept_ok_andThen, Run.events_report_andThen, length_dataModules written]
      -- the steps after the data modules report nothing
      refine congrArg _ ?_
      apply Run.events_ofExcept_andThen_eq_nil
      intro controller
      apply Run.events_ofExcept_andThen_eq_nil
      intro controllerModule
      apply Run.events_ofExcept_andThen_eq_nil
      intro tests
      rfl

end

/-! ## What a generation reports -/

/-- What is reported at the end of a generation: that it has returned, or nothing. -/
def Schema.lastEvents (schema : Schema) : Except Fault (List SourceModule) → List Event
  | .ok modules => [.generated modules.length schema.entities.length]
  | .error _ => []

section

variable {schema : Schema} {naming : NamingStrategy} {classes : Table Descriptor} {byName : Table Entity} {fault : Fault}

/-- A generation whose classes are refused reports that it has begun. -/
theorem Schema.generate_of_refused (tabled : entitiesByName schema.entities = .ok byName)
    (refused : entityClasses schema.entities schema.ids naming = .error fault) :
    schema.generate naming = { events := [.building schema.entities.length], outcome := .error fault } := by
  simp only [generate, Run.bind_eq, tabled, refused, Run.ofExcept_ok_andThen, Run.ofExcept_error_andThen]
  rfl

/-- A generation whose classes are made reports that it has begun, what is reported about each entity, and its return. -/
theorem Schema.Prepared.events_generate (h : schema.Prepared naming classes byName) (texts : schema.ids.AreTexts) :
    (schema.generate naming).events =
      .building schema.entities.length ::
        (schema.entities.flatMap Entity.events ++ schema.lastEvents (schema.generate naming).outcome) := by
  have entities : (schema.entities.map (resourceModules schema.ids classes byName naming)).flatMap Run.events =
      schema.entities.flatMap Entity.events := by
    rw [List.flatMap_map]
    apply List.flatMap_congr
    intro e member
    exact h.events_resourceModules texts member
  rw [outcome_generate, h.entities, ok_bind, h.classes_eq, ok_bind]
  simp only [generate, Run.bind_eq, Run.pure_eq, h.entities, h.classes_eq, Run.ofExcept_ok_andThen,
    Run.events_report_andThen, Run.events_all_andThen, entities, List.map_map]
  congr 2
  -- of the two steps after the modules of the entities, one that fails ends the run without a report
  change _ = schema.lastEvents (gather (schema.entities.map
    (Run.outcome ∘ resourceModules schema.ids classes byName naming)) >>= _)
  cases gather (schema.entities.map (Run.outcome ∘ resourceModules schema.ids classes byName naming)) with
  | error fault => rfl
  | ok modules =>
      cases classModules classes naming with
      | error fault => rfl
      | ok shared => rfl

end

/-! ## Records -/

/-- The record that the classes of a batch are about to be made. -/
def Schema.buildingRecord (logger : String) (schema : Schema) : LogRecord where
  logger := logger
  level := .info
  entity := none
  stage := some "ENTITY_DTOS"
  message := "Building " ++ intText schema.entities.length ++ " entity DTOs"

/-- The record that all modules of a schema are made. -/
def Schema.generatedRecord (logger : String) (schema : Schema) (modules : List SourceModule) : LogRecord where
  logger := logger
  level := .info
  entity := none
  stage := some "DONE"
  message := "Generated " ++ intText modules.length ++ " modules for " ++ intText schema.entities.length ++ " entities"

/-- The record that the modules of an entity are about to be made. -/
def Entity.creatingRecord (logger : String) (e : Entity) : LogRecord where
  logger := logger
  level := .info
  entity := some e.name.display
  stage := some "VALIDATE"
  message := "Creating " ++ e.name.display ++ "..."

/-- The record that the data modules of an entity are made: four, and one for each enumeration. -/
def Entity.renderedRecord (logger : String) (e : Entity) : LogRecord where
  logger := logger
  level := .debug
  entity := some e.name.display
  stage := some "DTOS"
  message := "Rendered " ++ intText (4 + e.enumFields.length : Nat) ++ " DTO modules"

/-- The records of an entity: that its modules are about to be made and, iff all its enumerations can be built, that its data
modules are. -/
def Entity.records (logger : String) (e : Entity) : List LogRecord :=
  e.creatingRecord logger :: if e.buildsEnumerations then [e.renderedRecord logger] else []

/-- The records of a generation whose classes are made: the first one, those of each entity in order, and a last one if the
generation returns. -/
def Schema.records (logger : String) (schema : Schema) (outcome : Except Fault (List SourceModule)) : List LogRecord :=
  schema.buildingRecord logger ::
    (schema.entities.flatMap (Entity.records logger) ++ outcome.toOption.toList.map (schema.generatedRecord logger))

/-- A logger for debugging keeps every record. -/
theorem Threshold.filter_debug (records : List LogRecord) : Threshold.filter (some .debug) records = records := by
  apply List.filter_eq_self.2
  intro r _
  cases level : r.level <;> simp [allows, LogLevel.weight]

section

variable {schema : Schema} {naming : NamingStrategy} {logger : String} {e : Entity}
  {outcome : Except Fault (List SourceModule)} {r : LogRecord}

/-- The records of one entity are its events, each written under the logger's name. -/
theorem Entity.map_record_events (logger : String) (e : Entity) :
    e.events.map (fun event => event.record logger) = e.records logger := by
  rw [events, records]
  split <;> rfl

/-- A record of an entity carries the entity's name, and it is not the last one of the run. -/
theorem Entity.of_mem_records (member : r ∈ e.records logger) :
    r.entity = some e.name.display ∧ r.stage ≠ some "DONE" := by
  rcases List.mem_cons.1 member with rfl | written
  · exact ⟨rfl, by simp [creatingRecord]⟩
  · split at written
    · rw [List.mem_singleton.1 written]
      exact ⟨rfl, by simp [renderedRecord]⟩
    · cases written

/-- No record is about two entities with different names. -/
theorem Entity.filter_records (e other : Entity) :
    ((other.records logger).filter fun r => r.entity == some e.name.display) =
      if other.name.display = e.name.display then other.records logger else [] := by
  split
  · next same =>
      apply List.filter_eq_self.2
      intro r member
      simp [(of_mem_records member).1, same]
  · next differ =>
      apply List.filter_eq_nil_iff.2
      intro r member
      simp [(of_mem_records member).1, differ]

/-- Of the records of entities with different names, those about one of them are its own. -/
theorem Entity.filter_flatMap_records {entities : List Entity} (distinct : (entities.map fun e => e.name.display).Nodup)
    (member : e ∈ entities) :
    ((entities.flatMap (Entity.records logger)).filter fun r => r.entity == some e.name.display) = e.records logger := by
  obtain ⟨front, back, rfl⟩ := List.append_of_mem member
  rw [List.map_append, List.map_cons, List.nodup_middle, List.nodup_cons, List.mem_append, not_or] at distinct
  obtain ⟨⟨before, after⟩, -⟩ := distinct
  have others {entities : List Entity} (absent : e.name.display ∉ entities.map fun e => e.name.display) :
      ((entities.flatMap (Entity.records logger)).filter fun r => r.entity == some e.name.display) = [] := by
    rw [List.filter_flatMap]
    apply List.flatMap_eq_nil_iff.2
    intro other listed
    rw [filter_records, if_neg]
    intro same
    exact absent (List.mem_map.2 ⟨other, listed, same⟩)
  rw [List.flatMap_append, List.flatMap_cons, List.filter_append, List.filter_append, others before, others after,
    filter_records, if_pos rfl, List.nil_append, List.append_nil]

/-- The entities of a batch whose classes are made have different names. -/
theorem Schema.Prepared.displays_nodup {classes : Table Descriptor} {byName : Table Entity}
    (h : schema.Prepared naming classes byName) : (schema.entities.map fun e => e.name.display).Nodup := by
  have factored : schema.entities.map (Entity.identifier naming) =
      (schema.entities.map fun e => e.name.display).map fun name => (naming name).entityName := by
    rw [List.map_map]
    rfl
  exact (factored ▸ h.identifiers_nodup).of_map _

/-- The last record names no entity, and only a run that returned leaves it. -/
theorem Schema.of_mem_lastRecords (member : r ∈ outcome.toOption.toList.map (schema.generatedRecord logger)) :
    r.entity = none ∧ ∃ modules, outcome = .ok modules := by
  obtain ⟨modules, returned, rfl⟩ := List.mem_map.1 member
  exact ⟨rfl, modules, eq_ok_of_toOption (Option.mem_toList.1 returned)⟩

/-- The records about an entity are its own. -/
theorem Schema.filter_records (distinct : (schema.entities.map fun e => e.name.display).Nodup)
    (member : e ∈ schema.entities) :
    ((schema.records logger outcome).filter fun r => r.entity == some e.name.display) = e.records logger := by
  have last : (outcome.toOption.toList.map (schema.generatedRecord logger)).filter
      (fun r => r.entity == some e.name.display) = [] := by
    apply List.filter_eq_nil_iff.2
    intro r listed
    simp [(of_mem_lastRecords listed).1]
  rw [records, List.filter_cons_of_neg (by simp [buildingRecord]), List.filter_append,
    Entity.filter_flatMap_records distinct member, last, List.append_nil]

/-- A generation has ended with a record of that iff it has returned. -/
theorem Schema.exists_done_iff :
    (∃ r ∈ schema.records logger outcome, r.stage = some "DONE") ↔ ∃ modules, outcome = .ok modules := by
  constructor
  · rintro ⟨r, member, done⟩
    rcases List.mem_cons.1 member with rfl | later
    · simp [buildingRecord] at done
    · rcases List.mem_append.1 later with ofEntity | last
      · obtain ⟨e, -, listed⟩ := List.mem_flatMap.1 ofEntity
        exact absurd done (Entity.of_mem_records listed).2
      · exact (of_mem_lastRecords last).2
  · rintro ⟨modules, rfl⟩
    exact ⟨schema.generatedRecord logger modules, by simp [records, Except.toOption], rfl⟩

end

/-! ## The log -/

/-- What the log of a generation tells, which has ended with an outcome. -/
structure Schema.IsLog (schema : Schema) (naming : NamingStrategy) (logger : String)
    (outcome : Except Fault (List SourceModule)) (records : List LogRecord) : Prop where
  /-- If the classes are refused, there is only the record that they were about to be made. -/
  refused : (∃ fault, entityClasses schema.entities schema.ids naming = .error fault) →
    records = [schema.buildingRecord logger]
  /-- Otherwise the records of each entity follow, in order, and a last one if the generation has returned. -/
  tried : (∃ classes, entityClasses schema.entities schema.ids naming = .ok classes) →
    records = schema.records logger outcome
  /-- There are no other records about an entity. -/
  about : (∃ classes, entityClasses schema.entities schema.ids naming = .ok classes) → ∀ e ∈ schema.entities,
    (records.filter fun r => r.entity == some e.name.display) = e.records logger
  /-- There is a last record iff the generation has returned. -/
  done : (∃ r ∈ records, r.stage = some "DONE") ↔ ∃ modules, outcome = .ok modules

section

variable {schema : Schema} {naming : NamingStrategy}

/-- The log of a generation whose classes are refused. -/
theorem Schema.isLog_of_refused {byName : Table Entity} {fault : Fault}
    (tabled : entitiesByName schema.entities = .ok byName)
    (refused : entityClasses schema.entities schema.ids naming = .error fault) (logger : String) :
    schema.IsLog naming logger (schema.generate naming).outcome
      ((schema.generate naming).events.map fun event => event.record logger) := by
  have never : ¬ ∃ classes, entityClasses schema.entities schema.ids naming = .ok classes := by simp [refused]
  rw [generate_of_refused tabled refused]
  refine ⟨fun _ => rfl, fun made => absurd made never, fun made => absurd made never, ?_⟩
  simp [Event.record, Event.stage?]

/-- The log of a generation whose classes are made. -/
theorem Schema.Prepared.isLog {classes : Table Descriptor} {byName : Table Entity}
    (h : schema.Prepared naming classes byName) (texts : schema.ids.AreTexts) (logger : String) :
    schema.IsLog naming logger (schema.generate naming).outcome
      ((schema.generate naming).events.map fun event => event.record logger) := by
  have all : (schema.generate naming).events.map (fun event => event.record logger) =
      schema.records logger (schema.generate naming).outcome := by
    rw [h.events_generate texts, List.map_cons, List.map_append, List.map_flatMap]
    simp only [Entity.map_record_events]
    cases (schema.generate naming).outcome <;> rfl
  rw [all]
  constructor
  · rintro ⟨fault, refused⟩
    rw [h.classes_eq] at refused
    cases refused
  · intro _
    rfl
  · intro _ e member
    exact filter_records h.displays_nodup member
  · exact exists_done_iff

/-- What a generation has logged for debugging when it ends, however it ends. -/
theorem Schema.generate_records (typed : schema.WellTyped) (naming : NamingStrategy) (logger : String) :
    schema.IsLog naming logger (schema.generate naming).outcome
      (Threshold.filter (some .debug) ((schema.generate naming).events.map fun event => event.record logger)) := by
  obtain ⟨byName, tabled⟩ := entitiesByName_returns fun e member => (typed.entities e member).name
  rw [Threshold.filter_debug]
  cases classes : entityClasses schema.entities schema.ids naming with
  | error fault => exact isLog_of_refused tabled classes logger
  | ok made =>
      have prepared : schema.Prepared naming made byName := ⟨registered_of_entityClasses classes, tabled⟩
      exact prepared.isLog typed.ids logger

end

/-- A schema of three entities whose classes can be made. An enumeration of the second one has no options, and a relation of the
third one leads to no entity. -/
def Schema.backlog : Schema :=
  { entities :=
      [{ name := .text "User", id := .null, fields := [] },
       { name := .text "Queue"
         id := .null
         fields :=
           [{ name := .text "state", dataType := .optionSet, required := true, unique := false, searchable := true
              properties := [] }] },
       { name := .text "Ticket"
         id := .null
         fields :=
           [{ name := .text "severity", dataType := .optionSet, required := true, unique := false, searchable := true
              properties := [(.text "options", .list [.text "minor", .text "major"])] },
            { name := .text "sprint", dataType := .lookup, required := false, unique := false, searchable := true
              properties := [(.text "relatedEntityId", .text "s")] }] }]
    ids := [(.text "s", .text "Sprint")] }

/-- The backlog carries values of the types its document form asks for. -/
theorem Schema.backlog_wellTyped : backlog.WellTyped := by
  constructor
  · simp only [backlog, List.forall_mem_cons, List.not_mem_nil, false_imp_iff, implies_true, and_true]
    refine ⟨⟨.text _, by simp⟩, ⟨.text _, ?_⟩, .text _, ?_⟩
    · simp only [List.forall_mem_cons, List.not_mem_nil, false_imp_iff, implies_true, and_true]
      exact ⟨.text _, .inl rfl, .inl rfl, .inl rfl⟩
    · simp only [List.forall_mem_cons, List.not_mem_nil, false_imp_iff, implies_true, and_true]
      refine ⟨⟨.text _, .inl rfl, .inl rfl, .inr ⟨_, rfl, ?_⟩⟩, .text _, .inr (.text _), .inl rfl, .inl rfl⟩
      simp [Value.IsOption]
  · simp [Entries.AreTexts, backlog]

/-- The second entity fails before its data modules are made and the third one after that. All three are logged, and no return. -/
theorem Schema.backlog_records :
    backlog.WellTyped ∧ ∃ records,
      Threshold.filter (some .debug) ((backlog.generate ResourceNaming.derive).events.map fun event =>
        event.record generatorLogger) = records ∧
      backlog.IsLog ResourceNaming.derive generatorLogger (backlog.generate ResourceNaming.derive).outcome records ∧
      records.map (fun r => (r.level, r.stage.getD "-", r.entity.getD "-", r.message)) =
        ([(.info, "ENTITY_DTOS", "-", "Building 3 entity DTOs"),
         (.info, "VALIDATE", "User", "Creating User..."),
         (.debug, "DTOS", "User", "Rendered 4 DTO modules"),
         (.info, "VALIDATE", "Queue", "Creating Queue..."),
         (.info, "VALIDATE", "Ticket", "Creating Ticket..."),
         (.debug, "DTOS", "Ticket", "Rendered 5 DTO modules")] : List (LogLevel × String × String × WideText)) := by
  have log := generate_records backlog_wellTyped ResourceNaming.derive generatorLogger
  have made : (entityClasses backlog.entities backlog.ids ResourceNaming.derive).isOk = true := rfl
  have fails : (backlog.generate ResourceNaming.derive).outcome.toOption = none := rfl
  refine ⟨backlog_wellTyped, _, rfl, log, ?_⟩
  rw [log.tried (isOk_iff.1 made), records, fails]
  decide +kernel

end ResourceScaffold
