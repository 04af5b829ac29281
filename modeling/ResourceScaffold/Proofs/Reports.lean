import Mathlib.Data.List.Infix
import ResourceScaffold.Proofs.Acceptance
import ResourceScaffold.Schema.Document

/-!
# The defects that a failed generation reports

* The classes of all entities are refused iff some entity is bad after those before it, and then each bad entity leaves one
  defect, in order (`entityClasses_reports`).
* Only when no entity is bad are the modules of the entities tried, each to its end. So the defects of a failed generation
  fall into reports, one for each entity and in order (`Schema.generate_reports`). The report of an entity is not empty if
  its name or its class that is read is at fault, or if it has any fault and no entity was bad.
* An entity whose only fault lies in an enumeration or in the target of a relation goes unreported when another entity is
  bad (`Schema.unfinished_misses_task`).
-/

namespace ResourceScaffold

variable {schema : Schema} {naming : NamingStrategy} {ids : Entries} {seen entities : List Entity}
  {classes : Table Descriptor} {byName : Table Entity} {defects : List Defect} {e : Entity} {d : Defect}

/-! ## Bad entities -/

/-- Whether an entity is bad after those before it: its name is bad, an earlier entity with a good name has its identifier,
or the class that is read cannot be made. -/
def Entity.isBad (ids : Entries) (naming : NamingStrategy) (earlier : List Entity) (e : Entity) : Bool :=
  !(checkEntityName e.name).isOk || earlier.any (Entity.hasIdentifier naming (e.identifier naming)) ||
    !(entityDescriptor e ids).isOk

/-- The entities that are bad after those before them, in order and each with those. -/
def badEntities (ids : Entries) (naming : NamingStrategy) (entities : List Entity) : List (List Entity × Entity) :=
  (entities.inits.zip entities).filter fun p => p.2.isBad ids naming p.1

/-- An entity is not bad iff its name is good, its identifier is free and its class can be made. -/
theorem Entity.isBad_eq_false_iff :
    e.isBad ids naming seen = false ↔
      checkEntityName e.name = .ok () ∧ Registry.Free naming seen e ∧ ∃ c, entityDescriptor e ids = .ok c := by
  have named : (∃ a, checkEntityName e.name = .ok a) ↔ checkEntityName e.name = .ok () :=
    ⟨fun ⟨(), h⟩ => h, fun h => ⟨(), h⟩⟩
  have free : seen.any (Entity.hasIdentifier naming (e.identifier naming)) = false ↔ Registry.Free naming seen e := by
    simp only [List.any_eq_false, Bool.not_eq_true, Registry.hasIdentifier_eq_false_iff, Registry.Free]
  rw [isBad, Bool.or_eq_false_iff, Bool.or_eq_false_iff, Bool.not_eq_false', Bool.not_eq_false', isOk_iff, isOk_iff, free,
    named, and_assoc]

/-- A refused entity is bad. -/
theorem Registry.Refuses.isBad (h : Registry.Refuses ids naming seen e d) : e.isBad ids naming seen = true := by
  rw [← Bool.not_eq_false, Entity.isBad_eq_false_iff]
  rintro ⟨named, free, c, made⟩
  cases h with
  | badName bad => simp [named] at bad
  | repeated _ owned | shared _ owned =>
      obtain ⟨before, good, same⟩ := Registry.of_owner? owned
      exact free _ before good same
  | unmade _ _ failed => simp [made] at failed

/-- Each bad entity leaves one defect, in order. -/
theorem Registered.forall₂_bad (h : Registered ids naming seen entities classes defects) :
    List.Forall₂ (fun p d => Registry.Refuses ids naming p.1 p.2 d)
      (((entities.inits.map (seen ++ ·)).zip entities).filter fun p => p.2.isBad ids naming p.1) defects := by
  have shift (seen rest : List Entity) (e : Entity) :
      ((e :: rest).inits.map (seen ++ ·)).zip (e :: rest) = (seen, e) :: (rest.inits.map (seen ++ [e] ++ ·)).zip rest := by
    simp [Function.comp_def]
  -- each step moves one entity from those to come to those seen
  induction h with
  | nil => exact .nil
  | refused refuses others ih =>
      rw [shift, List.filter_cons, if_pos refuses.isBad]
      exact .cons refuses ih
  | filed named free made others ih =>
      have good := Entity.isBad_eq_false_iff.2 ⟨named, free, _, made⟩
      rw [shift, List.filter_cons, if_neg (by simp [good])]
      exact ih

/-- The defects are those of the bad entities, in order. -/
theorem Registered.forall₂_badEntities (h : Registered ids naming [] entities classes defects) :
    List.Forall₂ (fun p d => Registry.Refuses ids naming p.1 p.2 d) (badEntities ids naming entities) defects := by
  have each := h.forall₂_bad
  simp only [List.nil_append, List.map_id'] at each
  exact each

/-- There is no bad entity iff there is no defect. -/
theorem Registered.badEntities_eq_nil_iff (h : Registered ids naming [] entities classes defects) :
    badEntities ids naming entities = [] ↔ defects = [] := by
  have each := h.forall₂_badEntities
  constructor
  · intro none
    rw [none] at each
    exact List.forall₂_nil_left_iff.1 each
  · rintro rfl
    exact List.forall₂_nil_right_iff.1 each

/-- The classes of all entities are made if no entity is bad. -/
theorem entityClasses_eq_ok (typed : ∀ e ∈ entities, e.WellTyped) (good : badEntities ids naming entities = []) :
    ∃ classes, entityClasses entities ids naming = .ok classes ∧ Registered ids naming [] entities classes [] := by
  obtain ⟨classes, defects, registered, outcome⟩ := entityClasses_registered ids naming typed
  rw [registered.badEntities_eq_nil_iff] at good
  subst good
  exact ⟨classes, outcome, registered⟩

/-- The classes of all entities are refused if some entity is bad. -/
theorem entityClasses_eq_batch (typed : ∀ e ∈ entities, e.WellTyped) (bad : badEntities ids naming entities ≠ []) :
    ∃ classes defects, entityClasses entities ids naming = .error (.batch defects) ∧
      Registered ids naming [] entities classes defects := by
  obtain ⟨classes, defects, registered, outcome⟩ := entityClasses_registered ids naming typed
  rw [ne_eq, registered.badEntities_eq_nil_iff, ← List.isEmpty_iff] at bad
  exact ⟨classes, defects, by rw [outcome, if_neg bad], registered⟩

/-- The names of registered entities are different keys. -/
theorem Registered.keys_nodup (typed : ∀ e ∈ entities, e.WellTyped)
    (h : Registered ids naming [] entities classes []) : (classes.map fun entry => entry.1.key?).Nodup := by
  obtain ⟨byName, tabled⟩ := entitiesByName_returns fun e member => (typed e member).name
  have prepared : Schema.Prepared ⟨entities, ids⟩ naming classes byName := ⟨h, tabled⟩
  have keys : (entities.map fun e => e.name.key?) = classes.map fun entry => entry.1.key? :=
    map_eq_map_of_forall₂ h.classes_of_no_defects fun e entry same => by rw [same.1]
  exact keys ▸ prepared.keys_nodup

/-- The classes of all entities are refused iff some entity is bad, and then with one defect for each bad entity, in order.
Otherwise they are filed in order under the names of their entities. -/
theorem entityClasses_reports (typed : ∀ e ∈ entities, e.WellTyped) :
    ((∃ defects, entityClasses entities ids naming = .error (.batch defects)) ↔ badEntities ids naming entities ≠ []) ∧
    (∀ defects, entityClasses entities ids naming = .error (.batch defects) →
      List.Forall₂ (fun p d => Registry.Refuses ids naming p.1 p.2 d) (badEntities ids naming entities) defects) ∧
    (badEntities ids naming entities = [] → ∃ classes, entityClasses entities ids naming = .ok classes ∧
      List.Forall₂ (fun e entry => entry.1 = e.name ∧ entityDescriptor e ids = .ok entry.2) entities classes ∧
      (classes.map fun entry => entry.1.key?).Nodup) := by
  by_cases good : badEntities ids naming entities = []
  · obtain ⟨classes, made, registered⟩ := entityClasses_eq_ok typed good
    refine ⟨iff_of_false (by simp [made]) (not_not_intro good), by simp [made], fun _ => ⟨classes, made, ?_⟩⟩
    exact ⟨registered.classes_of_no_defects, registered.keys_nodup typed⟩
  · obtain ⟨classes, defects, failed, registered⟩ := entityClasses_eq_batch typed good
    refine ⟨iff_of_true ⟨defects, failed⟩ good, fun defects' failed' => ?_, fun none => absurd none good⟩
    rw [failed] at failed'
    cases failed'
    exact registered.forall₂_badEntities

/-- Four entities of which the first three are bad: a field of the first one has a bad name, the second one has the
identifier of the first, and the name of the third one is bad. -/
def draftEntities : List Entity :=
  [{ name := .text "Post"
     id := .null
     fields :=
       [{ name := .text "class", dataType := .email, required := true, unique := false, searchable := true
          properties := [] }] },
   { name := .text "post", id := .null, fields := [] },
   { name := .text "1Bad", id := .null, fields := [] },
   { name := .text "Author", id := .null, fields := [] }]

/-- The drafts are well-typed. -/
theorem draftEntities_wellTyped : ∀ e ∈ draftEntities, e.WellTyped := by
  simp only [draftEntities, List.forall_mem_cons, List.not_mem_nil, false_imp_iff, implies_true, and_true]
  refine ⟨⟨.text _, ?_⟩, ⟨.text _, by simp⟩, ⟨.text _, by simp⟩, .text _, by simp⟩
  simp only [List.forall_mem_cons, List.not_mem_nil, false_imp_iff, implies_true, and_true]
  exact ⟨.text _, .inl rfl, .inl rfl, .inl rfl⟩

/-- The three bad entities are refused. -/
theorem draftEntities_reports :
    (∀ e ∈ draftEntities, e.WellTyped) ∧
      (badEntities [] ResourceNaming.derive draftEntities).map (fun p => p.2.name) =
        [.text "Post", .text "post", .text "1Bad"] ∧
      ∃ defects, entityClasses draftEntities [] ResourceNaming.derive = .error (.batch defects) ∧
        List.Forall₂ (fun p d => Registry.Refuses [] ResourceNaming.derive p.1 p.2 d)
          (badEntities [] ResourceNaming.derive draftEntities) defects := by
  have bad : (badEntities [] ResourceNaming.derive draftEntities).map (fun p => p.2.name) =
      [.text "Post", .text "post", .text "1Bad"] := rfl
  have some : badEntities [] ResourceNaming.derive draftEntities ≠ [] := by
    intro none
    simp [none] at bad
  obtain ⟨refused, each, -⟩ := entityClasses_reports draftEntities_wellTyped
  obtain ⟨defects, failed⟩ := refused.2 some
  exact ⟨draftEntities_wellTyped, bad, defects, failed, each defects failed⟩

/-! ## Defective entities -/

/-- The result is a defect. -/
def Fails {α : Type} (x : Except Fault α) : Prop :=
  ∃ d, x = .error (.defect d)

/-- Something about an entity is at fault in its schema: its name, the class that is read, an enumeration or the target of
a relation. -/
inductive Entity.IsDefective (schema : Schema) (e : Entity) : Prop where
  | name (fails : Fails (checkEntityName e.name))
  | read (fails : Fails (entityDescriptor e schema.ids))
  | enumeration {f : Field} (listed : f ∈ e.enumFields) (fails : Fails (EnumDescriptor.ofField e f))
  | target {f : Field} {byName : Table Entity} (listed : f ∈ e.relationFields)
      (filed : entitiesByName schema.entities = .ok byName) (fails : Fails (relatedEntity e f schema.ids byName))

section decided

variable {α : Type} {about : Value} {x : Except Fault α} {p : Prop}

/-- A decided computation fails iff its condition does. -/
theorem Decides.fails_iff (h : Decides about x p) : Fails x ↔ ¬ p := by
  rcases h.cases with ⟨holds, a, returned⟩ | ⟨fails, d, -, failed⟩
  · simp [Fails, returned, holds]
  · simp [Fails, failed, fails]

/-- The defects of a decided result are about its entity. -/
theorem Decides.about_of_mem (h : Decides about x p) (found : d ∈ defectsOf x) : d.about = about := by
  rcases h.cases with ⟨-, a, rfl⟩ | ⟨-, d', subject, rfl⟩
  · cases found
  · rwa [List.mem_singleton.1 found]

/-- What fails has a defect. -/
theorem Fails.defectsOf_ne_nil (h : Fails x) : defectsOf x ≠ [] := by
  obtain ⟨d, rfl⟩ := h
  exact List.cons_ne_nil d []

end decided

/-! ## Reports of the classes that are read -/

/-- An entity is refused with a defect of its own. -/
theorem Registry.Refuses.about (h : Registry.Refuses ids naming seen e d) (typed : e.WellTyped) : d.about = e.name := by
  cases h with
  | badName bad => exact (decides_checkEntityName typed.name).about_of_mem (by simp [bad, defectsOf])
  | repeated | shared => rfl
  | unmade _ _ failed => exact (decides_entityDescriptor ids typed).about_of_mem (by simp [failed, defectsOf])

/-- The defects of a batch of classes, entity by entity. -/
theorem Registered.reports (typed : ∀ e ∈ entities, e.WellTyped)
    (h : Registered ids naming seen entities classes defects) :
    ∃ reports : List (List Defect), reports.flatten = defects ∧
      List.Forall₂ (fun e report => (∀ d ∈ report, d.about = e.name) ∧
        (Fails (checkEntityName e.name) ∨ Fails (entityDescriptor e ids) → report ≠ [])) entities reports := by
  induction h with
  | nil => exact ⟨[], rfl, .nil⟩
  | @refused seen rest e d _ defects refuses _ ih =>
      obtain ⟨reports, rfl, each⟩ := ih fun e member => typed e (List.mem_cons_of_mem _ member)
      refine ⟨[d] :: reports, rfl, .cons ⟨fun d' found => ?_, fun _ => List.cons_ne_nil d []⟩ each⟩
      rw [List.mem_singleton.1 found]
      exact refuses.about (typed e List.mem_cons_self)
  | filed named _ made _ ih =>
      obtain ⟨reports, rfl, each⟩ := ih fun e member => typed e (List.mem_cons_of_mem _ member)
      exact ⟨[] :: reports, rfl, .cons ⟨by simp, by simp [Fails, named, made]⟩ each⟩

/-! ## Reports of the modules of the entities -/

/-- A batch that is refused has the defects of all its results, in order. -/
theorem gather_eq_batch {α : Type} {results : List (Except Fault α)} (failed : gather results = .error (.batch defects)) :
    defects = results.flatMap defectsOf := by
  unfold gather at failed
  split at failed
  · cases failed
  · cases failed
  · cases failed
    rfl

/-- Once the classes are made, the modules of a defective entity fail. -/
theorem Schema.Prepared.fails_of_isDefective (h : schema.Prepared naming classes byName) (typed : schema.WellTyped)
    (member : e ∈ schema.entities) (defective : e.IsDefective schema) :
    Fails (resourceModules schema.ids classes byName naming e).outcome := by
  rw [(decides_resourceModules h typed member).fails_iff]
  rintro ⟨relates, options⟩
  have fields := (typed.entities e member).fields
  cases defective with
  | name fails => simp [Fails, h.named member] at fails
  | read fails =>
      obtain ⟨c, made⟩ := h.described member
      simp [Fails, made] at fails
  | enumeration listed fails =>
      obtain ⟨inEntity, isEnumeration⟩ := List.mem_filter.1 listed
      refine (decides_enumeration (fields _ inEntity)).fails_iff.1 fails ⟨options _ listed, ?_⟩
      exact (h.readable typed member _ inEntity).enumName isEnumeration
  | target listed filed fails =>
      rw [h.entities] at filed
      cases filed
      exact (decides_relatedEntity h typed (fields _ (List.mem_filter.1 listed).1)).fails_iff.1 fails (relates _ listed)

/-- The defects of a batch of modules, entity by entity. -/
theorem Schema.Prepared.reports (h : schema.Prepared naming classes byName) (typed : schema.WellTyped)
    (failed : gather (schema.entities.map fun e => (resourceModules schema.ids classes byName naming e).outcome) =
      .error (.batch defects)) :
    ∃ reports : List (List Defect), reports.flatten = defects ∧
      List.Forall₂ (fun e report => (∀ d ∈ report, d.about = e.name) ∧ (e.IsDefective schema → report ≠ []))
        schema.entities reports := by
  refine ⟨schema.entities.map fun e => defectsOf (resourceModules schema.ids classes byName naming e).outcome, ?_, ?_⟩
  · rw [gather_eq_batch failed, List.flatMap, List.map_map]
    rfl
  · rw [List.forall₂_map_right_iff, List.forall₂_same]
    exact fun e member => ⟨fun d => (decides_resourceModules h typed member).about_of_mem,
      fun defective => (h.fails_of_isDefective typed member defective).defectsOf_ne_nil⟩

/-! ## Reports of a generation -/

/-- The report of an entity: its defects are about the entity, and there is one if the name or the class that is read is at
fault, or if the entity is defective and no entity is bad. -/
structure Entity.IsReport (schema : Schema) (naming : NamingStrategy) (e : Entity) (report : List Defect) : Prop where
  about : ∀ d ∈ report, d.about = e.name
  classes : Fails (checkEntityName e.name) ∨ Fails (entityDescriptor e schema.ids) → report ≠ []
  modules : badEntities schema.ids naming schema.entities = [] → e.IsDefective schema → report ≠ []

/-- The defects of a failed generation fall into reports, one for each entity and in order. -/
theorem Schema.generate_reports (typed : schema.WellTyped)
    (failed : (schema.generate naming).outcome = .error (.batch defects)) :
    ∃ reports : List (List Defect), reports.flatten = defects ∧
      List.Forall₂ (Entity.IsReport schema naming) schema.entities reports := by
  obtain ⟨byName, tabled⟩ := entitiesByName_returns fun e member => (typed.entities e member).name
  rw [outcome_generate, tabled, ok_bind] at failed
  by_cases good : badEntities schema.ids naming schema.entities = []
  · -- the modules of all entities are tried
    obtain ⟨classes, made, registered⟩ := entityClasses_eq_ok typed.entities good
    have prepared : schema.Prepared naming classes byName := ⟨registered, tabled⟩
    rw [made, ok_bind] at failed
    cases result : gather (schema.entities.map fun e => (resourceModules schema.ids classes byName naming e).outcome) with
    | ok modules =>
        obtain ⟨shared, rendered⟩ := classModules_returns prepared typed.ids
        rw [result, ok_bind, rendered] at failed
        cases failed
    | error fault =>
        rw [result, error_bind] at failed
        cases failed
        obtain ⟨reports, flat, each⟩ := prepared.reports typed result
        refine ⟨reports, flat, each.imp fun e report h => ⟨h.1, ?_, fun _ => h.2⟩⟩
        rintro (fails | fails)
        · exact h.2 (.name fails)
        · exact h.2 (.read fails)
  · -- the batch ends with its bad entities
    obtain ⟨classes, defects', refused, registered⟩ := entityClasses_eq_batch typed.entities good
    rw [refused, error_bind] at failed
    cases failed
    obtain ⟨reports, flat, each⟩ := registered.reports typed.entities
    exact ⟨reports, flat, each.imp fun e report h => ⟨h.1, h.2, fun none => absurd none good⟩⟩

/-- A schema with a bad entity name and, at another entity, an enumeration without options. -/
def Schema.unfinished : Schema :=
  { entities :=
      [{ name := .text "1Bad", id := .null, fields := [] },
       { name := .text "Task"
         id := .null
         fields :=
           [{ name := .text "state", dataType := .optionSet, required := false, unique := false, searchable := true
              properties := [] }] }]
    ids := [] }

/-- The document that describes the schema. -/
def Schema.unfinishedDocument : Value :=
  .mapping [(.text "entities", .list
    [.mapping [(.text "name", .text "1Bad")],
     .mapping [(.text "name", .text "Task"), (.text "fields", .list
       [.mapping [(.text "name", .text "state"), (.text "dataType", .text "OptionSet")]])]])]

/-- The unfinished schema is well-typed. -/
theorem Schema.unfinished_wellTyped : unfinished.WellTyped := by
  refine ⟨?_, by simp [Entries.AreTexts, unfinished]⟩
  simp only [unfinished, List.forall_mem_cons, List.not_mem_nil, false_imp_iff, implies_true, and_true]
  refine ⟨⟨.text _, by simp⟩, .text _, ?_⟩
  simp only [List.forall_mem_cons, List.not_mem_nil, false_imp_iff, implies_true, and_true]
  exact ⟨.text _, .inl rfl, .inl rfl, .inl rfl⟩

/-- The second entity is defective, and no defect is about it. -/
theorem Schema.unfinished_misses_task :
    Schema.ofDocument unfinishedDocument = .ok unfinished ∧ unfinished.WellTyped ∧
      ∃ defects, (unfinished.generate ResourceNaming.derive).outcome = .error (.batch defects) ∧
        ∃ e ∈ unfinished.entities, e.IsDefective unfinished ∧ ∀ d ∈ defects, d.about ≠ e.name := by
  refine ⟨rfl, unfinished_wellTyped, [.entityName (.text "1Bad") .malformed], rfl, ?_⟩
  refine ⟨_, List.mem_cons_of_mem _ List.mem_cons_self, .enumeration List.mem_cons_self ⟨_, rfl⟩, ?_⟩
  simp [Defect.about]

/-- Four entities none of which is bad: an enumeration without options, a relation that leads to no entity, an entity without
faults, and an enumeration with two options of one name. -/
def Schema.unfinishedTasks : Schema :=
  { entities :=
      [{ name := .text "Task"
         id := .null
         fields :=
           [{ name := .text "state", dataType := .optionSet, required := false, unique := false, searchable := true
              properties := [] }] },
       { name := .text "Note"
         id := .null
         fields :=
           [{ name := .text "topic", dataType := .lookup, required := true, unique := false, searchable := false
              properties := [(.text "relatedEntityId", .text "t")] }] },
       { name := .text "Author", id := .null, fields := [] },
       { name := .text "Label"
         id := .null
         fields :=
           [{ name := .text "tone", dataType := .optionSet, required := true, unique := false, searchable := false
              properties := [(.text "options", .list [.text "dark red", .text "dark-red"])] }] }]
    ids := [(.text "t", .text "Topic")] }

/-- So is the schema with unfinished tasks. -/
theorem Schema.unfinishedTasks_wellTyped : unfinishedTasks.WellTyped := by
  refine ⟨?_, by simp [Entries.AreTexts, unfinishedTasks]⟩
  simp only [unfinishedTasks, List.forall_mem_cons, List.not_mem_nil, false_imp_iff, implies_true, and_true]
  refine ⟨⟨.text _, ?_⟩, ⟨.text _, ?_⟩, ⟨.text _, by simp⟩, .text _, ?_⟩
  all_goals simp only [List.forall_mem_cons, List.not_mem_nil, false_imp_iff, implies_true, and_true]
  · exact ⟨.text _, .inl rfl, .inl rfl, .inl rfl⟩
  · exact ⟨.text _, .inr (.text _), .inl rfl, .inl rfl⟩
  · exact ⟨.text _, .inl rfl, .inl rfl, .inr ⟨_, rfl, by simp [Value.IsOption]⟩⟩

/-- Each of the three defective entities has its report, in order. -/
theorem Schema.unfinishedTasks_reports :
    unfinishedTasks.WellTyped ∧
      badEntities unfinishedTasks.ids ResourceNaming.derive unfinishedTasks.entities = [] ∧
      ∃ defects, (unfinishedTasks.generate ResourceNaming.derive).outcome = .error (.batch defects) ∧
        defects.map Defect.about = [.text "Task", .text "Note", .text "Label"] ∧
        ∃ reports : List (List Defect), reports.flatten = defects ∧
          List.Forall₂ (Entity.IsReport unfinishedTasks ResourceNaming.derive) unfinishedTasks.entities reports :=
  ⟨unfinishedTasks_wellTyped, rfl,
    [.field (.text "Task") (.text "state") .noOptions, .relationTarget (.text "Note") (.text "topic") (.text "Topic"),
      .field (.text "Label") (.text "tone") (.repeatedOption "DARK_RED")],
    rfl, rfl, generate_reports unfinishedTasks_wellTyped rfl⟩

end ResourceScaffold
