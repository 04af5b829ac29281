import ResourceScaffold.Proofs.Misuses

/-!
# Messages about defects

A defect that comes from the work on an entity is one of its name or of one of its fields, and its message names these as they are
(`Defect.IsOf`). Names of entities that have passed their check have no surrogates, and neither have names of fields that have. So a
message is ill-formed only if the first field that keeps the class of its entity from being made has an ill-formed name:
`Schema.Untellable` says when that happens, and `Schema.generate_untold_iff` says that a batch has an ill-formed message exactly
then.

`Blames x p` says that every defect with which a computation fails has the property `p`. As for `Decides` and `Breaks`, the lemmas
follow the computation from the inside out.
-/

namespace ResourceScaffold

/-! ## Well-formed messages -/

/-- What is inserted for a value is ill-formed iff the value is an ill-formed text. -/
theorem Value.isWellFormed_wide_eq_false_iff {v : Value} : v.wide.isWellFormed = false ↔ ∃ t, v = .illFormed t := by
  constructor
  · intro illFormed
    cases v with
    | illFormed t => exact ⟨t, rfl⟩
    | _ => simp [wide] at illFormed
  · rintro ⟨t, rfl⟩
    exact t.illFormed

/-- A message about the name of an entity quotes the name, so it is well-formed. -/
theorem Defect.isWellFormed_entityName (name : Value) (reason : NameFault) :
    (Defect.entityName name reason).message.isWellFormed = true := by
  simp [message]

/-- A defect of a field of an entity, under the names that the two have. -/
inductive Defect.IsOf (e : Entity) (f : Field) : Defect → Prop where
  | relationTarget (target : Value) : IsOf e f (.relationTarget e.name f.name target)
  | field (reason : FieldFault) : IsOf e f (.field e.name f.name reason)

/-- The message about a field of an entity whose name is well-formed is ill-formed iff the name of the field is. -/
theorem Defect.IsOf.isWellFormed_eq_false_iff {e : Entity} {f : Field} {d : Defect} (h : d.IsOf e f) {s : String}
    (text : e.name = .text s) : d.message.isWellFormed = false ↔ ∃ t, f.name = .illFormed t := by
  rw [← Value.isWellFormed_wide_eq_false_iff]
  cases h <;> simp [message, text]

/-- A defect of some field of an entity. -/
def Defect.IsOfField (e : Entity) (d : Defect) : Prop :=
  ∃ f ∈ e.fields, d.IsOf e f

/-! ## The defects of a computation -/

/-- Every defect with which the computation fails has the property. -/
def Blames {α : Type} (x : Except Fault α) (p : Defect → Prop) : Prop :=
  ∀ d ∈ defectsOf x, p d

namespace Blames

variable {α β : Type} {x : Except Fault α} {p q : Defect → Prop}

/-- A computation that returns has no defects. -/
theorem ok (a : α) : Blames (.ok a) p := by
  simp [Blames, defectsOf]

/-- A misuse is no defect. -/
theorem misuse (m : Misuse) : Blames (.error (.misuse m) : Except Fault α) p := by
  simp [Blames, defectsOf]

/-- A defect is the only one of the computation that it ends. -/
theorem defect {d : Defect} (h : p d) : Blames (.error (.defect d) : Except Fault α) p := by
  simpa [Blames, defectsOf] using h

/-- What is known to return has no defects. -/
theorem of_returns (h : ∃ a, x = .ok a) : Blames x p := by
  obtain ⟨a, rfl⟩ := h
  exact .ok a

/-- A property of all defects may be weakened. -/
theorem mono (h : Blames x p) (weaker : ∀ d, p d → q d) : Blames x q :=
  fun d member => weaker d (h d member)

/-- What a failure blames does not depend on what would have been returned. -/
theorem of_error {fault : Fault} (h : Blames (.error fault : Except Fault α) p) :
    Blames (.error fault : Except Fault β) p := by
  cases fault <;> exact h

/-- Two steps fail with the defects of one of them. -/
theorem bind {f : α → Except Fault β} (h : Blames x p) (next : ∀ a, x = .ok a → Blames (f a) p) : Blames (x >>= f) p := by
  cases x with
  | ok a => exact next a rfl
  | error fault => exact h.of_error

/-- Steps along a list fail with the defects of one of them. -/
theorem mapM {f : α → Except Fault β} {xs : List α} (h : ∀ a ∈ xs, Blames (f a) p) : Blames (xs.mapM f) p := by
  cases run : xs.mapM f with
  | ok bs => exact .ok bs
  | error fault =>
      obtain ⟨front, a, rest, rfl, -, failed⟩ := exists_of_mapM_eq_error run
      have blamed := h a (by simp)
      rw [failed] at blamed
      exact blamed.of_error

/-- So do the steps of a fold. -/
theorem foldlM {f : β → α → Except Fault β} {xs : List α} (h : ∀ b, ∀ a ∈ xs, Blames (f b a) p) (b : β) :
    Blames (xs.foldlM f b) p := by
  induction xs generalizing b with
  | nil => exact .ok b
  | cons a rest ih =>
      rw [List.foldlM_cons]
      exact (h b a List.mem_cons_self).bind fun b' _ => ih (fun b a member => h b a (List.mem_cons_of_mem _ member)) b'

end Blames

section

variable {ids : Entries} {e : Entity} {f : Field} {schema : Schema} {naming : NamingStrategy} {classes : Table Descriptor}
  {byName : Table Entity} {p : Defect → Prop}

/-! ## Access to values -/

/-- A value that is no key is misused. -/
theorem blames_asKey (v : Value) : Blames v.asKey p := by
  unfold Value.asKey
  split
  · exact .ok _
  · exact .misuse _

/-- So is one that is no text. -/
theorem blames_asText (v : Value) : Blames v.asText p := by
  unfold Value.asText
  split
  · exact .ok _
  · exact .misuse _

/-- So is one that is no text, well-formed or not. -/
theorem blames_asShownText (v : Value) : Blames v.asShownText p := by
  unfold Value.asShownText
  split
  · exact .ok _
  · exact .ok _
  · exact .misuse _

/-- So is one that does not consist of anything. -/
theorem blames_elements (v : Value) : Blames v.elements p := by
  fun_induction Value.elements v with
  | case8 _ _ ih => exact ih
  | case9 => exact .misuse _
  | _ => exact .ok _

/-- A name under which nothing is filed is misused. -/
theorem blames_lookup {α : Type} (table : Table α) (name : Value) : Blames (table.lookup name) p := by
  refine (blames_asKey name).bind fun key _ => ?_
  split
  · exact .ok _
  · exact .misuse _

/-! ## Names and fields -/

/-- A name is refused as that of an entity. -/
theorem blames_checkEntityName (name : Value) :
    Blames (checkEntityName name) fun d => ∃ reason, d = .entityName name reason := by
  unfold checkEntityName
  split
  · exact .defect ⟨_, rfl⟩
  · refine (blames_asShownText name).bind fun s _ => ?_
    split_ifs
    · exact .defect ⟨_, rfl⟩
    · exact .defect ⟨_, rfl⟩
    · exact .defect ⟨_, rfl⟩
    · exact .ok _

/-- A name is refused as that of the field. -/
theorem blames_checkFieldName : Blames (checkFieldName e f) (Defect.IsOf e f) := by
  unfold checkFieldName
  split
  · split
    · exact .defect (.field _)
    · split
      · exact .defect (.field _)
      · split
        · exact .defect (.field _)
        · exact .ok _
  · exact .defect (.field _)
  · exact .misuse _

/-- A target is refused as that of the field, if no id is given or the id leads nowhere. -/
theorem blames_relatedName : Blames (relatedName e f ids) (Defect.IsOf e f) := by
  simp only [relatedName]
  split
  · exact .defect (.field _)
  · refine (blames_asKey _).bind fun key _ => ?_
    split
    · exact .ok _
    · exact .defect (.relationTarget _)

/-- So is one that is no entity of the schema. -/
theorem blames_relatedEntity : Blames (relatedEntity e f ids byName) (Defect.IsOf e f) := by
  refine blames_relatedName.bind fun name _ => (blames_asKey name).bind fun key _ => ?_
  split
  · exact .ok _
  · exact .defect (.relationTarget _)

/-- A name of an enumeration is refused as that of the field. -/
theorem blames_enumName : Blames (enumName e f) (Defect.IsOf e f) := by
  simp only [enumName, defaultEnumName]
  split
  · split
    · exact .ok _
    · exact .defect (.field _)
  · split
    · exact .ok _
    · exact .ok _
    · exact .misuse _
    · exact .misuse _

/-- So are options that are missing. -/
theorem blames_enumOptions : Blames (enumOptions e f) (Defect.IsOf e f) := by
  simp only [enumOptions]
  split
  · exact .ok _
  · exact .defect (.field _)

/-- So is an option without a value or with the name of an earlier one. -/
theorem blames_addMember (members : List EnumMember) (v : Value) : Blames (addMember e f members v) (Defect.IsOf e f) := by
  simp only [addMember]
  split
  · exact .defect (.field _)
  · split
    · exact .defect (.field _)
    · exact .ok _

/-- An enumeration is refused as that of the field. -/
theorem blames_enumeration : Blames (EnumDescriptor.ofField e f) (Defect.IsOf e f) := by
  refine blames_enumOptions.bind fun options _ => (blames_elements options).bind fun items _ => ?_
  refine (Blames.foldlM (fun members v _ => blames_addMember members v) []).bind fun members _ => ?_
  exact blames_enumName.bind fun name _ => .ok _

/-- What is read of a field is refused as that of the field. -/
theorem blames_readProperty : Blames (readProperty e ids f) (Defect.IsOf e f) := by
  refine blames_checkFieldName.bind fun _ _ => ?_
  split
  · exact blames_relatedName.bind fun target _ => .ok _
  · exact blames_enumName.bind fun name _ => .ok _
  · exact .ok _

/-- The sample of a field is refused as that of the field. -/
theorem blames_sample : Blames (Sample.value e f ids) (Defect.IsOf e f) := by
  have first (options : Value) : Blames (Sample.firstOption options) (Defect.IsOf e f) := by
    unfold Sample.firstOption
    repeat' split
    all_goals first | exact .ok _ | exact .misuse _
  unfold Sample.value
  split
  · exact blames_relatedName.bind fun _ _ => .ok _
  · exact blames_enumOptions.bind fun options _ => (first options).bind fun _ _ => .ok _
  · exact .ok _

/-! ## Modules -/

/-- The module of a data class is never refused. -/
theorem blames_descriptorModule (d : Descriptor) (entityName : String) : Blames (d.toModule entityName) p := by
  have imports : Blames d.classImports p :=
    (Blames.mapM fun r _ => ((blames_asShownText r.entity).bind fun _ _ => .ok _).bind fun _ _ => .ok _).bind fun _ _ => .ok _
  have filters : Blames d.filters p := by
    refine Blames.mapM fun name _ => ?_
    split
    · exact .ok _
    · exact .misuse _
  exact imports.bind fun _ _ => filters.bind fun _ _ => .ok _

/-- The modules of data classes are refused for an enumeration. -/
theorem blames_dataModules (inputs : InputDescriptors) (entityName : String) :
    Blames (dataModules e inputs entityName) (Defect.IsOfField e) := by
  refine (Blames.mapM fun f member => ?_).bind fun enumerations _ => (Blames.mapM fun d _ => ?_).bind fun modules _ => .ok _
  · have listed : f ∈ e.fields := (List.mem_filter.1 member).1
    exact blames_enumeration.mono fun d isOf => ⟨f, listed, isOf⟩
  · exact blames_descriptorModule d entityName

/-- A controller is refused for a relation. -/
theorem blames_controller (resource entityName service : String) (inputs : InputDescriptors) :
    Blames (Controller.ofEntity resource entityName service e inputs classes ids byName) (Defect.IsOfField e) := by
  have relation : ∀ f ∈ e.relationFields, Blames (Controller.relationOf e ids classes byName f) (Defect.IsOfField e) := by
    intro f member
    have listed : f ∈ e.fields := (List.mem_filter.1 member).1
    refine (blames_relatedEntity.mono fun d isOf => ⟨f, listed, isOf⟩).bind fun related _ => ?_
    exact (blames_lookup classes related.name).bind fun target _ => (blames_asText related.name).bind fun _ _ => .ok _
  have selection (d : Descriptor) : Blames (d.selection classes) (Defect.IsOfField e) := by
    refine (Blames.mapM fun p _ => ?_).bind fun _ _ => .ok _
    unfold selectProperty
    split
    · split
      · exact .ok _
      · exact (blames_lookup classes _).bind fun _ _ => .ok _
    · exact .ok _
  refine (blames_lookup classes e.name).bind fun read _ => (blames_asText e.name).bind fun _ _ => ?_
  exact (Blames.mapM relation).bind fun _ _ => (selection read).bind fun _ _ => .ok _

/-- The payload of a test is refused for a field. -/
theorem blames_payload : Blames (Sample.payload e ids) (Defect.IsOfField e) := by
  refine Blames.foldlM (fun entries f member => ?_) []
  have listed : f ∈ e.fields := (List.mem_filter.1 member).1
  refine (blames_sample.mono fun d isOf => ⟨f, listed, isOf⟩).bind fun v _ => ?_
  exact (blames_asKey f.name).bind fun _ _ => .ok _

/-- So are tests, because they are made whenever their payload is. -/
theorem blames_testModule {d : Descriptor} (read : entityDescriptor e ids = .ok d)
    (resource entityName service wiring : String) :
    Blames (testModule resource entityName service wiring e ids) (Defect.IsOfField e) := by
  cases paid : Sample.payload e ids with
  | ok payload => exact .of_returns (testModule_returns read ⟨payload, paid⟩ _ _ _ _)
  | error fault =>
      have blamed : Blames (Sample.payload e ids) (Defect.IsOfField e) := blames_payload
      rw [paid] at blamed
      rw [testModule, TestPlan.ofEntity, paid, error_bind, error_bind]
      exact blamed.of_error

/-- The modules of an entity are refused for one of its fields. -/
theorem blames_resourceModules (h : schema.Prepared naming classes byName) (member : e ∈ schema.entities) :
    Blames (resourceModules schema.ids classes byName naming e).outcome (Defect.IsOfField e) := by
  obtain ⟨d, read⟩ := h.described member
  rw [outcome_resourceModules, h.named member, ok_bind]
  refine (blames_asText e.name).bind fun name _ => ?_
  refine (Blames.of_returns (inputDescriptors_returns read)).bind fun inputs _ => ?_
  refine (blames_dataModules inputs _).bind fun data _ => ?_
  refine (blames_controller _ _ _ inputs).bind fun c controlled => ?_
  refine (Blames.of_returns (controllerModule_returns h read controlled)).bind fun _ _ => ?_
  exact (blames_testModule read _ _ _ _).bind fun _ _ => .ok _

/-! ## Messages that cannot be sent -/

/-- The first field of the entity that cannot be read has an ill-formed name. -/
def Entity.IsUntellable (ids : Entries) (e : Entity) : Prop :=
  ∃ front f rest, e.fields = front ++ f :: rest ∧ (∀ g ∈ front, ∃ p, readProperty e ids g = .ok p) ∧
    ∃ t, f.name = .illFormed t

/-- An ill-formed name is refused. -/
theorem readProperty_of_illFormed {t : IllFormedText} (illFormed : f.name = .illFormed t) :
    readProperty e ids f = .error (.ofField e.name f.name .notIdentifier) := by
  rw [readProperty, checkFieldName, illFormed]
  rfl

/-- The class of an entity with a good name is refused with an ill-formed message iff the first field that cannot be read has an
ill-formed name. -/
theorem isUntellable_iff {d : Defect} (named : checkEntityName e.name = .ok ())
    (failed : entityDescriptor e ids = .error (.defect d)) : e.IsUntellable ids ↔ d.message.isWellFormed = false := by
  obtain ⟨s, text⟩ := exists_text_of_checkEntityName named
  have read : e.fields.mapM (readProperty e ids) = .error (.defect d) := by
    rcases bind_eq_error.1 failed with read | ⟨properties, -, returned⟩
    · exact read
    · cases returned
  constructor
  · rintro ⟨front, f, rest, fields, returns, t, illFormed⟩
    rw [fields, mapM_eq_error returns (readProperty_of_illFormed illFormed)] at read
    cases read
    exact ((Defect.IsOf.field (e := e) (f := f) .notIdentifier).isWellFormed_eq_false_iff text).2 ⟨t, illFormed⟩
  · intro illFormed
    obtain ⟨front, f, rest, fields, returns, fails⟩ := exists_of_mapM_eq_error read
    have isOf : d.IsOf e f := by
      have blamed : Blames (readProperty e ids f) (Defect.IsOf e f) := blames_readProperty
      rw [fails] at blamed
      exact blamed d (by simp [defectsOf])
    exact ⟨front, f, rest, fields, returns, (isOf.isWellFormed_eq_false_iff text).1 illFormed⟩

/-- An entity is refused with an ill-formed message iff its name is good, its identifier is free and its class is refused so. -/
theorem Registry.Refuses.isWellFormed_eq_false_iff {seen : List Entity} {d : Defect} (h : Refuses ids naming seen e d) :
    d.message.isWellFormed = false ↔
      checkEntityName e.name = .ok () ∧ Registry.Free naming seen e ∧ e.IsUntellable ids := by
  cases h with
  | badName bad =>
      have blamed := blames_checkEntityName e.name
      rw [bad] at blamed
      obtain ⟨reason, rfl⟩ := blamed d (by simp [defectsOf])
      exact iff_of_false (by simp [Defect.isWellFormed_entityName]) fun ⟨named, _⟩ => by simp [named] at bad
  | repeated _ owned | shared _ owned =>
      refine iff_of_false (by simp [Defect.isWellFormed_entityName]) fun ⟨_, free, _⟩ => ?_
      rw [free_iff.1 free] at owned
      cases owned
  | unmade named free failed => rw [← isUntellable_iff named failed, and_iff_right named, and_iff_right free]

/-- The classes of all entities are refused with an ill-formed message iff one of the entities is. -/
theorem Registered.exists_illFormed_iff {seen entities : List Entity} {defects : List Defect}
    (h : Registered ids naming seen entities classes defects) :
    (∃ d ∈ defects, d.message.isWellFormed = false) ↔
      ∃ before e after, entities = before ++ e :: after ∧ checkEntityName e.name = .ok () ∧
        Registry.Free naming (seen ++ before) e ∧ e.IsUntellable ids := by
  induction h with
  | nil => simp
  | @refused seen rest e d classes defects refuses others ih =>
      rw [exists_append_cons_iff, List.append_nil, ← refuses.isWellFormed_eq_false_iff]
      simpa only [List.exists_mem_cons_iff, List.append_assoc, List.singleton_append] using or_congr_right ih
  | @filed seen rest e c classes defects named free made others ih =>
      rw [exists_append_cons_iff, or_iff_right]
      · simpa only [List.append_assoc, List.singleton_append] using ih
      · rintro ⟨-, -, front, f, after, fields, returns, t, illFormed⟩
        rw [entityDescriptor, fields, mapM_eq_error returns (readProperty_of_illFormed illFormed)] at made
        cases made

/-- The message about a defect of an entity whose class is made is well-formed. -/
theorem Schema.Prepared.isWellFormed_message (h : schema.Prepared naming classes byName) (member : e ∈ schema.entities)
    {d : Defect} (isOf : d.IsOfField e) : d.message.isWellFormed = true := by
  obtain ⟨f, listed, isOf⟩ := isOf
  obtain ⟨s, text⟩ := h.text member
  obtain ⟨c, read⟩ := h.described member
  rw [← Bool.not_eq_false, isOf.isWellFormed_eq_false_iff text]
  rintro ⟨t, illFormed⟩
  obtain ⟨p, property⟩ := readProperty_of_entityDescriptor read listed
  rw [readProperty_of_illFormed illFormed] at property
  cases property

/-! ## Generation -/

/-- A batch is refused with the defects of its results. -/
theorem blames_gather {α : Type} {results : List (Except Fault α)} (h : ∀ x ∈ results, Blames x p) :
    Blames (gather results) p := by
  unfold gather
  split
  · exact .ok _
  · exact .misuse _
  · intro d found
    obtain ⟨x, listed, found⟩ := List.mem_flatMap.1 found
    exact h x listed d found

/-- The messages about the modules of entities whose classes are made are well-formed. -/
theorem Schema.Prepared.blames_generate (h : schema.Prepared naming classes byName) (plain : schema.Plain) :
    Blames (schema.generate naming).outcome fun d => d.message.isWellFormed = true := by
  rw [outcome_generate, h.entities, ok_bind, h.classes_eq, ok_bind]
  refine (blames_gather fun result listed => ?_).bind fun modules _ =>
    (Blames.of_returns (classModules_returns h plain.ids)).bind fun shared _ => .ok _
  obtain ⟨e, member, rfl⟩ := List.mem_map.1 listed
  exact (blames_resourceModules h member).mono fun d => h.isWellFormed_message member

/-- The class of an entity with a good name and a free identifier is refused with an ill-formed message. -/
def Schema.Untellable (schema : Schema) (naming : NamingStrategy) : Prop :=
  ∃ before e after, schema.entities = before ++ e :: after ∧ checkEntityName e.name = .ok () ∧
    Registry.Free naming before e ∧ e.IsUntellable schema.ids

/-- The generation of a plain schema is refused with an ill-formed message iff it comes to no use that a value does not support and
the class of one of the entities is refused so. -/
theorem Schema.generate_untold_iff (plain : schema.Plain) :
    (∃ d ∈ defectsOf (schema.generate naming).outcome, d.message.isWellFormed = false) ↔
      ¬ schema.Breaks naming ∧ schema.Untellable naming := by
  by_cases broken : schema.Breaks naming
  · obtain ⟨m, failed⟩ := (generate_misuses_iff plain).2 broken
    simp [failed, defectsOf, broken]
  have reading : ¬ Registry.BreaksAmong schema.ids naming [] schema.entities := by
    rintro ⟨before, e, after, entities, named, free, breaks⟩
    exact broken (.reading entities named free breaks)
  obtain ⟨r, run⟩ : ∃ r, schema.entities.foldlM (Registry.add schema.ids naming) {} = .ok r := by
    rcases Registry.addAll_cases Registry.tracks_empty plain.entities with ⟨-, added⟩ | ⟨among, -⟩
    · exact added
    · exact absurd among reading
  obtain ⟨classes, defects, registered, classesEq, defectsEq⟩ := Registry.addAll_registered Registry.tracks_empty run
  have untellable := registered.exists_illFormed_iff
  simp only [List.nil_append] at untellable classesEq defectsEq
  rw [and_iff_right broken, Untellable, ← untellable]
  obtain ⟨byName, tabled⟩ := entitiesByName_returns fun e member => (plain.entities e member).name
  cases defects with
  | nil =>
      have prepared : schema.Prepared naming classes byName := ⟨registered, tabled⟩
      refine iff_of_false ?_ (by simp)
      rintro ⟨d, found, illFormed⟩
      have wellFormed : d.message.isWellFormed = true := prepared.blames_generate plain d found
      rw [illFormed] at wellFormed
      cases wellFormed
  | cons d ds =>
      rw [outcome_generate, tabled, ok_bind, entityClasses, run, ok_bind, defectsEq]
      rfl

end

end ResourceScaffold
