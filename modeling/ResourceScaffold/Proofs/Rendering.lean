import ResourceScaffold.Proofs.Resources
import ResourceScaffold.Proofs.Samples

/-!
# When the modules of an entity can be made

Once the classes of a batch are made, the modules of a well-typed entity can be made iff its relations lead to entities of
the batch and its enumerations have usable options (`decides_resourceModules`). All other look-ups on the way succeed: each
lemma here says of one of the steps that it returns. Most of them need no types: that the class that is read could be made
has shown that the names and the relations of the fields are usable.
-/

namespace ResourceScaffold

variable {schema : Schema} {naming : NamingStrategy} {classes : Table Descriptor} {byName : Table Entity}
  {ids : Entries} {e : Entity} {f : Field} {d : Descriptor}

/-! ## Modules of classes -/

/-- A filter is found again under its name. -/
theorem Filter.ofName?_name (filter : Filter) : Filter.ofName? filter.name = some filter := by
  cases filter <;> decide

/-- A relation leads to a text when the lookup of ids is one of texts. -/
theorem isText_of_relatedName {target : Value} (texts : ids.AreTexts) (found : relatedName e f ids = .ok target) :
    target.IsText := by
  unfold relatedName at found
  simp only at found
  split at found
  · cases found
  · obtain ⟨key, -, rest⟩ := bind_eq_ok.1 found
    split at rest
    · next name filed =>
        cases rest
        exact texts.find? filed
    · cases rest

/-- The owner of the class that a reference to another module names is a text. -/
theorem Reference.Arises.entity_text {kind : DescriptorKind} {r : Reference} (h : r.Arises ids e kind)
    (name : e.name.IsText) (texts : ids.AreTexts) (other : r.kind ≠ .filter) : r.entity.IsText := by
  cases h with
  | relation member relates found refers => exact isText_of_relatedName texts found
  | enumeration member enumerates named => exact name
  | filter filter => exact absurd rfl other

/-- A reference to a filter names one. -/
theorem Reference.Arises.filter_name {kind : DescriptorKind} {r : Reference} (h : r.Arises ids e kind)
    (isFilter : r.kind = .filter) : ∃ filter : Filter, r.name = .text filter.name := by
  cases h with
  | @relation f target other member relates found refers => cases other <;> cases isFilter
  | enumeration member enumerates named => cases isFilter
  | filter filter => exact ⟨filter, rfl⟩

/-- A class of an entity has a module if the owners of the classes that it refers to are texts. -/
theorem Descriptor.IsClassOf.toModule_returns_of_owned (h : d.IsClassOf ids e)
    (owned : ∀ r ∈ d.references, r.kind ≠ .filter → r.entity.IsText) (entityName : String) :
    ∃ m, d.toModule entityName = .ok m := by
  have imports : ∃ imports, d.classImports = .ok imports := by
    unfold classImports
    have each : ∀ r ∈ d.references.filter (fun r => r.kind != .filter), ∃ i,
        (do return { deferred := r.kind.isDeferred, source := ← r.classImport : ClassImport }) = Except.ok i := by
      intro r hr
      obtain ⟨member, other⟩ := List.mem_filter.1 hr
      obtain ⟨owner, text⟩ : ∃ owner, r.entity.asShownText = .ok owner := by
        have text := owned r member (by simpa using other)
        generalize r.entity = entity at text ⊢
        cases text <;> exact ⟨_, rfl⟩
      exact ⟨_, by rw [Reference.classImport, text]; rfl⟩
    obtain ⟨imports, steps⟩ := exists_mapM_eq_ok each
    exact ⟨_, by rw [steps]; rfl⟩
  have filters : ∃ filters, d.filters = .ok filters := by
    refine exists_mapM_eq_ok fun filterName listed => ?_
    obtain ⟨r, hr, rfl⟩ := List.mem_map.1 (Code.mem_of_mem_distinctBy listed)
    obtain ⟨member, isFilter⟩ := List.mem_filter.1 hr
    obtain ⟨filter, filterName⟩ := (h.references member).1.filter_name (by simpa using isFilter)
    exact ⟨filter, by rw [filterName, Value.display_text, Filter.ofName?_name]⟩
  obtain ⟨imports, imported⟩ := imports
  obtain ⟨filters, filtered⟩ := filters
  exact ⟨_, by rw [toModule, imported, ok_bind, filtered]; rfl⟩

/-- Each class of an entity has a module. -/
theorem Descriptor.IsClassOf.toModule_returns (h : d.IsClassOf ids e) (name : e.name.IsText) (texts : ids.AreTexts)
    (entityName : String) : ∃ m, d.toModule entityName = .ok m :=
  h.toModule_returns_of_owned (fun _ member => (h.references member).1.entity_text name texts) entityName

/-- The modules of the four classes and of the enumerations can be made iff the enumerations can be built. -/
theorem decides_dataModules (typed : e.WellTyped) (texts : ids.AreTexts) {inputs : InputDescriptors}
    (made : inputDescriptors e ids = .ok inputs) (entityName : String) :
    Decides e.name (dataModules e inputs entityName)
      (∀ f ∈ e.enumFields, f.HasOptions ∧ f.HasUsableEnumName) := by
  have enumerations : Decides e.name (e.enumFields.mapM (EnumDescriptor.ofField e))
      (∀ f ∈ e.enumFields, f.HasOptions ∧ f.HasUsableEnumName) :=
    .mapM fun f member => decides_enumeration (typed.fields f (List.mem_filter.1 member).1)
  have modules : ∃ ms, inputs.toList.mapM (fun d => d.toModule entityName) = .ok ms :=
    exists_mapM_eq_ok fun d member => (InputDescriptors.isClassOf made member).toModule_returns typed.name texts entityName
  refine (enumerations.bind fun _ _ => ?_).congr (and_iff_left trivial)
  exact .bind_of_returns modules fun _ _ => .ok _ trivial

/-! ## Controllers -/

/-- The relations of an entity lead to entities of the schema. -/
def Schema.Relates (schema : Schema) (e : Entity) : Prop :=
  ∀ f ∈ e.relationFields, ∃ t ∈ schema.entities, f.LeadsTo schema.ids t.name

/-- The names that the relations of an entity lead to are those of entities of the schema. -/
def Schema.Resolves (schema : Schema) (e : Entity) : Prop :=
  ∀ f ∈ e.relationFields, ∃ t ∈ schema.entities, relatedName e f schema.ids = .ok t.name

/-- The relations of a well-typed entity are told exactly where its targets resolve. -/
theorem Schema.relates_iff_resolves (typed : e.WellTyped) : schema.Relates e ↔ schema.Resolves e :=
  forall₂_congr fun f listed => by simp only [relatedName_eq_ok (typed.fields f (List.mem_filter.1 listed).1)]

/-- Once the classes are made, all fields can be read. -/
theorem Schema.Prepared.readable (h : schema.Prepared naming classes byName) (typed : schema.WellTyped)
    (member : e ∈ schema.entities) : ∀ f ∈ e.fields, f.Readable schema.ids e := by
  obtain ⟨c, made⟩ := h.described member
  exact (decides_entityDescriptor schema.ids (typed.entities e member)).holds_of_ok made

/-- If a related name is found or missing, a relation is resolved iff the name is that of an entity of the schema. -/
theorem Schema.Prepared.decides_target (h : schema.Prepared naming classes byName) (texts : schema.ids.AreTexts)
    (decided : Decides e.name (relatedName e f schema.ids) (∃ target, relatedName e f schema.ids = .ok target)) :
    Decides e.name (relatedEntity e f schema.ids byName)
      (∃ t ∈ schema.entities, relatedName e f schema.ids = .ok t.name) := by
  rcases decided.cases with ⟨-, target, found⟩ | ⟨-, d, subject, failed⟩
  · obtain ⟨key, known⟩ := (isText_of_relatedName texts found).exists_key
    cases filed : Table.find? byName key with
    | none =>
        have refused : relatedEntity e f schema.ids byName = .error (.defect (.relationTarget e.name f.name target)) := by
          rw [relatedEntity, found, ok_bind, Value.asKey, known, ok_bind, filed]
        rw [refused]
        refine .defect rfl ?_
        rintro ⟨t, member, same⟩
        rw [h.relatedEntity_eq_ok.2 ⟨member, same⟩] at refused
        cases refused
    | some t =>
        have resolved : relatedEntity e f schema.ids byName = .ok t := by
          rw [relatedEntity, found, ok_bind, Value.asKey, known, ok_bind, filed]
          rfl
        rw [resolved]
        exact .ok t ⟨t, h.relatedEntity_eq_ok.1 resolved⟩
  · rw [relatedEntity, failed, error_bind]
    refine .defect subject ?_
    rintro ⟨t, -, found⟩
    cases found

/-- A well-typed relation is resolved iff it leads to an entity of the schema. -/
theorem decides_relatedEntity (h : schema.Prepared naming classes byName) (typed : schema.WellTyped) (field : f.WellTyped) :
    Decides e.name (relatedEntity e f schema.ids byName) (∃ t ∈ schema.entities, f.LeadsTo schema.ids t.name) := by
  have decided : Decides e.name (relatedName e f schema.ids) (∃ target, relatedName e f schema.ids = .ok target) := by
    simpa only [relatedName_eq_ok field] using decides_relatedName field
  simpa only [relatedName_eq_ok field] using h.decides_target typed.ids decided

/-- A relation whose related name is found can be made iff the name is that of an entity of the schema. -/
theorem Schema.Prepared.decides_relationOf (h : schema.Prepared naming classes byName) (texts : schema.ids.AreTexts)
    (found : ∃ target, relatedName e f schema.ids = .ok target) :
    Decides e.name (Controller.relationOf e schema.ids classes byName f)
      (∃ t ∈ schema.entities, relatedName e f schema.ids = .ok t.name) := by
  refine ((h.decides_target texts (.of_returns found found)).bind fun t resolved => ?_).congr (and_iff_left trivial)
  obtain ⟨member, -⟩ := h.relatedEntity_eq_ok.1 resolved
  obtain ⟨c, made⟩ := h.described member
  obtain ⟨s, text⟩ := h.text member
  rw [h.lookup_eq_ok.2 ⟨t, member, rfl, made⟩, ok_bind, text]
  exact .ok _ trivial

/-- What is selected when an entity is read, once its relations lead to entities of the schema. -/
theorem selection_returns (h : schema.Prepared naming classes byName) (made : entityDescriptor e schema.ids = .ok d)
    (resolves : schema.Resolves e) :
    ∃ v, d.selection classes = .ok v := by
  have each : ∀ p ∈ d.properties, ∃ s, selectProperty classes p = .ok s := by
    intro p hp
    unfold selectProperty
    cases reference : p.reference with
    | none => exact ⟨_, rfl⟩
    | some r =>
        cases (Descriptor.IsClassOf.read made).made.arises p hp r reference with
        | @relation f target other listed isRelation found refers =>
            obtain ⟨t, inBatch, leads⟩ := resolves f (List.mem_filter.2 ⟨listed, isRelation⟩)
            rw [found] at leads
            obtain ⟨c, readable⟩ := h.described inBatch
            have filed := h.lookup_eq_ok.2 ⟨t, inBatch, (Except.ok.inj leads).symm, readable⟩
            cases other with
            | entity =>
                cases many : p.isList with
                | true => exact ⟨_, rfl⟩
                | false => exact ⟨_, by simp only [DescriptorKind.reference, filed, ok_bind]; rfl⟩
            | _ => exact ⟨_, rfl⟩
        | enumeration => exact ⟨_, rfl⟩
        | filter => exact ⟨_, rfl⟩
  obtain ⟨names, selected⟩ := exists_mapM_eq_ok each
  exact ⟨_, by rw [Descriptor.selection, selected]; rfl⟩

/-- The controller of an entity can be made iff its relations lead to entities of the schema. -/
theorem decides_controller (h : schema.Prepared naming classes byName) (texts : schema.ids.AreTexts)
    (member : e ∈ schema.entities) (resource entityName service : String) (inputs : InputDescriptors) :
    Decides e.name (Controller.ofEntity resource entityName service e inputs classes schema.ids byName)
      (schema.Resolves e) := by
  obtain ⟨c, made⟩ := h.described member
  obtain ⟨s, text⟩ := h.text member
  have relations : Decides e.name (e.relationFields.mapM (Controller.relationOf e schema.ids classes byName))
      (schema.Resolves e) := by
    refine .mapM fun f listed => h.decides_relationOf texts ?_
    obtain ⟨inFields, relates⟩ := List.mem_filter.1 listed
    exact exists_relatedName (readProperty_of_entityDescriptor made inFields) (Field.kind_of_isRelation relates)
  unfold Controller.ofEntity
  refine .bind_of_returns ⟨c, h.lookup_eq_ok.2 ⟨e, member, rfl, made⟩⟩ fun read filed => ?_
  obtain ⟨e', member', same, made'⟩ := h.lookup_eq_ok.1 filed
  refine .bind_of_returns ⟨s, by rw [text]; rfl⟩ fun _ _ => ?_
  refine (relations.bind fun _ related => ?_).congr (and_iff_left trivial)
  rw [h.eq_of_name_eq member' member same] at made'
  exact .bind_of_returns (selection_returns h made' (relations.holds_of_ok related)) fun _ _ => .ok _ trivial

/-- The controller of an entity has a module. -/
theorem controllerModule_returns (h : schema.Prepared naming classes byName) (read : entityDescriptor e schema.ids = .ok d)
    {resource entityName service : String} {inputs : InputDescriptors} {c : Controller}
    (made : Controller.ofEntity resource entityName service e inputs classes schema.ids byName = .ok c) :
    ∃ m, c.toModule = .ok m := by
  have endpoints : ∃ es, c.endpoints = .ok es := by
    unfold Controller.endpoints
    cases c.key? with
    | none => exact ⟨_, rfl⟩
    | some key =>
        have each : ∀ r ∈ c.relations, ∃ es, c.relationEndpoints key r = .ok es := by
          intro r hr
          obtain ⟨f, listed, step⟩ := exists_mem_of_mapM_eq_ok (Controller.ofEntity_eq_ok made).1.related hr
          obtain ⟨rfl, -⟩ := h.relationOf_eq_ok.1 step
          obtain ⟨s, text, -⟩ :=
            checkFieldName_eq_ok (checkFieldName_of_entityDescriptor read (List.mem_filter.1 listed).1)
          exact ⟨_, by rw [Controller.relationEndpoints, text]; rfl⟩
        obtain ⟨relations, done⟩ := exists_mapM_eq_ok each
        exact ⟨_, by simp only [done, ok_bind]; rfl⟩
  obtain ⟨es, done⟩ := endpoints
  exact ⟨_, by rw [Controller.toModule, done]; rfl⟩

/-! ## Samples and tests -/

/-- A field that can be read has a sample, if its options have a first one when it is one of an enumeration. -/
theorem sampleValue_returns (readable : ∃ p, readProperty e ids f = .ok p)
    (options : f.isEnumeration = true → ∃ first, (enumOptions e f >>= Sample.firstOption) = .ok first) :
    ∃ v, Sample.value e f ids = .ok v := by
  unfold Sample.value
  cases kind : f.kind with
  | scalar t => exact ⟨_, rfl⟩
  | relation =>
      obtain ⟨target, found⟩ := exists_relatedName readable kind
      simp only [found, ok_bind]
      exact ⟨_, rfl⟩
  | enumeration many =>
      obtain ⟨first, taken⟩ := options (by rw [Field.isEnumeration, kind])
      obtain ⟨values, known, found⟩ := bind_eq_ok.1 taken
      simp only [known, found, ok_bind]
      exact ⟨_, rfl⟩

section samples

variable (made : entityDescriptor e ids = .ok d)
include made

/-- The name of a field of an entity that can be read is a text. -/
theorem exists_text_of_field (member : f ∈ e.fields) : ∃ s, f.name = .text s := by
  obtain ⟨s, text, -⟩ := checkFieldName_eq_ok (checkFieldName_of_entityDescriptor made member)
  exact ⟨s, text⟩

/-- The payload holds a sample for each of its fields. -/
theorem payload_returns (sampled : ∀ f ∈ e.fields, f.isEditable = true → f.required = true →
      ∃ v, Sample.value e f ids = .ok v) : ∃ entries, Sample.payload e ids = .ok entries := by
  refine exists_foldlM_eq_ok (fun entries f listed => ?_) []
  obtain ⟨member, test⟩ := List.mem_filter.1 listed
  obtain ⟨editable, required⟩ := Bool.and_eq_true_iff.1 test
  obtain ⟨v, sampled⟩ := sampled f member editable required
  obtain ⟨s, text⟩ := exists_text_of_field made member
  exact ⟨_, by rw [Sample.insertSample, sampled, text]; rfl⟩

/-- A record can be made wherever a payload can. -/
theorem record_returns (paid : ∃ entries, Sample.payload e ids = .ok entries) :
    ∃ entries, Sample.record e ids = .ok entries := by
  obtain ⟨created, done⟩ := paid
  rw [Sample.record, done, ok_bind]
  refine exists_foldlM_eq_ok (fun entries f member => ?_) []
  obtain ⟨s, text⟩ := exists_text_of_field made member
  unfold Sample.insertRead
  rw [text, Value.asKey, Value.key?_text]
  cases f.dataType.isServerManaged with
  | true => exact ⟨_, rfl⟩
  | false => cases found : created.find? (.text s) <;> exact ⟨_, by simp only [ok_bind, found]; rfl⟩

/-- The record has a value under the name of a scalar field. -/
theorem withKey_returns (entries : Entries) (member : f ∈ e.fields) {t : ScalarType} (kind : f.kind = .scalar t) :
    ∃ entries' v, TestPlan.withKey e ids entries f.name = .ok entries' ∧ Table.lookup entries' f.name = .ok v := by
  obtain ⟨s, text⟩ := exists_text_of_field made member
  have key : f.name.key? = some (.text s) := by rw [text, Value.key?_text]
  rw [TestPlan.withKey, Value.asKey, key, ok_bind]
  cases found : Table.find? entries (.text s) with
  | some v => exact ⟨entries, v, rfl, (Table.lookup_eq_ok key).2 found⟩
  | none =>
      cases named : e.fields.find? fun g => g.name.sameKey f.name with
      | none =>
          have other := List.find?_eq_none.1 named f member
          simp [Value.sameKey, text] at other
      | some g =>
          have same := List.find?_some named
          rw [Value.sameKey, Bool.and_eq_true, beq_iff_eq] at same
          have identical : g = f := field_unique member (List.mem_of_find?_eq_some named)
            (checkFieldName_of_entityDescriptor made member) same.2
          obtain ⟨v, sampled⟩ : ∃ v, Sample.value e g ids = .ok v := ⟨_, by rw [identical, Sample.value, kind]⟩
          refine ⟨entries.insert f.name v, v, by simp only [sampled]; rfl, ?_⟩
          exact (Table.lookup_eq_ok key).2 (Table.find?_insert_self entries v key)

/-- The tests of an entity can be made once their payload can. -/
theorem testModule_returns (paid : ∃ entries, Sample.payload e ids = .ok entries)
    (resource entityName service wiring : String) :
    ∃ m, testModule resource entityName service wiring e ids = .ok m := by
  have plan : ∃ plan, TestPlan.ofEntity e ids = .ok plan := by
    obtain ⟨record, recorded⟩ := record_returns made paid
    obtain ⟨payload, paid⟩ := paid
    obtain ⟨unique, identified⟩ := whereUniqueDescriptor_returns e
    simp only [TestPlan.ofEntity, paid, recorded, identified, ok_bind]
    cases key : unique.keyProperty? with
    | none => exact ⟨_, rfl⟩
    | some p =>
        obtain ⟨f, member, ⟨t, kind⟩, same⟩ := exists_field_of_keyProperty? identified key
        obtain ⟨record', v, withKey, filed⟩ := withKey_returns made record member kind
        exact ⟨_, by simp only [same, withKey, filed, ok_bind]; rfl⟩
  obtain ⟨plan, planned⟩ := plan
  exact ⟨_, by rw [testModule, planned]; rfl⟩

end samples

/-! ## The modules of an entity -/

/-- The options of a well-typed enumeration have a first one. -/
theorem firstOption_returns (options : f.HasOptions) : ∃ first, (enumOptions e f >>= Sample.firstOption) = .ok first := by
  obtain ⟨items, list, nonempty, -⟩ := options
  obtain ⟨first, rest, rfl⟩ := List.exists_cons_of_ne_nil nonempty
  have truthy : (f.properties.getD "options").isTruthy = true := by
    rw [← Value.isTruthy_unmarked, list]
    rfl
  simp only [enumOptions, truthy, if_true, ok_bind, Sample.firstOption, list]
  exact ⟨_, rfl⟩

/-- The modules of an entity can be made iff its relations lead to entities of the schema and its enumerations have usable
options. -/
theorem decides_resourceModules (h : schema.Prepared naming classes byName) (typed : schema.WellTyped)
    (member : e ∈ schema.entities) :
    Decides e.name (resourceModules schema.ids classes byName naming e).outcome
      (schema.Relates e ∧ ∀ f ∈ e.enumFields, f.HasOptions) := by
  have entity := typed.entities e member
  have readable := h.readable typed member
  obtain ⟨d, read⟩ := h.described member
  obtain ⟨name, text⟩ := h.text member
  have data {inputs : InputDescriptors} (made : inputDescriptors e schema.ids = .ok inputs) (entityName : String) :
      Decides e.name (dataModules e inputs entityName) (∀ f ∈ e.enumFields, f.HasOptions) := by
    refine (decides_dataModules entity typed.ids made entityName).congr ⟨fun all f hf => (all f hf).1, fun all f hf => ?_⟩
    obtain ⟨listed, isEnumeration⟩ := List.mem_filter.1 hf
    exact ⟨all f hf, (readable f listed).enumName isEnumeration⟩
  have paid (options : ∀ f ∈ e.enumFields, f.HasOptions) : ∃ entries, Sample.payload e schema.ids = .ok entries :=
    payload_returns read fun f listed _ _ =>
      sampleValue_returns (readProperty_of_entityDescriptor read listed) fun isEnumeration =>
        firstOption_returns (options f (List.mem_filter.2 ⟨listed, isEnumeration⟩))
  rw [outcome_resourceModules, h.named member, ok_bind]
  refine .bind_of_returns ⟨name, by rw [text]; rfl⟩ fun _ _ => ?_
  refine .bind_of_returns (inputDescriptors_returns read) fun inputs made => ?_
  refine ((data made _).bind fun _ done => ?_).congr and_comm
  refine ((decides_controller h typed.ids member _ _ _ inputs).bind fun c controlled => ?_).congr
    ((and_iff_left trivial).trans (Schema.relates_iff_resolves entity).symm)
  refine .bind_of_returns (controllerModule_returns h read controlled) fun _ _ => ?_
  exact .bind_of_returns (testModule_returns read (paid ((data made _).holds_of_ok done)) _ _ _ _) fun _ _ =>
    .ok _ trivial

/-- The modules of the classes that are read can be made. -/
theorem classModules_returns (h : schema.Prepared naming classes byName) (texts : schema.ids.AreTexts) :
    ∃ shared, classModules classes naming = .ok shared := by
  refine exists_mapM_eq_ok fun entry member => ?_
  obtain ⟨e, listed, -, made⟩ := exists_left_of_forall₂ h.registered.classes_of_no_defects member
  exact (Descriptor.IsClassOf.read made).toModule_returns (h.isText listed) texts _

end ResourceScaffold
