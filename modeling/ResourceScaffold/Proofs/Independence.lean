import ResourceScaffold.Proofs.Blocks

/-!
# What the modules of an entity depend on

* A schema is generated iff it is in any other order of its entities, and the modules of each entity are the same in both
  (`generate_perm`): classes and entities are found by names, and no two entities share one.
* Two schemas that have an entity in common give it the same modules if its relations lead to entities of the same names
  with the same fields (`generate_local`). Of the target of a relation, the controller reads the names and the kinds of the
  fields, and nothing of what the relations of the target lead to.
-/

namespace ResourceScaffold

open Code

variable {schema : Schema} {naming : NamingStrategy} {classes classes' : Table Descriptor} {byName byName' : Table Entity}
  {e : Entity} {ids : Entries} {modules : List SourceModule} {parts : Entity → EntityModules}

/-! ## Order -/

/-- What is selected of a property depends on what is found under the names of entities. -/
theorem selectProperty_of_lookups (found : ∀ name d, classes.lookup name = .ok d → classes'.lookup name = .ok d)
    {p : Property} {selected : List (Value × Value)} (made : selectProperty classes p = .ok selected) :
    selectProperty classes' p = .ok selected := by
  unfold selectProperty at made ⊢
  split at made
  · split at made
    · next many => rwa [if_pos many]
    · next single =>
        obtain ⟨target, filed, rest⟩ := bind_eq_ok.1 made
        rw [if_neg single, found _ _ filed]
        exact rest
  · exact made

/-- A selection stays the same in a table where all classes are found as before. -/
theorem Descriptor.selection_of_lookups (found : ∀ name d, classes.lookup name = .ok d → classes'.lookup name = .ok d)
    {d : Descriptor} {v : Value} (made : d.selection classes = .ok v) : d.selection classes' = .ok v := by
  obtain ⟨selected, steps, rest⟩ := bind_eq_ok.1 made
  have steps' := mapM_eq_ok.2 ((mapM_eq_ok.1 steps).imp fun _ _ => selectProperty_of_lookups found)
  exact bind_eq_ok.2 ⟨selected, steps', rest⟩

/-- A controller depends on what is found under the names of entities. -/
theorem Controller.ofEntity_of_lookups {resource entityName service : String} {inputs : InputDescriptors} {c : Controller}
    (found : ∀ name d, classes.lookup name = .ok d → classes'.lookup name = .ok d)
    (related : ∀ f r, relationOf e ids classes byName f = .ok r → relationOf e ids classes' byName' f = .ok r)
    (made : ofEntity resource entityName service e inputs classes ids byName = .ok c) :
    ofEntity resource entityName service e inputs classes' ids byName' = .ok c := by
  obtain ⟨read, filed, rest⟩ := bind_eq_ok.1 made
  obtain ⟨entityType, text, rest⟩ := bind_eq_ok.1 rest
  obtain ⟨relations, steps, rest⟩ := bind_eq_ok.1 rest
  obtain ⟨select, selected, rest⟩ := bind_eq_ok.1 rest
  have relations' := mapM_eq_ok.2 ((mapM_eq_ok.1 steps).imp related)
  rw [ofEntity, found _ _ filed, ok_bind, text, ok_bind, relations', ok_bind, read.selection_of_lookups found selected]
  exact rest

namespace Schema

variable {entities : List Entity}

/-- What is found under a name does not depend on the order. -/
theorem Prepared.lookup_perm (h : schema.Prepared naming classes byName)
    (h' : Prepared { schema with entities } naming classes' byName') (perm : entities.Perm schema.entities) {name : Value}
    {d : Descriptor} (found : classes.lookup name = .ok d) : classes'.lookup name = .ok d := by
  obtain ⟨t, member, named, made⟩ := h.lookup_eq_ok.1 found
  exact h'.lookup_eq_ok.2 ⟨t, perm.mem_iff.2 member, named, made⟩

/-- A relation is resolved in the same way after the entities are reordered. -/
theorem Prepared.relationOf_perm (h : schema.Prepared naming classes byName)
    (h' : Prepared { schema with entities } naming classes' byName') (perm : entities.Perm schema.entities) {f : Field}
    {r : Relation} (found : Controller.relationOf e schema.ids classes byName f = .ok r) :
    Controller.relationOf e schema.ids classes' byName' f = .ok r := by
  obtain ⟨field, t, member, related⟩ := h.relationOf_eq_ok.1 found
  exact h'.relationOf_eq_ok.2 ⟨field, t, perm.mem_iff.2 member, related⟩

/-- The modules of an entity do not depend on the order. -/
theorem Prepared.entityModules_perm (h : schema.Prepared naming classes byName) (perm : entities.Perm schema.entities)
    (member : e ∈ schema.entities) {p : EntityModules} (made : schema.entityModules naming e = .ok p) :
    entityModules { schema with entities } naming e = .ok p := by
  obtain ⟨classes', byName', h'⟩ := h.perm perm
  obtain ⟨name, text⟩ := h.text member
  have rendered := (EntityModules.made made).controller
  have same : controllerModule { schema with entities } naming e = schema.controllerModule naming e := by
    rw [rendered]
    rw [h.controllerModule_eq text] at rendered
    obtain ⟨inputs, inputsMade, rest⟩ := bind_eq_ok.1 rendered
    obtain ⟨c, controllerMade, rest⟩ := bind_eq_ok.1 rest
    have controllerMade' := Controller.ofEntity_of_lookups (fun _ _ => h.lookup_perm h' perm)
      (fun _ _ => h.relationOf_perm h' perm) controllerMade
    rw [h'.controllerModule_eq text, inputsMade, ok_bind, controllerMade', ok_bind]
    exact rest
  rw [← made]
  simp only [entityModules, same]

/-- A layout in another order is made of the same modules. -/
theorem LaidOut.perm (h : schema.LaidOut naming parts modules) (perm : entities.Perm schema.entities) :
    ∃ modules', LaidOut { schema with entities } naming parts modules' := by
  obtain ⟨classes, byName, prepared⟩ := h.prepared
  refine ⟨_, fun e member => ?_, rfl⟩
  have inBatch := perm.subset member
  exact prepared.entityModules_perm perm inBatch (h.made e inBatch)

/-- A generation returns iff it does in any other order of the entities, and then the modules of each entity are the same. -/
theorem generate_perm (naming : NamingStrategy) (perm : entities.Perm schema.entities) :
    ((∃ modules', (generate { schema with entities } naming).outcome = .ok modules') ↔
      ∃ modules, (schema.generate naming).outcome = .ok modules) ∧
    ∀ modules modules', (schema.generate naming).outcome = .ok modules →
      (generate { schema with entities } naming).outcome = .ok modules' →
      ∃ parts, schema.LaidOut naming parts modules ∧ LaidOut { schema with entities } naming parts modules' := by
  refine ⟨⟨?_, ?_⟩, ?_⟩
  · rintro ⟨modules', returned⟩
    obtain ⟨parts, laidOut⟩ := generate_eq_ok_iff.1 returned
    obtain ⟨modules, original⟩ := laidOut.perm perm.symm
    exact ⟨modules, generate_eq_ok_iff.2 ⟨parts, original⟩⟩
  · rintro ⟨modules, returned⟩
    obtain ⟨parts, laidOut⟩ := generate_eq_ok_iff.1 returned
    obtain ⟨modules', permuted⟩ := laidOut.perm perm
    exact ⟨modules', generate_eq_ok_iff.2 ⟨parts, permuted⟩⟩
  · intro modules modules' returned returned'
    obtain ⟨parts, laidOut⟩ := generate_eq_ok_iff.1 returned
    obtain ⟨permutedModules, permuted⟩ := laidOut.perm perm
    rw [generate_eq_ok_iff.2 ⟨parts, permuted⟩] at returned'
    cases returned'
    exact ⟨parts, laidOut, permuted⟩

/-- The schema of a blog and the same with its two entities the other way round. -/
theorem blog_reversed : blog.entities.reverse.Perm blog.entities ∧ ∃ modules modules' parts,
    (blog.generate ResourceNaming.derive).outcome = .ok modules ∧
    (generate { blog with entities := blog.entities.reverse } ResourceNaming.derive).outcome = .ok modules' ∧
    blog.LaidOut ResourceNaming.derive parts modules ∧
    LaidOut { blog with entities := blog.entities.reverse } ResourceNaming.derive parts modules' := by
  have perm : blog.entities.reverse.Perm blog.entities := List.reverse_perm _
  obtain ⟨modules, returned⟩ := generate_of_acceptable blog_wellTyped blog_acceptable
  obtain ⟨same, each⟩ := generate_perm ResourceNaming.derive perm
  obtain ⟨modules', returned'⟩ := same.2 ⟨modules, returned⟩
  obtain ⟨parts, laidOut, permuted⟩ := each modules modules' returned returned'
  exact ⟨perm, modules, modules', parts, returned, returned', laidOut, permuted⟩

end Schema

/-! ## Relations that lead to the same names -/

/-- The relations of the entity lead to the same names by both lookups. -/
def Entity.RelatesAlike (e : Entity) (ids ids' : Entries) : Prop :=
  ∀ f ∈ e.relationFields, relatedName e f ids' = relatedName e f ids

section alike

variable {ids' : Entries} {f : Field}

/-- A relation field of the entity leads to the same name by both lookups. -/
theorem Entity.RelatesAlike.of_kind (h : e.RelatesAlike ids ids') (member : f ∈ e.fields) (kind : f.kind = .relation) :
    relatedName e f ids' = relatedName e f ids :=
  h f (List.mem_filter.2 ⟨member, by rw [Field.isRelation, kind]⟩)

/-- What is read of a field is the same by both lookups. -/
theorem readProperty_congr (h : e.RelatesAlike ids ids') (member : f ∈ e.fields) :
    readProperty e ids' f = readProperty e ids f := by
  unfold readProperty
  cases kind : f.kind with
  | scalar t => rfl
  | enumeration many => rfl
  | relation => simp only [relationProperty, h.of_kind member kind]

/-- So is what is written of it. -/
theorem writeProperty_congr (h : e.RelatesAlike ids ids') (allOptional : Bool) (member : f ∈ e.fields) :
    writeProperty e ids' allOptional f = writeProperty e ids allOptional f := by
  unfold writeProperty
  cases kind : f.kind with
  | scalar t => rfl
  | enumeration many => rfl
  | relation => simp only [relationProperty, h.of_kind member kind]

/-- So is what filters by it. -/
theorem whereProperty_congr (h : e.RelatesAlike ids ids') (member : f ∈ e.fields) :
    whereProperty e ids' f = whereProperty e ids f := by
  unfold whereProperty
  cases kind : f.kind with
  | scalar t => rfl
  | enumeration many => rfl
  | relation => simp only [relationProperty, h.of_kind member kind]

/-- The classes of an entity depend on the names to which its relations lead. -/
theorem Entity.RelatesAlike.descriptor (h : e.RelatesAlike ids ids') (kind : DescriptorKind) :
    e.descriptor ids' kind = e.descriptor ids kind := by
  cases kind with
  | entity => simp only [Entity.descriptor, entityDescriptor, mapM_congr fun f => readProperty_congr (f := f) h]
  | createInput =>
      have steps : ∀ f ∈ e.fields.filter Field.isEditable, writeProperty e ids' false f = writeProperty e ids false f :=
        fun f listed => writeProperty_congr h false (List.mem_filter.1 listed).1
      simp only [Entity.descriptor, createDescriptor, mapM_congr steps]
  | updateInput =>
      have steps : ∀ f ∈ e.fields.filter Field.isEditable, writeProperty e ids' true f = writeProperty e ids true f :=
        fun f listed => writeProperty_congr h true (List.mem_filter.1 listed).1
      simp only [Entity.descriptor, updateDescriptor, mapM_congr steps]
  | whereInput =>
      have steps : ∀ f ∈ e.fields.filter Field.isFilterable, whereProperty e ids' f = whereProperty e ids f :=
        fun f listed => whereProperty_congr h (List.mem_filter.1 listed).1
      simp only [Entity.descriptor, whereDescriptor, mapM_congr steps]
  | whereUniqueInput => rfl

/-- The module of each class of the entity is the same by both lookups. -/
theorem Entity.RelatesAlike.classModule (h : e.RelatesAlike ids ids') (kind : DescriptorKind) :
    e.classModule naming ids' kind = e.classModule naming ids kind := by
  rw [Entity.classModule, Entity.classModule, h.descriptor]

/-- So are the four classes of its operations. -/
theorem Entity.RelatesAlike.inputDescriptors (h : e.RelatesAlike ids ids') :
    inputDescriptors e ids' = inputDescriptors e ids := by
  have create : createDescriptor e ids' = createDescriptor e ids := h.descriptor .createInput
  have update : updateDescriptor e ids' = updateDescriptor e ids := h.descriptor .updateInput
  have filter : whereDescriptor e ids' = whereDescriptor e ids := h.descriptor .whereInput
  simp only [ResourceScaffold.inputDescriptors, create, update, filter]

/-! ### Samples -/

/-- The sample of a field is the same by both lookups. -/
theorem Sample.value_congr (h : e.RelatesAlike ids ids') (member : f ∈ e.fields) :
    Sample.value e f ids' = Sample.value e f ids := by
  unfold Sample.value
  cases kind : f.kind with
  | scalar t => rfl
  | enumeration many => rfl
  | relation => simp only [h.of_kind member kind]

/-- So is the payload of the tests. -/
theorem Sample.payload_congr (h : e.RelatesAlike ids ids') : Sample.payload e ids' = Sample.payload e ids := by
  refine foldlM_congr (fun entries f listed => ?_) []
  rw [insertSample, insertSample, value_congr h (List.mem_filter.1 listed).1]

/-- So is the record that they read back. -/
theorem Sample.record_congr (h : e.RelatesAlike ids ids') : Sample.record e ids' = Sample.record e ids := by
  rw [record, record, payload_congr h]

/-- So is the record with the value of the key. -/
theorem TestPlan.withKey_congr (h : e.RelatesAlike ids ids') (record : Entries) (name : Value) :
    withKey e ids' record name = withKey e ids record name := by
  unfold withKey
  cases found : e.fields.find? fun f => f.name.sameKey name with
  | none => rfl
  | some f => simp only [Sample.value_congr h (List.mem_of_find?_eq_some found)]

/-- The tests of an entity depend on the names to which its relations lead. -/
theorem Entity.RelatesAlike.testModule (h : e.RelatesAlike ids ids') (resource entityName service wiring : String) :
    testModule resource entityName service wiring e ids' = testModule resource entityName service wiring e ids := by
  have plan : TestPlan.ofEntity e ids' = TestPlan.ofEntity e ids := by
    simp only [TestPlan.ofEntity, Sample.payload_congr h, Sample.record_congr h, TestPlan.withKey_congr h]
  rw [ResourceScaffold.testModule, ResourceScaffold.testModule, plan]

end alike

/-! ## Targets with the same fields -/

/-- What other entities read of a field: its name and what it holds. -/
def Field.shape (f : Field) : Value × FieldKind :=
  (f.name, f.kind)

/-- The kind of the references of a field in the class that is read. -/
def FieldKind.reference? : FieldKind → Option ReferenceKind
  | scalar _ => none
  | enumeration _ => some .enumeration
  | relation => some .entity

/-- What other entities read of a property: its name and the kind of what it refers to. -/
def Property.shape (p : Property) : Value × Option ReferenceKind :=
  (p.name, p.reference.map Reference.kind)

/-- The property that is read of a field has the shape that follows from the shape of the field. -/
theorem readProperty_shape {f : Field} {p : Property} (made : readProperty e ids f = .ok p) :
    p.shape = (f.name, f.kind.reference?) := by
  cases readProperty_gives made with
  | scalar kind | enumeration kind | relation kind =>
      rw [kind]
      rfl
  | filter _ filters => cases filters

/-- Entities with fields of the same shapes have properties of the same shapes. -/
theorem entityDescriptor_shapes {t t' : Entity} {ids' : Entries} {d d' : Descriptor}
    (made : entityDescriptor t ids = .ok d) (made' : entityDescriptor t' ids' = .ok d')
    (same : t'.fields.map Field.shape = t.fields.map Field.shape) :
    d'.properties.map Property.shape = d.properties.map Property.shape := by
  have shapes {t : Entity} {ids : Entries} {d : Descriptor} (made : entityDescriptor t ids = .ok d) :
      d.properties.map Property.shape = (t.fields.map Field.shape).map fun s => (s.1, s.2.reference?) := by
    obtain ⟨properties, steps, rest⟩ := bind_eq_ok.1 made
    cases rest
    rw [List.map_map]
    exact (map_eq_map_of_forall₂ (mapM_eq_ok.1 steps) fun f p step => (readProperty_shape step).symm).symm
  rw [shapes made', shapes made, same]

/-- What is picked from two lists by a view is the same if the lists look the same. -/
theorem map_filter_comp {α β γ : Type} (view : α → β) (q : β → Bool) (g : β → γ) {xs ys : List α}
    (same : ys.map view = xs.map view) : (ys.filter (q ∘ view)).map (g ∘ view) = (xs.filter (q ∘ view)).map (g ∘ view) := by
  rw [← List.map_map, ← List.map_map, ← List.filter_map, ← List.filter_map, same]

/-- Properties of the same shapes that are plain have the same names. -/
theorem plainNames_congr {ps ps' : List Property} (same : ps'.map Property.shape = ps.map Property.shape) :
    (ps'.filter Property.isPlain).map Property.name = (ps.filter Property.isPlain).map Property.name := by
  let isPlain (s : Value × Option ReferenceKind) : Bool :=
    match s.2 with
    | none => true
    | some kind => kind == .enumeration
  have factored : Property.isPlain = isPlain ∘ Property.shape := by
    funext p
    simp only [Property.isPlain, Function.comp, Property.shape, isPlain]
    cases p.reference <;> rfl
  rw [factored]
  exact map_filter_comp Property.shape isPlain Prod.fst same

/-- So do those that are scalars. -/
theorem scalarNames_congr {ps ps' : List Property} (same : ps'.map Property.shape = ps.map Property.shape) :
    (ps'.filter fun p => p.reference.isNone).map Property.name =
      (ps.filter fun p => p.reference.isNone).map Property.name := by
  have factored : (fun p : Property => p.reference.isNone) = (fun s => s.2.isNone) ∘ Property.shape := by
    funext p
    simp [Property.shape]
  rw [factored]
  exact map_filter_comp Property.shape (fun s => s.2.isNone) Prod.fst same

/-! ## Controllers -/

/-- What a controller reads of a relation is the same. -/
structure Relation.Alike (r r' : Relation) : Prop where
  field : r'.field = r.field
  entity : r'.entity = r.entity
  name : r'.target.name = r.target.name
  selection : r'.selection = r.selection

namespace Controller

variable {c : Controller} {rs : List Relation}

/-- The routes of a relation depend only on what a controller reads of it. -/
theorem relationEndpoints_congr (rs : List Relation) (key : KeyParameter) {r r' : Relation} (alike : r.Alike r') :
    c.relationEndpoints key r = { c with relations := rs }.relationEndpoints key r' := by
  simp only [relationEndpoints, relatedEndpoint, linkEndpoint, Relation.uniqueClass, alike.field, alike.name,
    alike.selection]
  rfl

/-- So do all routes of the controller. -/
theorem endpoints_congr (alike : List.Forall₂ Relation.Alike c.relations rs) :
    { c with relations := rs }.endpoints = c.endpoints := by
  have key : { c with relations := rs }.key? = c.key? := rfl
  unfold endpoints
  rw [key]
  cases c.key? with
  | none => rfl
  | some key =>
      have steps : c.relations.mapM (c.relationEndpoints key) =
          rs.mapM ({ c with relations := rs }.relationEndpoints key) :=
        mapM_eq_mapM_of_forall₂ (alike.imp fun _ _ => relationEndpoints_congr rs key)
      simp only [steps]
      rfl

/-- So do its imports. -/
theorem classImports_congr (alike : List.Forall₂ Relation.Alike c.relations rs) :
    { c with relations := rs }.classImports = c.classImports := by
  unfold classImports
  simp only [List.flatMap]
  rw [map_eq_map_of_forall₂ alike fun r r' same => by rw [← same.field, ← same.entity, ← same.name]]

/-- A controller whose relations look the same has the same module. -/
theorem toModule_congr (alike : List.Forall₂ Relation.Alike c.relations rs) :
    { c with relations := rs }.toModule = c.toModule := by
  simp only [toModule, endpoints_congr alike, moduleWith, opening, classImports_congr alike]
  rfl

end Controller

/-! ## Locality -/

/-- Two schemas agree on an entity, `e` in one and `e'` in the other: it has the same name and fields, its relations lead to
entities of the same names, and those have fields of the same names and kinds. -/
structure Schema.AgreeOn (schema schema' : Schema) (e e' : Entity) : Prop where
  member : e ∈ schema.entities
  member' : e' ∈ schema'.entities
  name : e'.name = e.name
  fields : e'.fields = e.fields
  related : e.RelatesAlike schema.ids schema'.ids
  targets : ∀ f ∈ e.relationFields, ∀ t ∈ schema.entities, ∀ t' ∈ schema'.entities,
    relatedName e f schema.ids = .ok t.name → t'.name = t.name → t'.fields.map Field.shape = t.fields.map Field.shape

namespace Schema

variable {schema' : Schema} {e' : Entity}

/-- The modules of an entity do not depend on its id. -/
theorem entityModules_withId (schema : Schema) (naming : NamingStrategy) (e : Entity) (id : Value) :
    schema.entityModules naming { e with id } = schema.entityModules naming e := rfl

/-- The entity differs only in its id. -/
theorem AgreeOn.eq_withId (agree : schema.AgreeOn schema' e e') : e' = { e with id := e'.id } := by
  have name := agree.name
  have fields := agree.fields
  cases e
  cases e'
  cases name
  cases fields
  rfl

/-- The classes that are found for a target of a relation look the same in both schemas. -/
theorem AgreeOn.shapes (agree : schema.AgreeOn schema' e e') (h : schema.Prepared naming classes byName)
    (h' : schema'.Prepared naming classes' byName') {f : Field} (field : f ∈ e.relationFields) {target : Value}
    (related : relatedName e f schema.ids = .ok target) {d d' : Descriptor} (filed : classes.lookup target = .ok d)
    (filed' : classes'.lookup target = .ok d') : d'.properties.map Property.shape = d.properties.map Property.shape := by
  obtain ⟨t, member, rfl, made⟩ := h.lookup_eq_ok.1 filed
  obtain ⟨t', member', same, made'⟩ := h'.lookup_eq_ok.1 filed'
  exact entityDescriptor_shapes made made' (agree.targets f field t member t' member' related same)

/-- What is selected of a property of the entity is the same in both schemas. -/
theorem AgreeOn.selectProperty_eq (agree : schema.AgreeOn schema' e e') (h : schema.Prepared naming classes byName)
    (h' : schema'.Prepared naming classes' byName') {d : Descriptor} (made : entityDescriptor e schema.ids = .ok d)
    {p : Property} (listed : p ∈ d.properties) {x x' : List (Value × Value)} (selected : selectProperty classes p = .ok x)
    (selected' : selectProperty classes' p = .ok x') : x' = x := by
  unfold selectProperty at selected selected'
  split at selected
  · next name entity reference =>
      simp only [reference] at selected'
      split at selected
      · next many =>
          rw [if_pos many] at selected'
          cases selected
          cases selected'
          rfl
      · next single =>
          rw [if_neg single] at selected'
          obtain ⟨target, filed, rest⟩ := bind_eq_ok.1 selected
          obtain ⟨target', filed', rest'⟩ := bind_eq_ok.1 selected'
          cases rest
          cases rest'
          have arises := (Descriptor.IsClassOf.read made).made.arises p listed _ reference
          obtain ⟨f, field, related⟩ := arises.exists_relation rfl
          rw [plainNames_congr (agree.shapes h h' field related filed filed')]
  · next other =>
      split at selected'
      · next name entity reference => exact absurd reference (other _ _)
      · cases selected
        cases selected'
        rfl

/-- What is selected of the entity is the same in both schemas. -/
theorem AgreeOn.selection_eq (agree : schema.AgreeOn schema' e e') (h : schema.Prepared naming classes byName)
    (h' : schema'.Prepared naming classes' byName') {d : Descriptor} (made : entityDescriptor e schema.ids = .ok d)
    {v v' : Value} (selected : d.selection classes = .ok v) (selected' : d.selection classes' = .ok v') : v' = v := by
  obtain ⟨xs, steps, rest⟩ := bind_eq_ok.1 selected
  obtain ⟨xs', steps', rest'⟩ := bind_eq_ok.1 selected'
  have same : d.properties.mapM (selectProperty classes') = d.properties.mapM (selectProperty classes) := by
    refine mapM_congr fun p listed => ?_
    obtain ⟨x, -, step⟩ := mem_results_of_mapM_eq_ok steps listed
    obtain ⟨x', -, step'⟩ := mem_results_of_mapM_eq_ok steps' listed
    rw [step, step', agree.selectProperty_eq h h' made listed step step']
  rw [steps, steps'] at same
  cases same
  cases rest
  cases rest'
  rfl

/-- The relations of the entity look the same in both schemas. -/
theorem AgreeOn.relation_alike (agree : schema.AgreeOn schema' e e') (h : schema.Prepared naming classes byName)
    (h' : schema'.Prepared naming classes' byName') {f : Field} (field : f ∈ e.relationFields) {r r' : Relation}
    (made : Controller.relationOf e schema.ids classes byName f = .ok r)
    (made' : Controller.relationOf e schema'.ids classes' byName' f = .ok r') : r.Alike r' := by
  obtain ⟨rfl, t, member, related, name, read⟩ := h.relationOf_eq_ok.1 made
  obtain ⟨sameField, t', member', related', name', read'⟩ := h'.relationOf_eq_ok.1 made'
  rw [agree.related _ field, related] at related'
  have sameName : t'.name = t.name := (Except.ok.inj related').symm
  have shapes := entityDescriptor_shapes read read' (agree.targets _ field t member t' member' related sameName)
  refine ⟨sameField, ?_, ?_, ?_⟩
  · rw [sameName, name] at name'
    exact (Value.text.inj name').symm
  · rw [name_of_entityDescriptor read', name_of_entityDescriptor read, sameName]
  · rw [Relation.selection, Relation.selection, scalarNames_congr shapes]

/-- The controllers of the entity are the same in both schemas. -/
theorem AgreeOn.controllerModule_eq (agree : schema.AgreeOn schema' e e') (h : schema.Prepared naming classes byName)
    (h' : schema'.Prepared naming classes' byName') {m m' : SourceModule} (made : schema.controllerModule naming e = .ok m)
    (made' : schema'.controllerModule naming e = .ok m') : m' = m := by
  obtain ⟨name, text⟩ := h.text agree.member
  rw [h.controllerModule_eq text] at made
  rw [h'.controllerModule_eq text, agree.related.inputDescriptors] at made'
  obtain ⟨inputs, inputsMade, made⟩ := bind_eq_ok.1 made
  rw [inputsMade, ok_bind] at made'
  obtain ⟨c, controllerMade, rendered⟩ := bind_eq_ok.1 made
  obtain ⟨c', controllerMade', rendered'⟩ := bind_eq_ok.1 made'
  obtain ⟨read, filed, rest⟩ := bind_eq_ok.1 controllerMade
  obtain ⟨read', filed', rest'⟩ := bind_eq_ok.1 controllerMade'
  -- the class that is read of the entity is the same
  have described : entityDescriptor e schema.ids = .ok read := by
    obtain ⟨t, member, same, described⟩ := h.lookup_eq_ok.1 filed
    rwa [h.eq_of_name_eq member agree.member same] at described
  have described' : entityDescriptor e' schema'.ids = .ok read' := by
    obtain ⟨t, member, same, described⟩ := h'.lookup_eq_ok.1 filed'
    rwa [h'.eq_of_name_eq member agree.member' (same.trans agree.name.symm)] at described
  have sameRead : read' = read := by
    rw [agree.eq_withId] at described'
    have same : entityDescriptor e schema'.ids = entityDescriptor e schema.ids := agree.related.descriptor .entity
    have both : entityDescriptor e schema'.ids = .ok read' := described'
    rw [same, described] at both
    exact (Except.ok.inj both).symm
  subst sameRead
  rw [text, Value.asText_text, ok_bind] at rest rest'
  obtain ⟨relations, related, rest⟩ := bind_eq_ok.1 rest
  obtain ⟨relations', related', rest'⟩ := bind_eq_ok.1 rest'
  obtain ⟨select, selected, rest⟩ := bind_eq_ok.1 rest
  obtain ⟨select', selected', rest'⟩ := bind_eq_ok.1 rest'
  have sameSelect : select' = select := agree.selection_eq h h' described selected selected'
  subst sameSelect
  have sameController : c' = { c with relations := relations' } := by
    cases rest
    cases rest'
    rfl
  have alike : List.Forall₂ Relation.Alike c.relations relations' := by
    cases rest
    have fields := (List.forall₂_and_left _ _).2 ⟨fun _ listed => listed, mapM_eq_ok.1 related⟩
    refine (forall₂_comp fields.flip (mapM_eq_ok.1 related')).imp ?_
    rintro r r' ⟨f, ⟨field, made⟩, made'⟩
    exact agree.relation_alike h h' field made made'
  rw [sameController, Controller.toModule_congr alike, rendered] at rendered'
  exact (Except.ok.inj rendered').symm

/-- The modules of the entity are the same in both schemas. -/
theorem AgreeOn.entityModules_eq (agree : schema.AgreeOn schema' e e') (h : schema.Prepared naming classes byName)
    (h' : schema'.Prepared naming classes' byName') {p p' : EntityModules} (made : schema.entityModules naming e = .ok p)
    (made' : schema'.entityModules naming e' = .ok p') : p' = p := by
  rw [agree.eq_withId, entityModules_withId] at made'
  have controller : schema'.controllerModule naming e = schema.controllerModule naming e := by
    have rendered := (EntityModules.made made).controller
    have rendered' := (EntityModules.made made').controller
    rw [rendered, rendered', agree.controllerModule_eq h h' rendered rendered']
  have same : schema'.entityModules naming e = schema.entityModules naming e := by
    simp only [entityModules, agree.related.classModule, agree.related.testModule, controller]
  rw [same, made] at made'
  exact (Except.ok.inj made').symm

/-- Two generations of schemas that agree on an entity give it the same modules. -/
theorem generate_local {modules' : List SourceModule} (agree : schema.AgreeOn schema' e e')
    (returned : (schema.generate naming).outcome = .ok modules)
    (returned' : (schema'.generate naming).outcome = .ok modules') :
    ∃ parts parts', schema.LaidOut naming parts modules ∧ schema'.LaidOut naming parts' modules' ∧ parts' e' = parts e := by
  obtain ⟨parts, laidOut⟩ := generate_eq_ok_iff.1 returned
  obtain ⟨parts', laidOut'⟩ := generate_eq_ok_iff.1 returned'
  obtain ⟨classes, byName, prepared⟩ := laidOut.prepared
  obtain ⟨classes', byName', prepared'⟩ := laidOut'.prepared
  have same := agree.entityModules_eq prepared prepared' (laidOut.made e agree.member) (laidOut'.made e' agree.member')
  exact ⟨parts, parts', laidOut, laidOut', same⟩

/-- An author, whose home is given by the id `home`. -/
def author : Entity :=
  { name := .text "Author"
    id := .text "author"
    fields :=
      [{ name := .text "name", dataType := .singleLineText, required := true, unique := true, searchable := true
         properties := [] },
       { name := .text "home", dataType := .lookup, required := false, unique := false, searchable := true
         properties := [(.text "relatedEntityId", .text "home")] }] }

/-- A book, which has an author. -/
def book : Entity :=
  { name := .text "Book"
    id := .text "book"
    fields :=
      [{ name := .text "title", dataType := .singleLineText, required := true, unique := true, searchable := true
         properties := [] },
       { name := .text "author", dataType := .lookup, required := true, unique := false, searchable := true
         properties := [(.text "relatedEntityId", .text "author")] }] }

/-- A library, in which authors live in cities. -/
def library : Schema :=
  { entities := [book, author, { name := .text "City", id := .text "home", fields := [] }]
    ids := [(.text "author", .text "Author"), (.text "home", .text "City")] }

/-- A school, in which authors live in countries. -/
def school : Schema :=
  { entities :=
      [{ name := .text "Country", id := .text "home", fields := [] }, author,
       { name := .text "Pupil", id := .text "pupil", fields := [] }, book]
    ids := [(.text "home", .text "Country"), (.text "author", .text "Author")] }

/-- The books of the library and of the school lead to authors with the same fields. -/
theorem library_agreeOn_school : library.AgreeOn school book book where
  member := by simp [library]
  member' := by simp [school]
  name := rfl
  fields := rfl
  related := by
    intro f field
    rw [List.mem_singleton.1 field]
    rfl
  targets := by
    intro f field t member t' member' related name'
    rw [List.mem_singleton.1 field] at related
    have name : t.name = .text "Author" := (Except.ok.inj related).symm
    rw [name] at name'
    have inLibrary : ∀ t ∈ library.entities, t.name = .text "Author" → t = author := by simp [library, book]
    have inSchool : ∀ t ∈ school.entities, t.name = .text "Author" → t = author := by simp [school, book]
    rw [inLibrary t member name, inSchool t' member' name']

/-- The library and the school have the same modules of books. -/
theorem library_school_books : library.AgreeOn school book book ∧ ∃ modules modules' parts parts',
    (library.generate ResourceNaming.derive).outcome = .ok modules ∧
    (school.generate ResourceNaming.derive).outcome = .ok modules' ∧
    library.LaidOut ResourceNaming.derive parts modules ∧ school.LaidOut ResourceNaming.derive parts' modules' ∧
    parts' book = parts book := by
  obtain ⟨modules, returned⟩ := isOk_iff.1 (rfl : (library.generate ResourceNaming.derive).outcome.isOk = true)
  obtain ⟨modules', returned'⟩ := isOk_iff.1 (rfl : (school.generate ResourceNaming.derive).outcome.isOk = true)
  obtain ⟨parts, parts', laidOut, laidOut', same⟩ := generate_local library_agreeOn_school returned returned'
  exact ⟨library_agreeOn_school, modules, modules', parts, parts', returned, returned', laidOut, laidOut', same⟩

end Schema

end ResourceScaffold
