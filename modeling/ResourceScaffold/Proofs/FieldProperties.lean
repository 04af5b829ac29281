import ResourceScaffold.Proofs.KeyFields

/-!
# The properties of a field in the five classes

Each of the five classes of an entity is built from its own choice of the fields, by its own rules. They describe the same
fields all the same:

* `Descriptor.Describes d e kept`: the class `d` has one property for each field of `e` that is kept, in order, and this is the
  property that is found under the name of the field (`Descriptor.propertyOf?`);
* `inputDescriptors_coheres`: once the five classes are built, each describes its fields; what updates an entity is what
  creates it with all properties optional; and the types, references and lists of the properties of a field agree, those of
  a relation up to the suffix of the class of its target;
* `createDescriptor_requires`: the class that creates an entity requires the required fields, except relations to many
  entities, which may always be left out.
-/

namespace ResourceScaffold

variable {e : Entity} {f : Field} {ids : Entries} {d read : Descriptor} {inputs : InputDescriptors} {p q : Property}
  {kept : Field → Bool} {R : Field → Property → Prop}

/-! ## The property of a field -/

/-- The property that a class has under the name of a field. -/
def Descriptor.propertyOf? (d : Descriptor) (f : Field) : Option Property :=
  f.name.text?.bind d.get?

/-- The class has one property for each field that is kept, in order and under the name of the field. The names are different,
so the property of a field is found under its name, and none is found for the other fields. -/
structure Descriptor.Describes (d : Descriptor) (e : Entity) (kept : Field → Bool) : Prop where
  names : d.propertyNames = (e.fields.filter kept).map Field.name
  sublist : d.propertyNames.Sublist (e.fields.map Field.name)
  distinct : d.propertyNames.Nodup
  found : ∀ f ∈ e.fields,
    if kept f then ∃ p ∈ d.properties, p.name = f.name ∧ d.propertyOf? f = some p else d.propertyOf? f = none

/-- The comparison with a text holds of that text alone. -/
theorem Value.isText_eq_true_iff {v : Value} {s : String} : v.isText s = true ↔ v = .text s := by
  cases v with
  | text t => simp
  | _ => simp [isText]

/-- A property that is found has the name. -/
theorem Descriptor.mem_of_get? {s : String} (found : d.get? s = some p) : p ∈ d.properties ∧ p.name = .text s := by
  unfold get? at found
  have name : p.name.isText s = true := by simpa using List.find?_some found
  exact ⟨List.mem_of_find?_eq_some found, Value.isText_eq_true_iff.1 name⟩

/-- Of properties with different names, each is found under its name. -/
theorem Descriptor.get?_of_mem {s : String} (distinct : d.propertyNames.Nodup) (member : p ∈ d.properties)
    (name : p.name = .text s) : d.get? s = some p := by
  cases found : d.get? s with
  | none =>
      have absent := List.find?_eq_none.1 found p member
      exact absurd (Value.isText_eq_true_iff.2 name) absent
  | some q =>
      obtain ⟨member', name'⟩ := mem_of_get? found
      rw [List.inj_on_of_nodup_map distinct member member' (name.trans name'.symm)]

/-- The property that is found for a field is one that was made from it. -/
theorem made_of_propertyOf? (made : entityDescriptor e ids = .ok read)
    (steps : List.Forall₂ R (e.fields.filter kept) d.properties) (named : ∀ f p, R f p → p.name = f.name)
    (member : f ∈ e.fields) (found : d.propertyOf? f = some p) : kept f = true ∧ R f p := by
  obtain ⟨s, text⟩ := exists_text_of_field made member
  rw [Descriptor.propertyOf?, text, Value.text?, Option.bind_some] at found
  obtain ⟨inClass, name⟩ := Descriptor.mem_of_get? found
  obtain ⟨g, listed, step⟩ := exists_left_of_forall₂ steps inClass
  obtain ⟨member', passes⟩ := List.mem_filter.1 listed
  -- two fields with the name of the property would be one
  have same : g.name = f.name := by rw [← named g p step, name, text]
  have identical : g = f := List.inj_on_of_nodup_map (fieldNames_nodup made) member' member same
  exact identical ▸ ⟨passes, step⟩

/-- A class whose properties are made from the fields that are kept, one from each, describes these. -/
theorem Descriptor.describes_of_forall₂ (made : entityDescriptor e ids = .ok read)
    (steps : List.Forall₂ R (e.fields.filter kept) d.properties) (named : ∀ f p, R f p → p.name = f.name) :
    d.Describes e kept := by
  have names : d.propertyNames = (e.fields.filter kept).map Field.name :=
    (map_eq_map_of_forall₂ steps fun f p step => (named f p step).symm).symm
  have sublist : d.propertyNames.Sublist (e.fields.map Field.name) := names ▸ List.filter_sublist.map Field.name
  have distinct : d.propertyNames.Nodup := sublist.nodup (fieldNames_nodup made)
  refine ⟨names, sublist, distinct, fun f member => ?_⟩
  split
  · next keep =>
      obtain ⟨s, text⟩ := exists_text_of_field made member
      obtain ⟨p, inClass, step⟩ := exists_right_of_forall₂ steps (List.mem_filter.2 ⟨member, keep⟩)
      have name : p.name = f.name := named f p step
      refine ⟨p, inClass, name, ?_⟩
      rw [propertyOf?, text, Value.text?, Option.bind_some]
      exact get?_of_mem distinct inClass (name.trans text)
  · next leave =>
      rw [Option.eq_none_iff_forall_ne_some]
      intro p found
      exact leave (made_of_propertyOf? made steps named member found).1

/-! ## How the classes are made -/

/-- Every field of the entity has its property in the entity's class, in order. -/
theorem forall₂_of_entityDescriptor (made : entityDescriptor e ids = .ok d) :
    List.Forall₂ (fun f p => readProperty e ids f = .ok p) (e.fields.filter fun _ => true) d.properties := by
  obtain ⟨properties, steps, rest⟩ := bind_eq_ok.1 made
  cases rest
  rw [List.filter_true]
  exact mapM_eq_ok.1 steps

/-- Every editable field has its property in the create class, in order. -/
theorem forall₂_of_createDescriptor (made : createDescriptor e ids = .ok d) :
    List.Forall₂ (fun f p => writeProperty e ids false f = .ok p) (e.fields.filter Field.isEditable) d.properties := by
  obtain ⟨properties, steps, rest⟩ := bind_eq_ok.1 made
  cases rest
  exact mapM_eq_ok.1 steps

/-- Every editable field has its property in the update class, in order. -/
theorem forall₂_of_updateDescriptor (made : updateDescriptor e ids = .ok d) :
    List.Forall₂ (fun f p => writeProperty e ids true f = .ok p) (e.fields.filter Field.isEditable) d.properties := by
  obtain ⟨properties, steps, rest⟩ := bind_eq_ok.1 made
  cases rest
  exact mapM_eq_ok.1 steps

/-- Every filterable field has its property in the filter class, in order. -/
theorem forall₂_of_whereDescriptor (made : whereDescriptor e ids = .ok d) :
    List.Forall₂ (fun f p => whereProperty e ids f = .ok p) (e.fields.filter Field.isFilterable) d.properties := by
  obtain ⟨properties, steps, rest⟩ := bind_eq_ok.1 made
  cases rest
  exact mapM_eq_ok.1 steps

/-- Every identifying field that can be filtered has its property in the lookup class, in order. -/
theorem forall₂_of_whereUniqueDescriptor (made : whereUniqueDescriptor e = .ok d) :
    List.Forall₂ (fun f p => whereUniqueProperty f = .ok p) (e.fields.filter fun f => f.isFilterable && f.isIdentifying)
      d.properties := by
  obtain ⟨properties, steps, rest⟩ := bind_eq_ok.1 made
  cases rest
  exact mapM_eq_ok.1 steps

/-! ## What updates an entity -/

/-- A property of which nothing is required. -/
def Property.asOptional (p : Property) : Property :=
  { p with optional := true }

/-- Where all is optional, the property that is written is the same but for that. -/
theorem writeProperty_asOptional (h : writeProperty e ids false f = .ok p) :
    writeProperty e ids true f = .ok p.asOptional := by
  unfold writeProperty at h ⊢
  cases kind : f.kind with
  | scalar t =>
      simp only [kind] at h ⊢
      cases h
      rfl
  | enumeration many =>
      simp only [kind] at h ⊢
      obtain ⟨name, named, rest⟩ := bind_eq_ok.1 h
      cases rest
      rw [enumProperty, named]
      rfl
  | relation =>
      simp only [kind] at h ⊢
      obtain ⟨target, related, rest⟩ := bind_eq_ok.1 h
      cases rest
      rw [relationProperty, related]
      rfl

/-- The class that updates an entity is the one that creates it with all properties optional, under its own name. -/
theorem updateDescriptor_of_createDescriptor (created : createDescriptor e ids = .ok d) :
    updateDescriptor e ids = .ok { d with
      name := e.nameWith "UpdateInput"
      kind := .updateInput
      properties := d.properties.map Property.asOptional } := by
  have steps := (forall₂_of_createDescriptor created).imp fun f p => writeProperty_asOptional
  have isClass : Descriptor.IsClassOf ids e d := .create created
  have entity : d.entity = e.name := isClass.made.entity
  rw [updateDescriptor, mapM_eq_ok.2 (List.forall₂_map_right_iff.2 steps), ok_bind, entity]
  rfl

/-! ## Two properties of a field -/

/-- The property leads to the class with a suffix of the target, and the target owns this class. -/
structure Property.LeadsTo (p : Property) (target : Value) (suffix : String) (kind : ReferenceKind) : Prop where
  type : p.type = .text (target.display ++ suffix)
  reference : p.reference = some { name := .text (target.display ++ suffix), kind, entity := target }

variable {form : PropertyForm}

/-- A scalar is given as it is where entities are not filtered. -/
theorem Field.Gives.eq_scalar {t : ScalarType} (h : f.Gives ids e form p) (kind : f.kind = .scalar t)
    (other : form.other ≠ .whereInput) : p = scalarProperty f t form.optional := by
  cases h with
  | filter _ filters => exact absurd filters other
  | enumeration kind' | relation kind' =>
      rw [kind] at kind'
      cases kind'
  | scalar kind' =>
      rw [kind] at kind'
      cases kind'
      rfl

/-- An enumeration is given by its name in every class. -/
theorem Field.Gives.eq_enumeration {many : Bool} (h : f.Gives ids e form p) (kind : f.kind = .enumeration many) :
    ∃ name, enumName e f = .ok name ∧ p.type = name ∧ p.isList = many ∧
      p.reference = some { name, kind := .enumeration, entity := e.name } := by
  cases h with
  | scalar kind' | filter kind' | relation kind' =>
      rw [kind] at kind'
      cases kind'
  | enumeration kind' named =>
      rw [kind] at kind'
      cases kind'
      exact ⟨_, named, rfl, rfl, rfl⟩

/-- A relation is given by a class of its target. -/
theorem Field.Gives.leadsTo (h : f.Gives ids e form p) (kind : f.kind = .relation) :
    ∃ target, relatedName e f ids = .ok target ∧ p.LeadsTo target form.other.suffix form.other.reference ∧
      p.isList = form.relationIsList := by
  cases h with
  | scalar kind' | filter kind' | enumeration kind' =>
      rw [kind] at kind'
      cases kind'
  | relation _ found => exact ⟨_, found, ⟨rfl, rfl⟩, rfl⟩

/-- What creates an entity agrees with what is read of it about a field. -/
theorem writeProperty_agrees {allOptional : Bool} (reads : readProperty e ids f = .ok p)
    (writes : writeProperty e ids allOptional f = .ok q) :
    q.isList = p.isList ∧
      if f.isRelation then ∃ target, p.LeadsTo target "" .entity ∧ q.LeadsTo target "WhereUniqueInput" .whereUnique
      else q.type = p.type ∧ q.reference = p.reference := by
  have given := readProperty_gives reads
  have given' := writeProperty_gives writes
  unfold Field.isRelation
  cases kind : f.kind with
  | scalar t =>
      rw [given.eq_scalar kind DescriptorKind.noConfusion, given'.eq_scalar kind DescriptorKind.noConfusion]
      exact ⟨rfl, rfl, rfl⟩
  | enumeration many =>
      obtain ⟨name, named, type, list, reference⟩ := given.eq_enumeration kind
      obtain ⟨name', named', type', list', reference'⟩ := given'.eq_enumeration kind
      have same : name' = name := Except.ok.inj (named'.symm.trans named)
      exact ⟨list'.trans list.symm, by rw [type', type, same], by rw [reference', reference, same]⟩
  | relation =>
      obtain ⟨target, related, leads, list⟩ := given.leadsTo kind
      obtain ⟨target', related', leads', list'⟩ := given'.leadsTo kind
      have same : target' = target := Except.ok.inj (related'.symm.trans related)
      exact ⟨list'.trans list.symm, target, leads, same ▸ leads'⟩

/-- What filters entities agrees with what is read of them about an enumeration and about a relation. -/
theorem whereProperty_agrees (reads : readProperty e ids f = .ok p) (filters : whereProperty e ids f = .ok q) :
    (f.isEnumeration = true → q.type = p.type ∧ q.reference = p.reference ∧ q.isList = p.isList) ∧
      (f.isRelation = true → ∃ target, p.LeadsTo target "" .entity ∧ q.LeadsTo target "WhereInput" .whereInput) := by
  have given := readProperty_gives reads
  have given' := whereProperty_gives filters
  constructor
  · intro enumerates
    obtain ⟨many, kind⟩ := Field.exists_kind_of_isEnumeration enumerates
    obtain ⟨name, named, type, list, reference⟩ := given.eq_enumeration kind
    obtain ⟨name', named', type', list', reference'⟩ := given'.eq_enumeration kind
    have same : name' = name := Except.ok.inj (named'.symm.trans named)
    exact ⟨by rw [type', type, same], by rw [reference', reference, same], list'.trans list.symm⟩
  · intro relates
    have kind := Field.kind_of_isRelation relates
    obtain ⟨target, related, leads, -⟩ := given.leadsTo kind
    obtain ⟨target', related', leads', -⟩ := given'.leadsTo kind
    have same : target' = target := Except.ok.inj (related'.symm.trans related)
    exact ⟨target, leads, same ▸ leads'⟩

/-! ## The five classes -/

/-- The five classes of an entity describe the same fields. -/
structure Entity.Coheres (e : Entity) (d : Descriptor) (inputs : InputDescriptors) : Prop where
  read : d.Describes e fun _ => true
  create : inputs.createInput.Describes e Field.isEditable
  update : inputs.updateInput.Describes e Field.isEditable
  filter : inputs.whereInput.Describes e Field.isFilterable
  identify : inputs.whereUniqueInput.Describes e fun f => f.isFilterable && f.isIdentifying
  /-- What updates an entity is what creates it, with nothing but its name, its kind and what is optional changed. -/
  partly : inputs.updateInput = { inputs.createInput with
    name := e.nameWith "UpdateInput"
    kind := .updateInput
    properties := inputs.createInput.properties.map fun p => { p with optional := true } }
  /-- What creates an entity has a list where what is read has one. A scalar or an enumeration has the same type, and a relation
  is to the class that identifies the entity of which the other is read. -/
  written : ∀ f ∈ e.fields, ∀ p q, d.propertyOf? f = some p → inputs.createInput.propertyOf? f = some q →
    q.isList = p.isList ∧
      if f.isRelation then ∃ target, p.LeadsTo target "" .entity ∧ q.LeadsTo target "WhereUniqueInput" .whereUnique
      else q.type = p.type ∧ q.reference = p.reference
  /-- What filters entities has the same enumerations as what is read, and a relation is to the class that filters the entity of
  which the other is read. -/
  filtered : ∀ f ∈ e.fields, ∀ p q, d.propertyOf? f = some p → inputs.whereInput.propertyOf? f = some q →
    (f.isEnumeration = true → q.type = p.type ∧ q.reference = p.reference ∧ q.isList = p.isList) ∧
      (f.isRelation = true → ∃ target, p.LeadsTo target "" .entity ∧ q.LeadsTo target "WhereInput" .whereInput)

/-- The five classes of an entity, once they are built, describe the same fields. -/
theorem inputDescriptors_coheres (made : entityDescriptor e ids = .ok read) (inputsMade : inputDescriptors e ids = .ok inputs) :
    e.Coheres read inputs := by
  obtain ⟨create, update, filter, identify⟩ := inputDescriptors_eq_ok.1 inputsMade
  have reads := forall₂_of_entityDescriptor made
  have creates := forall₂_of_createDescriptor create
  have filters := forall₂_of_whereDescriptor filter
  have readName (f : Field) (p : Property) (step : readProperty e ids f = .ok p) := (readProperty_gives step).ofField.name
  have createName (f : Field) (p : Property) (step : writeProperty e ids false f = .ok p) :=
    (writeProperty_gives step).ofField.name
  have filterName (f : Field) (p : Property) (step : whereProperty e ids f = .ok p) := (whereProperty_gives step).ofField.name
  constructor
  case read => exact Descriptor.describes_of_forall₂ made reads readName
  case create => exact Descriptor.describes_of_forall₂ made creates createName
  case update =>
    exact Descriptor.describes_of_forall₂ made (forall₂_of_updateDescriptor update) fun f p step =>
      (writeProperty_gives step).ofField.name
  case filter => exact Descriptor.describes_of_forall₂ made filters filterName
  case identify =>
    exact Descriptor.describes_of_forall₂ made (forall₂_of_whereUniqueDescriptor identify) fun f p step =>
      (whereUniqueProperty_ofField step).2.name
  case partly =>
    rw [updateDescriptor_of_createDescriptor create] at update
    exact (Except.ok.inj update).symm
  case written =>
    intro f member p q inRead inCreate
    obtain ⟨-, readStep⟩ := made_of_propertyOf? made reads readName member inRead
    obtain ⟨-, createStep⟩ := made_of_propertyOf? made creates createName member inCreate
    exact writeProperty_agrees readStep createStep
  case filtered =>
    intro f member p q inRead inFilter
    obtain ⟨-, readStep⟩ := made_of_propertyOf? made reads readName member inRead
    obtain ⟨-, filterStep⟩ := made_of_propertyOf? made filters filterName member inFilter
    exact whereProperty_agrees readStep filterStep

/-- A course has scalars of the server and of clients, enumerations with one and with many options, and required relations to
one and to many people. -/
def Entity.course : Entity :=
  let field (name : String) (dataType : DataType) (required : Bool) (properties : Entries) : Field :=
    { name := .text name, dataType, required, unique := false, searchable := true, properties }
  { name := .text "Course"
    id := .null
    fields :=
      [field "id" .id true [], field "title" .singleLineText true [], field "outline" .json false [],
        field "level" .optionSet true [(.text "options", .list [.text "basic", .text "advanced"])],
        field "days" .multiSelectOptionSet false [(.text "enumName", .text "Weekday")],
        field "teacher" .lookup true [(.text "relatedEntityId", .text "person")],
        field "students" .lookup true
          [(.text "relatedEntityId", .text "person"), (.text "allowMultipleSelection", .bool true)],
        field "updatedAt" .updatedAt true []] }

/-- The lookup of courses leads to people. -/
def courseIds : Entries :=
  [(.text "person", .text "Person")]

/-- The classes of a course describe its fields by different types for relations and the same for enumerations. -/
theorem Entity.course_coheres : ∃ d inputs, entityDescriptor course courseIds = .ok d ∧
    inputDescriptors course courseIds = .ok inputs ∧
    d.properties.map (fun p => p.type.display) = ["str", "str", "Dict[str, Any]", "EnumCourseLevel", "Weekday", "Person",
      "Person", "datetime"] ∧
    inputs.createInput.properties.map (fun p => p.type.display) = ["str", "Dict[str, Any]", "EnumCourseLevel", "Weekday",
      "PersonWhereUniqueInput", "PersonWhereUniqueInput"] ∧
    inputs.whereInput.properties.map (fun p => p.type.display) = ["StringFilter", "StringFilter", "EnumCourseLevel", "Weekday",
      "PersonWhereInput", "PersonWhereInput", "DateTimeFilter"] ∧
    course.Coheres d inputs := by
  obtain ⟨d, made⟩ := isOk_iff.1 (show (entityDescriptor course courseIds).isOk = true from rfl)
  obtain ⟨inputs, inputsMade⟩ := isOk_iff.1 (show (inputDescriptors course courseIds).isOk = true from rfl)
  have readTypes : (entityDescriptor course courseIds).map (fun d => d.properties.map fun p => p.type.display) =
      .ok ["str", "str", "Dict[str, Any]", "EnumCourseLevel", "Weekday", "Person", "Person", "datetime"] := rfl
  have inputTypes : (inputDescriptors course courseIds).map (fun inputs =>
      (inputs.createInput.properties.map (fun p => p.type.display), inputs.whereInput.properties.map fun p => p.type.display)) =
      .ok (["str", "Dict[str, Any]", "EnumCourseLevel", "Weekday", "PersonWhereUniqueInput", "PersonWhereUniqueInput"],
        ["StringFilter", "StringFilter", "EnumCourseLevel", "Weekday", "PersonWhereInput", "PersonWhereInput",
          "DateTimeFilter"]) := rfl
  rw [made] at readTypes
  rw [inputsMade] at inputTypes
  obtain ⟨createTypes, whereTypes⟩ := Prod.mk.inj (Except.ok.inj inputTypes)
  exact ⟨d, inputs, made, inputsMade, Except.ok.inj readTypes, createTypes, whereTypes,
    inputDescriptors_coheres made inputsMade⟩

/-! ## What the class that creates an entity requires -/

/-- The property of a field in the class that creates an entity is required iff the field is, unless it is a relation to many
entities. -/
theorem writeProperty_requires (h : writeProperty e ids false f = .ok p) :
    p.name = f.name ∧ (p.optional = false ↔ f.required = true ∧ ¬(f.isRelation = true ∧ f.isToMany = true)) := by
  unfold Field.isRelation
  cases writeProperty_gives h with
  | filter _ filters => cases filters
  | scalar kind | enumeration kind =>
      rw [kind]
      simp [Field.writeForm, scalarProperty]
  | relation kind =>
      rw [kind]
      simp [Field.writeForm]

/-- Clients may set what is no id and no time of creation or change. -/
theorem Field.isEditable_eq (f : Field) : f.isEditable = decide (f.dataType ∉ [.id, .createdAt, .updatedAt]) := by
  unfold isEditable
  cases f.dataType <;> rfl

/-- The class that creates an entity has one property for each field that is no id and no time of creation or change, in order.
It is required iff the field is, unless the field is a relation to many entities: that may always be left out. -/
theorem createDescriptor_requires (created : createDescriptor e ids = .ok d) :
    List.Forall₂ (fun f p => p.name = f.name ∧
        (p.optional = false ↔ f.required = true ∧ ¬(f.isRelation = true ∧ f.isToMany = true)))
      (e.fields.filter fun f => f.dataType ∉ [.id, .createdAt, .updatedAt]) d.properties := by
  have steps := forall₂_of_createDescriptor created
  rw [List.filter_congr fun f _ => f.isEditable_eq] at steps
  exact steps.imp fun _ _ => writeProperty_requires

/-- A course is created from its title, its level and its teacher; the other properties may be left out. -/
theorem Entity.course_requires : ∃ d, createDescriptor course courseIds = .ok d ∧
    List.Forall₂ (fun f p => p.name = f.name ∧
        (p.optional = false ↔ f.required = true ∧ ¬(f.isRelation = true ∧ f.isToMany = true)))
      (course.fields.filter fun f => f.dataType ∉ [.id, .createdAt, .updatedAt]) d.properties ∧
    (d.properties.filter fun p => !p.optional).map Property.name = [.text "title", .text "level", .text "teacher"] ∧
    (d.properties.filter Property.optional).map Property.name = [.text "outline", .text "days", .text "students"] := by
  obtain ⟨d, created⟩ := isOk_iff.1 (show (createDescriptor course courseIds).isOk = true from rfl)
  have names : (createDescriptor course courseIds).map (fun d =>
      ((d.properties.filter fun p => !p.optional).map Property.name, (d.properties.filter Property.optional).map Property.name)) =
      .ok ([.text "title", .text "level", .text "teacher"], [.text "outline", .text "days", .text "students"]) := rfl
  rw [created] at names
  obtain ⟨required, optional⟩ := Prod.mk.inj (Except.ok.inj names)
  exact ⟨d, created, createDescriptor_requires created, required, optional⟩

/-- The students of a course are required, and yet a course is created without them. -/
theorem Entity.course_students_optional : ∃ d, createDescriptor course courseIds = .ok d ∧
    ¬List.Forall₂ (fun f p => p.name = f.name ∧ (p.optional = false ↔ f.required = true))
      (course.fields.filter fun f => f.dataType ∉ [.id, .createdAt, .updatedAt]) d.properties := by
  obtain ⟨d, created⟩ := isOk_iff.1 (show (createDescriptor course courseIds).isOk = true from rfl)
  refine ⟨d, created, fun required => ?_⟩
  have made : (createDescriptor course courseIds).map (fun d => d.properties.map fun p => !p.optional) =
      .ok [true, false, true, false, true, false] := rfl
  rw [created] at made
  have flags : (d.properties.map fun p => !p.optional) = [true, false, true, false, true, false] := Except.ok.inj made
  -- if the properties were required as the fields are, the flags would be those of the fields
  have same : (course.fields.filter fun f => f.dataType ∉ [.id, .createdAt, .updatedAt]).map Field.required =
      d.properties.map fun p => !p.optional := by
    refine map_eq_map_of_forall₂ required fun f p both => ?_
    cases optional : p.optional with
    | false => exact both.2.1 optional
    | true => simpa [optional] using both.2
  rw [flags] at same
  exact absurd same (by decide)

end ResourceScaffold
