import ResourceScaffold.Batch
import ResourceScaffold.Proofs.Outcome

/-!
# The classes of an entity and what they refer to

`Descriptor.IsClassOf ids e d` says that `d` is one of the five data classes of the entity `e`. Its name is that of the
entity with a suffix for its kind, and a reference of one of its properties arises in one of three ways
(`Reference.Arises`): from a relation field, from an enumeration field, or from the filter of a scalar.
-/

namespace ResourceScaffold

/-! ## The five classes -/

/-- The suffix of the names of classes of a kind. -/
def DescriptorKind.suffix : DescriptorKind → String
  | entity => ""
  | createInput => "CreateInput"
  | updateInput => "UpdateInput"
  | whereInput => "WhereInput"
  | whereUniqueInput => "WhereUniqueInput"

/-- The kind of classes that classes of a kind refer to for a relation; what identifies an entity refers to none. -/
def DescriptorKind.target? : DescriptorKind → Option DescriptorKind
  | entity => some .entity
  | createInput | updateInput => some .whereUniqueInput
  | whereInput => some .whereInput
  | whereUniqueInput => none

/-- The kind of references to classes of a kind. -/
def DescriptorKind.reference : DescriptorKind → ReferenceKind
  | entity => .entity
  | whereInput => .whereInput
  | createInput | updateInput | whereUniqueInput => .whereUnique

/-- One of the five classes of an entity. -/
inductive Descriptor.IsClassOf (ids : Entries) (e : Entity) : Descriptor → Prop where
  | read {d : Descriptor} (made : entityDescriptor e ids = .ok d) : IsClassOf ids e d
  | create {d : Descriptor} (made : createDescriptor e ids = .ok d) : IsClassOf ids e d
  | update {d : Descriptor} (made : updateDescriptor e ids = .ok d) : IsClassOf ids e d
  | filter {d : Descriptor} (made : whereDescriptor e ids = .ok d) : IsClassOf ids e d
  | identify {d : Descriptor} (made : whereUniqueDescriptor e = .ok d) : IsClassOf ids e d

/-- The kinds are all listed. -/
theorem DescriptorKind.mem_all (kind : DescriptorKind) : kind ∈ all := by
  cases kind <;> decide

variable {ids : Entries} {e : Entity} {f : Field} {d : Descriptor} {p : Property} {r : Reference}

/-- The four classes of the operations are made one after the other. -/
theorem inputDescriptors_eq_ok {inputs : InputDescriptors} :
    inputDescriptors e ids = .ok inputs ↔
      createDescriptor e ids = .ok inputs.createInput ∧ updateDescriptor e ids = .ok inputs.updateInput ∧
      whereDescriptor e ids = .ok inputs.whereInput ∧ whereUniqueDescriptor e = .ok inputs.whereUniqueInput := by
  simp only [inputDescriptors, bind_eq_ok, pure_eq_ok, Except.ok.injEq]
  constructor
  · rintro ⟨create, h₁, update, h₂, filter, h₃, unique, h₄, rfl⟩
    exact ⟨h₁, h₂, h₃, h₄⟩
  · rintro ⟨h₁, h₂, h₃, h₄⟩
    exact ⟨_, h₁, _, h₂, _, h₃, _, h₄, rfl⟩

/-- Each of the four classes of the operations is a class of the entity. -/
theorem InputDescriptors.isClassOf {inputs : InputDescriptors} (made : inputDescriptors e ids = .ok inputs)
    (h : d ∈ inputs.toList) : d.IsClassOf ids e := by
  obtain ⟨create, update, filter, unique⟩ := inputDescriptors_eq_ok.1 made
  simp only [toList, List.mem_cons, List.not_mem_nil, or_false] at h
  rcases h with rfl | rfl | rfl | rfl
  · exact .create create
  · exact .update update
  · exact .filter filter
  · exact .identify unique

/-- The classes of an entity, one of each kind. -/
theorem classes_kinds {read : Descriptor} {inputs : InputDescriptors} (made : entityDescriptor e ids = .ok read)
    (inputsMade : inputDescriptors e ids = .ok inputs) :
    (read :: inputs.toList).map Descriptor.kind = DescriptorKind.all := by
  obtain ⟨create, update, filter, unique⟩ := inputDescriptors_eq_ok.1 inputsMade
  obtain ⟨_, -, made⟩ := bind_eq_ok.1 made
  obtain ⟨_, -, create⟩ := bind_eq_ok.1 create
  obtain ⟨_, -, update⟩ := bind_eq_ok.1 update
  obtain ⟨_, -, filter⟩ := bind_eq_ok.1 filter
  obtain ⟨_, -, unique⟩ := bind_eq_ok.1 unique
  simp only [InputDescriptors.toList, List.map_cons, List.map_nil, ← Except.ok.inj made, ← Except.ok.inj create,
    ← Except.ok.inj update, ← Except.ok.inj filter, ← Except.ok.inj unique]
  rfl

/-! ## Properties of fields -/

/-- How the property of a field stands in a class: the kind of classes that relations lead to, whether a relation is optional and
holds many entities, and whether another field is optional. -/
structure PropertyForm where
  other : DescriptorKind
  relationOptional : Bool
  relationIsList : Bool
  optional : Bool

/-- A field gives a property of a class, by its kind. Where entities are filtered, a scalar is given by its filter. -/
inductive Field.Gives (ids : Entries) (e : Entity) (f : Field) (form : PropertyForm) : Property → Prop where
  | scalar {t : ScalarType} (kind : f.kind = .scalar t) (other : form.other ≠ .whereInput) :
      Gives ids e f form (scalarProperty f t form.optional)
  | filter {t : ScalarType} {filter : Filter} (kind : f.kind = .scalar t) (filters : form.other = .whereInput)
      (found : t.filter? = some filter) :
      Gives ids e f form
        { name := f.name
          type := .text filter.name
          optional := form.optional
          reference := some { name := .text filter.name, kind := .filter, entity := .null } }
  | enumeration {many : Bool} {name : Value} (kind : f.kind = .enumeration many) (named : enumName e f = .ok name) :
      Gives ids e f form
        { name := f.name
          type := name
          optional := form.optional
          isList := many
          reference := some { name, kind := .enumeration, entity := e.name } }
  | relation {target : Value} (kind : f.kind = .relation) (found : relatedName e f ids = .ok target) :
      Gives ids e f form
        { name := f.name
          type := .text (target.display ++ form.other.suffix)
          optional := form.relationOptional
          isList := form.relationIsList
          reference :=
            some { name := .text (target.display ++ form.other.suffix), kind := form.other.reference, entity := target } }

/-- How the property of a field stands in the class that is read. -/
def Field.readForm (f : Field) : PropertyForm :=
  { other := .entity, relationOptional := true, relationIsList := f.isToMany, optional := !f.required }

/-- How the property of a field stands in a class that is written. -/
def Field.writeForm (f : Field) (allOptional : Bool) : PropertyForm :=
  { other := .whereUniqueInput
    relationOptional := allOptional || !f.required || f.isToMany
    relationIsList := f.isToMany
    optional := allOptional || !f.required }

/-- How the properties of fields stand in the class that filters. -/
def whereForm : PropertyForm :=
  { other := .whereInput, relationOptional := true, relationIsList := false, optional := true }

/-- A field gives the property that is read of it. -/
theorem readProperty_gives (h : readProperty e ids f = .ok p) : f.Gives ids e f.readForm p := by
  obtain ⟨_, -, rest⟩ := bind_eq_ok.1 h
  cases kind : f.kind with
  | scalar t =>
      simp only [kind] at rest
      cases rest
      exact .scalar kind (show DescriptorKind.entity ≠ .whereInput by decide)
  | enumeration many =>
      simp only [kind] at rest
      obtain ⟨name, named, rest⟩ := bind_eq_ok.1 rest
      cases rest
      exact .enumeration kind named
  | relation =>
      simp only [kind] at rest
      obtain ⟨target, found, rest⟩ := bind_eq_ok.1 rest
      cases rest
      exact .relation kind found

/-- It gives the property that is written of it. -/
theorem writeProperty_gives {allOptional : Bool} (h : writeProperty e ids allOptional f = .ok p) :
    f.Gives ids e (f.writeForm allOptional) p := by
  unfold writeProperty at h
  cases kind : f.kind with
  | scalar t =>
      simp only [kind] at h
      cases h
      exact .scalar kind (show DescriptorKind.whereUniqueInput ≠ .whereInput by decide)
  | enumeration many =>
      simp only [kind] at h
      obtain ⟨name, named, rest⟩ := bind_eq_ok.1 h
      cases rest
      exact .enumeration kind named
  | relation =>
      simp only [kind] at h
      obtain ⟨target, found, rest⟩ := bind_eq_ok.1 h
      cases rest
      exact .relation kind found

/-- It gives the property that filters by it. -/
theorem whereProperty_gives (h : whereProperty e ids f = .ok p) : f.Gives ids e whereForm p := by
  unfold whereProperty at h
  cases kind : f.kind with
  | scalar t =>
      simp only [kind] at h
      split at h
      · next filter found =>
          cases h
          exact .filter kind rfl found
      · cases h
  | enumeration many =>
      simp only [kind] at h
      obtain ⟨name, named, rest⟩ := bind_eq_ok.1 h
      cases rest
      exact .enumeration kind named
  | relation =>
      simp only [kind] at h
      obtain ⟨target, found, rest⟩ := bind_eq_ok.1 h
      cases rest
      exact .relation kind found

/-! ## References -/

/-- How a property of a class of the given kind comes to refer to another class. -/
inductive Reference.Arises (ids : Entries) (e : Entity) (kind : DescriptorKind) : Reference → Prop where
  | relation {f : Field} {target : Value} {other : DescriptorKind} (member : f ∈ e.fields)
      (relates : f.isRelation = true) (found : relatedName e f ids = .ok target) (refers : kind.target? = some other) :
      Arises ids e kind
        { name := .text (target.display ++ other.suffix), kind := other.reference, entity := target }
  | enumeration {f : Field} {name : Value} (member : f ∈ e.fields) (enumerates : f.isEnumeration = true)
      (named : enumName e f = .ok name) : Arises ids e kind { name, kind := .enumeration, entity := e.name }
  | filter (filter : Filter) : Arises ids e kind { name := .text filter.name, kind := .filter, entity := .null }

/-- The property that a field gives refers to a class of the target, to the enumeration or to the filter. -/
theorem Field.Gives.arises {kind : DescriptorKind} {form : PropertyForm} (h : f.Gives ids e form p) (member : f ∈ e.fields)
    (refers : kind.target? = some form.other) (hr : p.reference = some r) : r.Arises ids e kind := by
  cases h with
  | scalar => cases hr
  | filter =>
      cases hr
      exact .filter _
  | enumeration fieldKind named =>
      cases hr
      exact .enumeration member (by rw [Field.isEnumeration, fieldKind]) named
  | relation fieldKind found =>
      cases hr
      exact .relation member (by rw [Field.isRelation, fieldKind]) found refers

/-- A property that identifies refers to nothing. -/
theorem whereUniqueProperty_reference (h : whereUniqueProperty f = .ok p) : p.reference = none := by
  unfold whereUniqueProperty at h
  split at h
  · cases h
    rfl
  · cases h

/-! ## The fields behind properties -/

/-- The property is made from the field: it has the name of the field, and its type is a scalar or what it refers to. -/
structure Property.OfField (f : Field) (p : Property) : Prop where
  name : p.name = f.name
  type : (∃ t : ScalarType, p.type = .text t.typeName) ∨ ∃ r, p.reference = some r ∧ p.type = r.name

/-- A property of a scalar is made from its field. -/
theorem Property.OfField.scalar (f : Field) (t : ScalarType) (optional : Bool) : (scalarProperty f t optional).OfField f :=
  ⟨rfl, .inl ⟨t, rfl⟩⟩

/-- What a field gives is made from it. -/
theorem Field.Gives.ofField {form : PropertyForm} (h : f.Gives ids e form p) : p.OfField f := by
  cases h with
  | scalar => exact .scalar f _ _
  | filter | enumeration | relation => exact ⟨rfl, .inr ⟨_, rfl, rfl⟩⟩

/-- A property that identifies is the required one of a scalar field. -/
theorem whereUniqueProperty_ofField (h : whereUniqueProperty f = .ok p) :
    (∃ t, f.kind = .scalar t ∧ p = scalarProperty f t false) ∧ p.OfField f := by
  unfold whereUniqueProperty at h
  split at h
  · next t kind =>
      cases h
      exact ⟨⟨t, kind, rfl⟩, .scalar f t false⟩
  · cases h

/-- Each property of a class is given by a field of the entity. -/
theorem Descriptor.IsClassOf.exists_gives (h : d.IsClassOf ids e) (hp : p ∈ d.properties) :
    ∃ f ∈ e.fields, ∃ form, f.Gives ids e form p := by
  cases h with
  | read made =>
      obtain ⟨properties, steps, rest⟩ := bind_eq_ok.1 made
      cases rest
      obtain ⟨f, member, step⟩ := exists_mem_of_mapM_eq_ok steps hp
      exact ⟨f, member, _, readProperty_gives step⟩
  | create made | update made =>
      obtain ⟨properties, steps, rest⟩ := bind_eq_ok.1 made
      cases rest
      obtain ⟨f, member, step⟩ := exists_mem_of_mapM_eq_ok steps hp
      exact ⟨f, (List.mem_filter.1 member).1, _, writeProperty_gives step⟩
  | filter made =>
      obtain ⟨properties, steps, rest⟩ := bind_eq_ok.1 made
      cases rest
      obtain ⟨f, member, step⟩ := exists_mem_of_mapM_eq_ok steps hp
      exact ⟨f, (List.mem_filter.1 member).1, _, whereProperty_gives step⟩
  | identify made =>
      obtain ⟨properties, steps, rest⟩ := bind_eq_ok.1 made
      cases rest
      obtain ⟨f, member, step⟩ := exists_mem_of_mapM_eq_ok steps hp
      obtain ⟨⟨t, kind, rfl⟩, -⟩ := whereUniqueProperty_ofField step
      let form : PropertyForm :=
        { other := .whereUniqueInput, relationOptional := false, relationIsList := false, optional := false }
      have other : form.other ≠ .whereInput := show DescriptorKind.whereUniqueInput ≠ .whereInput by decide
      exact ⟨f, (List.mem_filter.1 member).1, form, .scalar kind other⟩

/-- Each property of a class is made from a field of the entity. -/
theorem Descriptor.IsClassOf.exists_field (h : d.IsClassOf ids e) (hp : p ∈ d.properties) :
    ∃ f ∈ e.fields, p.OfField f := by
  obtain ⟨f, member, form, gives⟩ := h.exists_gives hp
  exact ⟨f, member, gives.ofField⟩

/-- The type of a property is what it refers to. -/
theorem Descriptor.IsClassOf.type_of_reference (h : d.IsClassOf ids e) (hp : p ∈ d.properties)
    (refers : p.reference = some r) : p.type = r.name := by
  obtain ⟨f, -, form, gives⟩ := h.exists_gives hp
  cases gives with
  | scalar => cases refers
  | filter | enumeration | relation =>
      cases refers
      rfl

/-- The type of a property that refers to nothing is a scalar. -/
theorem Descriptor.IsClassOf.type_of_none (h : d.IsClassOf ids e) (hp : p ∈ d.properties) (refers : p.reference = none) :
    ∃ t : ScalarType, p.type = .text t.typeName := by
  obtain ⟨f, -, ofField⟩ := h.exists_field hp
  rcases ofField.type with scalar | ⟨r, reference, -⟩
  · exact scalar
  · rw [refers] at reference
    cases reference

/-- The names of all fields of an entity with a class that is read pass the check. -/
theorem checkFieldName_of_entityDescriptor (made : entityDescriptor e ids = .ok d) (member : f ∈ e.fields) :
    checkFieldName e f = .ok () := by
  obtain ⟨properties, steps, -⟩ := bind_eq_ok.1 made
  obtain ⟨p, -, step⟩ := mem_results_of_mapM_eq_ok steps member
  obtain ⟨_, named, -⟩ := bind_eq_ok.1 step
  exact named

/-! ## The references of the five classes -/

/-- What a class needs to know of the way in which it was made. -/
structure Descriptor.Made (ids : Entries) (e : Entity) (d : Descriptor) : Prop where
  name : d.name = if d.kind = .entity then e.name else e.nameWith d.kind.suffix
  entity : d.entity = e.name
  arises : ∀ p ∈ d.properties, ∀ r, p.reference = some r → r.Arises ids e d.kind
  plain : d.kind = .whereUniqueInput → ∀ p ∈ d.properties, p.reference = none

/-- Each class of an entity is made from its fields. -/
theorem Descriptor.IsClassOf.made (h : d.IsClassOf ids e) : d.Made ids e := by
  cases h with
  | read made =>
      obtain ⟨properties, steps, rest⟩ := bind_eq_ok.1 made
      cases rest
      refine ⟨rfl, rfl, fun p hp r hr => ?_, fun unique => by cases unique⟩
      obtain ⟨f, member, step⟩ := exists_mem_of_mapM_eq_ok steps hp
      exact (readProperty_gives step).arises member rfl hr
  | create made =>
      obtain ⟨properties, steps, rest⟩ := bind_eq_ok.1 made
      cases rest
      refine ⟨rfl, rfl, fun p hp r hr => ?_, fun unique => by cases unique⟩
      obtain ⟨f, member, step⟩ := exists_mem_of_mapM_eq_ok steps hp
      exact (writeProperty_gives step).arises (List.mem_filter.1 member).1 rfl hr
  | update made =>
      obtain ⟨properties, steps, rest⟩ := bind_eq_ok.1 made
      cases rest
      refine ⟨rfl, rfl, fun p hp r hr => ?_, fun unique => by cases unique⟩
      obtain ⟨f, member, step⟩ := exists_mem_of_mapM_eq_ok steps hp
      exact (writeProperty_gives step).arises (List.mem_filter.1 member).1 rfl hr
  | filter made =>
      obtain ⟨properties, steps, rest⟩ := bind_eq_ok.1 made
      cases rest
      refine ⟨rfl, rfl, fun p hp r hr => ?_, fun unique => by cases unique⟩
      obtain ⟨f, member, step⟩ := exists_mem_of_mapM_eq_ok steps hp
      exact (whereProperty_gives step).arises (List.mem_filter.1 member).1 rfl hr
  | identify made =>
      obtain ⟨properties, steps, rest⟩ := bind_eq_ok.1 made
      cases rest
      have plain : ∀ p ∈ properties, p.reference = none := by
        intro p hp
        obtain ⟨f, -, step⟩ := exists_mem_of_mapM_eq_ok steps hp
        exact whereUniqueProperty_reference step
      refine ⟨rfl, rfl, fun p hp r hr => ?_, fun _ => plain⟩
      rw [plain p hp] at hr
      cases hr

/-- Each reference of a class of an entity arises from a field or a filter, and is not to the class itself. -/
theorem Descriptor.IsClassOf.references (h : d.IsClassOf ids e) (hr : r ∈ d.references) :
    r.Arises ids e d.kind ∧ r.name.sameKey d.name = false := by
  obtain ⟨found, other⟩ := List.mem_filter.1 hr
  obtain ⟨p, hp, reference⟩ := List.mem_filterMap.1 found
  exact ⟨h.made.arises p hp r reference, by simpa using other⟩

/-- The class that identifies an entity refers to no other. -/
theorem Descriptor.IsClassOf.references_eq_nil (h : d.IsClassOf ids e) (kind : d.kind = .whereUniqueInput) :
    d.references = [] := by
  rw [Descriptor.references, List.filter_eq_nil_iff]
  intro r hr
  obtain ⟨p, hp, reference⟩ := List.mem_filterMap.1 hr
  rw [h.made.plain kind p hp] at reference
  cases reference

/-- The name of a class of an entity is that of the entity with the suffix of its kind. -/
theorem Descriptor.IsClassOf.name_eq (h : d.IsClassOf ids e) {s : String} (name : e.name = .text s) :
    d.name = .text (s ++ d.kind.suffix) := by
  rw [h.made.name]
  split
  · next kind => simp [kind, name, DescriptorKind.suffix]
  · simp [Entity.nameWith, name]

/-- The class that is read has the name of the entity. -/
theorem name_of_entityDescriptor (made : entityDescriptor e ids = .ok d) : d.name = e.name := by
  obtain ⟨properties, -, rest⟩ := bind_eq_ok.1 made
  cases rest
  rfl

/-- A reference to a class that is read arises from a relation to its entity. -/
theorem Reference.Arises.exists_relation {kind : DescriptorKind} (h : r.Arises ids e kind) (read : r.kind = .entity) :
    ∃ f ∈ e.relationFields, relatedName e f ids = .ok r.entity := by
  cases h with
  | relation member relates found => exact ⟨_, List.mem_filter.2 ⟨member, relates⟩, found⟩
  | enumeration => cases read
  | filter => cases read

/-- The names of the classes of an entity are its own with the suffixes of the kinds. -/
theorem classes_names {read : Descriptor} {inputs : InputDescriptors} {s : String} (name : e.name = .text s)
    (made : entityDescriptor e ids = .ok read) (inputsMade : inputDescriptors e ids = .ok inputs) :
    (read :: inputs.toList).map Descriptor.name = DescriptorKind.all.map fun kind => .text (s ++ kind.suffix) := by
  rw [← classes_kinds made inputsMade, List.map_map]
  refine List.map_congr_left fun d member => ?_
  rcases List.mem_cons.1 member with rfl | input
  · exact (Descriptor.IsClassOf.read made).name_eq name
  · exact (InputDescriptors.isClassOf inputsMade input).name_eq name

end ResourceScaffold
