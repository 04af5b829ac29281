import ResourceScaffold.Proofs.Rendering

/-!
# The field that addresses single records

Routes and tests address a record by the property that `Descriptor.keyProperty?` takes of the class that identifies the entity.
It is made from `Entity.keyField?`, which is said without that class (`keyField_rel`): of the filterable identifying fields the
one named `id`, or else the first. The names of the fields of an entity that can be read are different texts
(`fieldNames_nodup`), so the field is known by its name.
-/

namespace ResourceScaffold

/-! ## Names of fields -/

section

variable {e : Entity} {ids : Entries} {d : Descriptor}

/-- No two fields of an entity that can be read share a name. -/
theorem fieldNames_nodup (made : entityDescriptor e ids = .ok d) : (e.fields.map Field.name).Nodup := by
  rw [List.nodup_iff_sublist]
  intro name twice
  obtain ⟨f, member, rfl⟩ := List.mem_map.1 (twice.subset List.mem_cons_self)
  obtain ⟨s, text, -, once⟩ := checkFieldName_eq_ok (checkFieldName_of_entityDescriptor made member)
  -- both occurrences pass the test by which the check counts the name
  have kept := twice.filter fun name => name.isText s
  rw [List.filter_map] at kept
  have counted := kept.length_le
  simp only [text, Value.isText_text, BEq.rfl, List.filter_cons_of_pos, List.filter_nil, List.length_cons, List.length_nil,
    List.length_map, Function.comp_def] at counted
  omega

/-- The names of the properties of the class that is read are those of the fields. -/
theorem propertyNames_of_entityDescriptor (made : entityDescriptor e ids = .ok d) :
    d.propertyNames = e.fields.map Field.name := by
  obtain ⟨properties, steps, rest⟩ := bind_eq_ok.1 made
  cases rest
  exact (map_eq_map_of_forall₂ (mapM_eq_ok.1 steps) fun _ _ step => (readProperty_gives step).ofField.name.symm).symm

/-- An entity class that could be made names each property once. -/
theorem propertyNames_nodup (made : entityDescriptor e ids = .ok d) : d.propertyNames.Nodup := by
  rw [propertyNames_of_entityDescriptor made]
  exact fieldNames_nodup made

end

/-! ## The key -/

namespace Entity

/-- The fields by which records can be identified and found, in order. -/
def identifyingFields (e : Entity) : List Field :=
  e.fields.filter fun f => f.isFilterable && f.isIdentifying

/-- The field by which routes address single records: of the identifying fields the one named `id`, or else the first. -/
def keyField? (e : Entity) : Option Field :=
  (e.identifyingFields.find? fun f => f.name.isText "id").or e.identifyingFields.head?

/-- The key field is an identifying field of the entity. -/
theorem mem_of_keyField? {e : Entity} {f : Field} (h : e.keyField? = some f) : f ∈ e.identifyingFields := by
  rcases Option.or_eq_some_iff.1 h with named | ⟨-, first⟩
  · exact List.mem_of_find?_eq_some named
  · exact List.mem_of_mem_head? first

/-- An entity with an identifying field has a key field. -/
theorem exists_keyField? {e : Entity} {f : Field} (h : f ∈ e.identifyingFields) : ∃ g, e.keyField? = some g := by
  obtain ⟨first, others, fields⟩ := List.exists_cons_of_ne_nil (List.ne_nil_of_mem h)
  rw [keyField?, fields, List.head?_cons, Option.or_some]
  exact ⟨_, rfl⟩

end Entity

section

variable {α β : Type} {R : α → β → Prop} {xs : List α} {ys : List β}

/-- The first elements that pass a test on which related elements agree are related. -/
theorem find?_rel {p : α → Bool} {q : β → Bool} (h : List.Forall₂ R xs ys) (agree : ∀ x y, R x y → p x = q y) :
    Option.Rel R (xs.find? p) (ys.find? q) := by
  induction h with
  | nil => exact .none
  | @cons x y xs ys related _ ih =>
      rw [List.find?_cons, List.find?_cons, ← agree x y related]
      cases p x with
      | true => exact .some related
      | false => exact ih

/-- Related lists have related first elements. -/
theorem head?_rel (h : List.Forall₂ R xs ys) : Option.Rel R xs.head? ys.head? := by
  cases h with
  | nil => exact .none
  | cons related _ => exact .some related

variable {x : Option α} {y : Option β}

/-- Of two related options, the second is a value that is related to the first if the first is one. -/
theorem exists_right_of_rel (h : Option.Rel R x y) {a : α} (first : x = some a) : ∃ b, y = some b ∧ R a b := by
  cases h with
  | none => cases first
  | some related =>
      cases first
      exact ⟨_, rfl, related⟩

/-- What is related to nothing is nothing. -/
theorem eq_none_of_rel (h : Option.Rel R x y) (first : x = none) : y = none := by
  cases h with
  | none => rfl
  | some related => cases first

/-- Of two related options, either both are values or neither is. -/
theorem exists_iff_of_rel (h : Option.Rel R x y) : (∃ b, y = some b) ↔ ∃ a, x = some a := by
  cases h with
  | none => simp
  | some related => simp

end

variable {schema : Schema} {naming : NamingStrategy} {classes : Table Descriptor} {byName : Table Entity} {e : Entity}
  {r : Resource} {unique : Descriptor} {f : Field}

/-- The property by which routes address single records is made from the key field. -/
theorem keyField_rel (made : whereUniqueDescriptor e = .ok unique) :
    Option.Rel (fun f p => whereUniqueProperty f = .ok p) e.keyField? unique.keyProperty? := by
  obtain ⟨properties, steps, rest⟩ := bind_eq_ok.1 made
  cases rest
  have related := mapM_eq_ok.1 steps
  have named := find?_rel (p := fun f => f.name.isText "id") (q := fun p => p.name.isText "id") related
    fun f p step => by rw [(whereUniqueProperty_ofField step).2.name]
  rw [Entity.keyField?, Descriptor.keyProperty?, Descriptor.get?, Entity.identifyingFields]
  generalize List.find? _ (List.filter _ e.fields) = found, List.find? _ properties = found' at named ⊢
  cases named with
  | some step => exact .some step
  | none => exact head?_rel related

/-- A filterable field is no document. -/
theorem ne_json_of_isFilterable {t : ScalarType} (kind : f.kind = .scalar t) (filterable : f.isFilterable = true) :
    t ≠ .json := by
  rintro rfl
  obtain ⟨filter, found⟩ := exists_filter_of_isFilterable kind filterable
  cases found

/-- The property by which the controller addresses single records is that of the key field, which is no document. -/
theorem Resource.Of.keyProperty_rel (h : Of schema naming classes byName e r) :
    Option.Rel (fun f p => ∃ s t, f.name = .text s ∧ f.kind = .scalar t ∧ t ≠ .json ∧ p = scalarProperty f t false)
      e.keyField? r.controller.keyProperty? := by
  obtain ⟨-, -, -, -, inputs⟩ := Controller.ofEntity_eq_ok h.controller
  obtain ⟨-, -, -, identify⟩ := inputDescriptors_eq_ok.1 h.inputs
  have related := keyField_rel identify
  rw [Controller.keyProperty?, inputs]
  cases keyed : e.keyField? with
  | none =>
      rw [eq_none_of_rel related keyed]
      exact .none
  | some f =>
      obtain ⟨p, found, step⟩ := exists_right_of_rel related keyed
      obtain ⟨member, passes⟩ := List.mem_filter.1 (Entity.mem_of_keyField? keyed)
      obtain ⟨s, text⟩ := exists_text_of_field h.read member
      obtain ⟨⟨t, kind, rfl⟩, -⟩ := whereUniqueProperty_ofField step
      rw [found]
      exact .some ⟨s, t, text, kind, ne_json_of_isFilterable kind (Bool.and_eq_true_iff.1 passes).1, rfl⟩

/-- The parameter of a field: it has the name and the type of the field, which is no document. -/
def KeyParameter.IsOf (key : KeyParameter) (f : Field) : Prop :=
  f.name = .text key.name ∧ ∃ t, f.kind = .scalar t ∧ t ≠ .json ∧ key.type = t.typeName

/-- A scalar property with a text for a name can carry the key. -/
theorem KeyParameter.ofProperty?_scalar {s : String} (text : f.name = .text s) (t : ScalarType) :
    ofProperty? (scalarProperty f t false) = some { name := s, type := t.typeName } := by
  simp [ofProperty?, scalarProperty, text]

/-- The parameter by which routes address single records is that of the key field. -/
theorem Resource.Of.key_rel (h : Of schema naming classes byName e r) :
    Option.Rel (fun f key => key.IsOf f) e.keyField? r.controller.key? := by
  have related := h.keyProperty_rel
  rw [Controller.key?]
  generalize e.keyField? = field, r.controller.keyProperty? = property at related ⊢
  cases related with
  | none => exact .none
  | some made =>
      obtain ⟨s, t, text, kind, other, rfl⟩ := made
      rw [Option.bind_some, KeyParameter.ofProperty?_scalar text]
      exact .some ⟨text, t, kind, other, rfl⟩

/-- Whether the parameter that addresses single records is a date is told by its type. -/
theorem Resource.Of.keyIsDate_iff (h : Of schema naming classes byName e r) :
    r.controller.keyIsDate = true ↔ ∃ key, r.controller.key? = some key ∧ key.type = "datetime" := by
  have related := h.keyProperty_rel
  rw [Controller.keyIsDate, Controller.key?]
  generalize e.keyField? = field, r.controller.keyProperty? = property at related ⊢
  cases related with
  | none => simp
  | some made =>
      obtain ⟨s, t, text, -, -, rfl⟩ := made
      rw [Option.bind_some, KeyParameter.ofProperty?_scalar text]
      simp [scalarProperty, ScalarType.typeName]

/-- The parameter that addresses single records is named after the key field. -/
theorem Resource.Of.key?_iff (h : Of schema naming classes byName e r) {s : String} :
    (∃ key, r.controller.key? = some key ∧ key.name = s) ↔ ∃ f, e.keyField? = some f ∧ f.name = .text s := by
  constructor
  · rintro ⟨key, keyed, rfl⟩
    obtain ⟨f, field⟩ := (exists_iff_of_rel h.key_rel).1 ⟨key, keyed⟩
    obtain ⟨key', keyed', name, -⟩ := exists_right_of_rel h.key_rel field
    rw [keyed] at keyed'
    cases keyed'
    exact ⟨f, field, name⟩
  · rintro ⟨f, field, text⟩
    obtain ⟨key, keyed, name, -⟩ := exists_right_of_rel h.key_rel field
    rw [text] at name
    exact ⟨key, keyed, (Value.text.inj name).symm⟩

/-- Single records can be addressed iff some field identifies them. -/
theorem Resource.Of.exists_key_iff (h : Of schema naming classes byName e r) :
    (∃ key, r.controller.key? = some key) ↔ ∃ f, f ∈ e.identifyingFields := by
  rw [exists_iff_of_rel h.key_rel]
  exact ⟨fun ⟨f, field⟩ => ⟨f, Entity.mem_of_keyField? field⟩, fun ⟨_, identifying⟩ => Entity.exists_keyField? identifying⟩

end ResourceScaffold
