import ResourceScaffold.Proofs.KeyFields
import ResourceScaffold.Proofs.Objects
import ResourceScaffold.Yaml.ScalarValue

/-!
# Samples and the types of properties

What a value has to be for a property of a class that is written (`Schema.Validates`): of the type of a scalar, the value of a
member of an enumeration, or an object with a value for each property that identifies the target of a relation. The sample of a
scalar field is of its type. That of an enumeration is its first option as it is, although members have texts as values, and
that of a relation has nothing but an `id`, by whatever the target is identified. So not all samples are valid:
`generate_sample_validates_iff` says which are.
-/

namespace ResourceScaffold

open Code

/-! ## Values of types -/

/-- The ways in which a timestamp ends, by the distance from universal time. -/
def zoneTexts : Option Int → List String
  | none => [""]
  | some minutes => if minutes = 0 then ["Z", offsetText minutes] else [offsetText minutes]

/-- The text is a timestamp of ISO 8601: a date and a time of day that exist, down to seconds or microseconds. -/
def IsTimestamp (s : String) : Prop :=
  ∃ (m : Moment) (t : TimeOfDay), m.time = some t ∧ Yaml.isRealMoment m = true ∧ m.year < 10000 ∧ t.microsecond < 1000000 ∧
    ∃ zone ∈ zoneTexts t.offset,
      s = natPadded 4 m.year ++ "-" ++ natPadded 2 m.month ++ "-" ++ natPadded 2 m.day ++ "T" ++
        natPadded 2 t.hour ++ ":" ++ natPadded 2 t.minute ++ ":" ++ natPadded 2 t.second ++
        (if t.microsecond = 0 then "" else "." ++ natPadded 6 t.microsecond) ++ zone

/-- A value that JSON can express is of a scalar type. -/
inductive ScalarType.Accepts : ScalarType → Value → Prop where
  | text (s : String) : Accepts .text (.text s)
  | integer (i : Int) : Accepts .integer (.int i)
  | whole (i : Int) : Accepts .number (.int i)
  | number (x : Binary64) : Accepts .number (.float x)
  | boolean (b : Bool) : Accepts .boolean (.bool b)
  | dateTime {s : String} (written : IsTimestamp s) : Accepts .dateTime (.text s)
  | json (entries : Entries) : Accepts .json (.mapping entries)

/-- The value is an object with a value of the right type for each property of a class that identifies an entity. -/
def Descriptor.Identifies (unique : Descriptor) (v : Value) : Prop :=
  ∃ entries : Entries, v = .mapping entries ∧ ∀ p ∈ unique.properties, ∃ name w t,
    p.name = .text name ∧ entries.get? name = some w ∧ p.type = .text (ScalarType.typeName t) ∧ t.Accepts w

/-- The value is valid for a property of a class that writes an entity, apart from whether the property holds many values. -/
inductive Schema.Fits (schema : Schema) (e : Entity) (p : Property) : Value → Prop where
  | scalar {t : ScalarType} {v : Value} (plain : p.reference = none) (type : p.type = .text t.typeName) (accepts : t.Accepts v) :
      Fits schema e p v
  /-- The value of a member of the enumeration of the field with the name of the property. -/
  | enumeration {r : Reference} {f : Field} {d : EnumDescriptor} {m : EnumMember} (refers : p.reference = some r)
      (kind : r.kind = .enumeration) (member : f ∈ e.fields) (own : f.name = p.name)
      (made : EnumDescriptor.ofField e f = .ok d) (named : d.name = r.name) (listed : m ∈ d.members) :
      Fits schema e p (.ofWide m.value)
  | unique {r : Reference} {t : Entity} {d : Descriptor} {v : Value} (refers : p.reference = some r)
      (kind : r.kind = .whereUnique) (inBatch : t ∈ schema.entities) (named : r.entity = t.name)
      (made : whereUniqueDescriptor t = .ok d) (identifies : d.Identifies v) : Fits schema e p v

/-- The value is valid for a property of a class that writes an entity. -/
def Schema.Validates (schema : Schema) (e : Entity) (p : Property) (v : Value) : Prop :=
  if p.isList then ∃ items, v = .list items ∧ ∀ item ∈ items, schema.Fits e p item else schema.Fits e p v

/-! ## Fields whose samples are valid -/

/-- The options of the field begin with one whose value is a text. -/
inductive Field.StartsWithText (f : Field) : Prop where
  | text (options : (f.properties.getD "options").IsText)
  | list {first : Value} {rest : List Value} (options : f.properties.getD "options" = .list (first :: rest))
      (value : (Sample.optionValue first).IsText)

/-- Nothing but a text named `id` identifies the entity. -/
def Entity.IdentifiedById (e : Entity) : Prop :=
  ∀ f ∈ e.identifyingFields, f.name = .text "id" ∧ f.kind = .scalar .text

/-- The field is one whose sample is valid. -/
inductive Schema.SampleFits (schema : Schema) (e : Entity) (f : Field) : Prop where
  | scalar {t : ScalarType} (kind : f.kind = .scalar t)
  | enumeration {many : Bool} (kind : f.kind = .enumeration many) (starts : f.StartsWithText)
  | relation {t : Entity} (kind : f.kind = .relation) (inBatch : t ∈ schema.entities)
      (leads : relatedName e f schema.ids = .ok t.name) (identified : t.IdentifiedById)

section

variable {schema : Schema} {naming : NamingStrategy} {classes : Table Descriptor} {byName : Table Entity}
  {rs : List Resource} {modules : List SourceModule} {e t : Entity} {ids : Entries} {f : Field} {p : Property} {r : Reference}
  {v : Value}

/-! ## Scalars -/

/-- The sample of a point in time is a timestamp. -/
theorem isTimestamp_dateTime : IsTimestamp Sample.dateTime := by
  let midnight : TimeOfDay := { hour := 0, minute := 0, second := 0, microsecond := 0, offset := some 0 }
  exact ⟨{ year := 2026, month := 1, day := 1, time := some midnight }, midnight, rfl, by decide, by decide, by decide, "Z",
    by decide, by decide⟩

/-- The sample of a key is no timestamp, so a key of that type would be refused. -/
theorem not_isTimestamp_id : ¬ IsTimestamp Sample.id := by
  rintro ⟨m, t, -, -, -, -, zone, -, written⟩
  have separated : 'T' ∈ Sample.id.toList := by
    rw [written]
    simp
  exact absurd separated (by decide)

/-- A scalar type is told by its name in the generated code. -/
theorem ScalarType.typeName_inj {t t' : ScalarType} (h : t.typeName = t'.typeName) : t = t' := by
  cases t <;> cases t' <;> first | rfl | exact absurd h (by decide)

/-- The sample of a scalar field is of its type. -/
theorem accepts_sample {t : ScalarType} (kind : f.kind = .scalar t) : t.Accepts (Sample.ofDataType f.dataType) := by
  unfold Field.kind at kind
  cases type : f.dataType <;> rw [type] at kind <;> cases kind
  all_goals first | exact .dateTime isTimestamp_dateTime | constructor

/-- Of the scalar types only texts hold the sample id. -/
theorem accepts_id_iff {t : ScalarType} : t.Accepts (.text Sample.id) ↔ t = .text := by
  constructor
  · intro accepts
    cases accepts with
    | text => rfl
    | dateTime written => exact absurd written not_isTimestamp_id
  · rintro rfl
    exact .text _

/-- A scalar property takes the values of its type. -/
theorem fits_scalar_iff {type : ScalarType} {optional : Bool} :
    schema.Fits e (scalarProperty f type optional) v ↔ type.Accepts v := by
  constructor
  · intro fits
    cases fits with
    | scalar plain same accepts =>
        have equal : type = _ := ScalarType.typeName_inj (Value.text.inj same)
        rwa [equal]
    | enumeration refers | unique refers => cases refers
  · exact .scalar rfl rfl

/-- A value in a list of its own, if the property holds many, is valid iff it fits the property. -/
theorem validates_iff {many : Bool} (holds : p.isList = many) :
    schema.Validates e p (if many then .list [v] else v) ↔ schema.Fits e p v := by
  unfold Schema.Validates
  cases many with
  | true => simp [holds]
  | false => simp [holds]

/-! ## Enumerations -/

/-- The sample of an option is the value of its enum member. -/
theorem Sample.optionValue_eq (v : Value) : Sample.optionValue v = (EnumOption.ofValue v).value := by
  unfold Sample.optionValue EnumOption.ofValue
  cases v.unmarked <;> rfl

/-- For the property of an enumeration field, the values of the members of its enumeration are valid. -/
theorem fits_enumeration_iff {read : Descriptor} (described : entityDescriptor e ids = .ok read) (member : f ∈ e.fields)
    (own : f.name = p.name) (refers : p.reference = some r) (kind : r.kind = .enumeration) {d : EnumDescriptor}
    (made : EnumDescriptor.ofField e f = .ok d) (named : d.name = r.name) :
    schema.Fits e p v ↔ ∃ m ∈ d.members, v = .ofWide m.value := by
  constructor
  · intro fits
    cases fits with
    | scalar plain =>
        rw [refers] at plain
        cases plain
    | enumeration _ _ member' own' made' _ listed =>
        obtain rfl := List.inj_on_of_nodup_map (fieldNames_nodup described) member' member (own'.trans own.symm)
        rw [made] at made'
        cases made'
        exact ⟨_, listed, rfl⟩
    | unique refers' kind' =>
        rw [refers] at refers'
        cases refers'
        rw [kind] at kind'
        cases kind'
  · rintro ⟨m, listed, rfl⟩
    exact .enumeration refers kind member own made named listed

/-- The first option of an enumeration is the value of a member iff it is a text. -/
theorem firstOption_iff (json : (f.properties.getD "options").IsJson) {d : EnumDescriptor}
    (made : EnumDescriptor.ofField e f = .ok d) :
    (∃ first, (enumOptions e f >>= Sample.firstOption) = .ok first ∧
      ∃ m ∈ d.members, Sample.optionValue first = .ofWide m.value) ↔ f.StartsWithText := by
  obtain ⟨values, options, known, parts, members⟩ := EnumDescriptor.members_eq made
  have member {first : Value} (listed : first ∈ options) (value : (Sample.optionValue first).IsText) :
      ∃ m ∈ d.members, Sample.optionValue first = .ofWide m.value := by
    refine ⟨(EnumOption.ofValue first).member, ?_, ?_⟩
    · rw [members]
      exact List.mem_map_of_mem listed
    · rw [EnumOption.member, ← Sample.optionValue_eq, value.ofWide_wide]
  rw [known, ok_bind]
  obtain ⟨truthy, rfl⟩ := enumOptions_eq_ok.1 known
  constructor
  · rintro ⟨first, taken, m, -, value⟩
    generalize given : f.properties.getD "options" = values at json truthy parts taken
    cases json with
    | null | bool b | int i | float x => cases parts
    | text s => exact .text (given ▸ .text s)
    | illFormed t => exact .text (given ▸ .illFormed t)
    | @list items =>
        cases items with
        | nil => cases truthy
        | cons first' rest =>
            cases taken
            exact .list given (value ▸ Value.isText_ofWide _)
    | @mapping entries object =>
        -- the keys of objects are texts, and the first option is looked up under a number
        simp [Sample.firstOption, Value.unmarked, object.find?_int] at taken
  · intro starts
    cases starts with
    | text given =>
        generalize f.properties.getD "options" = values at given parts truthy
        cases given with
        | text s =>
            cases parts
            cases characters : s.toList with
            | nil =>
                obtain rfl : s = "" := String.toList_injective characters
                cases truthy
            | cons c rest =>
                refine ⟨.text c.toString, by simp [Sample.firstOption, Value.unmarked, characters], ?_⟩
                exact member (by simp [characters]) (.text _)
        | illFormed t =>
            cases parts
            obtain ⟨p, rest, points⟩ := List.exists_cons_of_ne_nil t.points_ne_nil
            have single := Value.isText_ofWide ⟨[p]⟩
            refine ⟨.ofWide ⟨[p]⟩, by simp [Sample.firstOption, Value.unmarked, points], member (by simp [points]) ?_⟩
            generalize Value.ofWide ⟨[p]⟩ = first at single ⊢
            cases single with
            | text s => exact .text s
            | illFormed t => exact .illFormed t
    | list given value =>
        rw [given] at parts ⊢
        cases parts
        exact ⟨_, rfl, member List.mem_cons_self value⟩

/-- The sample of an enumeration is valid iff the options begin with a text. -/
theorem enumeration_validates_iff {read : Descriptor} (described : entityDescriptor e ids = .ok read) (member : f ∈ e.fields)
    (json : (f.properties.getD "options").IsJson) {many : Bool} (fieldKind : f.kind = .enumeration many)
    (own : f.name = p.name) (holds : p.isList = many) (refers : p.reference = some r) (kind : r.kind = .enumeration)
    {d : EnumDescriptor} (made : EnumDescriptor.ofField e f = .ok d) (named : d.name = r.name) :
    (∃ v, Sample.value e f ids = .ok v ∧ schema.Validates e p v) ↔ f.StartsWithText := by
  rw [← firstOption_iff json made, Sample.value, fieldKind]
  constructor
  · rintro ⟨v, sampled, valid⟩
    obtain ⟨options, known, rest⟩ := bind_eq_ok.1 sampled
    obtain ⟨first, taken, rest⟩ := bind_eq_ok.1 rest
    cases rest
    rw [validates_iff holds, fits_enumeration_iff described member own refers kind made named] at valid
    exact ⟨first, bind_eq_ok.2 ⟨options, known, taken⟩, valid⟩
  · rintro ⟨first, both, value⟩
    obtain ⟨options, known, taken⟩ := bind_eq_ok.1 both
    refine ⟨_, bind_eq_ok.2 ⟨options, known, bind_eq_ok.2 ⟨first, taken, rfl⟩⟩, ?_⟩
    rwa [validates_iff holds, fits_enumeration_iff described member own refers kind made named]

/-! ## Relations -/

/-- The sample of a relation identifies the entities that nothing but a text `id` identifies. -/
theorem identifies_sample_iff {unique : Descriptor} (made : whereUniqueDescriptor t = .ok unique) :
    unique.Identifies (.mapping [(.text "id", .text Sample.id)]) ↔ t.IdentifiedById := by
  obtain ⟨properties, steps, rest⟩ := bind_eq_ok.1 made
  cases rest
  constructor
  · rintro ⟨entries, same, each⟩ g identifying
    cases same
    obtain ⟨q, inClass, step⟩ := mem_results_of_mapM_eq_ok steps identifying
    obtain ⟨type, kind, rfl⟩ := (whereUniqueProperty_ofField step).1
    obtain ⟨name, w, type', named, found, typed, accepts⟩ := each _ inClass
    obtain rfl : type = type' := ScalarType.typeName_inj (Value.text.inj typed)
    rw [Entries.get?] at found
    split at found
    · next isId =>
        cases found
        rw [accepts_id_iff] at accepts
        rw [Value.isText_text, beq_iff_eq] at isId
        exact ⟨named.trans (by rw [isId]), accepts ▸ kind⟩
    · cases found
  · intro identified
    refine ⟨_, rfl, fun p inClass => ?_⟩
    obtain ⟨g, identifying, step⟩ := exists_mem_of_mapM_eq_ok steps inClass
    obtain ⟨name, kind⟩ := identified g identifying
    obtain ⟨type, kind', rfl⟩ := (whereUniqueProperty_ofField step).1
    rw [kind] at kind'
    cases kind'
    exact ⟨"id", _, .text, name, rfl, rfl, .text _⟩

/-- For the property of a relation, what identifies its target is valid. -/
theorem fits_unique_iff (h : schema.Prepared naming classes byName) (refers : p.reference = some r)
    (kind : r.kind = .whereUnique) (inBatch : t ∈ schema.entities) (named : r.entity = t.name) {unique : Descriptor}
    (made : whereUniqueDescriptor t = .ok unique) : schema.Fits e p v ↔ unique.Identifies v := by
  constructor
  · intro fits
    cases fits with
    | scalar plain =>
        rw [refers] at plain
        cases plain
    | enumeration refers' kind' =>
        rw [refers] at refers'
        cases refers'
        rw [kind] at kind'
        cases kind'
    | unique refers' _ inBatch' named' made' identifies =>
        rw [refers] at refers'
        cases refers'
        rw [h.eq_of_name_eq inBatch' inBatch (named'.symm.trans named), made] at made'
        cases made'
        exact identifies
  · exact .unique refers kind inBatch named made

/-- The sample of a relation is valid iff nothing but a text `id` identifies the target. -/
theorem relation_validates_iff (h : schema.Prepared naming classes byName) (fieldKind : f.kind = .relation)
    (holds : p.isList = f.isToMany) (refers : p.reference = some r) (kind : r.kind = .whereUnique) (inBatch : t ∈ schema.entities)
    (named : r.entity = t.name) (leads : relatedName e f schema.ids = .ok t.name) {unique : Descriptor}
    (made : whereUniqueDescriptor t = .ok unique) :
    (∃ v, Sample.value e f schema.ids = .ok v ∧ schema.Validates e p v) ↔ t.IdentifiedById := by
  rw [← identifies_sample_iff made, ← fits_unique_iff h refers kind inBatch named made, ← validates_iff holds, Sample.value,
    fieldKind]
  constructor
  · rintro ⟨v, sampled, valid⟩
    obtain ⟨_, -, rest⟩ := bind_eq_ok.1 sampled
    cases rest
    exact valid
  · intro valid
    exact ⟨_, bind_eq_ok.2 ⟨_, leads, rfl⟩, valid⟩

/-! ## Whole batches -/

/-- The sample of a field is valid for its property iff the field is one of those. -/
theorem Schema.Generated.sample_validates_iff (h : schema.Generated naming classes byName rs) (inBatch : e ∈ schema.entities)
    (member : f ∈ e.fields) (json : (f.properties.getD "options").IsJson)
    (written : writeProperty e schema.ids false f = .ok p) :
    (∃ v, Sample.value e f schema.ids = .ok v ∧ schema.Validates e p v) ↔ schema.SampleFits e f := by
  obtain ⟨r, -, of⟩ := h.resource inBatch
  cases writeProperty_gives written with
  | filter _ filters => cases filters
  | @scalar type kind =>
      have sampled : Sample.value e f schema.ids = .ok (Sample.ofDataType f.dataType) := by rw [Sample.value, kind]
      have valid : schema.Validates e (scalarProperty f type (f.writeForm false).optional) (Sample.ofDataType f.dataType) :=
        fits_scalar_iff.2 (accepts_sample kind)
      exact ⟨fun _ => .scalar kind, fun _ => ⟨_, sampled, valid⟩⟩
  | enumeration kind named =>
      have enumerates : f ∈ e.enumFields := List.mem_filter.2 ⟨member, by rw [Field.isEnumeration, kind]⟩
      obtain ⟨d, -, made⟩ := mem_results_of_mapM_eq_ok of.enumerations enumerates
      have same := Except.ok.inj ((enumName_of_ofField made).symm.trans named)
      rw [enumeration_validates_iff of.read member json kind rfl rfl rfl rfl made same]
      refine ⟨.enumeration kind, fun fits => ?_⟩
      cases fits with
      | enumeration _ starts => exact starts
      | scalar other | relation other => cases kind.symm.trans other
  | relation kind leads =>
      have relates : f ∈ e.relationFields := List.mem_filter.2 ⟨member, by rw [Field.isRelation, kind]⟩
      obtain ⟨r', listed, leads'⟩ := h.target of relates
      obtain ⟨t, inBatch', of'⟩ := h.owner listed
      rw [← of'.name, leads] at leads'
      cases leads'
      obtain ⟨-, -, -, identified⟩ := inputDescriptors_eq_ok.1 of'.inputs
      rw [relation_validates_iff h.prepared kind rfl rfl rfl inBatch' rfl leads identified]
      refine ⟨.relation kind inBatch' leads, fun fits => ?_⟩
      cases fits with
      | relation _ inBatch'' leads'' byId =>
          rw [leads, Except.ok.injEq] at leads''
          rwa [h.prepared.eq_of_name_eq inBatch'' inBatch' leads''.symm] at byId
      | scalar other | enumeration other => cases kind.symm.trans other

/-- In a generation every field that clients may set has a property in the class that creates its entity. The sample of the
field is valid for this property iff the field is a scalar, an enumeration whose first option is a text, or a relation to an
entity that nothing but a text named `id` identifies. -/
theorem generate_sample_validates_iff (h : (schema.generate naming).outcome = .ok modules) (inBatch : e ∈ schema.entities)
    (member : f ∈ e.fields) (editable : f.isEditable = true) (json : (f.properties.getD "options").IsJson) :
    ∃ create p, createDescriptor e schema.ids = .ok create ∧ p ∈ create.properties ∧
      writeProperty e schema.ids false f = .ok p ∧
      ((∃ v, Sample.value e f schema.ids = .ok v ∧ schema.Validates e p v) ↔ schema.SampleFits e f) := by
  obtain ⟨classes, byName, rs, generated, rfl⟩ := generate_eq_ok h
  obtain ⟨r, -, of⟩ := generated.resource inBatch
  obtain ⟨create, -, -, -⟩ := inputDescriptors_eq_ok.1 of.inputs
  obtain ⟨properties, steps, rest⟩ := bind_eq_ok.1 create
  obtain ⟨p, inClass, written⟩ := mem_results_of_mapM_eq_ok steps (List.mem_filter.2 ⟨member, editable⟩)
  rw [← Except.ok.inj rest] at create
  exact ⟨_, p, create, inClass, written, generated.sample_validates_iff inBatch member json written⟩

end

/-- Users are identified by their addresses. -/
def Entity.subscriber : Entity :=
  { name := .text "User"
    id := .text "u"
    fields :=
      [{ name := .text "email", dataType := .email, required := true, unique := true, searchable := true, properties := [] }] }

/-- Reviews give stars, as numbers, and are written by users. -/
def Entity.review : Entity :=
  { name := .text "Review"
    id := .text "r"
    fields :=
      [{ name := .text "stars", dataType := .optionSet, required := true, unique := false, searchable := false
         properties := [(.text "options", .list [.int 1, .int 2])] },
       { name := .text "author", dataType := .lookup, required := true, unique := false, searchable := false
         properties := [(.text "relatedEntityId", .text "u")] }] }

/-- The reviews and their users, of whom no field is an `id`. -/
def Schema.reviews : Schema :=
  { entities := [.subscriber, .review], ids := [(.text "u", .text "User")] }

/-- No sample of a review is valid: the members for stars have texts as values, and a user has no `id`. -/
theorem Schema.reviews_invalid : ∃ modules, (reviews.generate ResourceNaming.derive).outcome = .ok modules ∧
    ∀ f ∈ Entity.review.fields, f.isEditable = true ∧ (f.properties.getD "options").IsJson ∧
      ∃ create p, createDescriptor .review reviews.ids = .ok create ∧ p ∈ create.properties ∧
        writeProperty .review reviews.ids false f = .ok p ∧
        ((∃ v, Sample.value .review f reviews.ids = .ok v ∧ reviews.Validates .review p v) ↔ reviews.SampleFits .review f) ∧
        ¬ ∃ v, Sample.value .review f reviews.ids = .ok v ∧ reviews.Validates .review p v := by
  obtain ⟨modules, returned⟩ := isOk_iff.1 (show (reviews.generate ResourceNaming.derive).outcome.isOk = true from rfl)
  have inBatch : Entity.review ∈ reviews.entities := List.mem_cons_of_mem _ List.mem_cons_self
  refine ⟨modules, returned, ?_⟩
  have invalid : ∀ f ∈ Entity.review.fields, f.isEditable = true ∧ (f.properties.getD "options").IsJson ∧
      ¬ reviews.SampleFits .review f := by
    simp only [Entity.review, List.forall_mem_cons]
    refine ⟨⟨rfl, .list ?_, fun fits => ?_⟩, ⟨rfl, .null, fun fits => ?_⟩, by simp⟩
    · simp only [List.forall_mem_cons]
      exact ⟨.int 1, .int 2, by simp⟩
    · cases fits with
      | scalar kind | relation kind => cases kind
      | enumeration _ starts =>
          cases starts with
          | text options => cases options
          | list options value =>
              cases options
              cases value
    · cases fits with
      | scalar kind | enumeration kind => cases kind
      | @relation t _ inBatch leads byId =>
          have name : t.name = .text "User" := (Except.ok.inj leads).symm
          simp only [reviews, List.mem_cons, List.not_mem_nil, or_false] at inBatch
          rcases inBatch with rfl | rfl
          · exact absurd (byId _ List.mem_cons_self).1 (by simp)
          · exact absurd name (by simp [Entity.review])
  intro f member
  obtain ⟨editable, json, unfit⟩ := invalid f member
  obtain ⟨create, p, made, inClass, written, condition⟩ := generate_sample_validates_iff returned inBatch member editable json
  exact ⟨editable, json, create, p, made, inClass, written, condition, fun valid => unfit (condition.1 valid)⟩

end ResourceScaffold
