import ResourceScaffold.Proofs.Tables
import ResourceScaffold.Proofs.WellTyped

/-!
# When classes and enumerations can be built

For a well-typed field, each check and each builder of a property decides a condition on that field alone. The class that
is read (`decides_entityDescriptor`) carries the conditions of all of them: once it is built, so are the four classes of the
operations (`inputDescriptors_returns`). The enumeration of a field decides the name and the options of the field
(`decides_enumeration`).
-/

namespace ResourceScaffold

variable {e : Entity} {f : Field} {ids : Entries}

/-! ## Checks on names -/

/-- A check decides whether it passes if it fails with a defect only. -/
theorem Decides.of_check {about : Value} {x : Except Fault Unit}
    (h : x = .ok () ∨ ∃ d : Defect, d.about = about ∧ x = .error (.defect d)) : Decides about x (x = .ok ()) := by
  rcases h with rfl | ⟨d, subject, rfl⟩
  · exact .ok () rfl
  · exact .defect subject (by simp)

/-- The check of an entity name decides whether it passes. -/
theorem decides_checkEntityName {name : Value} (h : name.IsText) :
    Decides name (checkEntityName name) (checkEntityName name = .ok ()) := by
  apply Decides.of_check
  obtain ⟨s, shown⟩ : ∃ s, name.asShownText = .ok s := by cases h <;> exact ⟨_, rfl⟩
  simp only [checkEntityName, shown, ok_bind]
  split_ifs <;> simp [Fault.ofName, Defect.about]

/-- The replacement character is in no word that can be an entity name. -/
theorem replacement_not_mem_of_isEntityWord {s : List Char} (h : isEntityWord s = true) : '\ufffd' ∉ s := by
  cases s with
  | nil => exact List.not_mem_nil
  | cons first rest =>
      simp only [isEntityWord, Bool.and_eq_true, List.all_eq_true] at h
      obtain ⟨alpha, tail⟩ := h
      rw [List.mem_cons, not_or]
      refine ⟨fun same => ?_, fun later => ?_⟩
      · rw [← same] at alpha
        exact absurd alpha (by decide)
      · split at tail
        · next last =>
            rw [← List.dropLast_append_getLast? '\n' last] at later
            rcases List.mem_append.1 later with inner | final
            · exact absurd (tail _ inner) (by decide)
            · exact absurd (List.mem_singleton.1 final) (by decide)
        · exact absurd (tail _ later) (by decide)

/-- A text with a surrogate is refused as the name of an entity. -/
theorem checkEntityName_illFormed (t : IllFormedText) :
    checkEntityName (.illFormed t) = .error (.ofName (.illFormed t) .malformed) := by
  have noWord : isEntityWord t.text.shown.toList = false :=
    Bool.eq_false_iff.2 fun word => replacement_not_mem_of_isEntityWord word t.replacement_mem_shown
  simp [checkEntityName, Value.isTruthy, Value.asShownText, noWord]

/-- A name that passes the check is a text. -/
theorem exists_text_of_checkEntityName {name : Value} (h : checkEntityName name = .ok ()) : ∃ s, name = .text s := by
  cases name with
  | text t => exact ⟨t, rfl⟩
  | illFormed t =>
      rw [checkEntityName_illFormed] at h
      cases h
  | _ =>
      unfold checkEntityName at h
      split at h
      · cases h
      · obtain ⟨s, text, -⟩ := bind_eq_ok.1 h
        cases text

/-- The check of a field name decides whether it passes. -/
theorem decides_checkFieldName (h : f.name.IsText) :
    Decides e.name (checkFieldName e f) (checkFieldName e f = .ok ()) := by
  apply Decides.of_check
  rcases text : f.name with _ | _ | _ | _ | s | t <;> rw [text] at h <;> try cases h
  all_goals simp only [checkFieldName, text]
  · split_ifs <;> simp [Fault.ofField, Defect.about]
  · simp [Fault.ofField, Defect.about]

/-! ## Fields -/

/-- A relation is of the kind of relations. -/
theorem Field.kind_of_isRelation (h : f.isRelation = true) : f.kind = .relation := by
  unfold isRelation at h
  split at h
  · assumption
  · cases h

/-- An enumeration is of the kind of enumerations, with one option or many. -/
theorem Field.exists_kind_of_isEnumeration (h : f.isEnumeration = true) : ∃ many, f.kind = .enumeration many := by
  unfold isEnumeration at h
  split at h
  · exact ⟨_, ‹_›⟩
  · cases h

/-- A field of an enumeration can be set by clients. -/
theorem Field.isEditable_of_isEnumeration (h : f.isEnumeration = true) : f.isEditable = true := by
  unfold isEnumeration kind at h
  unfold isEditable
  cases type : f.dataType <;> rw [type] at h <;> first | rfl | cases h

/-- A related name is found iff the field leads to it. -/
theorem relatedName_eq_ok (h : f.WellTyped) {target : Value} :
    relatedName e f ids = .ok target ↔ f.LeadsTo ids target := by
  unfold relatedName Field.LeadsTo
  rcases h.relatedEntityId.cases with ⟨absent, -⟩ | ⟨present, text, nonempty⟩
  · simp only [absent, Bool.not_false, if_true, Fault.ofField]
    constructor
    · intro found
      cases found
    · rintro ⟨_, _, rfl, nonempty, text, -⟩
      rw [text.isTruthy_iff.2 nonempty] at absent
      cases absent
  · obtain ⟨key, known⟩ := text.exists_key
    simp only [present, Bool.not_true, Bool.false_eq_true, if_false, Value.asKey, known, ok_bind]
    cases found : Table.find? ids key <;> simp [text, nonempty, known, found]

/-- Whether a related name is found is decided by whether the field leads to one. -/
theorem decides_relatedName (h : f.WellTyped) :
    Decides e.name (relatedName e f ids) (∃ target, f.LeadsTo ids target) := by
  unfold relatedName Field.LeadsTo
  rcases h.relatedEntityId.cases with ⟨absent, -⟩ | ⟨present, text, nonempty⟩
  · simp only [absent, Bool.not_false, if_true]
    refine .defect rfl ?_
    rintro ⟨target, _, _, rfl, nonempty, text, -⟩
    rw [text.isTruthy_iff.2 nonempty] at absent
    cases absent
  · obtain ⟨key, known⟩ := text.exists_key
    simp only [present, Bool.not_true, Bool.false_eq_true, if_false, Value.asKey, known, ok_bind]
    cases found : Table.find? ids key with
    | none => exact .defect rfl (by simp [known, found])
    | some target => exact .ok target ⟨target, _, key, rfl, nonempty, text, known, found⟩

/-- The name of an enumeration is decided by whether the field declares a usable one. -/
theorem decides_enumName (h : f.WellTyped) : Decides e.name (enumName e f) f.HasUsableEnumName := by
  unfold enumName Field.HasUsableEnumName
  have made : ∃ v, defaultEnumName e f = .ok v := by
    unfold defaultEnumName
    have name := h.name
    generalize f.name = name at name ⊢
    cases name <;> exact ⟨_, rfl⟩
  replace h := h.enumName
  generalize f.properties.getD "enumName" = declared at h made
  rcases h with rfl | text
  · simp only [Value.isTruthy, Bool.false_eq_true, if_false]
    exact .of_returns made (.inl trivial)
  · cases text with
    | text s =>
        by_cases empty : s = ""
        · simp only [empty, Value.isTruthy_text, bne_self_eq_false, Bool.false_eq_true, if_false]
          exact .of_returns made (.inr ⟨_, rfl, .inl rfl⟩)
        · have truthy : (Value.text s).isTruthy = true := by simpa using empty
          simp only [truthy, if_true]
          by_cases identifier : Text.isIdentifier (Value.text s).display = true
          · rw [if_pos identifier]
            exact .ok _ (.inr ⟨s, rfl, .inr identifier⟩)
          · rw [if_neg identifier]
            refine .defect rfl ?_
            rintro (null | ⟨_, same, nothing | identifier'⟩)
            · cases null
            · cases same
              exact empty nothing
            · cases same
              exact identifier identifier'
    | illFormed t =>
        -- a text with a surrogate is shown with a character that is in no identifier
        have unusable : Text.isIdentifier (Value.illFormed t).display = false := Text.isIdentifier_shown t
        simp only [Value.isTruthy, if_true, unusable, Bool.false_eq_true, if_false]
        refine .defect rfl ?_
        rintro (null | ⟨_, same, -⟩)
        · cases null
        · cases same

/-- The conditions of a field in the class that is read. -/
structure Field.Readable (ids : Entries) (e : Entity) (f : Field) : Prop where
  name : checkFieldName e f = .ok ()
  target : f.isRelation = true → ∃ target, f.LeadsTo ids target
  enumName : f.isEnumeration = true → f.HasUsableEnumName

/-- A property of a relation is made iff the relation leads somewhere. -/
theorem decides_relationProperty (h : f.WellTyped) (suffix : String) (kind : ReferenceKind) (optional isList : Bool) :
    Decides e.name (relationProperty e f ids suffix kind optional isList) (∃ target, f.LeadsTo ids target) :=
  ((decides_relatedName h).bind fun _ _ => .ok _ trivial).congr (by simp)

/-- A property of an enumeration is made iff its name can be used. -/
theorem decides_enumProperty (h : f.WellTyped) (many optional : Bool) :
    Decides e.name (enumProperty e f many optional) f.HasUsableEnumName :=
  ((decides_enumName h).bind fun _ _ => .ok _ trivial).congr (by simp)

/-- What is read of a field is made iff the field is readable. -/
theorem decides_readProperty (h : f.WellTyped) :
    Decides e.name (readProperty e ids f) (f.Readable ids e) := by
  have checked := (decides_checkFieldName (e := e) h.name)
  unfold readProperty
  cases kind : f.kind with
  | scalar t =>
      refine (checked.bind fun _ _ => .ok _ trivial).congr ?_
      exact ⟨fun parts => ⟨parts.1, by simp [Field.isRelation, kind], by simp [Field.isEnumeration, kind]⟩,
        fun readable => ⟨readable.name, trivial⟩⟩
  | enumeration many =>
      refine (checked.bind fun _ _ => decides_enumProperty h many _).congr ?_
      exact ⟨fun parts => ⟨parts.1, by simp [Field.isRelation, kind], fun _ => parts.2⟩,
        fun readable => ⟨readable.name, readable.enumName (by simp [Field.isEnumeration, kind])⟩⟩
  | relation =>
      refine (checked.bind fun _ _ => decides_relationProperty h "" .entity true _).congr ?_
      exact ⟨fun parts => ⟨parts.1, fun _ => parts.2, by simp [Field.isEnumeration, kind]⟩,
        fun readable => ⟨readable.name, readable.target (by simp [Field.isRelation, kind])⟩⟩

/-! ## The classes of an entity -/

/-- The class that is read can be built iff each field can be read. -/
theorem decides_entityDescriptor (ids : Entries) (h : e.WellTyped) :
    Decides e.name (entityDescriptor e ids) (∀ f ∈ e.fields, f.Readable ids e) :=
  ((Decides.mapM fun f hf => decides_readProperty (h.fields f hf)).bind fun _ _ => .ok _ trivial).congr (by simp)

/-- The target of a relation that can be read is known. -/
theorem exists_relatedName (readable : ∃ p, readProperty e ids f = .ok p) (kind : f.kind = .relation) :
    ∃ target, relatedName e f ids = .ok target := by
  obtain ⟨p, made⟩ := readable
  obtain ⟨_, -, rest⟩ := bind_eq_ok.1 made
  simp only [kind] at rest
  obtain ⟨target, found, -⟩ := bind_eq_ok.1 rest
  exact ⟨target, found⟩

/-- The name of an enumeration that can be read is known. -/
theorem exists_enumName {many : Bool} (readable : ∃ p, readProperty e ids f = .ok p) (kind : f.kind = .enumeration many) :
    ∃ name, enumName e f = .ok name := by
  obtain ⟨p, made⟩ := readable
  obtain ⟨_, -, rest⟩ := bind_eq_ok.1 made
  simp only [kind] at rest
  obtain ⟨name, named, -⟩ := bind_eq_ok.1 rest
  exact ⟨name, named⟩

/-- A field that can be read can be written. -/
theorem writeProperty_returns (readable : ∃ p, readProperty e ids f = .ok p) (allOptional : Bool) :
    ∃ p, writeProperty e ids allOptional f = .ok p := by
  unfold writeProperty
  cases kind : f.kind with
  | scalar t => exact ⟨_, rfl⟩
  | enumeration many =>
      obtain ⟨name, named⟩ := exists_enumName readable kind
      exact ⟨_, by simp only [enumProperty, named, ok_bind]; rfl⟩
  | relation =>
      obtain ⟨target, found⟩ := exists_relatedName readable kind
      exact ⟨_, by simp only [relationProperty, found, ok_bind]; rfl⟩

/-- A filterable scalar is no document, so it has a filter. -/
theorem exists_filter_of_isFilterable {t : ScalarType} (kind : f.kind = .scalar t) (h : f.isFilterable = true) :
    ∃ filter, t.filter? = some filter := by
  have noDocument : f.dataType ≠ .json := by
    intro document
    simp [Field.isFilterable, document] at h
  unfold Field.kind at kind
  cases type : f.dataType <;> rw [type] at kind noDocument <;> cases kind <;> first | exact ⟨_, rfl⟩ | contradiction

/-- A field that can be read can be filtered by, if it is filterable. -/
theorem whereProperty_returns (readable : ∃ p, readProperty e ids f = .ok p) (filterable : f.isFilterable = true) :
    ∃ p, whereProperty e ids f = .ok p := by
  unfold whereProperty
  cases kind : f.kind with
  | scalar t =>
      obtain ⟨filter, found⟩ := exists_filter_of_isFilterable kind filterable
      simp [found]
  | enumeration many =>
      obtain ⟨name, named⟩ := exists_enumName readable kind
      exact ⟨_, by simp only [enumProperty, named, ok_bind]; rfl⟩
  | relation =>
      obtain ⟨target, found⟩ := exists_relatedName readable kind
      exact ⟨_, by simp only [relationProperty, found, ok_bind]; rfl⟩

/-- An identifying field is a scalar. -/
theorem whereUniqueProperty_returns (identifying : f.isIdentifying = true) :
    ∃ p, whereUniqueProperty f = .ok p := by
  unfold whereUniqueProperty
  cases kind : f.kind with
  | scalar t => exact ⟨_, rfl⟩
  | enumeration many => simp [Field.isIdentifying, kind] at identifying
  | relation => simp [Field.isIdentifying, kind] at identifying

/-- The class that identifies an entity can always be built. -/
theorem whereUniqueDescriptor_returns (e : Entity) : ∃ d, whereUniqueDescriptor e = .ok d := by
  have built : ∀ f ∈ e.fields.filter (fun f => f.isFilterable && f.isIdentifying), ∃ p, whereUniqueProperty f = .ok p :=
    fun f hf => whereUniqueProperty_returns (by simpa using (Bool.and_eq_true_iff.1 (List.mem_filter.1 hf).2).2)
  obtain ⟨properties, done⟩ := exists_mapM_eq_ok built
  exact ⟨_, by rw [whereUniqueDescriptor, done, ok_bind]; rfl⟩

/-- The property that addresses records is one of the class. -/
theorem Descriptor.mem_of_keyProperty? {d : Descriptor} {p : Property} (key : d.keyProperty? = some p) :
    p ∈ d.properties := by
  unfold keyProperty? at key
  split at key
  · next found =>
      cases key
      exact List.mem_of_find?_eq_some found
  · exact List.mem_of_mem_head? key

/-- The property that addresses single records is that of a scalar field. -/
theorem exists_field_of_keyProperty? {unique : Descriptor} {p : Property} (made : whereUniqueDescriptor e = .ok unique)
    (key : unique.keyProperty? = some p) : ∃ f ∈ e.fields, (∃ t, f.kind = .scalar t) ∧ p.name = f.name := by
  have listed := Descriptor.mem_of_keyProperty? key
  obtain ⟨properties, steps, rest⟩ := bind_eq_ok.1 made
  cases rest
  obtain ⟨f, member, step⟩ := exists_mem_of_mapM_eq_ok steps listed
  refine ⟨f, (List.mem_filter.1 member).1, ?_⟩
  unfold whereUniqueProperty at step
  split at step
  · next t kind =>
      cases step
      exact ⟨⟨t, kind⟩, rfl⟩
  · cases step

/-- Each field can be read once the class that is read is built. -/
theorem readProperty_of_entityDescriptor {d : Descriptor} (made : entityDescriptor e ids = .ok d) (member : f ∈ e.fields) :
    ∃ p, readProperty e ids f = .ok p := by
  obtain ⟨properties, steps, -⟩ := bind_eq_ok.1 made
  obtain ⟨p, -, step⟩ := mem_results_of_mapM_eq_ok steps member
  exact ⟨p, step⟩

/-- An entity whose class that is read can be built has the four classes of the operations too. -/
theorem inputDescriptors_returns {d : Descriptor} (made : entityDescriptor e ids = .ok d) :
    ∃ inputs, inputDescriptors e ids = .ok inputs := by
  have editable (allOptional : Bool) : ∃ ps, (e.fields.filter Field.isEditable).mapM (writeProperty e ids allOptional)
      = .ok ps :=
    exists_mapM_eq_ok fun f hf =>
      writeProperty_returns (readProperty_of_entityDescriptor made (List.mem_filter.1 hf).1) allOptional
  have filterable : ∃ ps, (e.fields.filter Field.isFilterable).mapM (whereProperty e ids) = .ok ps :=
    exists_mapM_eq_ok fun f hf =>
      whereProperty_returns (readProperty_of_entityDescriptor made (List.mem_filter.1 hf).1) (List.mem_filter.1 hf).2
  obtain ⟨created, create⟩ := editable false
  obtain ⟨updated, update⟩ := editable true
  obtain ⟨filters, filter⟩ := filterable
  obtain ⟨unique, identify⟩ := whereUniqueDescriptor_returns e
  simp [inputDescriptors, createDescriptor, create, updateDescriptor, update, whereDescriptor, filter, identify]

/-! ## Enumerations -/

/-- The member of an option. -/
def EnumOption.member (o : EnumOption) : EnumMember :=
  { name := o.memberName, value := o.value.wide }

/-- The member of an option is added iff the option has a value and the name is not taken, and it is added at the end. -/
theorem addMember_eq_ok {v : Value} {before after : List EnumMember} :
    addMember e f before v = .ok after ↔
      (EnumOption.ofValue v).hasValue = true ∧ (EnumOption.ofValue v).memberName ∉ before.map EnumMember.name ∧
        after = before ++ [(EnumOption.ofValue v).member] := by
  unfold addMember
  by_cases valued : (EnumOption.ofValue v).hasValue = true
  · by_cases taken : (EnumOption.ofValue v).memberName ∈ before.map EnumMember.name
    · have found : (before.any fun m => m.name == (EnumOption.ofValue v).memberName) = true := by simpa using taken
      simp [valued, taken, found]
    · have free : (before.any fun m => m.name == (EnumOption.ofValue v).memberName) = false := by simpa using taken
      simp [valued, taken, free, EnumOption.member, eq_comm]
  · simp [valued]

/-- Options whose members can be added have theirs appended. -/
theorem addMembers_append {options : List Value} {before after : List EnumMember}
    (run : options.foldlM (addMember e f) before = .ok after) :
    after = before ++ options.map fun v => (EnumOption.ofValue v).member := by
  induction options generalizing before with
  | nil =>
      cases run
      exact (List.append_nil _).symm
  | cons v options ih =>
      rw [List.foldlM_cons] at run
      obtain ⟨next, step, rest⟩ := bind_eq_ok.1 run
      obtain ⟨-, -, rfl⟩ := addMember_eq_ok.1 step
      rw [ih rest, List.append_assoc, List.singleton_append, List.map_cons]

/-- The options of a field are what it declares, unless that counts as nothing. -/
theorem enumOptions_eq_ok {v : Value} :
    enumOptions e f = .ok v ↔ (f.properties.getD "options").isTruthy = true ∧ f.properties.getD "options" = v := by
  unfold enumOptions
  by_cases truthy : (f.properties.getD "options").isTruthy = true <;> simp [truthy]

/-- The steps by which an enumeration is built have returned. -/
structure EnumDescriptor.Made (e : Entity) (f : Field) (d : EnumDescriptor) (values : Value) (options : List Value) :
    Prop where
  known : enumOptions e f = .ok values
  parts : values.elements = .ok options
  added : options.foldlM (addMember e f) [] = .ok d.members
  named : enumName e f = .ok d.name

/-- An enumeration is made iff its name and its members are. -/
theorem EnumDescriptor.ofField_eq_ok {d : EnumDescriptor} :
    ofField e f = .ok d ↔ ∃ values options, Made e f d values options := by
  constructor
  · intro made
    obtain ⟨values, known, rest⟩ := bind_eq_ok.1 made
    obtain ⟨options, parts, rest⟩ := bind_eq_ok.1 rest
    obtain ⟨members, added, rest⟩ := bind_eq_ok.1 rest
    obtain ⟨name, named, rest⟩ := bind_eq_ok.1 rest
    cases rest
    exact ⟨values, options, known, parts, added, named⟩
  · rintro ⟨values, options, known, parts, added, named⟩
    rw [ofField, known, ok_bind, parts, ok_bind, added, ok_bind, named, ok_bind, pure_eq_ok]

/-- An enumeration has the members of its options, in order. -/
theorem EnumDescriptor.members_eq {d : EnumDescriptor} (made : ofField e f = .ok d) :
    ∃ values options, enumOptions e f = .ok values ∧ values.elements = .ok options ∧
      d.members = options.map fun v => (EnumOption.ofValue v).member := by
  obtain ⟨values, options, steps⟩ := ofField_eq_ok.1 made
  exact ⟨values, options, steps.known, steps.parts, addMembers_append steps.added⟩

/-- The members of further options are added iff each option has a value and no two members have one name. -/
theorem decides_addMembers {options : List Value} (h : ∀ o ∈ options, o.IsOption) (members : List EnumMember)
    (distinct : (members.map EnumMember.name).Nodup) :
    Decides e.name (options.foldlM (addMember e f) members)
      ((∀ o ∈ options, o.optionText ≠ "") ∧
        (members.map EnumMember.name ++ options.map fun o => Text.constantName o.optionLabel).Nodup) := by
  induction options generalizing members with
  | nil => exact .ok members (by simpa using distinct)
  | cons o options ih =>
      have option := h o List.mem_cons_self
      rw [List.foldlM_cons, addMember]
      by_cases valued : o.optionText ≠ ""
      · have hasValue := (EnumOption.hasValue_ofValue option).2 valued
        have name := EnumOption.memberName_ofValue option valued
        simp only [hasValue, Bool.not_true, Bool.false_eq_true, if_false, name]
        by_cases taken : Text.constantName o.optionLabel ∈ members.map EnumMember.name
        · have found : (members.any fun m => m.name == Text.constantName o.optionLabel) = true := by
            simpa using taken
          simp only [found, if_true]
          refine .defect rfl fun ⟨_, nodup⟩ => ?_
          exact (List.nodup_append.1 nodup).2.2 _ taken _ List.mem_cons_self rfl
        · have free : (members.any fun m => m.name == Text.constantName o.optionLabel) = false := by
            simpa using taken
          simp only [free, Bool.false_eq_true, if_false, ok_bind]
          refine (ih (fun o ho => h o (List.mem_cons_of_mem _ ho)) _ ?_).congr ?_
          · simpa [List.nodup_append, distinct] using taken
          · simp [valued]
      · have noValue : (EnumOption.ofValue o).hasValue = false := by
          simpa using mt (EnumOption.hasValue_ofValue option).1 valued
        simp only [noValue, Bool.not_false, if_true]
        exact .defect rfl fun ⟨all, _⟩ => valued (all o List.mem_cons_self)

/-- The enumeration of a field can be built iff its name and its options are usable. -/
theorem decides_enumeration (h : f.WellTyped) :
    Decides e.name (EnumDescriptor.ofField e f) (f.HasOptions ∧ f.HasUsableEnumName) := by
  unfold EnumDescriptor.ofField enumOptions Field.HasOptions
  rcases h.options with absent | ⟨items, list, options⟩
  · simp only [absent]
    refine .defect rfl ?_
    rintro ⟨⟨items, list, -⟩, -⟩
    cases list
  · have truthy : (f.properties.getD "options").isTruthy = !items.isEmpty := by
      rw [← Value.isTruthy_unmarked, list]
      rfl
    have elements : (f.properties.getD "options").elements = .ok items := by
      rw [← Value.elements_unmarked, list]
      rfl
    cases empty : items.isEmpty with
    | true =>
        simp only [truthy, empty, Bool.not_true, Bool.false_eq_true, if_false]
        refine .defect rfl ?_
        rintro ⟨⟨items', list', nonempty, -⟩, -⟩
        rw [list] at list'
        cases list'
        exact nonempty (List.isEmpty_iff.1 empty)
    | false =>
        simp only [truthy, empty, Bool.not_false, if_true, ok_bind, elements]
        have nonempty : items ≠ [] := by
          rintro rfl
          cases empty
        refine ((decides_addMembers options [] List.nodup_nil).bind fun _ _ =>
          (decides_enumName h).bind fun _ _ => .ok _ trivial).congr ?_
        simp [list, nonempty]

end ResourceScaffold
