import ResourceScaffold.Proofs.Bindings
import ResourceScaffold.Proofs.EntityNames
import ResourceScaffold.Proofs.FieldProperties
import ResourceScaffold.Proofs.WordBoundaries

/-!
# Attributes that capture annotations

The annotations of a data class are read when the class is first used, with its attributes in scope. So an attribute captures a
name that an annotation of the class mentions, whatever the module binds this name to.

* `TypeExpr.mem_identifiersIn_text`: an annotation mentions the names in its type and, where they apply, `Optional` and `List`;
* `Descriptor.IsClassOf.forall₂_gives`: a class has one property for each field that it includes, as the field gives it;
* `Field.Mentions`: what the annotation of a field mentions, from the data of the field;
* `entityDescriptor_captures_iff`: a name is captured in the module of a class iff the class includes a field of this name and
  a field that mentions it.

The check of field names refuses none of the fixed names that annotations are made of (`checkFieldName_of_mem_annotationNames`).
The names of the filters that stand beside a class are no matter: their own attributes capture nothing
(`Filter.not_captures_definition`).
-/

namespace ResourceScaffold

open Code

/-! ## Names in annotations -/

/-- The identifiers that occur in a text of code: the longest runs of characters of identifiers, if they are some. -/
def Code.identifiersIn (text : String) : List String :=
  ((Text.runsOf Text.isIdentifierContinue text.toList).map String.ofList).filter Text.isIdentifier

/-- A class captures a name when it has an attribute of this name and mentions it in an annotation. -/
def Code.ClassDefinition.Captures (c : ClassDefinition) (s : String) : Prop :=
  (∃ type requestName, .field s type requestName ∈ c.members) ∧
    ∃ name type requestName, .field name type requestName ∈ c.members ∧ s ∈ identifiersIn type.text

/-- A class in the module captures the name. -/
def Code.SourceModule.Captures (m : SourceModule) (s : String) : Prop :=
  ∃ c, .define c ∈ m.body ∧ c.Captures s

/-- An identifier in front of brackets is mentioned beside what stands in them. -/
theorem identifiersIn_brackets {s : String} (usable : Text.isIdentifier s = true)
    (letters : ∀ c ∈ s.toList, Text.isIdentifierContinue c = true) (inner : String) :
    identifiersIn (s ++ ("[" ++ inner ++ "]")) = s :: identifiersIn inner := by
  have nonempty : s.toList ≠ [] := by
    obtain ⟨first, rest, chars, -⟩ := Text.isIdentifier_iff.1 usable
    rw [chars]
    exact List.cons_ne_nil _ _
  have chars : (s ++ ("[" ++ inner ++ "]")).toList = s.toList ++ '[' :: (inner.toList ++ [']']) := by
    simp
  rw [identifiersIn, chars, Text.runsOf_append_of_neg letters nonempty (by decide),
    Text.runsOf_append_singleton (by decide), List.map_cons, String.ofList_toList, List.filter_cons_of_pos usable]
  rfl

/-- An annotation mentions the names in its type and what makes it optional or a list. -/
theorem Code.TypeExpr.mem_identifiersIn_text {a : TypeExpr} {s : String} :
    s ∈ identifiersIn a.text ↔
      a.optional = true ∧ s = "Optional" ∨ a.isList = true ∧ s = "List" ∨ s ∈ identifiersIn a.name := by
  have list (inner : String) : identifiersIn ("List" ++ ("[" ++ inner ++ "]")) = "List" :: identifiersIn inner :=
    identifiersIn_brackets (by decide) (List.all_eq_true.1 (by decide)) inner
  have optional (inner : String) :
      identifiersIn ("Optional" ++ ("[" ++ inner ++ "]")) = "Optional" :: identifiersIn inner :=
    identifiersIn_brackets (by decide) (List.all_eq_true.1 (by decide)) inner
  have listText (inner : String) : "List[" ++ inner ++ "]" = "List" ++ ("[" ++ inner ++ "]") := by
    have name : "List[" = "List" ++ "[" := rfl
    simp only [name, String.append_assoc]
  have optionalText (inner : String) : "Optional[" ++ inner ++ "]" = "Optional" ++ ("[" ++ inner ++ "]") := by
    have name : "Optional[" = "Optional" ++ "[" := rfl
    simp only [name, String.append_assoc]
  obtain ⟨name, isList, isOptional⟩ := a
  cases isList <;> cases isOptional <;> simp [TypeExpr.text, listText, optionalText, list, optional]

/-! ## What fields mention -/

/-- How the property of a field stands in the class of a kind. -/
def DescriptorKind.form : DescriptorKind → Field → PropertyForm
  | entity, f => f.readForm
  | createInput, f => f.writeForm false
  | updateInput, f => f.writeForm true
  | whereInput, _ => whereForm
  | whereUniqueInput, _ =>
      { other := .whereUniqueInput, relationOptional := false, relationIsList := false, optional := false }

/-- Relations lead to what filters entities only where entities are filtered. -/
theorem DescriptorKind.form_other_eq_whereInput {kind : DescriptorKind} {f : Field} :
    (kind.form f).other = .whereInput ↔ kind = .whereInput := by
  cases kind <;> simp [form, Field.readForm, Field.writeForm, whereForm]

section

variable {ids : Entries} {e : Entity} {kind : DescriptorKind} {f : Field} {p : Property} {d read : Descriptor} {s : String}

/-- Whether the property of a field can be left out in the class of a kind. -/
def Field.isOptionalIn (kind : DescriptorKind) (f : Field) : Bool :=
  if f.isRelation then (kind.form f).relationOptional else (kind.form f).optional

/-- Whether the property of a field is a list in the class of a kind. -/
def Field.isListIn (kind : DescriptorKind) (f : Field) : Bool :=
  match f.kind with
  | .scalar _ => false
  | .enumeration many => many
  | .relation => (kind.form f).relationIsList

/-- The names that the annotation of a field mentions in the class of a kind. -/
inductive Field.Mentions (ids : Entries) (e : Entity) (kind : DescriptorKind) (f : Field) : String → Prop where
  | optional (leftOut : f.isOptionalIn kind = true) : Mentions ids e kind f "Optional"
  | list (many : f.isListIn kind = true) : Mentions ids e kind f "List"
  /-- The names of the type of a scalar. -/
  | scalar {t : ScalarType} {s : String} (scalar : f.kind = .scalar t) (other : kind ≠ .whereInput)
      (named : s ∈ identifiersIn t.typeName) : Mentions ids e kind f s
  /-- Where entities are filtered, the filter of a scalar. -/
  | filter {t : ScalarType} {filter : Filter} (scalar : f.kind = .scalar t) (filters : kind = .whereInput)
      (found : t.filter? = some filter) : Mentions ids e kind f filter.name
  /-- The name of an enumeration, which is one identifier if the name of the entity is. -/
  | enumeration {many : Bool} {name : Value} {s : String} (enumerates : f.kind = .enumeration many)
      (made : enumName e f = .ok name) (named : s ∈ identifiersIn name.display) : Mentions ids e kind f s
  /-- The name of the class of the target of a relation. -/
  | relation {target : Value} {s : String} (relates : f.kind = .relation) (found : relatedName e f ids = .ok target)
      (named : s ∈ identifiersIn (target.display ++ (kind.form f).other.suffix)) : Mentions ids e kind f s

/-- The annotation of a property. -/
def Property.annotation (p : Property) : TypeExpr :=
  { name := p.type.display, isList := p.isList, optional := p.optional }

/-- A property is optional where its field is in this kind of class. -/
theorem Field.Gives.optional_eq (h : f.Gives ids e (kind.form f) p) : p.optional = f.isOptionalIn kind := by
  unfold isOptionalIn isRelation
  cases h with
  | scalar fieldKind | filter fieldKind | enumeration fieldKind | relation fieldKind =>
      rw [fieldKind]
      rfl

/-- A property is a list where its field is in this kind of class. -/
theorem Field.Gives.isList_eq (h : f.Gives ids e (kind.form f) p) : p.isList = f.isListIn kind := by
  unfold isListIn
  cases h with
  | scalar fieldKind =>
      rw [fieldKind]
      rfl
  | filter fieldKind | enumeration fieldKind | relation fieldKind => rw [fieldKind]

/-- A scalar is given by its filter where entities are filtered. -/
theorem Field.Gives.type_of_filter {t : ScalarType} {filter : Filter} {form : PropertyForm} (h : f.Gives ids e form p)
    (scalar : f.kind = .scalar t) (filters : form.other = .whereInput) (found : t.filter? = some filter) :
    p.type = .text filter.name := by
  cases h with
  | scalar _ other => exact absurd filters other
  | filter scalar' _ found' =>
      cases scalar.symm.trans scalar'
      cases found.symm.trans found'
      rfl
  | enumeration enumerates => cases scalar.symm.trans enumerates
  | relation relates => cases scalar.symm.trans relates

/-- The name of a filter is a single identifier. -/
theorem Filter.identifiersIn_name (filter : Filter) : identifiersIn filter.name = [filter.name] := by
  cases filter <;> decide

/-- The type of a property mentions what its field does, beside what makes it optional or a list. -/
theorem Field.Gives.mentions_of_type (h : f.Gives ids e (kind.form f) p) (named : s ∈ identifiersIn p.type.display) :
    f.Mentions ids e kind s := by
  cases h with
  | scalar fieldKind other => exact .scalar fieldKind (mt DescriptorKind.form_other_eq_whereInput.2 other) named
  | @filter t filter fieldKind filters found =>
      rw [Value.display_text, filter.identifiersIn_name, List.mem_singleton] at named
      rw [named]
      exact .filter fieldKind (DescriptorKind.form_other_eq_whereInput.1 filters) found
  | enumeration fieldKind made => exact .enumeration fieldKind made named
  | relation fieldKind found => exact .relation fieldKind found named

/-- The annotation of the property that a field gives mentions what the field does. -/
theorem Field.Gives.mentions_iff (h : f.Gives ids e (kind.form f) p) :
    s ∈ identifiersIn p.annotation.text ↔ f.Mentions ids e kind s := by
  rw [TypeExpr.mem_identifiersIn_text, Property.annotation, h.optional_eq, h.isList_eq]
  constructor
  · rintro (⟨leftOut, rfl⟩ | ⟨many, rfl⟩ | named)
    · exact .optional leftOut
    · exact .list many
    · exact h.mentions_of_type named
  · intro mentions
    cases mentions with
    | optional leftOut => exact .inl ⟨leftOut, rfl⟩
    | list many => exact .inr (.inl ⟨many, rfl⟩)
    | scalar fieldKind other named =>
        rw [h.eq_scalar fieldKind (mt DescriptorKind.form_other_eq_whereInput.1 other)]
        exact .inr (.inr named)
    | @filter t filter fieldKind filters found =>
        rw [h.type_of_filter fieldKind (DescriptorKind.form_other_eq_whereInput.2 filters) found, Value.display_text,
          filter.identifiersIn_name]
        exact .inr (.inr List.mem_cons_self)
    | enumeration fieldKind made named =>
        obtain ⟨name', made', type, -⟩ := h.eq_enumeration fieldKind
        rw [made] at made'
        cases made'
        exact .inr (.inr (type ▸ named))
    | relation fieldKind found named =>
        obtain ⟨target, found', leads, -⟩ := h.leadsTo fieldKind
        rw [found] at found'
        cases found'
        rw [leads.type]
        exact .inr (.inr named)

/-- A class has one property for each field that it includes, as the field gives it. -/
theorem Descriptor.IsClassOf.forall₂_gives (h : d.IsClassOf ids e) :
    List.Forall₂ (fun f p => f.Gives ids e (d.kind.form f) p) (e.fields.filter d.kind.includes) d.properties := by
  cases h with
  | read made =>
      obtain ⟨properties, steps, rest⟩ := bind_eq_ok.1 made
      cases rest
      have all : e.fields.filter DescriptorKind.entity.includes = e.fields := List.filter_true e.fields
      rw [all]
      exact (mapM_eq_ok.1 steps).imp fun f p => readProperty_gives
  | create made | update made =>
      obtain ⟨properties, steps, rest⟩ := bind_eq_ok.1 made
      cases rest
      exact (mapM_eq_ok.1 steps).imp fun f p => writeProperty_gives
  | filter made =>
      obtain ⟨properties, steps, rest⟩ := bind_eq_ok.1 made
      cases rest
      exact (mapM_eq_ok.1 steps).imp fun f p => whereProperty_gives
  | identify made =>
      obtain ⟨properties, steps, rest⟩ := bind_eq_ok.1 made
      cases rest
      refine (mapM_eq_ok.1 steps).imp fun f p step => ?_
      obtain ⟨⟨t, scalar, rfl⟩, -⟩ := whereUniqueProperty_ofField step
      exact .scalar scalar (mt DescriptorKind.form_other_eq_whereInput.1 DescriptorKind.noConfusion)

/-! ## What is captured -/

/-- The attributes of a class are those of its properties. -/
theorem Descriptor.mem_members_iff {name : String} {type : TypeExpr} {requestName : Option String} :
    .field name type requestName ∈ d.definition.members ↔
      ∃ p ∈ d.properties, p.name.display = name ∧ p.annotation = type ∧ requestName = none := by
  have members : d.definition.members =
      [.modelConfig, .blank] ++ if d.properties.isEmpty then [.pass] else d.properties.map Property.member := rfl
  cases none : d.properties.isEmpty with
  | true =>
      have empty : d.properties = [] := List.isEmpty_iff.1 none
      simp [members, empty]
  | false =>
      rw [members, none]
      simp [Property.member, Property.annotation, eq_comm]

/-- Each attribute of a class is given by a field that the class includes. -/
theorem Descriptor.IsClassOf.field_of_member (h : d.IsClassOf ids e) {name : String} {type : TypeExpr}
    {requestName : Option String} (listed : .field name type requestName ∈ d.definition.members) :
    ∃ f ∈ e.fields, d.kind.includes f = true ∧
      ∃ p, f.Gives ids e (d.kind.form f) p ∧ p.name.display = name ∧ p.annotation = type := by
  obtain ⟨p, inClass, same, annotated, -⟩ := mem_members_iff.1 listed
  obtain ⟨f, kept, gives⟩ := exists_left_of_forall₂ h.forall₂_gives inClass
  obtain ⟨member, includes⟩ := List.mem_filter.1 kept
  exact ⟨f, member, includes, p, gives, same, annotated⟩

/-- Each field that a class includes gives an attribute of it. -/
theorem Descriptor.IsClassOf.member_of_field (h : d.IsClassOf ids e) (member : f ∈ e.fields)
    (includes : d.kind.includes f = true) :
    ∃ p, f.Gives ids e (d.kind.form f) p ∧ .field p.name.display p.annotation none ∈ d.definition.members := by
  obtain ⟨p, inClass, gives⟩ := exists_right_of_forall₂ h.forall₂_gives (List.mem_filter.2 ⟨member, includes⟩)
  exact ⟨p, gives, mem_members_iff.2 ⟨p, inClass, rfl, rfl, rfl⟩⟩

/-- A class captures a name iff it includes a field of this name and a field that mentions it. -/
theorem Descriptor.IsClassOf.captures_iff (h : d.IsClassOf ids e) (made : entityDescriptor e ids = .ok read) :
    d.definition.Captures s ↔
      (∃ f ∈ e.fields, d.kind.includes f = true ∧ f.name = .text s) ∧
        ∃ f ∈ e.fields, d.kind.includes f = true ∧ f.Mentions ids e d.kind s := by
  constructor
  · rintro ⟨⟨type, requestName, own⟩, name, type', requestName', listed, inType⟩
    obtain ⟨f, member, includes, p, gives, named, -⟩ := h.field_of_member own
    obtain ⟨g, member', includes', q, gives', -, rfl⟩ := h.field_of_member listed
    obtain ⟨t, text⟩ := exists_text_of_field made member
    rw [gives.ofField.name, text, Value.display_text] at named
    exact ⟨⟨f, member, includes, named ▸ text⟩, g, member', includes', gives'.mentions_iff.1 inType⟩
  · rintro ⟨⟨f, member, includes, text⟩, g, member', includes', mentions⟩
    obtain ⟨p, gives, own⟩ := h.member_of_field member includes
    obtain ⟨q, gives', listed⟩ := h.member_of_field member' includes'
    rw [gives.ofField.name, text, Value.display_text] at own
    exact ⟨⟨_, _, own⟩, _, _, _, listed, gives'.mentions_iff.2 mentions⟩

/-- The class of a filter captures nothing: its attributes are operators, which no annotation mentions. -/
theorem Filter.not_captures_definition (filter : Filter) : ¬ filter.definition.Captures s := by
  have operators : ∀ o ∈ filter.operators,
      o.name ≠ "Optional" ∧ o.name ≠ "List" ∧ o.name ∉ identifiersIn filter.valueType.typeName := by
    cases filter <;> decide
  rintro ⟨⟨type, requestName, own⟩, name, type', requestName', listed, inType⟩
  simp only [definition, List.mem_append, List.mem_cons, reduceCtorEq, List.not_mem_nil, or_false, false_or, List.mem_map,
    Member.field.injEq] at own listed
  obtain ⟨o, inFilter, rfl, -⟩ := own
  obtain ⟨o', -, -, rfl, -⟩ := listed
  obtain ⟨notOptional, notList, notNamed⟩ := operators o inFilter
  rcases TypeExpr.mem_identifiersIn_text.1 inType with ⟨-, same⟩ | ⟨-, same⟩ | named
  · exact notOptional same
  · exact notList same
  · exact notNamed named

/-- The module of a class defines the class and the filters beside it. -/
theorem Descriptor.define_mem_body_moduleWith {c : ClassDefinition} {entityName : String} {imports : List ClassImport}
    {filters : List Filter} : .define c ∈ (d.moduleWith entityName imports filters).body ↔
      c = d.definition ∨ ∃ filter ∈ filters, c = filter.definition := by
  have head (deferring : Bool) : .define c ∉ libraryImports deferring := by
    simp [libraryImports]
  have direct : .define c ∉ if (directImports imports).isEmpty then [] else
      Statement.blank :: (directImports imports).map .importNames := by
    split <;> simp
  have forTypes : .define c ∉ if (deferredImports imports).isEmpty then [] else
      [Statement.blank, .importForTypes (deferredImports imports)] := by
    split <;> simp
  have late : .define c ∉ lateImports imports := by
    unfold lateImports
    simp only
    split <;> simp
  have beside : .define c ∈ (filters.flatMap fun f => [Statement.define f.definition, .blank, .blank]) ↔
      ∃ filter ∈ filters, c = filter.definition := by
    simp [List.mem_flatMap]
  simp only [moduleWith, opening, List.mem_append, head, direct, forTypes, late, beside, List.mem_cons, List.not_mem_nil,
    or_false, false_or, reduceCtorEq, Statement.define.injEq]
  exact or_comm

/-- Of an entity whose class that is read can be built, the five classes are built, and in the module of each of them a name is
captured iff the class includes a field of this name and a field, perhaps the same, whose annotation mentions the name. -/
theorem entityDescriptor_captures_iff (made : entityDescriptor e ids = .ok read) :
    ∃ inputs, inputDescriptors e ids = .ok inputs ∧
      ∀ d ∈ read :: inputs.toList, ∀ entityName m, d.toModule entityName = .ok m → ∀ s,
        m.Captures s ↔
          (∃ f ∈ e.fields, d.kind.includes f = true ∧ f.name = .text s) ∧
            ∃ f ∈ e.fields, d.kind.includes f = true ∧ f.Mentions ids e d.kind s := by
  obtain ⟨inputs, inputsMade⟩ := inputDescriptors_returns made
  refine ⟨inputs, inputsMade, fun d listed entityName m rendered s => ?_⟩
  have isClass : d.IsClassOf ids e := by
    rcases List.mem_cons.1 listed with rfl | input
    · exact .read made
    · exact InputDescriptors.isClassOf inputsMade input
  obtain ⟨imports, filters, -, -, rfl⟩ := Descriptor.toModule_eq_ok.1 rendered
  rw [← isClass.captures_iff made]
  constructor
  · rintro ⟨c, defined, captures⟩
    rcases Descriptor.define_mem_body_moduleWith.1 defined with rfl | ⟨filter, -, rfl⟩
    · exact captures
    · exact absurd captures filter.not_captures_definition
  · intro captures
    exact ⟨_, Descriptor.define_mem_body_moduleWith.2 (.inl rfl), captures⟩

end

/-- An event with the time at which it takes place, under the name of its type. -/
def Entity.event : Entity :=
  { name := .text "Event"
    id := .null
    fields :=
      [{ name := .text "datetime", dataType := .dateTime, required := false, unique := false, searchable := true,
         properties := [] }] }

/-- The class that is read of an event captures the type of its own attribute. -/
theorem Entity.event_captures : ∃ read inputs, entityDescriptor event [] = .ok read ∧ inputDescriptors event [] = .ok inputs ∧
    (∀ d ∈ read :: inputs.toList, ∀ entityName m, d.toModule entityName = .ok m → ∀ s,
      m.Captures s ↔
        (∃ f ∈ event.fields, d.kind.includes f = true ∧ f.name = .text s) ∧
          ∃ f ∈ event.fields, d.kind.includes f = true ∧ f.Mentions [] event d.kind s) ∧
    ∃ m, read.toModule "event" = .ok m ∧ m.Captures "datetime" := by
  obtain ⟨read, made⟩ := isOk_iff.1 (show (entityDescriptor event []).isOk = true from rfl)
  obtain ⟨inputs, inputsMade, captures⟩ := entityDescriptor_captures_iff made
  have renders : (entityDescriptor event [] >>= fun d => d.toModule "event").isOk = true := rfl
  have kind : (entityDescriptor event []).map Descriptor.kind = .ok .entity := rfl
  rw [made] at renders kind
  obtain ⟨m, rendered⟩ := isOk_iff.1 renders
  have isEntity : read.kind = .entity := Except.ok.inj kind
  refine ⟨read, inputs, made, inputsMade, captures, m, rendered, ?_⟩
  rw [captures read List.mem_cons_self "event" m rendered, isEntity]
  have mentions : ∀ f ∈ event.fields, f.Mentions [] event .entity "datetime" := by
    simp only [event, List.forall_mem_cons, List.not_mem_nil, false_imp_iff, implies_true, and_true]
    exact .scalar rfl DescriptorKind.noConfusion (by decide)
  exact ⟨⟨_, List.mem_cons_self, rfl, rfl⟩, _, List.mem_cons_self, rfl, mentions _ List.mem_cons_self⟩

/-! ## The check of field names -/

/-- The names that annotations are made of, whatever the schema is. -/
def annotationNames : List String :=
  ["Optional", "List", "str", "int", "float", "datetime", "bool", "Dict", "Any"] ++ Filter.all.map Filter.name

/-- The check of field names refuses none of these names. -/
theorem checkFieldName_of_mem_annotationNames {e : Entity} {f : Field} {s : String} (listed : s ∈ annotationNames)
    (name : f.name = .text s) (once : (e.fields.filter fun g => g.name.isText s).length ≤ 1) :
    checkFieldName e f = .ok () := by
  have usable : ∀ s ∈ annotationNames,
      Text.isIdentifier s = true ∧ Text.isKeyword s = false ∧ isModelAttribute s = false := by
    decide
  obtain ⟨identifier, keyword, own⟩ := usable s listed
  unfold checkFieldName
  simp [name, identifier, keyword, own, Nat.not_lt.2 once]

end ResourceScaffold
