import ResourceScaffold.Batch

/-!
# Well-typed schemas and what an accepted schema fulfils

A document is not checked before it is read, so a schema may hold any values. `Schema.WellTyped` says that the members
which generation reads are absent or of their own types; `Schema.Acceptable` says what such a schema has to fulfil beyond
that. Neither mentions how the modules of a schema are made.

A collection may be marked, as those of recursive documents are; a mark changes neither what a collection holds nor
whether it counts as true (`Value.elements_unmarked`, `Value.isTruthy_unmarked`).
-/

namespace ResourceScaffold

/-! ## Marks -/

namespace Value

/-- A mark does not change whether a value counts as true. -/
@[simp] theorem isTruthy_unmarked : (v : Value) → v.unmarked.isTruthy = v.isTruthy
  | marked _ v => isTruthy_unmarked v
  | null | bool _ | int _ | float _ | text _ | illFormed _ | moment _ | bytes _ | list _ | pair _ _ | set _ | mapping _ => rfl

/-- A mark does not change the elements of a value. -/
@[simp] theorem elements_unmarked : (v : Value) → v.unmarked.elements = v.elements
  | marked _ v => elements_unmarked v
  | null | bool _ | int _ | float _ | text _ | illFormed _ | moment _ | bytes _ | list _ | pair _ _ | set _ | mapping _ => rfl

/-- No mark is left once the marks are taken off. -/
@[simp] theorem unmarked_unmarked : (v : Value) → v.unmarked.unmarked = v.unmarked
  | marked _ v => unmarked_unmarked v
  | null | bool _ | int _ | float _ | text _ | illFormed _ | moment _ | bytes _ | list _ | pair _ _ | set _ | mapping _ => rfl

end Value

/-! ## Well-typed schemas -/

/-- A member that is absent or a text. -/
def Value.IsOptionalText (v : Value) : Prop :=
  v = .null ∨ v.IsText

/-- An option of an enumeration: a text, or an object whose value and label are absent or texts. -/
def Value.IsOption (v : Value) : Prop :=
  v.IsText ∨
    ∃ members, v.unmarked = .mapping members ∧ (Entries.getD members "value").IsOptionalText ∧
      (Entries.getD members "label").IsOptionalText

/-- A member that is absent or a list of options. -/
def Value.IsOptionList (v : Value) : Prop :=
  v = .null ∨ ∃ items, v.unmarked = .list items ∧ ∀ o ∈ items, o.IsOption

/-- A field whose name is a text and whose properties are absent or of their own types. -/
structure Field.WellTyped (f : Field) : Prop where
  name : f.name.IsText
  relatedEntityId : (f.properties.getD "relatedEntityId").IsOptionalText
  enumName : (f.properties.getD "enumName").IsOptionalText
  options : (f.properties.getD "options").IsOptionList

/-- An entity whose name is a text, with well-typed fields. -/
structure Entity.WellTyped (e : Entity) : Prop where
  name : e.name.IsText
  fields : ∀ f ∈ e.fields, f.WellTyped

/-- A lookup from texts to texts. -/
def Entries.AreTexts (ids : Entries) : Prop :=
  ∀ entry ∈ ids, entry.1.IsText ∧ entry.2.IsText

/-- A schema with well-typed entities and a lookup from texts to texts. -/
structure Schema.WellTyped (schema : Schema) : Prop where
  entities : ∀ e ∈ schema.entities, e.WellTyped
  ids : schema.ids.AreTexts

/-! ## Acceptable schemas -/

/-- The text of a member as it is shown, empty if the member is absent. -/
def Value.textOrEmpty : Value → String
  | text s => s
  | illFormed t => t.text.shown
  | _ => ""

@[simp] theorem Value.textOrEmpty_null : Value.null.textOrEmpty = "" := rfl

@[simp] theorem Value.textOrEmpty_text (s : String) : (Value.text s).textOrEmpty = s := rfl

/-- The value of an option: its member of that name, or the option itself when it is a text. -/
def Value.optionText (v : Value) : String :=
  match v.unmarked with
  | .mapping members => (Entries.getD members "value").textOrEmpty
  | o => o.textOrEmpty

/-- The label of an option, or its value when the label is empty. -/
def Value.optionLabel (v : Value) : String :=
  match v.unmarked with
  | .mapping members =>
      let label := (Entries.getD members "label").textOrEmpty
      if label = "" then v.optionText else label
  | o => o.textOrEmpty

/-- The field names a related entity by an id, which is not empty, that the lookup maps to `target`. -/
def Field.LeadsTo (ids : Entries) (f : Field) (target : Value) : Prop :=
  ∃ id key, f.properties.getD "relatedEntityId" = id ∧ id ≠ .text "" ∧ id.IsText ∧ id.key? = some key ∧
    ids.find? key = some target

/-- The field declares no name for its enumeration, or an identifier. -/
def Field.HasUsableEnumName (f : Field) : Prop :=
  f.properties.getD "enumName" = .null ∨
    ∃ s, f.properties.getD "enumName" = .text s ∧ (s = "" ∨ Text.isIdentifier s = true)

/-- The field has options, each with a value, and their labels give different members. -/
def Field.HasOptions (f : Field) : Prop :=
  ∃ items, (f.properties.getD "options").unmarked = .list items ∧ items ≠ [] ∧
    (∀ o ∈ items, o.optionText ≠ "") ∧ (items.map fun o => Text.constantName o.optionLabel).Nodup

/-- What a well-typed schema has to fulfil so that its modules can be generated. -/
structure Schema.Acceptable (schema : Schema) : Prop where
  entityNames : ∀ e ∈ schema.entities, checkEntityName e.name = .ok ()
  identifiers : (schema.entities.map fun e => (ResourceNaming.derive e.name.display).entityName).Nodup
  fieldNames : ∀ e ∈ schema.entities, ∀ f ∈ e.fields, checkFieldName e f = .ok ()
  targets : ∀ e ∈ schema.entities, ∀ f ∈ e.relationFields, ∃ t ∈ schema.entities, f.LeadsTo schema.ids t.name
  enumNames : ∀ e ∈ schema.entities, ∀ f ∈ e.enumFields, f.HasUsableEnumName
  options : ∀ e ∈ schema.entities, ∀ f ∈ e.enumFields, f.HasOptions

/-! ## Texts and options -/

namespace Value.IsText

variable {v : Value}

/-- A text counts as true iff it is not empty. -/
theorem isTruthy_iff (h : v.IsText) : v.isTruthy = true ↔ v ≠ .text "" := by
  cases h with
  | text s => simp
  | illFormed t => simp [isTruthy]

/-- A text is shown in characters, of which there are none iff it is empty. -/
theorem display_eq (h : v.IsText) : v.display = v.textOrEmpty := by
  cases h <;> rfl

/-- A text reads as empty only where it is the empty one. -/
theorem textOrEmpty_eq_empty_iff (h : v.IsText) : v.textOrEmpty = "" ↔ v = .text "" := by
  cases h with
  | text s => simp
  | illFormed t => simp [textOrEmpty, t.shown_ne_empty]

/-- A text has no mark. -/
theorem unmarked (h : v.IsText) : v.unmarked = v := by
  cases h <;> rfl

end Value.IsText

/-- A member that is absent or a text counts as true iff it is a text that is not empty. -/
theorem Value.IsOptionalText.cases {v : Value} (h : v.IsOptionalText) :
    (v.isTruthy = false ∧ v.textOrEmpty = "") ∨ (v.isTruthy = true ∧ v.IsText ∧ v ≠ .text "") := by
  rcases h with rfl | text
  · exact .inl ⟨rfl, rfl⟩
  · by_cases empty : v = .text ""
    · subst empty
      exact .inl ⟨rfl, rfl⟩
    · exact .inr ⟨text.isTruthy_iff.2 empty, text, empty⟩

/-- A text is a value iff it is not empty. -/
theorem Value.IsText.hasValue_iff {v label : Value} (h : v.IsText) :
    EnumOption.hasValue { value := v, label } = true ↔ v.textOrEmpty ≠ "" := by
  cases h with
  | text s => simp [EnumOption.hasValue]
  | illFormed t => simp [EnumOption.hasValue, Value.textOrEmpty, t.shown_ne_empty]

/-- An option that is a text is its own value and its own label. -/
theorem Value.IsText.option_eq {v : Value} (h : v.IsText) :
    EnumOption.ofValue v = { value := v, label := v } ∧ v.optionText = v.textOrEmpty ∧ v.optionLabel = v.textOrEmpty := by
  cases h <;> exact ⟨rfl, rfl, rfl⟩

/-- An option has a value iff the text of its value is not empty. -/
theorem EnumOption.hasValue_ofValue {v : Value} (h : v.IsOption) :
    (EnumOption.ofValue v).hasValue = true ↔ v.optionText ≠ "" := by
  rcases h with text | ⟨members, hv, value, -⟩
  · rw [text.option_eq.1, text.option_eq.2.1]
    exact text.hasValue_iff
  · simp only [EnumOption.ofValue, Value.optionText, hv]
    rcases value with null | text
    · simp [null, EnumOption.hasValue]
    · exact text.hasValue_iff

/-- The member of an option with a value is named after its label. -/
theorem EnumOption.memberName_ofValue {v : Value} (h : v.IsOption) (valued : v.optionText ≠ "") :
    (EnumOption.ofValue v).memberName = Text.constantName v.optionLabel := by
  rcases h with text | ⟨members, hv, value, label⟩
  · rw [memberName, text.option_eq.1, text.option_eq.2.2, text.display_eq]
  · simp only [Value.optionText, hv] at valued
    simp only [EnumOption.memberName, EnumOption.ofValue, Value.optionLabel, Value.optionText, hv]
    rcases label.cases with ⟨absent, empty⟩ | ⟨present, text, nonempty⟩
    · rcases value with null | text
      · exact absurd (by simp [null]) valued
      · simp [absent, empty, text.display_eq]
    · simp [present, text.display_eq, text.textOrEmpty_eq_empty_iff, nonempty]

/-! ## Look-ups -/

/-- Filing a text under a text keeps a lookup from texts to texts. -/
theorem Entries.AreTexts.insert {ids : Entries} (h : ids.AreTexts) {id name : Value} (idText : id.IsText)
    (nameText : name.IsText) : AreTexts (Table.insert ids id name) := by
  induction ids with
  | nil => exact List.forall_mem_singleton.2 ⟨idText, nameText⟩
  | cons entry rest ih =>
      obtain ⟨⟨first, old⟩, others⟩ := List.forall_mem_cons.1 h
      rw [Table.insert]
      split
      · exact List.forall_mem_cons.2 ⟨⟨first, nameText⟩, others⟩
      · exact List.forall_mem_cons.2 ⟨⟨first, old⟩, ih others⟩

/-- What a lookup between texts finds is a text. -/
theorem Entries.AreTexts.find? {ids : Entries} (h : ids.AreTexts) {key : Key} {v : Value}
    (found : Table.find? ids key = some v) : v.IsText := by
  induction ids with
  | nil => cases found
  | cons entry rest ih =>
      rw [Table.find?] at found
      split at found
      · cases found
        exact (h entry List.mem_cons_self).2
      · exact ih (fun entry member => h entry (List.mem_cons_of_mem _ member)) found

/-! ## A schema of two entities -/

/-- A schema with a relation and an enumeration. -/
def Schema.blog : Schema :=
  { entities :=
      [{ name := .text "User"
         id := .text "u"
         fields :=
           [{ name := .text "id", dataType := .id, required := true, unique := true, searchable := true, properties := [] }] },
       { name := .text "Post"
         id := .text "p"
         fields :=
           [{ name := .text "author", dataType := .lookup, required := true, unique := false, searchable := true
              properties := [(.text "relatedEntityId", .text "u")] },
            { name := .text "status", dataType := .optionSet, required := true, unique := false, searchable := false
              properties := [(.text "options", .list [.text "draft", .text "live"])] }] }]
    ids := [(.text "u", .text "User")] }

/-- The blog carries values of the types its document form asks for. -/
theorem Schema.blog_wellTyped : blog.WellTyped := by
  constructor
  · simp only [blog, List.forall_mem_cons, List.not_mem_nil, false_imp_iff, implies_true, and_true]
    refine ⟨⟨.text _, ?_⟩, .text _, ?_⟩
    · simp only [List.forall_mem_cons, List.not_mem_nil, false_imp_iff, implies_true, and_true]
      exact ⟨.text _, .inl rfl, .inl rfl, .inl rfl⟩
    · simp only [List.forall_mem_cons, List.not_mem_nil, false_imp_iff, implies_true, and_true]
      refine ⟨⟨.text _, .inr (.text _), .inl rfl, .inl rfl⟩, .text _, .inl rfl, .inl rfl, .inr ⟨_, rfl, ?_⟩⟩
      simp [Value.IsOption]
  · simp [Entries.AreTexts, blog]

/-- Every check of the first phase passes on the blog. -/
theorem Schema.blog_acceptable : blog.Acceptable where
  entityNames := by simp only [blog, List.forall_mem_cons]; exact ⟨rfl, rfl, by simp⟩
  identifiers := by decide
  fieldNames := by simp only [blog, List.forall_mem_cons]; exact ⟨⟨rfl, by simp⟩, ⟨rfl, rfl, by simp⟩, by simp⟩
  targets := by
    simp [blog, Entity.relationFields, Field.isRelation, Field.kind, DataType.kind, Field.LeadsTo, Entries.getD,
      Entries.get?, Table.find?]
  enumNames := by
    simp [blog, Entity.enumFields, Field.isEnumeration, Field.kind, DataType.kind, Field.HasUsableEnumName, Entries.getD,
      Entries.get?]
  options := by
    simp [blog, Entity.enumFields, Field.isEnumeration, Field.kind, DataType.kind, Field.HasOptions, Entries.getD,
      Entries.get?, Value.unmarked, Value.optionText, Value.optionLabel]
    decide

end ResourceScaffold
