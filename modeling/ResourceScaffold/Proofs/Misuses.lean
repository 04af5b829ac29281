import ResourceScaffold.Proofs.Acceptance
import ResourceScaffold.Proofs.Objects

/-!
# Where a value is used for what it cannot do

A schema whose names are texts may hold any JSON values in the properties of its fields (`Schema.Plain`). Most of what
generation does with them is defined for every value, and the rest is guarded; three uses are neither. An id that is a list
or an object cannot be looked up, options that are a boolean or a number cannot be gone through, and the first of the
options cannot be taken of an object. `Schema.Breaks` says when generation comes to such a use before a defect has ended the
work on the entity; `Schema.generate_misuses_iff` says that generation ends in a misuse exactly then.

`Breaks x p` says of a computation on one entity that it ends in a misuse iff `p` holds, and otherwise returns or is refused
with a defect. The lemmas follow the computation from the inside out.
-/

namespace ResourceScaffold

/-! ## Computations that may misuse a value -/

/-- The computation ends in a misuse if the condition holds, and returns or is refused with a defect if it fails. -/
def Breaks {α : Type} (x : Except Fault α) (p : Prop) : Prop :=
  match x with
  | .ok _ | .error (.defect _) => ¬ p
  | .error (.misuse _) => p
  | .error (.batch _) => False

/-- The computation ends in a misuse. -/
def Misuses {α : Type} (x : Except Fault α) : Prop :=
  ∃ m, x = .error (.misuse m)

/-- Two steps end in a misuse when the first does, or when the second does with what the first returns. -/
theorem misuses_bind_iff {α β : Type} {x : Except Fault α} {f : α → Except Fault β} :
    Misuses (x >>= f) ↔ Misuses x ∨ ∃ a, x = .ok a ∧ Misuses (f a) := by
  cases x with
  | ok a => simp [Misuses]
  | error fault => simp [Misuses]

namespace Breaks

variable {α β : Type} {x : Except Fault α} {p q : Prop}

/-- The three ways a step can end, told apart by whether it breaks. -/
theorem cases (h : Breaks x p) :
    (¬ p ∧ ∃ a, x = .ok a) ∨ (¬ p ∧ ∃ d, x = .error (.defect d)) ∨ (p ∧ ∃ m, x = .error (.misuse m)) := by
  match x, h with
  | .ok a, h => exact .inl ⟨h, a, rfl⟩
  | .error (.defect d), h => exact .inr (.inl ⟨h, d, rfl⟩)
  | .error (.misuse m), h => exact .inr (.inr ⟨h, m, rfl⟩)

/-- The reason may be put in other words. -/
theorem congr (h : Breaks x p) (same : p ↔ q) : Breaks x q := by
  rwa [← propext same]

/-- A step that returns has no reason to break. -/
theorem of_returns (h : ∃ a, x = .ok a) (holds : ¬ p) : Breaks x p := by
  obtain ⟨a, rfl⟩ := h
  exact holds

/-- What decides some condition misuses nothing. -/
theorem of_decides {about : Value} (h : Decides about x q) (holds : ¬ p) : Breaks x p := by
  rcases h.cases with ⟨-, a, rfl⟩ | ⟨-, d, -, rfl⟩
  · exact holds
  · exact holds

/-- The step is misused exactly for the reason given. -/
theorem misuses_iff (h : Breaks x p) : Misuses x ↔ p := by
  rcases h.cases with ⟨holds, a, rfl⟩ | ⟨holds, d, rfl⟩ | ⟨holds, m, rfl⟩
  · exact iff_of_false (fun ⟨m, same⟩ => by cases same) holds
  · exact iff_of_false (fun ⟨m, same⟩ => by cases same) holds
  · exact iff_of_true ⟨m, rfl⟩ holds

/-- A step followed by another one breaks in the first, or in the second once the first has returned. -/
theorem bind {f : α → Except Fault β} (h : Breaks x p) (next : ∀ a, x = .ok a → Breaks (f a) q) :
    Breaks (x >>= f) (p ∨ (∃ a, x = .ok a) ∧ q) := by
  rcases h.cases with ⟨holds, a, rfl⟩ | ⟨holds, d, rfl⟩ | ⟨holds, m, rfl⟩
  · exact (next a rfl).congr (by simp [holds])
  · exact fun broken => broken.elim holds fun second => by simp at second
  · exact .inl holds

/-- A step that returns, followed by another one. -/
theorem bind_of_returns {f : α → Except Fault β} (h : ∃ a, x = .ok a) (next : ∀ a, x = .ok a → Breaks (f a) p) :
    Breaks (x >>= f) p := by
  obtain ⟨a, rfl⟩ := h
  exact next a rfl

/-- A step that decides some condition, followed by another one. -/
theorem bind_of_decides {about : Value} {f : α → Except Fault β} (h : Decides about x q)
    (next : ∀ a, x = .ok a → Breaks (f a) p) : Breaks (x >>= f) (q ∧ p) := by
  rcases h.cases with ⟨holds, a, rfl⟩ | ⟨fails, d, -, rfl⟩
  · exact (next a rfl).congr (by simp [holds])
  · exact fun both => fails both.1

/-- The steps on the elements of a list break at an element that breaks, when all before it return. -/
theorem mapM {f : α → Except Fault β} {xs : List α} {r : α → Prop} (h : ∀ a ∈ xs, Breaks (f a) (r a)) :
    Breaks (xs.mapM f)
      (∃ front a rest, xs = front ++ a :: rest ∧ (∀ b ∈ front, ∃ c, f b = .ok c) ∧ r a) := by
  induction xs with
  | nil => exact of_returns ⟨[], rfl⟩ (by simp)
  | cons a xs ih =>
      rw [List.mapM_cons]
      have others := ih fun b hb => h b (List.mem_cons_of_mem _ hb)
      have steps := (h a List.mem_cons_self).bind fun b _ =>
        (others.bind fun bs _ => of_returns (p := False) ⟨b :: bs, rfl⟩ id)
      refine steps.congr ?_
      rw [exists_append_cons_iff]
      simp only [List.forall_mem_cons, and_assoc, and_false, or_false, List.not_mem_nil, false_imp_iff, implies_true, true_and]
      refine or_congr_right ⟨?_, ?_⟩
      · rintro ⟨returned, front, b, rest, list, before, broken⟩
        exact ⟨front, b, rest, list, returned, before, broken⟩
      · rintro ⟨front, b, rest, list, returned, before, broken⟩
        exact ⟨returned, front, b, rest, list, before, broken⟩

/-- A fold whose steps return or break, each by its element alone, breaks iff one of the elements does. -/
theorem foldlM {f : β → α → Except Fault β} {xs : List α} {r : α → Prop}
    (h : ∀ b, ∀ a ∈ xs, (¬ r a ∧ ∃ b', f b a = .ok b') ∨ (r a ∧ Misuses (f b a))) (b : β) :
    Breaks (xs.foldlM f b) (∃ a ∈ xs, r a) := by
  induction xs generalizing b with
  | nil => exact of_returns ⟨b, rfl⟩ (by simp)
  | cons a xs ih =>
      rw [List.foldlM_cons]
      rcases h b a List.mem_cons_self with ⟨holds, b', first⟩ | ⟨broken, m, first⟩
      · rw [first, ok_bind]
        exact (ih (fun b a member => h b a (List.mem_cons_of_mem _ member)) b').congr (by simp [holds])
      · rw [first, error_bind]
        exact ⟨a, List.mem_cons_self, broken⟩

end Breaks

/-! ## Plain schemas -/

/-- A field whose name is a text and whose properties are any JSON values. -/
structure Field.Plain (f : Field) : Prop where
  name : f.name.IsText
  properties : (Value.mapping f.properties).IsJson

/-- An entity whose name is a text, with plain fields. -/
structure Entity.Plain (e : Entity) : Prop where
  name : e.name.IsText
  fields : ∀ f ∈ e.fields, f.Plain

/-- A schema with plain entities and a lookup from texts to texts. -/
structure Schema.Plain (schema : Schema) : Prop where
  entities : ∀ e ∈ schema.entities, e.Plain
  ids : schema.ids.AreTexts

/-- A property of a plain field is a JSON value, null if it is not there. -/
theorem Field.Plain.property {f : Field} (h : f.Plain) (name : String) : (f.properties.getD name).IsJson := by
  cases found : f.properties.get? name with
  | none =>
      rw [Entries.getD_of_absent found]
      exact .null
  | some v =>
      rw [Entries.getD_of_get? found]
      exact h.properties.of_get? found

/-! ## Uses that a value may not support -/

/-- The id that a field names as that of a related entity is a list or an object. -/
def Field.HasCompoundTarget (f : Field) : Prop :=
  (∃ items, f.properties.getD "relatedEntityId" = .list items ∧ items ≠ []) ∨
    ∃ entries, f.properties.getD "relatedEntityId" = .mapping entries ∧ entries ≠ []

/-- The options of a field are true or a number other than zero. -/
def Field.HasAtomicOptions (f : Field) : Prop :=
  f.properties.getD "options" = .bool true ∨ (∃ i, f.properties.getD "options" = .int i ∧ i ≠ 0) ∨
    ∃ x, f.properties.getD "options" = .float x ∧ x.isZero = false

/-- The options of a field are an object. -/
def Field.HasObjectOptions (f : Field) : Prop :=
  ∃ entries, f.properties.getD "options" = .mapping entries

variable {ids : Entries} {e : Entity} {f : Field} {schema : Schema} {naming : NamingStrategy} {classes : Table Descriptor}
  {byName : Table Entity}

/-! ## The classes that are read -/

/-- An id that is a list or an object cannot be looked up. -/
theorem breaks_relatedName (h : f.Plain) : Breaks (relatedName e f ids) f.HasCompoundTarget := by
  have json := h.property "relatedEntityId"
  unfold Field.HasCompoundTarget
  -- what has a key is looked up, and found or not
  have looked {key : Key} (known : (f.properties.getD "relatedEntityId").key? = some key) :
      Breaks (relatedName e f ids) False := by
    unfold relatedName
    simp only [Value.asKey, known, ok_bind]
    split
    · exact id
    · split <;> exact id
  generalize given : f.properties.getD "relatedEntityId" = v at json looked ⊢
  cases json with
  | null => exact (looked rfl).congr (by simp)
  | bool b => exact (looked rfl).congr (by simp)
  | int i => exact (looked rfl).congr (by simp)
  | float x => exact (looked rfl).congr (by simp)
  | text s => exact (looked rfl).congr (by simp)
  | illFormed t => exact (looked rfl).congr (by simp)
  | @list items values =>
      unfold relatedName
      rw [given]
      cases items with
      | nil => exact fun broken => by simp at broken
      | cons first rest => exact .inl ⟨first :: rest, rfl, List.cons_ne_nil _ _⟩
  | @mapping entries object values =>
      unfold relatedName
      rw [given]
      cases entries with
      | nil => exact fun broken => by simp at broken
      | cons first rest => exact .inr ⟨first :: rest, rfl, List.cons_ne_nil _ _⟩

/-- A name can be made for the enumeration of every field, or is refused. -/
theorem breaks_enumName (h : f.name.IsText) : Breaks (enumName e f) False := by
  unfold enumName defaultEnumName
  generalize f.name = name at h
  simp only
  split
  · split <;> exact id
  · cases h <;> exact id

/-- What is read of a field breaks at its relation only. -/
theorem breaks_readProperty (h : f.Plain) : Breaks (readProperty e ids f)
    (checkFieldName e f = .ok () ∧ f.isRelation = true ∧ f.HasCompoundTarget) := by
  have checked : Breaks (checkFieldName e f) False := .of_decides (decides_checkFieldName h.name) id
  have passed : (∃ a, checkFieldName e f = .ok a) ↔ checkFieldName e f = .ok () :=
    ⟨fun ⟨(), ok⟩ => ok, fun ok => ⟨(), ok⟩⟩
  unfold readProperty Field.isRelation
  cases f.kind with
  | scalar t => exact (checked.bind fun _ _ => Breaks.of_returns (p := False) ⟨_, rfl⟩ id).congr (by simp)
  | enumeration many =>
      have named : Breaks (enumProperty e f many (!f.required)) False :=
        ((breaks_enumName h.name).bind fun _ _ => Breaks.of_returns (p := False) ⟨_, rfl⟩ id).congr (by simp)
      exact (checked.bind fun _ _ => named).congr (by simp)
  | relation =>
      have related : Breaks (relationProperty e f ids "" .entity true f.isToMany) f.HasCompoundTarget :=
        ((breaks_relatedName h).bind fun _ _ => Breaks.of_returns (p := False) ⟨_, rfl⟩ id).congr (by simp)
      exact (checked.bind fun _ _ => related).congr (by simp [passed])

/-- The first field of the entity that cannot be read is a relation, with a usable name, to an id that is a list or an
object. -/
def Entity.BreaksReading (ids : Entries) (e : Entity) : Prop :=
  ∃ front f rest, e.fields = front ++ f :: rest ∧ (∀ g ∈ front, ∃ p, readProperty e ids g = .ok p) ∧
    checkFieldName e f = .ok () ∧ f.isRelation = true ∧ f.HasCompoundTarget

/-- Making the entity's class breaks exactly where reading one of its fields does. -/
theorem breaks_entityDescriptor (h : e.Plain) : Breaks (entityDescriptor e ids) (e.BreaksReading ids) :=
  ((Breaks.mapM fun f member => breaks_readProperty (h.fields f member)).bind fun _ _ =>
    Breaks.of_returns (p := False) ⟨_, rfl⟩ id).congr (by simp [Entity.BreaksReading])

/-- Adding an entity returns, or breaks when its name is good, its identifier is free and it cannot be read for a relation. -/
theorem Registry.add_cases {seen : List Entity} {r : Registry} (tracks : Tracks ids naming seen r) (h : e.Plain) :
    (¬ (checkEntityName e.name = .ok () ∧ Free naming seen e ∧ e.BreaksReading ids) ∧ ∃ r', r.add ids naming e = .ok r') ∨
    ((checkEntityName e.name = .ok () ∧ Free naming seen e ∧ e.BreaksReading ids) ∧ Misuses (r.add ids naming e)) := by
  have ownerName := tracks.owners (e.identifier naming)
  rcases (decides_checkEntityName h.name).cases with ⟨named, -⟩ | ⟨bad, d, -, failed⟩
  swap
  · exact .inl ⟨fun broken => bad broken.1, _, by rw [add, failed]⟩
  obtain ⟨s, name⟩ := exists_text_of_checkEntityName named
  have identifier : (naming s).entityName = e.identifier naming := by rw [Entity.identifier, name, Value.display_text]
  have step : r.add ids naming e = r.addNamed ids naming e s := by
    rw [add, named]
    simp only [name]
  rw [step, addNamed]
  simp only [identifier]
  split
  · next filed =>
      obtain ⟨owner, owned, -⟩ := (tracks.classes s).1 filed
      rw [identifier] at owned
      refine .inl ⟨fun broken => ?_, _, rfl⟩
      rw [free_iff.1 broken.2.1] at owned
      cases owned
  · split
    · next owner found =>
        rw [found] at ownerName
        obtain ⟨first, owned, -⟩ := Option.map_eq_some_iff.1 ownerName.symm
        refine .inl ⟨fun broken => ?_, _, rfl⟩
        rw [free_iff.1 broken.2.1] at owned
        cases owned
    · next unowned =>
        rw [unowned] at ownerName
        have free : Free naming seen e := free_iff.2 (Option.map_eq_none_iff.1 ownerName.symm)
        have reading : Breaks (entityDescriptor e ids) (e.BreaksReading ids) := breaks_entityDescriptor h
        rcases reading.cases with ⟨holds, d, made⟩ | ⟨holds, d, failed⟩ | ⟨broken, m, failed⟩
        · exact .inl ⟨fun broken => holds broken.2.2, _, by simp only [record, made]; rfl⟩
        · exact .inl ⟨fun broken => holds broken.2.2, _, by simp only [record, failed]; rfl⟩
        · exact .inr ⟨⟨named, free, broken⟩, m, by simp only [record, failed]⟩

/-- After the entities seen, there is one among the entities with a good name and a free identifier that cannot be read for a
relation. -/
def Registry.BreaksAmong (ids : Entries) (naming : NamingStrategy) (seen entities : List Entity) : Prop :=
  ∃ before e after, entities = before ++ e :: after ∧ checkEntityName e.name = .ok () ∧
    Free naming (seen ++ before) e ∧ e.BreaksReading ids

/-- Adding entities one after the other returns, or breaks at one of them. -/
theorem Registry.addAll_cases {seen entities : List Entity} {r : Registry} (tracks : Tracks ids naming seen r)
    (h : ∀ e ∈ entities, e.Plain) :
    (¬ BreaksAmong ids naming seen entities ∧ ∃ r', entities.foldlM (add ids naming) r = .ok r') ∨
    (BreaksAmong ids naming seen entities ∧ Misuses (entities.foldlM (add ids naming) r)) := by
  induction entities generalizing seen r with
  | nil => exact .inl ⟨by simp [BreaksAmong], r, rfl⟩
  | cons e rest ih =>
      obtain ⟨plain, others⟩ := List.forall_mem_cons.1 h
      have first : BreaksAmong ids naming seen (e :: rest) ↔
          (checkEntityName e.name = .ok () ∧ Free naming seen e ∧ e.BreaksReading ids) ∨
            BreaksAmong ids naming (seen ++ [e]) rest := by
        simp only [BreaksAmong, exists_append_cons_iff, List.append_nil, List.append_assoc, List.singleton_append]
      rw [List.foldlM_cons, first]
      rcases add_cases tracks plain with ⟨holds, r', added⟩ | ⟨broken, m, failed⟩
      · rw [added, ok_bind, or_iff_right holds]
        exact ih (add_eq_ok tracks added).1 others
      · rw [failed, error_bind]
        exact .inr ⟨.inl broken, m, rfl⟩

/-- Making the classes of all entities ends in a misuse iff adding one of the entities breaks. -/
theorem entityClasses_misuses_iff {entities : List Entity} (h : ∀ e ∈ entities, e.Plain) :
    Misuses (entityClasses entities ids naming) ↔
      ∃ before e after, entities = before ++ e :: after ∧ checkEntityName e.name = .ok () ∧
        Registry.Free naming before e ∧ e.BreaksReading ids := by
  have none (r : Registry) :
      ¬ Misuses (if r.defects.isEmpty then .ok r.classes else .error (.batch r.defects) : Except Fault _) := by
    rintro ⟨m, failed⟩
    split at failed <;> cases failed
  have steps := Registry.addAll_cases (Registry.tracks_empty : Registry.Tracks ids naming [] {}) h
  simp only [Registry.BreaksAmong, List.nil_append] at steps
  rw [entityClasses, misuses_bind_iff]
  rcases steps with ⟨holds, r, added⟩ | ⟨broken, failed⟩
  · refine iff_of_false ?_ holds
    rintro (⟨m, failed⟩ | ⟨r', -, failed⟩)
    · rw [added] at failed
      cases failed
    · exact none r' failed
  · exact iff_of_true (.inl failed) broken

/-! ## The modules of an entity -/

/-- Options that are true or a number cannot be gone through. -/
theorem breaks_enumeration (h : f.Plain) : Breaks (EnumDescriptor.ofField e f) f.HasAtomicOptions := by
  have added (options : List Value) (members : List EnumMember) :
      Breaks (options.foldlM (addMember e f) members) False := by
    induction options generalizing members with
    | nil => exact .of_returns ⟨members, rfl⟩ id
    | cons o rest ih =>
        rw [List.foldlM_cons, addMember]
        split
        · exact id
        · split
          · exact id
          · exact ih _
  have built {v : Value} {options : List Value} (parts : v.elements = .ok options) :
      Breaks (do
        let members ← (← v.elements).foldlM (addMember e f) []
        let name ← enumName e f
        return { name, members } : Except Fault EnumDescriptor) False := by
    rw [parts, ok_bind]
    refine ((added options []).bind (q := False) fun _ _ => ?_).congr (by simp)
    exact ((breaks_enumName h.name).bind fun _ _ => Breaks.of_returns (p := False) ⟨_, rfl⟩ id).congr (by simp)
  have json := h.property "options"
  unfold EnumDescriptor.ofField enumOptions Field.HasAtomicOptions
  simp only
  generalize f.properties.getD "options" = v at json ⊢
  by_cases truthy : v.isTruthy = true
  · simp only [truthy, if_true, ok_bind]
    cases json with
    | null => cases truthy
    | bool b => exact .inl (by rw [show b = true from truthy])
    | int i => exact .inr (.inl ⟨i, rfl, by simpa [Value.isTruthy] using truthy⟩)
    | float x => exact .inr (.inr ⟨x, rfl, by simpa [Value.isTruthy] using truthy⟩)
    | text s => exact (built (v := .text s) rfl).congr (by simp)
    | illFormed t => exact (built (v := .illFormed t) rfl).congr (by simp)
    | @list items values => exact (built (v := .list items) rfl).congr (by simp)
    | @mapping entries object values => exact (built (v := .mapping entries) rfl).congr (by simp)
  · simp only [truthy, if_false, Bool.false_eq_true]
    rintro (rfl | ⟨i, rfl, nonzero⟩ | ⟨x, rfl, nonzero⟩)
    · exact truthy rfl
    · exact truthy (by simpa [Value.isTruthy] using nonzero)
    · exact truthy (by simpa [Value.isTruthy] using nonzero)

/-- The first enumeration of the entity that cannot be built has options that are true or a number. -/
def Entity.BreaksEnumerations (e : Entity) : Prop :=
  ∃ front f rest, e.enumFields = front ++ f :: rest ∧ (∀ g ∈ front, ∃ d, EnumDescriptor.ofField e g = .ok d) ∧
    f.HasAtomicOptions

/-- The modules of the data classes break at an enumeration, and are made once all enumerations are built. -/
theorem breaks_dataModules (h : e.Plain) (texts : ids.AreTexts) {inputs : InputDescriptors}
    (made : inputDescriptors e ids = .ok inputs) (entityName : String) :
    Breaks (dataModules e inputs entityName) e.BreaksEnumerations ∧
      ((∃ data, dataModules e inputs entityName = .ok data) ↔ ∀ f ∈ e.enumFields, ∃ d, EnumDescriptor.ofField e f = .ok d) := by
  have enumerations : Breaks (e.enumFields.mapM (EnumDescriptor.ofField e)) e.BreaksEnumerations :=
    .mapM fun f member => breaks_enumeration (h.fields f (List.mem_filter.1 member).1)
  obtain ⟨modules, rendered⟩ : ∃ ms, inputs.toList.mapM (fun d => d.toModule entityName) = .ok ms :=
    exists_mapM_eq_ok fun d member =>
      (InputDescriptors.isClassOf made member).toModule_returns h.name texts entityName
  constructor
  · refine (enumerations.bind (q := False) fun _ _ => ?_).congr (by simp)
    exact .of_returns ⟨_, by rw [rendered]; rfl⟩ id
  · constructor
    · rintro ⟨data, returned⟩ f member
      obtain ⟨ds, steps, -⟩ := bind_eq_ok.1 returned
      obtain ⟨d, -, built⟩ := mem_results_of_mapM_eq_ok steps member
      exact ⟨d, built⟩
    · intro built
      obtain ⟨ds, steps⟩ := exists_mapM_eq_ok built
      exact ⟨_, by rw [dataModules, steps, ok_bind, rendered]; rfl⟩

/-- The options of an enumeration that is built have a first one unless they are an object. -/
theorem firstOption_cases (h : f.Plain) (built : ∃ d, EnumDescriptor.ofField e f = .ok d) :
    (¬ f.HasObjectOptions ∧ ∃ first, (enumOptions e f >>= Sample.firstOption) = .ok first) ∨
      (f.HasObjectOptions ∧ Misuses (enumOptions e f >>= Sample.firstOption)) := by
  have json := h.property "options"
  obtain ⟨d, built⟩ := built
  obtain ⟨values, known, rest⟩ := bind_eq_ok.1 built
  obtain ⟨options, parts, -⟩ := bind_eq_ok.1 rest
  unfold enumOptions at known ⊢
  unfold Field.HasObjectOptions
  simp only at known ⊢
  generalize f.properties.getD "options" = v at json known ⊢
  by_cases truthy : v.isTruthy = true
  swap
  · simp only [truthy, if_false, Bool.false_eq_true] at known
    cases known
  simp only [truthy, if_true, Except.ok.injEq, ok_bind] at known ⊢
  subst known
  cases json with
  | null | bool b | int i | float x => cases parts
  | text s =>
      refine .inl ⟨by simp, ?_⟩
      cases characters : s.toList with
      | nil =>
          have empty : s = "" := String.toList_injective characters
          subst empty
          cases truthy
      | cons c rest => exact ⟨.text c.toString, by simp [Sample.firstOption, Value.unmarked, characters]⟩
  | illFormed t =>
      obtain ⟨p, rest, points⟩ := List.exists_cons_of_ne_nil t.points_ne_nil
      exact .inl ⟨by simp, .ofWide ⟨[p]⟩, by simp [Sample.firstOption, Value.unmarked, points]⟩
  | @list items values =>
      refine .inl ⟨by simp, ?_⟩
      cases items with
      | nil => cases truthy
      | cons first rest => exact ⟨first, rfl⟩
  | @mapping entries object values =>
      refine .inr ⟨⟨entries, rfl⟩, .absentKey, ?_⟩
      simp only [Sample.firstOption, Value.unmarked, object.find?_int]

/-- Once all enumerations are built, the payload breaks iff the options of a required one are an object. -/
theorem breaks_payload (h : e.Plain) {d : Descriptor} (read : entityDescriptor e ids = .ok d)
    (built : ∀ f ∈ e.enumFields, ∃ d, EnumDescriptor.ofField e f = .ok d) :
    Breaks (Sample.payload e ids) (∃ f ∈ e.enumFields, f.required = true ∧ f.HasObjectOptions) := by
  have steps (entries : Entries) : ∀ f ∈ e.fields.filter (fun f => f.isEditable && f.required),
      (¬ (f.isEnumeration = true ∧ f.HasObjectOptions) ∧ ∃ entries', Sample.insertSample e ids entries f = .ok entries') ∨
        ((f.isEnumeration = true ∧ f.HasObjectOptions) ∧ Misuses (Sample.insertSample e ids entries f)) := by
    intro f listed
    have member := (List.mem_filter.1 listed).1
    obtain ⟨s, text⟩ := exists_text_of_field read member
    have inserted {v : Value} (sampled : Sample.value e f ids = .ok v) :
        ∃ entries', Sample.insertSample e ids entries f = .ok entries' :=
      ⟨_, by rw [Sample.insertSample, sampled, text]; rfl⟩
    have readable := readProperty_of_entityDescriptor read member
    by_cases enumerates : f.isEnumeration = true
    · have found := built f (List.mem_filter.2 ⟨member, enumerates⟩)
      rcases firstOption_cases (h.fields f member) found with ⟨holds, first, taken⟩ | ⟨object, m, failed⟩
      · obtain ⟨v, sampled⟩ := sampleValue_returns readable fun _ => ⟨first, taken⟩
        exact .inl ⟨fun both => holds both.2, inserted sampled⟩
      · refine .inr ⟨⟨enumerates, object⟩, m, ?_⟩
        obtain ⟨many, kind⟩ := Field.exists_kind_of_isEnumeration enumerates
        have failed' : Sample.value e f ids = .error (.misuse m) := by
          unfold Sample.value
          simp only [kind]
          cases known : enumOptions e f with
          | error fault =>
              rw [known] at failed
              cases failed
              rfl
          | ok options =>
              rw [known, ok_bind] at failed
              rw [ok_bind, failed, error_bind]
        rw [Sample.insertSample, failed', error_bind]
    · obtain ⟨v, sampled⟩ := sampleValue_returns readable fun yes => absurd yes enumerates
      exact .inl ⟨fun both => enumerates both.1, inserted sampled⟩
  refine (Breaks.foldlM steps []).congr ⟨?_, ?_⟩
  · rintro ⟨f, listed, enumerates, object⟩
    obtain ⟨member, test⟩ := List.mem_filter.1 listed
    exact ⟨f, List.mem_filter.2 ⟨member, enumerates⟩, (Bool.and_eq_true_iff.1 test).2, object⟩
  · rintro ⟨f, listed, required, object⟩
    obtain ⟨member, enumerates⟩ := List.mem_filter.1 listed
    have editable := Field.isEditable_of_isEnumeration enumerates
    exact ⟨f, List.mem_filter.2 ⟨member, by rw [editable, required]; rfl⟩, enumerates, object⟩

/-- The tests break at their payload. -/
theorem breaks_testModule {d : Descriptor} {p : Prop} (read : entityDescriptor e ids = .ok d)
    (payload : Breaks (Sample.payload e ids) p) (resource entityName service wiring : String) :
    Breaks (testModule resource entityName service wiring e ids) p := by
  rcases payload.cases with ⟨holds, entries, paid⟩ | ⟨holds, d, failed⟩ | ⟨broken, m, failed⟩
  · exact .of_returns (testModule_returns read ⟨entries, paid⟩ _ _ _ _) holds
  · rw [testModule, TestPlan.ofEntity, failed, error_bind, error_bind]
    exact holds
  · rw [testModule, TestPlan.ofEntity, failed, error_bind, error_bind]
    exact broken

/-- All enumerations of the entity are built, its relations lead to entities of the schema, and the options of a required
enumeration are an object. -/
def Schema.BreaksSamples (schema : Schema) (e : Entity) : Prop :=
  (∀ f ∈ e.enumFields, ∃ d, EnumDescriptor.ofField e f = .ok d) ∧ schema.Resolves e ∧
    ∃ f ∈ e.enumFields, f.required = true ∧ f.HasObjectOptions

/-- The modules of an entity break at its enumerations or at the samples of its tests. -/
theorem breaks_resourceModules (h : schema.Prepared naming classes byName) (plain : schema.Plain)
    (member : e ∈ schema.entities) :
    Breaks (resourceModules schema.ids classes byName naming e).outcome
      (e.BreaksEnumerations ∨ schema.BreaksSamples e) := by
  have entity := plain.entities e member
  obtain ⟨d, read⟩ := h.described member
  obtain ⟨name, text⟩ := h.text member
  rw [outcome_resourceModules, h.named member, ok_bind]
  refine .bind_of_returns ⟨name, by rw [text]; rfl⟩ fun name _ => ?_
  refine .bind_of_returns (inputDescriptors_returns read) fun inputs made => ?_
  obtain ⟨data, returns⟩ := breaks_dataModules entity plain.ids made (naming name).entityName
  refine (data.bind fun _ done => ?_).congr (or_congr_right (and_congr_left' returns))
  refine .bind_of_decides (decides_controller h plain.ids member _ _ _ inputs) fun c controlled => ?_
  refine .bind_of_returns (controllerModule_returns h read controlled) fun _ _ => ?_
  have payload := breaks_payload entity read (returns.1 ⟨_, done⟩)
  exact ((breaks_testModule read payload _ _ _ _).bind fun _ _ => .of_returns (p := False) ⟨_, rfl⟩ id).congr (by simp)

/-- A batch ends in a misuse iff one of its results is one, whatever the others are. -/
theorem gather_misuses_iff {α : Type} {results : List (Except Fault α)} :
    Misuses (gather results) ↔ ∃ x ∈ results, Misuses x := by
  unfold gather
  split
  · next values returned =>
      refine iff_of_false (fun ⟨m, same⟩ => by cases same) ?_
      rintro ⟨x, listed, m, rfl⟩
      obtain ⟨value, -, same⟩ := mem_results_of_mapM_eq_ok returned listed
      cases same
  · next m _ found =>
      obtain ⟨x, listed, same⟩ := List.exists_of_findSome?_eq_some found
      refine iff_of_true ⟨m, rfl⟩ ⟨x, listed, m, ?_⟩
      match x, same with
      | .error (.misuse _), rfl => rfl
  · next none =>
      refine iff_of_false (fun ⟨m, same⟩ => by cases same) ?_
      rintro ⟨x, listed, m, rfl⟩
      cases List.findSome?_eq_none_iff.1 none _ listed

/-! ## Generation -/

/-- Generation comes to a use that a value does not support. -/
inductive Schema.Breaks (schema : Schema) (naming : NamingStrategy) : Prop where
  /-- The class of an entity with a good name and a free identifier breaks. -/
  | reading {before after : List Entity} {e : Entity} (entities : schema.entities = before ++ e :: after)
      (named : checkEntityName e.name = .ok ()) (free : Registry.Free naming before e) (breaks : e.BreaksReading schema.ids)
  /-- All classes are made, and an enumeration of an entity breaks. -/
  | enumerations {classes : Table Descriptor} {e : Entity}
      (made : entityClasses schema.entities schema.ids naming = .ok classes) (member : e ∈ schema.entities)
      (breaks : e.BreaksEnumerations)
  /-- All classes are made, and a sample for the tests of an entity breaks. -/
  | samples {classes : Table Descriptor} {e : Entity}
      (made : entityClasses schema.entities schema.ids naming = .ok classes) (member : e ∈ schema.entities)
      (breaks : schema.BreaksSamples e)

/-- The generation of a plain schema ends in a misuse iff it comes to a use that a value does not support. -/
theorem Schema.generate_misuses_iff (plain : schema.Plain) :
    Misuses (schema.generate naming).outcome ↔ schema.Breaks naming := by
  obtain ⟨byName, tabled⟩ := entitiesByName_returns fun e member => (plain.entities e member).name
  rw [outcome_generate, tabled, ok_bind, misuses_bind_iff, entityClasses_misuses_iff plain.entities]
  have modules {classes : Table Descriptor} (made : entityClasses schema.entities schema.ids naming = .ok classes) :
      Misuses (do
        let modules ← gather (schema.entities.map fun e =>
          (resourceModules schema.ids classes byName naming e).outcome)
        let shared ← classModules classes naming
        return modules.flatten ++ shared) ↔ ∃ e ∈ schema.entities, e.BreaksEnumerations ∨ schema.BreaksSamples e := by
    have prepared : schema.Prepared naming classes byName := ⟨registered_of_entityClasses made, tabled⟩
    obtain ⟨shared, rendered⟩ := classModules_returns prepared plain.ids
    rw [misuses_bind_iff, gather_misuses_iff, or_iff_left]
    · simp only [List.mem_map, exists_exists_and_eq_and]
      refine exists_congr fun e => and_congr_right fun member => ?_
      exact (breaks_resourceModules prepared plain member).misuses_iff
    · rintro ⟨modules, -, m, failed⟩
      rw [rendered] at failed
      cases failed
  constructor
  · rintro (⟨before, e, after, entities, named, free, breaks⟩ | ⟨classes, made, broken⟩)
    · exact .reading entities named free breaks
    · obtain ⟨e, member, breaks | breaks⟩ := (modules made).1 broken
      · exact .enumerations made member breaks
      · exact .samples made member breaks
  · intro breaks
    cases breaks with
    | reading entities named free breaks => exact .inl ⟨_, _, _, entities, named, free, breaks⟩
    | enumerations made member breaks => exact .inr ⟨_, made, (modules made).2 ⟨_, member, .inl breaks⟩⟩
    | samples made member breaks => exact .inr ⟨_, made, (modules made).2 ⟨_, member, .inr breaks⟩⟩

end ResourceScaffold
