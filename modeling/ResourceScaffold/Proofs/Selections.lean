import ResourceScaffold.Proofs.RelatedRoutes

/-!
# What the routes of records select

The routes other than those of relations select by one constant. It is made from the class that is read: each property has an
entry under its name, in order, unless it leads to many entities (`Schema.Selected`). A scalar or an option is selected as it
is, and of a single related entity its scalars and options are. As a relation is never required, both the class and those of
its related entities have all that they require selected (`Schema.Selects`, `generate_selects`).
-/

namespace ResourceScaffold

open Code

/-- A property that refers to many entities by the class that is read of them. -/
def Property.leadsToMany (p : Property) : Bool :=
  p.isList && p.reference.any fun r => r.kind == .entity

/-- The names of the properties that hold scalars and options, in order. -/
def Descriptor.plainNames (d : Descriptor) : List Value :=
  (d.properties.filter Property.isPlain).map Property.name

/-- The entry of a property of an entity in a selection: a scalar and an option are selected as they are, and of the single
entity that a relation leads to, the class of which is found in the table, the scalars and options are. -/
inductive Schema.Selected (schema : Schema) (classes : Table Descriptor) (e : Entity) (p : Property) :
    Value × Value → Prop where
  | scalar (plain : p.reference = none) : Selected schema classes e p (p.name, .bool true)
  | enumeration {r : Reference} (refers : p.reference = some r) (kind : r.kind = .enumeration) :
      Selected schema classes e p (p.name, .bool true)
  | single {r : Reference} {f : Field} {t : Entity} {target : Descriptor} (refers : p.reference = some r)
      (kind : r.kind = .entity) (one : p.isList = false) (field : f ∈ e.relationFields) (named : f.name = p.name)
      (leads : relatedName e f schema.ids = .ok t.name) (inBatch : t ∈ schema.entities)
      (filed : classes.lookup r.entity = .ok target) (read : entityDescriptor t schema.ids = .ok target) :
      Selected schema classes e p (p.name, .mapping [(.text "select", selectNames target.plainNames)])

/-- The entries are the selection of the class that is read of an entity, and hold all that this class and those of single
related entities require. -/
structure Schema.Selects (schema : Schema) (classes : Table Descriptor) (e : Entity) (d : Descriptor) (entries : Entries) :
    Prop where
  names : entries.map Prod.fst = (d.properties.filter fun p => !p.leadsToMany).map Property.name
  distinct : (entries.map Prod.fst).Nodup
  selected : List.Forall₂ (schema.Selected classes e) (d.properties.filter fun p => !p.leadsToMany) entries
  required : ∀ p ∈ d.properties, p.optional = false → (p.name, .bool true) ∈ entries
  related : ∀ p ∈ d.properties, ∀ r, p.reference = some r → r.kind = .entity → p.isList = false →
    ∃ target names, classes.lookup r.entity = .ok target ∧ names.Nodup ∧ target.CoveredBy names ∧
      (p.name, .mapping [(.text "select", selectNames names)]) ∈ entries

/-! ## Lists of which some elements are left out -/

/-- Elements that each give one related element, or none when they are left out, give the elements related to the others. -/
theorem forall₂_flatten {α β : Type} {R : α → β → Prop} {p : α → Bool} {xs : List α} {parts : List (List β)}
    (h : List.Forall₂ (fun x ys => if p x then ys = [] else ∃ y, ys = [y] ∧ R x y) xs parts) :
    List.Forall₂ R (xs.filter fun x => !p x) parts.flatten := by
  induction h with
  | nil => exact .nil
  | @cons x ys xs parts given _ ih =>
      rw [List.filter_cons, List.flatten_cons]
      cases left : p x with
      | true =>
          rw [left, if_pos rfl] at given
          rwa [given]
      | false =>
          rw [left, if_neg Bool.false_ne_true] at given
          obtain ⟨y, rfl, related⟩ := given
          exact .cons related ih

section

variable {schema : Schema} {naming : NamingStrategy} {classes : Table Descriptor} {byName : Table Entity} {e : Entity}
  {ids : Entries} {f : Field} {d : Descriptor} {p : Property} {r : Reference} {modules : List SourceModule}

/-! ## Properties of the class that is read -/

/-- A plain property leads to no other records. -/
theorem Property.leadsToMany_of_isPlain (plain : p.isPlain = true) : p.leadsToMany = false := by
  unfold isPlain at plain
  unfold leadsToMany
  cases refers : p.reference with
  | none => exact Bool.and_false _
  | some r =>
      rw [refers] at plain
      rw [Option.any_some, eq_of_beq plain]
      exact Bool.and_false _

/-- A property that refers to an entity leads to many where it is a list. -/
theorem Property.leadsToMany_of_entity (refers : p.reference = some r) (kind : r.kind = .entity) :
    p.leadsToMany = p.isList := by
  rw [leadsToMany, refers, Option.any_some, kind]
  exact Bool.and_true _

/-- All that the class that is read requires are scalars and options. -/
theorem covered_plainNames (made : entityDescriptor e ids = .ok d) : d.CoveredBy d.plainNames := by
  intro p inClass required
  obtain ⟨properties, steps, rest⟩ := bind_eq_ok.1 made
  cases rest
  obtain ⟨f, -, step⟩ := exists_mem_of_mapM_eq_ok steps inClass
  refine List.mem_map_of_mem (List.mem_filter.2 ⟨inClass, ?_⟩)
  cases readProperty_gives step with
  | scalar | enumeration => rfl
  | filter _ filters => cases filters
  | relation => cases required

/-- The plain properties of an entity class have distinct names. -/
theorem plainNames_nodup (made : entityDescriptor e ids = .ok d) : d.plainNames.Nodup :=
  (List.filter_sublist.map Property.name).nodup (propertyNames_nodup made)

/-! ## Entries -/

/-- What is selected for a property that refers to a class that is read. -/
theorem selectProperty_of_entity (refers : p.reference = some r) (kind : r.kind = .entity) :
    selectProperty classes p = if p.isList then .ok [] else do
      let target ← classes.lookup r.entity
      return [(p.name, .mapping [(.text "select", selectNames target.plainNames)])] := by
  obtain ⟨name, referenceKind, entity⟩ := r
  cases kind
  unfold selectProperty
  rw [refers]
  rfl

/-- What is selected for a property is nothing if it leads to many entities, and otherwise its entry. -/
theorem selectProperty_selected (h : schema.Prepared naming classes byName) (member : f ∈ e.fields)
    (read : readProperty e schema.ids f = .ok p) {entries : Entries} (made : selectProperty classes p = .ok entries) :
    if p.leadsToMany then entries = [] else ∃ entry, entries = [entry] ∧ schema.Selected classes e p entry := by
  cases readProperty_gives read with
  | scalar =>
      cases made
      exact ⟨_, rfl, .scalar rfl⟩
  | filter _ filters => cases filters
  | enumeration =>
      cases made
      rw [Property.leadsToMany_of_isPlain rfl, if_neg Bool.false_ne_true]
      exact ⟨_, rfl, .enumeration rfl rfl⟩
  | relation kind leads =>
      rw [selectProperty_of_entity rfl rfl] at made
      rw [Property.leadsToMany_of_entity rfl rfl]
      split at made
      · next many =>
          cases made
          rw [if_pos many]
      · next many =>
          obtain ⟨target, filed, rest⟩ := bind_eq_ok.1 made
          cases rest
          obtain ⟨t, inBatch, rfl, described⟩ := h.lookup_eq_ok.1 filed
          have field : f ∈ e.relationFields := List.mem_filter.2 ⟨member, by rw [Field.isRelation, kind]⟩
          rw [if_neg many]
          exact ⟨_, rfl, .single rfl rfl (Bool.eq_false_iff.2 many) field rfl leads inBatch filed described⟩

/-- A selected entry stands under the name of its property. -/
theorem Schema.Selected.name {entry : Value × Value} (h : schema.Selected classes e p entry) : entry.1 = p.name := by
  cases h <;> rfl

/-- The selection of the class that is read of an entity. -/
theorem selection_selects (h : schema.Prepared naming classes byName) (made : entityDescriptor e schema.ids = .ok d)
    {v : Value} (selected : d.selection classes = .ok v) : ∃ entries, v = .mapping entries ∧
      schema.Selects classes e d entries := by
  obtain ⟨entries, rfl, required⟩ := Descriptor.selection_covers made selected
  refine ⟨entries, rfl, ?_⟩
  have distinct := propertyNames_nodup made
  obtain ⟨parts, selections, rest⟩ := bind_eq_ok.1 selected
  cases rest
  obtain ⟨properties, steps, rest⟩ := bind_eq_ok.1 made
  cases rest
  have each : List.Forall₂ (fun p part => if p.leadsToMany then part = [] else
      ∃ entry, part = [entry] ∧ schema.Selected classes e p entry) properties parts := by
    refine ((List.forall₂_and_left _ _).2
      ⟨fun p inClass => exists_mem_of_mapM_eq_ok steps inClass, mapM_eq_ok.1 selections⟩).imp ?_
    rintro p part ⟨⟨f, member, read⟩, made⟩
    exact selectProperty_selected h member read made
  have values := forall₂_flatten each
  have names : parts.flatten.map Prod.fst = (properties.filter fun p => !p.leadsToMany).map Property.name :=
    (map_eq_map_of_forall₂ values fun p entry selected => selected.name.symm).symm
  refine ⟨names, ?_, values, required, ?_⟩
  · rw [names]
    exact (List.filter_sublist.map _).nodup distinct
  · intro p inClass r refers kind one
    have kept : p ∈ properties.filter fun p => !p.leadsToMany := by
      simp [inClass, Property.leadsToMany, one]
    obtain ⟨entry, inEntries, selected⟩ := exists_right_of_forall₂ values kept
    cases selected with
    | scalar plain =>
        rw [refers] at plain
        cases plain
    | enumeration refers' kind' =>
        rw [refers] at refers'
        cases refers'
        rw [kind] at kind'
        cases kind'
    | single refers' _ _ _ _ _ _ filed read =>
        rw [refers] at refers'
        cases refers'
        exact ⟨_, _, filed, plainNames_nodup read, covered_plainNames read, inEntries⟩

/-! ## Whole batches -/

/-- The selection of every entity of a generation is made, without a look-up that fails, and stands in the module of its
controller. It is that of the class that is read. -/
theorem generate_selects (h : (schema.generate naming).outcome = .ok modules) (inBatch : e ∈ schema.entities) :
    ∃ classes d entries, entityClasses schema.entities schema.ids naming = .ok classes ∧
      classes.lookup e.name = .ok d ∧ entityDescriptor e schema.ids = .ok d ∧
      d.selection classes = .ok (.mapping entries) ∧ schema.Selects classes e d entries ∧
      ∃ m ∈ modules, m.path = controllerPath (e.identifier naming) ∧
        .assign (Text.upper (Text.snakeCase e.name.display) ++ "_SELECT") (Value.mapping entries).layout ∈ m.body := by
  obtain ⟨classes, byName, rs, generated, rfl⟩ := generate_eq_ok h
  obtain ⟨r, member, of⟩ := generated.resource inBatch
  obtain ⟨made, -⟩ := Controller.ofEntity_eq_ok of.controller
  obtain ⟨read, entityType, -, -, entityName, -⟩ := generated.controller_eq inBatch of
  have filed := made.read
  have selected := made.selected
  rw [read] at filed selected
  obtain ⟨entries, select, selects⟩ := selection_selects generated.prepared of.read selected
  rw [select] at selected
  refine ⟨classes, r.read, entries, generated.prepared.classes_eq, filed, of.read, selected, selects,
    r.controllerModule, generated.mem_modules.2 ⟨r, member, _, .controller⟩, ?_, ?_⟩
  all_goals
    obtain ⟨endpoints, -, rendered⟩ := Controller.toModule_eq_ok.1 of.controllerModule
    rw [rendered]
  · rw [of.identifier_eq, ← entityName]
    rfl
  · rw [of.name, Value.display_text, ← entityType, ← select]
    simp [Controller.moduleWith, Controller.opening, Controller.selectName]

end

/-- Of a post its status is selected, and the id of its author. -/
theorem Schema.blog_selects : ∃ modules, (blog.generate ResourceNaming.derive).outcome = .ok modules ∧
    ∃ classes d entries, entityClasses blog.entities blog.ids ResourceNaming.derive = .ok classes ∧
      entityDescriptor blog.entities[1] blog.ids = .ok d ∧ d.selection classes = .ok (.mapping entries) ∧
      blog.Selects classes blog.entities[1] d entries ∧
      entries =
        [(.text "author", .mapping [(.text "select", selectNames [.text "id"])]), (.text "status", .bool true)] := by
  obtain ⟨modules, returned⟩ := isOk_iff.1 (show (blog.generate ResourceNaming.derive).outcome.isOk = true from rfl)
  obtain ⟨classes, d, entries, made, filed, read, selected, selects, -⟩ := generate_selects returned (List.getElem_mem _)
  refine ⟨modules, returned, classes, d, entries, made, read, selected, selects, ?_⟩
  have computed : (entityClasses blog.entities blog.ids ResourceNaming.derive >>= fun classes =>
      classes.lookup (.text "Post") >>= fun d => d.selection classes) = .ok (.mapping
        [(.text "author", .mapping [(.text "select", selectNames [.text "id"])]), (.text "status", .bool true)]) := rfl
  change classes.lookup (.text "Post") = .ok d at filed
  rw [made, ok_bind, filed, ok_bind, selected] at computed
  cases computed
  rfl

end ResourceScaffold
