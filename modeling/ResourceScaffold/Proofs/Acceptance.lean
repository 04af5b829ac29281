import ResourceScaffold.Proofs.Rendering

/-!
# Which schemas are accepted

A well-typed schema is generated iff it is acceptable, and otherwise the generation ends with the defects of a batch, at
least one: a misuse of a value is impossible (`Schema.generate_returns_iff`). The condition is put together from that of the
registry, which decides the names, the fields and the identifiers, and that of the modules of each entity, which decides
the relations and the options.
-/

namespace ResourceScaffold

/-! ## Gathering -/

section gather

variable {α β : Type} {f : α → Except Fault β} {xs : List α} {about : α → Value} {p : α → Prop}

/-- A batch whose results are all decided returns when all conditions hold. -/
theorem gather_returns (h : ∀ x ∈ xs, Decides (about x) (f x) (p x)) (holds : ∀ x ∈ xs, p x) :
    ∃ ys, gather (xs.map f) = .ok ys := by
  obtain ⟨ys, steps⟩ := exists_mapM_eq_ok fun x hx => (h x hx).returns (holds x hx)
  exact ⟨ys, gather_eq_ok.2 (List.forall₂_map_left_iff.2 (mapM_eq_ok.1 steps))⟩

/-- A batch whose results are all decided ends with defects when a condition fails. -/
theorem gather_fails (h : ∀ x ∈ xs, Decides (about x) (f x) (p x)) (fails : ¬ ∀ x ∈ xs, p x) :
    ∃ d ds, gather (xs.map f) = .error (.batch (d :: ds)) := by
  have noMisuse : (xs.map f).findSome? misuse? = none := by
    rw [List.findSome?_eq_none_iff]
    intro result member
    obtain ⟨x, hx, rfl⟩ := List.mem_map.1 member
    rcases (h x hx).cases with ⟨-, a, returned⟩ | ⟨-, d, -, failed⟩
    · rw [returned]
      rfl
    · rw [failed]
      rfl
  simp only [not_forall] at fails
  obtain ⟨x, hx, fails⟩ := fails
  obtain ⟨holds, -⟩ | ⟨-, d, -, failed⟩ := (h x hx).cases
  · exact absurd holds fails
  have found : d ∈ (xs.map f).flatMap defectsOf :=
    List.mem_flatMap.2 ⟨f x, List.mem_map_of_mem hx, by rw [failed]; exact List.mem_singleton_self d⟩
  obtain ⟨first, rest, defects⟩ := List.exists_cons_of_ne_nil (List.ne_nil_of_mem found)
  refine ⟨first, rest, ?_⟩
  cases steps : (xs.map f).mapM id with
  | ok ys =>
      obtain ⟨y, -, returned⟩ := mem_results_of_mapM_eq_ok steps (List.mem_map_of_mem hx)
      rw [id, failed] at returned
      cases returned
  | error fault => rw [gather, steps, noMisuse, defects]

end gather

/-! ## Acceptance -/

variable {schema : Schema}

/-- What the classes of all entities require: good names, different identifiers, and fields that can be read. -/
structure Schema.Describable (schema : Schema) : Prop where
  entityNames : ∀ e ∈ schema.entities, checkEntityName e.name = .ok ()
  identifiers : (schema.entities.map (Entity.identifier ResourceNaming.derive)).Nodup
  readable : ∀ e ∈ schema.entities, ∀ f ∈ e.fields, f.Readable schema.ids e

/-- A schema is acceptable iff its classes can be made, its relations lead to its entities and its enumerations have
usable options. -/
theorem Schema.acceptable_iff :
    schema.Acceptable ↔ schema.Describable ∧ ∀ e ∈ schema.entities, schema.Relates e ∧ ∀ f ∈ e.enumFields, f.HasOptions := by
  constructor
  · intro h
    refine ⟨⟨h.entityNames, h.identifiers, fun e he f hf => ⟨h.fieldNames e he f hf, fun isRelation => ?_, fun isEnum => ?_⟩⟩,
      fun e he => ⟨h.targets e he, h.options e he⟩⟩
    · obtain ⟨t, -, leads⟩ := h.targets e he f (List.mem_filter.2 ⟨hf, isRelation⟩)
      exact ⟨_, leads⟩
    · exact h.enumNames e he f (List.mem_filter.2 ⟨hf, isEnum⟩)
  · rintro ⟨classes, parts⟩
    refine ⟨classes.entityNames, classes.identifiers, fun e he f hf => (classes.readable e he f hf).name,
      fun e he => (parts e he).1, fun e he f hf => ?_, fun e he => (parts e he).2⟩
    obtain ⟨listed, isEnum⟩ := List.mem_filter.1 hf
    exact (classes.readable e he f listed).enumName isEnum

/-- The classes of all entities are made iff they can be, and otherwise the defects are reported. -/
theorem Schema.entityClasses_outcome (typed : schema.WellTyped) :
    (schema.Describable ∧ ∃ classes, entityClasses schema.entities schema.ids ResourceNaming.derive = .ok classes) ∨
    (¬ schema.Describable ∧
      ∃ d ds, entityClasses schema.entities schema.ids ResourceNaming.derive = .error (.batch (d :: ds))) := by
  obtain ⟨classes, defects, registered, outcome⟩ :=
    entityClasses_registered schema.ids ResourceNaming.derive typed.entities
  have condition : defects = [] ↔ schema.Describable := by
    rw [registered.defects_eq_nil_iff]
    constructor
    · rintro ⟨good, identifiers, -⟩
      exact ⟨fun e he => (good e he).1, identifiers, fun e he =>
        (decides_entityDescriptor schema.ids (typed.entities e he)).returns_iff.1 (good e he).2⟩
    · intro h
      exact ⟨fun e he => ⟨h.entityNames e he,
          (decides_entityDescriptor schema.ids (typed.entities e he)).returns (h.readable e he)⟩,
        h.identifiers, fun e he earlier before => absurd before List.not_mem_nil⟩
  rw [← condition, outcome]
  cases defects with
  | nil => exact .inl ⟨rfl, classes, rfl⟩
  | cons d ds => exact .inr ⟨List.cons_ne_nil d ds, d, ds, rfl⟩

/-- The table of entities with texts as names can be made. -/
theorem entitiesByName_returns {entities : List Entity} (names : ∀ e ∈ entities, e.name.IsText) :
    ∃ byName, entitiesByName entities = .ok byName := by
  refine exists_foldlM_eq_ok (fun table e member => ?_) []
  obtain ⟨key, known⟩ := (names e member).exists_key
  exact ⟨_, by rw [Value.asKey, known]; rfl⟩

/-- The generation of a well-typed schema ends in one of two ways. -/
theorem Schema.generate_ends (typed : schema.WellTyped) :
    (schema.Acceptable ∧ ∃ modules, (schema.generate ResourceNaming.derive).outcome = .ok modules) ∨
    (¬ schema.Acceptable ∧ ∃ d ds, (schema.generate ResourceNaming.derive).outcome = .error (.batch (d :: ds))) := by
  obtain ⟨byName, tabled⟩ := entitiesByName_returns fun e member => (typed.entities e member).name
  rw [outcome_generate, tabled, ok_bind, acceptable_iff]
  rcases schema.entityClasses_outcome typed with ⟨describable, classes, made⟩ | ⟨fails, d, ds, failed⟩
  · have prepared : schema.Prepared ResourceNaming.derive classes byName := ⟨registered_of_entityClasses made, tabled⟩
    have each : ∀ e ∈ schema.entities, Decides e.name
        (resourceModules schema.ids classes byName ResourceNaming.derive e).outcome
        (schema.Relates e ∧ ∀ f ∈ e.enumFields, f.HasOptions) :=
      fun e member => decides_resourceModules prepared typed member
    rw [made, ok_bind]
    by_cases parts : ∀ e ∈ schema.entities, schema.Relates e ∧ ∀ f ∈ e.enumFields, f.HasOptions
    · obtain ⟨blocks, gathered⟩ := gather_returns each parts
      obtain ⟨shared, rendered⟩ := classModules_returns prepared typed.ids
      exact .inl ⟨⟨describable, parts⟩, blocks.flatten ++ shared, by rw [gathered, ok_bind, rendered]; rfl⟩
    · obtain ⟨d, ds, failed⟩ := gather_fails each parts
      exact .inr ⟨fun both => parts both.2, d, ds, by rw [failed]; rfl⟩
  · exact .inr ⟨fun both => fails both.1, d, ds, by rw [failed]; rfl⟩

/-- A schema that passes every check is generated. -/
theorem Schema.generate_of_acceptable (typed : schema.WellTyped) (acceptable : schema.Acceptable) :
    ∃ modules, (schema.generate ResourceNaming.derive).outcome = .ok modules := by
  rcases schema.generate_ends typed with ⟨-, returned⟩ | ⟨refused, -⟩
  · exact returned
  · exact absurd acceptable refused

/-- A well-typed schema is generated iff it is acceptable; otherwise its generation ends with a batch of defects. -/
theorem Schema.generate_returns_iff (typed : schema.WellTyped) :
    ((∃ modules, (schema.generate ResourceNaming.derive).outcome = .ok modules) ↔ schema.Acceptable) ∧
    (¬ schema.Acceptable →
      ∃ d ds, (schema.generate ResourceNaming.derive).outcome = .error (.batch (d :: ds))) := by
  rcases schema.generate_ends typed with ⟨accepted, returned⟩ | ⟨refused, d, ds, failed⟩
  · exact ⟨iff_of_true returned accepted, fun refused => absurd accepted refused⟩
  · exact ⟨iff_of_false (by simp [failed]) refused, fun _ => ⟨d, ds, failed⟩⟩

/-- The condition of acceptance at a schema that meets it. -/
theorem Schema.blog_returns_iff :
    blog.WellTyped ∧
      ((∃ modules, (blog.generate ResourceNaming.derive).outcome = .ok modules) ↔ blog.Acceptable) ∧
      (¬ blog.Acceptable → ∃ d ds, (blog.generate ResourceNaming.derive).outcome = .error (.batch (d :: ds))) :=
  ⟨blog_wellTyped, generate_returns_iff blog_wellTyped⟩

end ResourceScaffold
