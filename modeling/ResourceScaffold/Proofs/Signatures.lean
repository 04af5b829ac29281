import ResourceScaffold.Proofs.RelatedRoutes

/-!
# The parameters of routes

The names of the parameters of a route are fixed for its kind, but for the key, which is named after a field
(`Entity.Signature`, `Resource.Of.signature_iff`). So a name occurs twice only where the key field has the name of a parameter
that stands beside it: `service` in all routes of a record, `data` in the one that updates it, and `body` in those that connect
and disconnect related records (`Entity.RepeatsParameter`). The routes of a generation have different parameters iff no entity
has such a key field (`generate_signatures_iff`).
-/

namespace ResourceScaffold

open Code

/-- The names of the parameters of a route, in order. -/
def Code.Endpoint.parameterNames (route : Endpoint) : List String :=
  route.parameters.map Parameter.name

namespace Entity

/-- The entity has a key field of the given name. -/
def HasKeyNamed (e : Entity) (name : String) : Prop :=
  ∃ f, e.keyField? = some f ∧ f.name = .text name

/-- Some relation of the entity leads to many records. -/
def RelatesToMany (e : Entity) : Prop :=
  ∃ f ∈ e.relationFields, f.isToMany = true

/-- The names of the parameters of a route of the entity. -/
inductive Signature (e : Entity) : List String → Prop where
  | create : Signature e ["data", "service"]
  | list : Signature e ["where", "skip", "take", "service"]
  /-- A record is read or deleted, or related records are found. -/
  | record {key : String} (keyed : e.HasKeyNamed key) : Signature e [key, "service"]
  | update {key : String} (keyed : e.HasKeyNamed key) : Signature e [key, "data", "service"]
  /-- Related records are connected or disconnected. -/
  | link {key : String} (keyed : e.HasKeyNamed key) (many : e.RelatesToMany) : Signature e [key, "body", "service"]

/-- The key field of the entity has the name of another parameter of one of its routes. -/
inductive RepeatsParameter (e : Entity) : Prop where
  | service (keyed : e.HasKeyNamed "service")
  | data (keyed : e.HasKeyNamed "data")
  | body (keyed : e.HasKeyNamed "body") (many : e.RelatesToMany)

/-- The parameters of all routes of an entity have different names iff its key field has none of the other names. -/
theorem nodup_signatures_iff (e : Entity) : (∀ names, e.Signature names → names.Nodup) ↔ ¬ e.RepeatsParameter := by
  constructor
  · intro distinct repeats
    cases repeats with
    | service keyed => exact absurd (distinct _ (.record keyed)) (by simp)
    | data keyed => exact absurd (distinct _ (.update keyed)) (by simp)
    | body keyed many => exact absurd (distinct _ (.link keyed many)) (by simp)
  · intro apart names signature
    have notService {key : String} (keyed : e.HasKeyNamed key) : key ≠ "service" := by
      rintro rfl
      exact apart (.service keyed)
    cases signature with
    | create => decide
    | list => decide
    | record keyed => simp [notService keyed]
    | @update key keyed =>
        have notData : key ≠ "data" := by
          rintro rfl
          exact apart (.data keyed)
        simp [notService keyed, notData]
    | @link key keyed many =>
        have notBody : key ≠ "body" := by
          rintro rfl
          exact apart (.body keyed many)
        simp [notService keyed, notBody]

end Entity

section

variable {schema : Schema} {naming : NamingStrategy} {classes : Table Descriptor} {byName : Table Entity} {e : Entity}
  {r : Resource} {rs : List Resource} {modules : List SourceModule} {names : List String}

/-- The parameters of each route of a controller are named as those of a route of its entity, and each kind of route with a
key is there. -/
theorem Schema.Generated.signature_iff (h : schema.Generated naming classes byName rs)
    (of : Resource.Of schema naming classes byName e r) :
    (∃ route, r.controller.Route route ∧ route.parameterNames = names) ↔ e.Signature names := by
  have hasKey {key : KeyParameter} (keyed : r.controller.key? = some key) : e.HasKeyNamed key.name :=
    of.key?_iff.1 ⟨key, keyed, rfl⟩
  have toMany {relation : Relation} (listed : relation ∈ r.controller.relations) (many : relation.field.isToMany = true) :
      e.RelatesToMany := ⟨relation.field, (h.relation of listed).1, many⟩
  constructor
  · rintro ⟨route, kind, rfl⟩
    cases kind with
    | create => exact .create
    | list => exact .list
    | read keyed | delete keyed | related keyed => exact .record (hasKey keyed)
    | update keyed => exact .update (hasKey keyed)
    | connect keyed listed named many | disconnect keyed listed named many =>
        exact .link (hasKey keyed) (toMany listed many)
  · intro signature
    cases signature with
    | create => exact ⟨_, .create, rfl⟩
    | list => exact ⟨_, .list, rfl⟩
    | record hasKey =>
        obtain ⟨key, keyed, rfl⟩ := of.key?_iff.2 hasKey
        exact ⟨_, .read keyed, rfl⟩
    | update hasKey =>
        obtain ⟨key, keyed, rfl⟩ := of.key?_iff.2 hasKey
        exact ⟨_, .update keyed, rfl⟩
    | link hasKey toMany =>
        obtain ⟨key, keyed, rfl⟩ := of.key?_iff.2 hasKey
        obtain ⟨f, field, many⟩ := toMany
        obtain ⟨made, -⟩ := Controller.ofEntity_eq_ok of.controller
        obtain ⟨relation, listed, step⟩ := mem_results_of_mapM_eq_ok made.related field
        obtain ⟨rfl, -⟩ := h.prepared.relationOf_eq_ok.1 step
        obtain ⟨s, text⟩ := exists_text_of_field of.read (List.mem_filter.1 field).1
        exact ⟨_, .connect keyed listed text many, rfl⟩

/-- The routes of the module of a controller are those of the controller. -/
theorem Resource.Of.mem_controllerModule (of : Of schema naming classes byName e r) {route : Endpoint} :
    .endpoint route ∈ r.controllerModule.body ↔ r.controller.Route route := by
  obtain ⟨endpoints, made, rendered⟩ := Controller.toModule_eq_ok.1 of.controllerModule
  rw [rendered, Controller.mem_body_moduleWith, Controller.mem_endpoints made]

/-- The parameters of every route of a generation are named as those of a route of one of the entities. They have different
names in all routes iff no key field of an entity is named like another parameter. -/
theorem generate_signatures_iff (h : (schema.generate naming).outcome = .ok modules) :
    (∀ m ∈ modules, ∀ route, .endpoint route ∈ m.body →
        ∃ e ∈ schema.entities, m.path = controllerPath (e.identifier naming) ∧ e.Signature route.parameterNames) ∧
      ((∀ m ∈ modules, ∀ route, .endpoint route ∈ m.body → route.parameterNames.Nodup) ↔
        ∀ e ∈ schema.entities, ¬ e.RepeatsParameter) := by
  obtain ⟨classes, byName, rs, generated, rfl⟩ := generate_eq_ok h
  have signed : ∀ m ∈ rs.flatMap (Resource.block naming) ++ rs.map Resource.readModule, ∀ route, .endpoint route ∈ m.body →
      ∃ e ∈ schema.entities, m.path = controllerPath (e.identifier naming) ∧ e.Signature route.parameterNames := by
    intro m listed route inModule
    obtain ⟨r, member, part, hasPart⟩ := generated.mem_modules.1 listed
    obtain ⟨e, inBatch, of⟩ := generated.owner member
    have controller := of.controller_of_endpoint hasPart inModule
    subst controller
    obtain ⟨-, -, -, -, entityName, -⟩ := generated.controller_eq inBatch of
    refine ⟨e, inBatch, ?_, (generated.signature_iff of).1 ⟨route, of.mem_controllerModule.1 inModule, rfl⟩⟩
    obtain ⟨endpoints, -, rendered⟩ := Controller.toModule_eq_ok.1 of.controllerModule
    rw [rendered, of.identifier_eq, ← entityName]
    rfl
  refine ⟨signed, fun distinct e inBatch => ?_, fun apart m listed route inModule => ?_⟩
  · obtain ⟨r, member, of⟩ := generated.resource inBatch
    rw [← e.nodup_signatures_iff]
    intro names signature
    obtain ⟨route, kind, rfl⟩ := (generated.signature_iff of).2 signature
    exact distinct _ (generated.mem_modules.2 ⟨r, member, _, .controller⟩) route (of.mem_controllerModule.2 kind)
  · obtain ⟨e, inBatch, -, signature⟩ := signed m listed route inModule
    exact e.nodup_signatures_iff.2 (apart e inBatch) _ signature

end

/-- Tickets are identified by the service that they are about. -/
def Schema.tickets : Schema :=
  { entities :=
      [{ name := .text "Ticket"
         id := .null
         fields :=
           [{ name := .text "service", dataType := .singleLineText, required := true, unique := true, searchable := true
              properties := [] }] }]
    ids := [] }

/-- The routes of a ticket have two parameters named `service`. -/
theorem Schema.tickets_repeat : ∃ modules, (tickets.generate ResourceNaming.derive).outcome = .ok modules ∧
    ((∀ m ∈ modules, ∀ route, .endpoint route ∈ m.body → route.parameterNames.Nodup) ↔
      ∀ e ∈ tickets.entities, ¬ e.RepeatsParameter) ∧
    ∃ m ∈ modules, ∃ route : Endpoint, .endpoint route ∈ m.body ∧ ¬ route.parameterNames.Nodup := by
  have returns : (tickets.generate ResourceNaming.derive).outcome.isOk = true := rfl
  obtain ⟨modules, made⟩ := isOk_iff.1 returns
  obtain ⟨-, condition⟩ := generate_signatures_iff made
  refine ⟨modules, made, condition, ?_⟩
  by_contra all
  push Not at all
  exact condition.1 all _ List.mem_cons_self (.service ⟨_, rfl, rfl⟩)

end ResourceScaffold
