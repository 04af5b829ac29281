import ResourceScaffold.Proofs.Independence
import ResourceScaffold.Proofs.KeyFields
import ResourceScaffold.Proofs.Linking
import ResourceScaffold.Proofs.Samples

/-!
# What the routes of relations select

The routes of a controller are those of its collection and, when single records can be addressed, those of a record and of
its relations (`Controller.Route`, `Controller.mem_endpoints`).

A route that finds related records answers with the class that is read of the target and selects the scalar fields of the
target, in order, and nothing else (`Relation.selected_eq`). What that class requires are the required fields other than
relations, among them the required enumerations. So the selection is complete iff no enumeration of the target is required
(`covered_scalars_iff`, `generate_related_selection_iff`); the selection of the other routes always is
(`Descriptor.selection_covers`).
-/

namespace ResourceScaffold

open Code

/-! ## The routes of a controller -/

/-- A route of a controller. -/
inductive Controller.Route (c : Controller) : Endpoint → Prop where
  | create : Route c c.createEndpoint
  | list : Route c c.listEndpoint
  | read {key : KeyParameter} (keyed : c.key? = some key) : Route c (c.readEndpoint key)
  | update {key : KeyParameter} (keyed : c.key? = some key) : Route c (c.updateEndpoint key)
  | delete {key : KeyParameter} (keyed : c.key? = some key) : Route c (c.deleteEndpoint key)
  | related {key : KeyParameter} {r : Relation} {name : String} (keyed : c.key? = some key) (listed : r ∈ c.relations)
      (named : r.field.name = .text name) : Route c (c.relatedEndpoint key r name)
  | connect {key : KeyParameter} {r : Relation} {name : String} (keyed : c.key? = some key) (listed : r ∈ c.relations)
      (named : r.field.name = .text name) (many : r.field.isToMany = true) :
      Route c (c.linkEndpoint key r name .post "connect")
  | disconnect {key : KeyParameter} {r : Relation} {name : String} (keyed : c.key? = some key) (listed : r ∈ c.relations)
      (named : r.field.name = .text name) (many : r.field.isToMany = true) :
      Route c (c.linkEndpoint key r name .delete "disconnect")

/-- What is accepted as a text is that text. -/
theorem Value.eq_text_of_asText {v : Value} {s : String} (h : v.asText = .ok s) : v = .text s := by
  cases v <;> cases h
  rfl

namespace Controller

variable {c : Controller} {key : KeyParameter} {route : Endpoint}

/-- The routes of a relation are the one that finds records and, for many of them, those that connect and disconnect. -/
theorem mem_relationEndpoints {r : Relation} {endpoints : List Endpoint} (keyed : c.key? = some key)
    (listed : r ∈ c.relations) (made : c.relationEndpoints key r = .ok endpoints) (member : route ∈ endpoints) :
    c.Route route := by
  obtain ⟨name, text, rest⟩ := bind_eq_ok.1 made
  have named := Value.eq_text_of_asText text
  cases rest
  rcases List.mem_cons.1 member with rfl | link
  · exact .related keyed listed named
  · split at link
    · next many =>
        simp only [List.mem_cons, List.not_mem_nil, or_false] at link
        rcases link with rfl | rfl
        · exact .connect keyed listed named many
        · exact .disconnect keyed listed named many
    · cases link

/-- Each of the routes is one of those of its kind. -/
theorem route_of_mem_endpoints {endpoints : List Endpoint} (made : c.endpoints = .ok endpoints)
    (member : route ∈ endpoints) : c.Route route := by
  unfold Controller.endpoints at made
  cases keyed : c.key? with
  | none =>
      simp only [keyed] at made
      cases made
      simp only [List.mem_cons, List.not_mem_nil, or_false] at member
      rcases member with rfl | rfl
      · exact .create
      · exact .list
  | some key =>
      simp only [keyed] at made
      obtain ⟨relations, steps, rest⟩ := bind_eq_ok.1 made
      cases rest
      simp only [List.mem_append, List.mem_cons, List.not_mem_nil, or_false] at member
      rcases member with ((rfl | rfl) | rfl | rfl | rfl) | related
      · exact .create
      · exact .list
      · exact .read keyed
      · exact .update keyed
      · exact .delete keyed
      · obtain ⟨routes, inRoutes, inList⟩ := List.mem_flatten.1 related
        obtain ⟨r, listed, step⟩ := exists_mem_of_mapM_eq_ok steps inRoutes
        exact mem_relationEndpoints keyed listed step inList

/-- The routes of a controller are those of each kind. -/
theorem mem_endpoints {endpoints : List Endpoint} (made : c.endpoints = .ok endpoints) : route ∈ endpoints ↔ c.Route route := by
  refine ⟨route_of_mem_endpoints made, fun h => ?_⟩
  unfold Controller.endpoints at made
  -- a route of a relation is among those that its relation has
  have related {key : KeyParameter} {r : Relation} {name : String} (keyed : c.key? = some key) (listed : r ∈ c.relations)
      (named : r.field.name = .text name)
      (has : route ∈ c.relatedEndpoint key r name ::
        if r.field.isToMany then
          [c.linkEndpoint key r name .post "connect", c.linkEndpoint key r name .delete "disconnect"]
        else []) : route ∈ endpoints := by
    simp only [keyed] at made
    obtain ⟨relations, steps, rest⟩ := bind_eq_ok.1 made
    cases rest
    obtain ⟨routes, inRoutes, step⟩ := mem_results_of_mapM_eq_ok steps listed
    rw [relationEndpoints, named, Value.asText_text, ok_bind, pure_eq_ok, Except.ok.injEq] at step
    exact List.mem_append_right _ (List.mem_flatten.2 ⟨_, inRoutes, step ▸ has⟩)
  have keyed {key : KeyParameter} (keyed : c.key? = some key)
      (has : route ∈ [c.readEndpoint key, c.updateEndpoint key, c.deleteEndpoint key]) : route ∈ endpoints := by
    simp only [keyed] at made
    obtain ⟨relations, -, rest⟩ := bind_eq_ok.1 made
    cases rest
    exact List.mem_append_left _ (List.mem_append_right _ has)
  have collection (has : route ∈ [c.createEndpoint, c.listEndpoint]) : route ∈ endpoints := by
    cases found : c.key? with
    | none =>
        simp only [found] at made
        cases made
        exact has
    | some key =>
        simp only [found] at made
        obtain ⟨relations, -, rest⟩ := bind_eq_ok.1 made
        cases rest
        exact List.mem_append_left _ (List.mem_append_left _ has)
  cases h with
  | create => exact collection (by simp)
  | list => exact collection (by simp)
  | read key => exact keyed key (by simp)
  | update key => exact keyed key (by simp)
  | delete key => exact keyed key (by simp)
  | related key listed named => exact related key listed named (by simp)
  | connect key listed named many => exact related key listed named (by simp [many])
  | disconnect key listed named many => exact related key listed named (by simp [many])

/-- No route stands before the routes. -/
theorem endpoint_not_mem_opening (c : Controller) (route : Endpoint) : .endpoint route ∉ c.opening := by
  unfold opening
  split <;> simp

/-- The routes of the module of a controller are those of the controller. -/
theorem mem_body_moduleWith {endpoints : List Endpoint} :
    .endpoint route ∈ (c.moduleWith endpoints).body ↔ route ∈ endpoints := by
  rw [moduleWith, List.mem_append, List.mem_flatMap]
  constructor
  · rintro (inOpening | ⟨e, member, found⟩)
    · exact absurd inOpening (c.endpoint_not_mem_opening route)
    · simp only [List.mem_cons, List.not_mem_nil, or_false, reduceCtorEq, false_or, Statement.endpoint.injEq] at found
      exact found ▸ member
  · exact fun member => .inr ⟨route, member, by simp⟩

end Controller

/-! ## The routes that find related records -/

/-- How the call begins by which a route finds related records. -/
def relatedCall : String :=
  "return await service.find_related("

/-- The route asks the service for related records. -/
def Code.Endpoint.FindsRelated (route : Endpoint) : Prop :=
  ∃ line ∈ route.body, relatedCall.toList <+: line.toList

/-- A text and the call that finds related records are different where the shorter of them ends. -/
def DiffersFromCall (text : String) : Prop :=
  ¬ relatedCall.toList <+: text.toList ∧ ¬ text.toList <+: relatedCall.toList

/-- Whether a text differs from the call can be tested. -/
instance (text : String) : Decidable (DiffersFromCall text) :=
  inferInstanceAs (Decidable (_ ∧ _))

/-- What differs from the call differs from it with anything after it. -/
theorem DiffersFromCall.append {text : String} (h : DiffersFromCall text) (rest : String) :
    DiffersFromCall (text ++ rest) := by
  have front : text.toList <+: (text ++ rest).toList := by
    rw [String.toList_append]
    exact List.prefix_append _ _
  constructor
  · intro begins
    rcases List.prefix_or_prefix_of_prefix begins front with within | beyond
    · exact h.1 within
    · exact h.2 beyond
  · exact fun within => h.2 (front.trans within)

namespace Controller

variable {c : Controller} {key : KeyParameter} {route : Endpoint}

/-- The lines that answer when there is no record are no call. -/
theorem unlessFound_differ (c : Controller) (key : KeyParameter) : ∀ line ∈ c.unlessFound key, DiffersFromCall line := by
  have raised : DiffersFromCall "    raise HTTPException(status_code=404, detail=f\"" := by decide
  simp only [unlessFound, List.forall_mem_cons]
  exact ⟨by decide, (((((raised.append _).append _).append _).append _).append _).append _, by simp⟩

/-- A route that connects or disconnects does not find related records. -/
theorem linkEndpoint_differ {r : Relation} {name action : String} {method : Method}
    (h : DiffersFromCall ("await service." ++ action)) :
    ∀ line ∈ (c.linkEndpoint key r name method action).body, DiffersFromCall line := by
  simp only [linkEndpoint, List.forall_mem_cons]
  have call := ((((h.append "(where=").append key.condition).append ", field=\"").append name).append
    "\", targets=[item.model_dump(by_alias=True) for item in body])"
  exact ⟨call, by decide, by simp⟩

/-- The route of related records finds them. -/
theorem relatedEndpoint_findsRelated (c : Controller) (key : KeyParameter) (r : Relation) (name : String) :
    (c.relatedEndpoint key r name).FindsRelated := by
  have call : relatedCall.toList <+: "return await service.find_related(where=".toList := by decide
  refine ⟨_, List.mem_singleton_self _, ?_⟩
  simp only [String.toList_append, List.append_assoc]
  exact call.trans (List.prefix_append _ _)

/-- Only the routes of relations find related records. -/
theorem Route.eq_related (h : c.Route route) (finds : route.FindsRelated) :
    ∃ key r name, c.key? = some key ∧ r ∈ c.relations ∧ r.field.name = .text name ∧
      route = c.relatedEndpoint key r name := by
  obtain ⟨line, inBody, begins⟩ := finds
  have conflict (differ : ∀ line ∈ route.body, DiffersFromCall line) : False := (differ line inBody).1 begins
  cases h with
  | related keyed listed named => exact ⟨_, _, _, keyed, listed, named, rfl⟩
  | create =>
      refine (conflict ?_).elim
      have call : DiffersFromCall
        "return await service.create(data=data.model_dump(by_alias=True, exclude_none=True), select=" := by decide
      simp only [createEndpoint, List.forall_mem_cons]
      exact ⟨(call.append _).append _, by simp⟩
  | list =>
      refine (conflict ?_).elim
      have filter : DiffersFromCall "    args = " := by decide
      have selection : DiffersFromCall
        "    where=args.model_dump(by_alias=True, exclude_none=True), skip=skip, take=take, select=" := by decide
      simp only [listEndpoint, List.forall_mem_cons]
      exact ⟨by decide, (((filter.append _).append _).append _).append _, by decide, by decide, by decide,
        selection.append _, by decide, by simp⟩
  | @read key keyed =>
      refine (conflict ?_).elim
      have call : DiffersFromCall "result = await service.find_one(where=" := by decide
      simp only [readEndpoint, List.forall_mem_append, List.forall_mem_cons]
      exact ⟨⟨⟨(((call.append _).append _).append _).append _, by simp⟩, c.unlessFound_differ key⟩, by decide, by simp⟩
  | @update key keyed =>
      refine (conflict ?_).elim
      have record : DiffersFromCall "    where=" := by decide
      simp only [updateEndpoint, List.forall_mem_append, List.forall_mem_cons]
      exact ⟨⟨⟨by decide, ((record.append _).append _).append _, by decide, by simp⟩, c.unlessFound_differ key⟩,
        by decide, by simp⟩
  | @delete key keyed =>
      refine (conflict ?_).elim
      have call : DiffersFromCall "result = await service.delete(where=" := by decide
      simp only [deleteEndpoint, List.forall_mem_append, List.forall_mem_cons]
      exact ⟨⟨⟨(call.append _).append _, by simp⟩, c.unlessFound_differ key⟩, by decide, by simp⟩
  | connect => exact (conflict (linkEndpoint_differ (by decide))).elim
  | disconnect => exact (conflict (linkEndpoint_differ (by decide))).elim

end Controller

/-! ## What they select -/

/-- Whether a field holds a scalar. -/
def Field.isScalar (f : Field) : Bool :=
  match f.kind with
  | .scalar _ => true
  | _ => false

/-- The fields that hold scalars, in order. -/
def Entity.scalarFields (e : Entity) : List Field :=
  e.fields.filter Field.isScalar

/-- All properties that a class requires are among those with the given names. -/
def Descriptor.CoveredBy (d : Descriptor) (names : List Value) : Prop :=
  ∀ p ∈ d.properties, p.optional = false → p.name ∈ names

section

variable {ids : Entries} {e : Entity} {f : Field} {d : Descriptor} {p : Property}

/-- A property of the class that is read has the name and the kind of its field, and is required if the field is required
and no relation. -/
theorem readProperty_traits (h : readProperty e ids f = .ok p) :
    p.name = f.name ∧ p.optional = (f.isRelation || !f.required) ∧
      p.reference.map Reference.kind = f.kind.reference? := by
  obtain ⟨name, reference⟩ := Prod.mk.inj (readProperty_shape h)
  refine ⟨name, ?_, reference⟩
  rw [Field.isRelation]
  cases readProperty_gives h with
  | scalar kind | enumeration kind | relation kind =>
      rw [kind]
      rfl
  | filter _ filters => cases filters

/-- What the elements that pass a test are mapped to depends only on what the lists agree about. -/
theorem map_filter_eq_of_forall₂ {α β γ : Type} {R : α → β → Prop} {xs : List α} {ys : List β} {test : α → Bool}
    {test' : β → Bool} {g : α → γ} {g' : β → γ} (h : List.Forall₂ R xs ys)
    (agree : ∀ x y, R x y → test x = test' y ∧ g x = g' y) : (xs.filter test).map g = (ys.filter test').map g' := by
  induction h with
  | nil => rfl
  | @cons x y xs ys first rest ih =>
      obtain ⟨tests, values⟩ := agree x y first
      rw [List.filter_cons, List.filter_cons, tests]
      split
      · rw [List.map_cons, List.map_cons, ih, values]
      · exact ih

/-- Of the target of a relation its scalar fields are selected, in order. -/
theorem Relation.selected_eq {r : Relation} {t : Entity} (made : entityDescriptor t ids = .ok r.target) :
    (r.target.properties.filter fun p => p.reference.isNone).map Property.name = t.scalarFields.map Field.name := by
  obtain ⟨properties, steps, rest⟩ := bind_eq_ok.1 made
  have same : properties = r.target.properties := congrArg Descriptor.properties (Except.ok.inj rest)
  rw [← same]
  refine (map_filter_eq_of_forall₂ (mapM_eq_ok.1 steps) fun f p step => ?_).symm
  obtain ⟨name, -, reference⟩ := readProperty_traits step
  refine ⟨?_, name.symm⟩
  rw [← Option.isNone_map (f := Reference.kind), reference, Field.isScalar]
  cases f.kind <;> rfl

/-- A field that is neither an enumeration nor a relation is a scalar. -/
theorem Field.isScalar_of_not {f : Field} (noEnumeration : f.isEnumeration = false) (noRelation : f.isRelation = false) :
    f.isScalar = true := by
  unfold isScalar
  unfold isEnumeration at noEnumeration
  unfold isRelation at noRelation
  cases kind : f.kind with
  | scalar t => rfl
  | enumeration many =>
      rw [kind] at noEnumeration
      cases noEnumeration
  | relation =>
      rw [kind] at noRelation
      cases noRelation

/-- An enumeration is neither a scalar nor a relation. -/
theorem Field.not_of_isEnumeration {f : Field} (h : f.isEnumeration = true) : f.isScalar = false ∧ f.isRelation = false := by
  unfold isEnumeration at h
  unfold isScalar isRelation
  cases kind : f.kind with
  | enumeration many => exact ⟨rfl, rfl⟩
  | scalar t | relation =>
      rw [kind] at h
      cases h

/-- The scalar fields of an entity are all that the class that is read requires iff no enumeration is required. -/
theorem covered_scalars_iff (made : entityDescriptor e ids = .ok d) :
    d.CoveredBy (e.scalarFields.map Field.name) ↔ ∀ f ∈ e.enumFields, f.required = false := by
  obtain ⟨properties, steps, rest⟩ := bind_eq_ok.1 made
  have same : properties = d.properties := congrArg Descriptor.properties (Except.ok.inj rest)
  constructor
  · intro covered f listed
    obtain ⟨member, enumerates⟩ := List.mem_filter.1 listed
    obtain ⟨noScalar, noRelation⟩ := Field.not_of_isEnumeration enumerates
    by_contra required
    obtain ⟨p, inClass, step⟩ := mem_results_of_mapM_eq_ok steps member
    obtain ⟨name, optional, -⟩ := readProperty_traits step
    have selected : p.name ∈ e.scalarFields.map Field.name := by
      refine covered p (same ▸ inClass) ?_
      rw [optional, noRelation, eq_true_of_ne_false required]
      rfl
    -- a scalar field with the same name would be the same field
    obtain ⟨g, scalars, sameName⟩ := List.mem_map.1 selected
    obtain ⟨member', scalar⟩ := List.mem_filter.1 scalars
    have identical : g = f :=
      field_unique member member' (checkFieldName_of_entityDescriptor made member) (by rw [sameName, name])
    rw [identical, noScalar] at scalar
    cases scalar
  · intro optionalEnumerations p inClass required
    obtain ⟨f, member, step⟩ := exists_mem_of_mapM_eq_ok steps (same ▸ inClass)
    obtain ⟨name, optional, -⟩ := readProperty_traits step
    rw [optional, Bool.or_eq_false_iff, Bool.not_eq_false'] at required
    obtain ⟨noRelation, needed⟩ := required
    have noEnumeration : f.isEnumeration = false := by
      by_contra enumerates
      have optional := optionalEnumerations f (List.mem_filter.2 ⟨member, eq_true_of_ne_false enumerates⟩)
      rw [needed] at optional
      cases optional
    rw [name]
    exact List.mem_map_of_mem (List.mem_filter.2 ⟨member, Field.isScalar_of_not noEnumeration noRelation⟩)

/-- The selection of the routes other than those of relations holds all that the class that is read requires. -/
theorem Descriptor.selection_covers {table : Table Descriptor} {v : Value} (made : entityDescriptor e ids = .ok d)
    (selected : d.selection table = .ok v) :
    ∃ entries, v = .mapping entries ∧ ∀ p ∈ d.properties, p.optional = false → (p.name, .bool true) ∈ entries := by
  obtain ⟨selections, steps, rest⟩ := bind_eq_ok.1 selected
  cases rest
  refine ⟨_, rfl, fun p inClass required => ?_⟩
  obtain ⟨entries, inSelections, step⟩ := mem_results_of_mapM_eq_ok steps inClass
  obtain ⟨properties, fieldSteps, rest⟩ := bind_eq_ok.1 made
  cases rest
  obtain ⟨f, member, fieldStep⟩ := exists_mem_of_mapM_eq_ok fieldSteps inClass
  have selectedAlone : entries = [(p.name, .bool true)] := by
    obtain ⟨-, optional, refers⟩ := readProperty_traits fieldStep
    rw [optional, Bool.or_eq_false_iff] at required
    unfold selectProperty at step
    split at step
    · next reference =>
        -- only relations refer to classes that are read, and those are optional
        rw [reference] at refers
        have relation : f.isRelation = true := by
          unfold Field.isRelation
          cases kind : f.kind <;> rw [kind] at refers <;> first | rfl | cases refers
        rw [required.1] at relation
        cases relation
    · cases step
      rfl
  exact List.mem_flatten.2 ⟨entries, inSelections, by simp [selectedAlone]⟩

end

/-! ## Whole batches -/

section

variable {schema : Schema} {naming : NamingStrategy} {classes : Table Descriptor} {byName : Table Entity} {e : Entity}
  {r : Resource} {rs : List Resource} {m : SourceModule} {modules : List SourceModule} {route : Endpoint}

/-- Only the modules of controllers have routes. -/
theorem Resource.Of.controller_of_endpoint (h : Of schema naming classes byName e r) {part : Part}
    (hasPart : r.HasPart naming part m) (inModule : .endpoint route ∈ m.body) : m = r.controllerModule := by
  cases hasPart with
  | controller => rfl
  | dataClass listed made =>
      obtain ⟨imports, filters, -, -, rfl⟩ := Descriptor.toModule_eq_ok.1 made
      simp only [Descriptor.moduleWith, Descriptor.opening, libraryImports, lateImports, List.mem_append, List.mem_flatMap,
        List.mem_cons, List.not_mem_nil, or_false, reduceCtorEq, false_or, and_false, exists_const] at inModule
      split at inModule <;> split at inModule <;> simp at inModule
  | enumeration listed => simp [EnumDescriptor.toModule] at inModule
  | service => simp [Resource.service, serviceModule] at inModule
  | wiring => simp [Resource.wiring, wiringModule] at inModule
  | tests =>
      obtain ⟨plan, -, rendered⟩ := testModule_eq_ok.1 h.tests
      rw [rendered] at inModule
      cases key : plan.key <;> simp [TestPlan.moduleWith, testFunction, recordTests, key] at inModule

/-- The route is named after the field, answers with records of the class, one or many as the field says, and asks the
service for the records of the field with the given properties selected. -/
def Code.Endpoint.ReadsRelation (route : Endpoint) (entityName : String) (f : Field) (d : Descriptor) (names : List Value) :
    Prop :=
  ∃ name condition, f.name = .text name ∧ route.name = "find_" ++ entityName ++ "_" ++ Text.snakeCase name ∧
    route.response = some { name := d.name.display, isList := f.isToMany, optional := !f.isToMany } ∧
    route.body =
      ["return await service.find_related(where=" ++ condition ++ ", field=\"" ++ name ++ "\", select=" ++
        (selectNames names).literal ++ ")"]

/-- Every route of a generation that finds related records is that of a relation of an entity. It answers with the class that
is read of the target, which one of the modules defines, and selects the scalar fields of the target; these are all that the
class requires iff the target has no required enumeration. -/
theorem generate_related_selection_iff (h : (schema.generate naming).outcome = .ok modules) (listed : m ∈ modules)
    (inModule : .endpoint route ∈ m.body) (finds : route.FindsRelated) :
    ∃ e ∈ schema.entities, ∃ f ∈ e.relationFields, ∃ t ∈ schema.entities, ∃ d,
      relatedName e f schema.ids = .ok t.name ∧ entityDescriptor t schema.ids = .ok d ∧
      (∃ m' ∈ modules, .define d.definition ∈ m'.body) ∧
      route.ReadsRelation (e.identifier naming) f d (t.scalarFields.map Field.name) ∧
      (d.CoveredBy (t.scalarFields.map Field.name) ↔ ∀ g ∈ t.enumFields, g.required = false) := by
  obtain ⟨classes, byName, rs, generated, rfl⟩ := generate_eq_ok h
  obtain ⟨r, member, part, hasPart⟩ := generated.mem_modules.1 listed
  obtain ⟨e, inBatch, of⟩ := generated.owner member
  have controller := of.controller_of_endpoint hasPart inModule
  obtain ⟨endpoints, made, rendered⟩ := Controller.toModule_eq_ok.1 of.controllerModule
  rw [controller, rendered, Controller.mem_body_moduleWith] at inModule
  obtain ⟨key, relation, name, -, related, named, rfl⟩ :=
    (Controller.route_of_mem_endpoints made inModule).eq_related finds
  obtain ⟨field, r', member', -, target, leads⟩ := generated.relation of related
  obtain ⟨t, inBatch', of'⟩ := generated.owner member'
  have read : entityDescriptor t schema.ids = .ok relation.target := target ▸ of'.read
  refine ⟨e, inBatch, relation.field, field, t, inBatch', relation.target, ?_, read, ?_, ?_, covered_scalars_iff read⟩
  · rwa [of'.name]
  · obtain ⟨imports, filters, -, -, definition⟩ := Descriptor.toModule_eq_ok.1 of'.readModule
    refine ⟨r'.readModule, generated.mem_modules.2 ⟨r', member', _, .dataClass List.mem_cons_self of'.readModule⟩, ?_⟩
    rw [definition, target]
    simp [Descriptor.moduleWith, Descriptor.opening]
  · obtain ⟨-, -, -, -, entityName, -⟩ := generated.controller_eq inBatch of
    refine ⟨name, key.condition, named, ?_, rfl, ?_⟩
    · rw [of.identifier_eq, ← entityName]
      rfl
    · rw [← Relation.selected_eq read]
      rfl

/-- Each relation of an entity whose records can be addressed has a route that finds related records. -/
theorem exists_related_route (h : (schema.generate naming).outcome = .ok modules) (inBatch : e ∈ schema.entities)
    {f g : Field} (field : f ∈ e.relationFields) (member : g ∈ e.fields) (filterable : g.isFilterable = true)
    (identifying : g.isIdentifying = true) :
    ∃ m ∈ modules, ∃ route, .endpoint route ∈ m.body ∧ route.FindsRelated := by
  obtain ⟨classes, byName, rs, generated, rfl⟩ := generate_eq_ok h
  obtain ⟨r, listed, of⟩ := generated.resource inBatch
  obtain ⟨key, keyed⟩ := of.exists_key_iff.2 ⟨g, List.mem_filter.2 ⟨member, by rw [filterable, identifying]; rfl⟩⟩
  obtain ⟨made, -⟩ := Controller.ofEntity_eq_ok of.controller
  obtain ⟨relation, related, step⟩ := mem_results_of_mapM_eq_ok made.related field
  obtain ⟨rfl, -⟩ := generated.prepared.relationOf_eq_ok.1 step
  obtain ⟨s, text, -⟩ :=
    checkFieldName_eq_ok (checkFieldName_of_entityDescriptor of.read (List.mem_filter.1 field).1)
  obtain ⟨endpoints, routed, rendered⟩ := Controller.toModule_eq_ok.1 of.controllerModule
  refine ⟨r.controllerModule, generated.mem_modules.2 ⟨r, listed, _, .controller⟩,
    r.controller.relatedEndpoint key relation s, ?_, Controller.relatedEndpoint_findsRelated _ _ _ _⟩
  rw [rendered, Controller.mem_body_moduleWith]
  exact (Controller.mem_endpoints routed).2 (.related keyed related text)

end

/-- Tasks belong to users, and every user has a role. -/
def Schema.tasks : Schema :=
  { entities :=
      [{ name := .text "User"
         id := .text "u"
         fields :=
           [{ name := .text "role", dataType := .optionSet, required := true, unique := false, searchable := false
              properties := [(.text "options", .list [.text "admin", .text "guest"])] }] },
       { name := .text "Task"
         id := .text "t"
         fields :=
           [{ name := .text "id", dataType := .id, required := true, unique := true, searchable := true, properties := [] },
            { name := .text "owner", dataType := .lookup, required := true, unique := false, searchable := true
              properties := [(.text "relatedEntityId", .text "u")] }] }]
    ids := [(.text "u", .text "User")] }

/-- The modules of the tasks are generated. -/
theorem Schema.tasks_returns : ∃ modules, (tasks.generate ResourceNaming.derive).outcome = .ok modules := by
  have returned : (tasks.generate ResourceNaming.derive).outcome.isOk = true := by rfl
  exact isOk_iff.1 returned

/-- The route to the owner of a task does not select the role that a user has to have. -/
theorem Schema.tasks_owner_incomplete :
    ∃ modules, (tasks.generate ResourceNaming.derive).outcome = .ok modules ∧
      ∃ m ∈ modules, ∃ route : Endpoint, .endpoint route ∈ m.body ∧ route.FindsRelated ∧
        ∃ e ∈ tasks.entities, ∃ f ∈ e.relationFields, ∃ t ∈ tasks.entities, ∃ d,
          relatedName e f tasks.ids = .ok t.name ∧
          route.ReadsRelation (e.identifier ResourceNaming.derive) f d (t.scalarFields.map Field.name) ∧
          ¬ d.CoveredBy (t.scalarFields.map Field.name) := by
  obtain ⟨modules, returned⟩ := tasks_returns
  obtain ⟨m, listed, route, inModule, finds⟩ := exists_related_route returned
    (e := tasks.entities[1]) (List.getElem_mem _) (f := tasks.entities[1].fields[1])
    (List.mem_filter.2 ⟨List.getElem_mem _, rfl⟩) (g := tasks.entities[1].fields[0]) (List.getElem_mem _) rfl rfl
  obtain ⟨e, inBatch, f, field, t, inBatch', d, leads, -, -, reads, covered⟩ :=
    generate_related_selection_iff returned listed inModule finds
  refine ⟨modules, returned, m, listed, route, inModule, finds, e, inBatch, f, field, t, inBatch', d, leads, reads, ?_⟩
  rw [covered]
  intro optional
  have leadsToUser : ∀ e ∈ tasks.entities, ∀ f ∈ e.relationFields, relatedName e f tasks.ids = .ok (.text "User") := by
    simp only [tasks, List.forall_mem_cons]
    exact ⟨by simp [Entity.relationFields, Field.isRelation, Field.kind, DataType.kind],
      by simp [Entity.relationFields, Field.isRelation, Field.kind, DataType.kind]; rfl, by simp⟩
  have name : t.name = .text "User" := by
    rw [leadsToUser e inBatch f field] at leads
    exact (Except.ok.inj leads).symm
  simp only [tasks, List.mem_cons, List.not_mem_nil, or_false] at inBatch'
  rcases inBatch' with rfl | rfl
  · have role := optional _ List.mem_cons_self
    cases role
  · exact absurd name (by simp)

end ResourceScaffold
