import ResourceScaffold.Proofs.Segments
import ResourceScaffold.Proofs.Signatures

/-!
# The requests that routes answer

A request is sent to the route with its method and its path; of two routes with both in common the first one hides the
second. The requests of a controller are those of its entity (`Entity.requests`, `Resource.Of.requests_eq`): of the collection,
of a record and, beneath the path of a record, of its relations.

The path of a relation is its name in kebab-case, which keeps the words of the name and nothing else
(`Text.kebabCase_eq_iff`). The names of the fields of an entity are compared as they are written. So a route is hidden iff an
entity whose records can be addressed has two relations with the same words, such as `lineManager` and `line_manager`
(`generate_requests_iff`).
-/

namespace ResourceScaffold

namespace Text

/-! ## Kebab-case -/

/-- Words with a hyphen after each are those that are joined by hyphens, with one more. -/
theorem hyphenated_eq {words : List (List Char)} (nonempty : words ≠ []) :
    hyphenated words = List.intercalate ['-'] words ++ ['-'] := by
  induction words with
  | nil => exact absurd rfl nonempty
  | cons first rest ih =>
      rw [hyphenated_cons]
      cases rest with
      | nil => simp [hyphenated]
      | cons second rest =>
          rw [ih (List.cons_ne_nil _ _), List.intercalate_cons_cons]
          simp

/-- Words that are not empty and have no hyphens are determined by the text in which they are joined by hyphens. -/
theorem intercalate_hyphen_inj {words words' : List (List Char)} (plain : ∀ w ∈ words, w ≠ [] ∧ '-' ∉ w)
    (plain' : ∀ w ∈ words', w ≠ [] ∧ '-' ∉ w) (same : List.intercalate ['-'] words = List.intercalate ['-'] words') :
    words = words' := by
  -- no words at all are the only ones that give the empty text
  have empty {words : List (List Char)} (plain : ∀ w ∈ words, w ≠ [] ∧ '-' ∉ w)
      (none : List.intercalate ['-'] words = []) : words = [] := by
    cases words with
    | nil => rfl
    | cons first rest =>
        have nonempty := (plain first List.mem_cons_self).1
        cases rest with
        | nil => exact absurd (by simpa using none) nonempty
        | cons second rest =>
            rw [List.intercalate_cons_cons] at none
            simp at none
  by_cases first : words = []
  · rw [first] at same ⊢
    exact (empty plain' (by rw [← same]; rfl)).symm
  · have second : words' ≠ [] := by
      intro none
      rw [none] at same
      exact first (empty plain same)
    apply hyphenated_inj (fun w member => (plain w member).2) (fun w member => (plain' w member).2)
    rw [hyphenated_eq first, hyphenated_eq second, same]

/-- Texts are the same in kebab-case iff they have the same words. -/
theorem kebabCase_eq_iff {s t : String} : kebabCase s = kebabCase t ↔ words s = words t := by
  constructor
  · intro same
    have plain (s : String) : ∀ w ∈ wordsOf s.toList, w ≠ [] ∧ '-' ∉ w :=
      fun w member => ⟨ne_nil_of_mem_runsOf member, hyphen_not_mem_of_mem_wordsOf member⟩
    have joined : List.intercalate ['-'] (wordsOf s.toList) = List.intercalate ['-'] (wordsOf t.toList) :=
      String.ofList_injective same
    rw [words, words, intercalate_hyphen_inj (plain s) (plain t) joined]
  · intro same
    have lists : wordsOf s.toList = wordsOf t.toList :=
      List.map_injective_iff.2 (fun _ _ => String.ofList_injective) same
    rw [kebabCase, kebabCase, lists]

end Text

open Code

/-! ## Requests -/

/-- What decides about the route of a request: the method, and the path beneath that of the router. -/
abbrev Code.Request := Method × String

/-- The requests that a route answers. -/
def Code.Endpoint.request (route : Endpoint) : Code.Request :=
  (route.method, route.path)

/-- The route that a statement defines, if it defines one. -/
def Code.Statement.endpoint? : Statement → Option Endpoint
  | .endpoint route => some route
  | _ => none

/-- The requests that the routes of a module answer, in the order of the routes. -/
def Code.SourceModule.requests (m : SourceModule) : List Code.Request :=
  (m.body.filterMap Statement.endpoint?).map Endpoint.request

/-- The path of a relation beneath that of a record. -/
def Field.path (record : String) (f : Field) : String :=
  record ++ "/" ++ Text.kebabCase f.name.display

/-- The requests about a relation of the record at a path. -/
def Field.requests (record : String) (f : Field) : List Code.Request :=
  (.get, f.path record) :: if f.isToMany then [(.post, f.path record), (.delete, f.path record)] else []

/-- The path of the records that a field identifies. -/
def Field.recordPath (key : Field) : String :=
  "/\x7b" ++ key.name.display ++ "\x7d"

/-- The requests about all records of an entity. -/
def collectionRequests : List Code.Request :=
  [(.post, ""), (.get, "")]

/-- The requests about the record at a path. -/
def recordRequests (record : String) : List Code.Request :=
  [(.get, record), (.patch, record), (.delete, record)]

/-- The requests about records of an entity: those about all of them and, if a field identifies them, those about one and its
relations. -/
def Entity.requests (e : Entity) : List Code.Request :=
  match e.keyField? with
  | none => collectionRequests
  | some key =>
      collectionRequests ++ recordRequests key.recordPath ++ e.relationFields.flatMap (Field.requests key.recordPath)

/-- The records of the entity can be addressed, and two of its relations have different names of the same words. -/
structure Entity.HidesRoute (e : Entity) : Prop where
  keyed : ∃ key, e.keyField? = some key
  alike : ∃ f ∈ e.relationFields, ∃ g ∈ e.relationFields, f.name ≠ g.name ∧
    Text.words f.name.display = Text.words g.name.display

namespace Field

variable {record : String} {f g : Field}

/-- Two related routes share a path exactly where the names of their fields have the same words. -/
theorem path_eq_iff (record : String) : f.path record = g.path record ↔ Text.words f.name.display = Text.words g.name.display := by
  rw [← Text.kebabCase_eq_iff, path, path, String.append_right_inj]

/-- The path of a relation is longer than that of the record. -/
theorem length_lt_path (record : String) (f : Field) : record.length < (f.path record).length := by
  unfold path
  rw [String.length_append, String.length_append]
  have slash : "/".length = 1 := rfl
  omega

/-- All requests of a related route go to its one path. -/
theorem eq_path_of_mem_requests {request : Code.Request} (member : request ∈ f.requests record) :
    request.2 = f.path record := by
  rcases List.mem_cons.1 member with rfl | link
  · rfl
  · split at link
    · simp only [List.mem_cons, List.not_mem_nil, or_false] at link
      rcases link with rfl | rfl <;> rfl
    · cases link

/-- A related route answers to each method at most once. -/
theorem nodup_requests (record : String) (f : Field) : (f.requests record).Nodup := by
  unfold requests
  split <;> simp

/-- Relations of one record have a request in common iff the words of their names are the same. -/
theorem disjoint_requests_iff :
    (f.requests record).Disjoint (g.requests record) ↔ Text.words f.name.display ≠ Text.words g.name.display := by
  constructor
  · intro disjoint same
    -- the records of both are found under one path
    have inSecond : (Method.get, f.path record) ∈ g.requests record := by
      rw [(path_eq_iff record).2 same]
      exact List.mem_cons_self
    exact disjoint List.mem_cons_self inSecond
  · intro differ request inFirst inSecond
    apply differ
    rw [← path_eq_iff record, ← eq_path_of_mem_requests inFirst, ← eq_path_of_mem_requests inSecond]

/-- Relations with different names answer different requests iff the words of their names differ. -/
theorem nodup_flatMap_requests_iff {fields : List Field} (names : (fields.map Field.name).Nodup) :
    (fields.flatMap (Field.requests record)).Nodup ↔
      ∀ f ∈ fields, ∀ g ∈ fields, f.name ≠ g.name → Text.words f.name.display ≠ Text.words g.name.display := by
  rw [List.nodup_flatMap]
  constructor
  · rintro ⟨-, apart⟩ f inFields g inFields' differ
    have symmetric : Std.Symm (Function.onFun List.Disjoint (Field.requests record)) :=
      ⟨fun _ _ disjoint _ first second => disjoint second first⟩
    have distinct : f ≠ g := by
      rintro rfl
      exact differ rfl
    exact disjoint_requests_iff.1 (apart.forall inFields inFields' distinct)
  · intro differ
    refine ⟨fun f _ => nodup_requests record f, ?_⟩
    refine (List.pairwise_map.1 names).imp_of_mem fun {f g} inFields inFields' distinct => ?_
    exact disjoint_requests_iff.2 (differ f inFields g inFields' distinct)

end Field

/-! ## Entities -/

/-- The path of one record is longer than that of the collection. -/
theorem Field.recordPath_ne_empty (key : Field) : key.recordPath ≠ "" := by
  intro empty
  have length := congrArg String.length empty
  rw [recordPath, String.length_append, String.length_append] at length
  have brace : "/\x7b".length = 2 := rfl
  have none : "".length = 0 := rfl
  omega

/-- The fixed requests of a controller are distinct. -/
theorem nodup_fixedRequests {record : String} (h : record ≠ "") : (collectionRequests ++ recordRequests record).Nodup := by
  simp [collectionRequests, recordRequests, h.symm]

/-- Requests about all records or about one have no longer paths than the record. -/
theorem length_le_of_mem_fixedRequests {record : String} {request : Code.Request}
    (member : request ∈ collectionRequests ++ recordRequests record) : request.2.length ≤ record.length := by
  simp only [collectionRequests, recordRequests, List.mem_append, List.mem_cons, List.not_mem_nil, or_false] at member
  rcases member with (rfl | rfl) | rfl | rfl | rfl <;> simp

/-- The requests about an entity whose fields have different names are different iff it hides no route. -/
theorem Entity.nodup_requests_iff {e : Entity} (names : (e.fields.map Field.name).Nodup) :
    e.requests.Nodup ↔ ¬ e.HidesRoute := by
  cases keyed : e.keyField? with
  | none =>
      refine iff_of_true ?_ ?_
      · have collection : e.requests = collectionRequests := by rw [requests, keyed]
        rw [collection]
        decide
      · rintro ⟨⟨key, found⟩, -⟩
        rw [keyed] at found
        cases found
  | some key =>
      have related : (e.relationFields.map Field.name).Nodup := names.sublist (List.filter_sublist.map _)
      -- all that is asked about relations has a longer path than the record
      have apart : (collectionRequests ++ recordRequests key.recordPath).Disjoint
          (e.relationFields.flatMap (Field.requests key.recordPath)) := by
        intro request fixed inRelations
        obtain ⟨f, -, inField⟩ := List.mem_flatMap.1 inRelations
        have long := f.length_lt_path key.recordPath
        rw [← Field.eq_path_of_mem_requests inField] at long
        have short := length_le_of_mem_fixedRequests fixed
        omega
      have parts : e.requests = collectionRequests ++ recordRequests key.recordPath ++
          e.relationFields.flatMap (Field.requests key.recordPath) := by
        rw [requests, keyed]
      rw [parts, List.nodup_append', Field.nodup_flatMap_requests_iff related]
      constructor
      · rintro ⟨-, differ, -⟩ ⟨-, f, inFields, g, inFields', distinct, same⟩
        exact differ f inFields g inFields' distinct same
      · intro visible
        refine ⟨nodup_fixedRequests key.recordPath_ne_empty, ?_, apart⟩
        intro f inFields g inFields' distinct same
        exact visible ⟨⟨key, keyed⟩, f, inFields, g, inFields', distinct, same⟩

/-! ## Controllers -/

section

variable {schema : Schema} {naming : NamingStrategy} {classes : Table Descriptor} {byName : Table Entity} {e : Entity}
  {r : Resource} {rs : List Resource} {modules : List SourceModule} {c : Controller} {key : KeyParameter}

/-- The routes of a relation answer the requests about it. -/
theorem Controller.requests_of_relationEndpoints {relation : Relation} {endpoints : List Endpoint}
    (made : c.relationEndpoints key relation = .ok endpoints) :
    endpoints.map Endpoint.request = relation.field.requests key.path := by
  obtain ⟨name, text, rest⟩ := bind_eq_ok.1 made
  have named := Value.eq_text_of_asText text
  have path : key.path ++ "/" ++ Text.kebabCase name = relation.field.path key.path := by
    rw [Field.path, named, Value.display_text]
  cases rest
  rw [Field.requests, ← path, List.map_cons]
  split <;> rfl

/-- The routes of a controller answer the requests about all records, about a record and about its relations. -/
theorem Controller.requests_of_endpoints {endpoints : List Endpoint} (made : c.endpoints = .ok endpoints) :
    endpoints.map Endpoint.request =
      match c.key? with
      | none => collectionRequests
      | some key =>
          collectionRequests ++ recordRequests key.path ++
            (c.relations.map Relation.field).flatMap (Field.requests key.path) := by
  unfold Controller.endpoints at made
  cases keyed : c.key? with
  | none =>
      rw [keyed] at made
      cases made
      rfl
  | some key =>
      rw [keyed] at made
      obtain ⟨routes, steps, rest⟩ := bind_eq_ok.1 made
      have relations : routes.map (List.map Endpoint.request) = c.relations.map fun r => r.field.requests key.path :=
        (map_eq_map_of_forall₂ (mapM_eq_ok.1 steps) fun _ _ step => (requests_of_relationEndpoints step).symm).symm
      cases rest
      rw [List.map_append, List.map_flatten, relations, ← List.flatMap_def]
      simp only [List.flatMap_map]
      rfl

/-- A statement declares an endpoint only as the endpoint statement. -/
theorem Code.Statement.endpoint?_eq_some {s : Statement} {route : Endpoint} :
    s.endpoint? = some route ↔ s = .endpoint route := by
  cases s <;> simp [endpoint?]

/-- The requests of the module of a controller are those of its routes. -/
theorem Controller.requests_moduleWith (c : Controller) (endpoints : List Endpoint) :
    (c.moduleWith endpoints).requests = endpoints.map Endpoint.request := by
  have opening : c.opening.filterMap Statement.endpoint? = [] := by
    refine List.filterMap_eq_nil_iff.2 fun s inOpening => ?_
    cases found : s.endpoint? with
    | none => rfl
    | some route =>
        rw [Statement.endpoint?_eq_some.1 found] at inOpening
        exact absurd inOpening (c.endpoint_not_mem_opening route)
  have routes : (endpoints.flatMap fun e => [.blank, .blank, .endpoint e]).filterMap Statement.endpoint? = endpoints := by
    induction endpoints with
    | nil => rfl
    | cons route rest ih =>
        rw [List.flatMap_cons, List.filterMap_append, ih]
        rfl
  rw [SourceModule.requests, moduleWith, List.filterMap_append, opening, routes, List.nil_append]

/-- The relations of a controller are those of its entity. -/
theorem Schema.Generated.relation_fields (h : schema.Generated naming classes byName rs)
    (of : Resource.Of schema naming classes byName e r) : r.controller.relations.map Relation.field = e.relationFields := by
  obtain ⟨made, -⟩ := Controller.ofEntity_eq_ok of.controller
  have same := map_eq_map_of_forall₂ (f := id) (g := Relation.field) (mapM_eq_ok.1 made.related) fun f relation step => by
    obtain ⟨rfl, -⟩ := h.prepared.relationOf_eq_ok.1 step
    rfl
  rw [← same, List.map_id]

/-- The module of a controller answers the requests about its entity. -/
theorem Schema.Generated.requests_eq (h : schema.Generated naming classes byName rs)
    (of : Resource.Of schema naming classes byName e r) : r.controllerModule.requests = e.requests := by
  obtain ⟨endpoints, made, rendered⟩ := Controller.toModule_eq_ok.1 of.controllerModule
  rw [rendered, Controller.requests_moduleWith, Controller.requests_of_endpoints made, h.relation_fields of, Entity.requests]
  cases found : e.keyField? with
  | none =>
      have unkeyed : r.controller.key? = none := by
        by_contra some
        obtain ⟨key, keyed⟩ := Option.ne_none_iff_exists'.1 some
        obtain ⟨f, field, -⟩ := of.key?_iff.1 ⟨key, keyed, rfl⟩
        rw [found] at field
        cases field
      rw [unkeyed]
  | some f =>
      obtain ⟨s, text⟩ := exists_text_of_field of.read (List.mem_filter.1 (Entity.mem_of_keyField? found)).1
      obtain ⟨key, keyed, rfl⟩ := of.key?_iff.2 ⟨f, found, text⟩
      have path : key.path = f.recordPath := by
        rw [KeyParameter.path, Field.recordPath, text, Value.display_text]
      rw [keyed]
      simp only [path]

/-- A module with a request has a route. -/
theorem Code.SourceModule.exists_endpoint {m : SourceModule} {request : Code.Request} (answers : request ∈ m.requests) :
    ∃ route, .endpoint route ∈ m.body := by
  obtain ⟨route, listed, -⟩ := List.mem_map.1 answers
  obtain ⟨s, inBody, found⟩ := List.mem_filterMap.1 listed
  rw [Statement.endpoint?_eq_some.1 found] at inBody
  exact ⟨route, inBody⟩

/-- For each entity of a generation there is a module with the requests about it, at the path of its controller. The routes of
every module answer different requests iff no entity hides a route. -/
theorem generate_requests_iff (h : (schema.generate naming).outcome = .ok modules) :
    (∀ e ∈ schema.entities, ∃ m ∈ modules, m.path = controllerPath (e.identifier naming) ∧ m.requests = e.requests) ∧
      ((∀ m ∈ modules, m.requests.Nodup) ↔ ∀ e ∈ schema.entities, ¬ e.HidesRoute) := by
  obtain ⟨classes, byName, rs, generated, rfl⟩ := generate_eq_ok h
  have controllers : ∀ e ∈ schema.entities, ∃ m ∈ rs.flatMap (Resource.block naming) ++ rs.map Resource.readModule,
      m.path = controllerPath (e.identifier naming) ∧ m.requests = e.requests := by
    intro e inBatch
    obtain ⟨r, member, of⟩ := generated.resource inBatch
    exact ⟨r.controllerModule, generated.mem_modules.2 ⟨r, member, _, .controller⟩, (generated.router inBatch of).1,
      generated.requests_eq of⟩
  refine ⟨controllers, ?_, ?_⟩
  · intro distinct e inBatch
    obtain ⟨r, member, of⟩ := generated.resource inBatch
    rw [← Entity.nodup_requests_iff (fieldNames_nodup of.read), ← generated.requests_eq of]
    exact distinct _ (generated.mem_modules.2 ⟨r, member, _, .controller⟩)
  · intro visible m listed
    by_cases none : m.requests = []
    · rw [none]
      exact List.nodup_nil
    · -- only controllers have routes
      obtain ⟨request, answers⟩ := List.exists_mem_of_ne_nil _ none
      obtain ⟨route, inModule⟩ := m.exists_endpoint answers
      obtain ⟨r, member, part, hasPart⟩ := generated.mem_modules.1 listed
      obtain ⟨e, inBatch, of⟩ := generated.owner member
      rw [of.controller_of_endpoint hasPart inModule, generated.requests_eq of]
      exact (Entity.nodup_requests_iff (fieldNames_nodup of.read)).2 (visible e inBatch)

end

/-- Employees have two managers, whose names differ in their spelling only. -/
def Schema.employees : Schema :=
  { entities :=
      [{ name := .text "Employee"
         id := .text "e"
         fields :=
           [{ name := .text "id", dataType := .id, required := true, unique := true, searchable := true, properties := [] },
            { name := .text "lineManager", dataType := .lookup, required := false, unique := false, searchable := false
              properties := [(.text "relatedEntityId", .text "e")] },
            { name := .text "line_manager", dataType := .lookup, required := false, unique := false, searchable := false
              properties := [(.text "relatedEntityId", .text "e")] }] }]
    ids := [(.text "e", .text "Employee")] }

/-- The route to one manager of an employee hides the route to the other one. -/
theorem Schema.employees_hide : ∃ modules, (employees.generate ResourceNaming.derive).outcome = .ok modules ∧
    ((∀ m ∈ modules, m.requests.Nodup) ↔ ∀ e ∈ employees.entities, ¬ e.HidesRoute) ∧
    ∃ m ∈ modules, ¬ m.requests.Nodup := by
  have returns : (employees.generate ResourceNaming.derive).outcome.isOk = true := rfl
  obtain ⟨modules, made⟩ := isOk_iff.1 returns
  obtain ⟨-, condition⟩ := generate_requests_iff made
  refine ⟨modules, made, condition, ?_⟩
  by_contra all
  push Not at all
  refine condition.1 all _ List.mem_cons_self ⟨⟨_, rfl⟩, ?_⟩
  refine ⟨employees.entities[0].fields[1], List.mem_filter.2 ⟨List.getElem_mem _, rfl⟩, employees.entities[0].fields[2],
    List.mem_filter.2 ⟨List.getElem_mem _, rfl⟩, ?_, ?_⟩
  · simp [employees]
  · decide +kernel

end ResourceScaffold
