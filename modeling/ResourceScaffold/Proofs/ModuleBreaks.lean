import ResourceScaffold.Proofs.FileNames
import ResourceScaffold.Proofs.LineBreaks
import ResourceScaffold.Proofs.RouteLines

/-!
# Line breaks of generated modules

No generated module holds a carriage return, so its text is the same when the three newline conventions are read as one
(`universalNewlines_content`): the names in its statements are identifiers or made of accepted names
(`Schema.Generated.noReturn_names`), the literals in them escape control characters, and everything else is fixed.
-/

namespace ResourceScaffold

open Code

/-! ## Data classes, services and wiring modules -/

/-- The names that a class mentions hold no carriage return. -/
structure Descriptor.NoReturns (d : Descriptor) : Prop where
  name : NoReturn d.name.display
  properties : ∀ p ∈ d.properties, NoReturn p.name.display ∧ NoReturn p.type.display

/-- An import of a class has no carriage return if the names have none. -/
theorem noReturns_ofClass {owner className : String} (ho : NoReturn owner) (hc : NoReturn className) :
    (Import.ofClass owner className).NoReturns := by
  have path : NoReturn (classPath owner className) := by
    simp only [classPath, noReturn_append]
    exact ⟨⟨⟨ho, noReturn_of_chars rfl (by decide)⟩, hc⟩, noReturn_of_chars rfl (by decide)⟩
  exact ⟨path.importPath, List.forall_mem_singleton.2 hc⟩

/-- Neither has the module of an enumeration: its values are escaped. -/
theorem EnumDescriptor.noReturns {e : Entity} {f : Field} {d : EnumDescriptor} (made : EnumDescriptor.ofField e f = .ok d)
    (name : NoReturn d.name.display) (entityName : String) : ∀ s ∈ (d.toModule entityName).body, s.NoReturns := by
  have members : ∀ m ∈ d.members, NoReturn m.name := by
    intro m listed
    obtain ⟨label, named⟩ := exists_label made m listed
    rw [named]
    exact noReturn_of_isConstantChar (isConstantChar_of_mem_constantName label)
  have values (m : EnumMember) : NoReturn (Json.string m.value) := (Json.isVisible_string _).noReturn
  simp only [toModule, List.forall_mem_cons, List.forall_mem_map, Statement.NoReturns, Import.NoReturns, Origin.dotted,
    ClassDefinition.NoReturns, Member.NoReturns, name, values, List.not_mem_nil, false_imp_iff, implies_true, and_true,
    true_and]
  exact ⟨⟨noReturn_of_chars rfl (by decide), noReturn_of_chars rfl (by decide)⟩,
    ⟨noReturn_of_chars rfl (by decide), noReturn_of_chars rfl (by decide)⟩, members⟩

/-- Neither has the module of a service. -/
theorem noReturns_service {entityName entityType : String} (h : NoReturn entityType) :
    ∀ s ∈ (serviceModule entityName entityType).body, s.NoReturns := by
  simp only [serviceModule, serviceClass, serviceMethods, List.flatMap_cons, List.flatMap_nil, List.forall_mem_append,
    List.forall_mem_cons, Statement.NoReturns, Import.NoReturns, Origin.dotted, ClassDefinition.NoReturns,
    Member.NoReturns, noReturn_append, h, List.not_mem_nil, false_imp_iff, implies_true, and_true, true_and]
  and_intros <;> exact noReturn_of_chars rfl (by decide)

/-- Neither has the module that wires a resource. -/
theorem noReturns_wiring {path entityType service controller : String} (h : NoReturn entityType)
    (hs : NoReturn service) (hc : NoReturn controller) :
    ∀ s ∈ (wiringModule path entityType service controller).body, s.NoReturns := by
  simp only [wiringModule, wiringClass, serviceClass, List.forall_mem_cons, Statement.NoReturns, Import.NoReturns,
    Origin.dotted, hs.importPath, hc.importPath, ClassDefinition.NoReturns, Member.NoReturns, noReturn_append, h,
    List.not_mem_nil, false_imp_iff, implies_true, and_true, true_and]
  and_intros <;> exact noReturn_of_chars rfl (by decide)

/-- Neither has the class of a filter. -/
theorem Filter.noReturns_definition (f : Filter) : f.definition.NoReturns := by
  have operators : ∀ o ∈ f.operators, IsVisible o.name ∧ ∀ request ∈ o.requestName, IsVisible request := by
    cases f <;> decide
  have names : IsVisible f.name ∧ IsVisible f.valueType.typeName := by cases f <;> decide
  refine ⟨names.1.noReturn, List.forall_mem_singleton.2 (noReturn_of_chars rfl (by decide)), ?_⟩
  simp only [definition, List.forall_mem_append, List.forall_mem_cons, List.forall_mem_map, Member.NoReturns,
    names.2.noReturn, List.not_mem_nil, false_imp_iff, implies_true, true_and]
  exact fun o listed => ⟨(operators o listed).1.noReturn, fun request given => ((operators o listed).2 request given).noReturn⟩

namespace Descriptor.NoReturns

variable {d : Descriptor} {imports : List ClassImport}

/-- Neither has the class of a descriptor. -/
theorem definition (h : d.NoReturns) : d.definition.NoReturns := by
  refine ⟨h.name, List.forall_mem_singleton.2 (noReturn_of_chars rfl (by decide)), ?_⟩
  simp only [Descriptor.definition, List.forall_mem_append, List.forall_mem_cons, Member.NoReturns, List.not_mem_nil,
    false_imp_iff, implies_true, true_and]
  split
  · exact List.forall_mem_singleton.2 trivial
  · simp only [List.forall_mem_map, Property.member]
    exact fun p listed => ⟨(h.properties p listed).1, (h.properties p listed).2, fun request given => by cases given⟩

/-- Neither have the imports from libraries. -/
theorem noReturns_libraryImports (deferring : Bool) : ∀ s ∈ libraryImports deferring, s.NoReturns := by
  simp only [libraryImports, List.forall_mem_cons, List.forall_mem_append, Statement.NoReturns, Import.NoReturns,
    Origin.dotted, List.not_mem_nil, false_imp_iff, implies_true, and_true, true_and]
  cases deferring <;>
  · simp only [if_true, Bool.false_eq_true, if_false, List.forall_mem_cons, List.not_mem_nil, false_imp_iff, implies_true,
      and_true, true_and]
    and_intros <;> exact noReturn_of_chars rfl (by decide)

/-- The module of a class holds no carriage return if the class and its imports hold none. -/
theorem moduleWith (h : d.NoReturns) (sources : ∀ i ∈ imports, i.source.NoReturns) (entityName : String)
    (filters : List Filter) : ∀ s ∈ (d.moduleWith entityName imports filters).body, s.NoReturns := by
  have direct : ∀ i ∈ directImports imports, i.NoReturns := fun i listed => sources _ (mem_directImports.1 listed)
  have deferred : ∀ i ∈ deferredImports imports, i.NoReturns := fun i listed => sources _ (mem_deferredImports.1 listed)
  have perhaps {none : Prop} [Decidable none] {body : List Statement} (each : ∀ s ∈ body, s.NoReturns) :
      ∀ s ∈ if none then [] else body, s.NoReturns := by
    split
    · exact fun s absent => absurd absent List.not_mem_nil
    · exact each
  have blank : Statement.blank.NoReturns := trivial
  rw [Descriptor.body_moduleWith]
  simp only [headStatements, typeImports, classStatements, lateImports, List.forall_mem_append]
  refine ⟨⟨⟨⟨⟨noReturns_libraryImports _, perhaps ?_⟩, perhaps ?_⟩, perhaps ?_⟩, ⟨?_, ?_⟩, ?_⟩, perhaps ?_⟩
  · exact List.forall_mem_cons.2 ⟨blank, List.forall_mem_map.2 direct⟩
  · exact List.forall_mem_singleton.2 blank
  · exact List.forall_mem_singleton.2 deferred
  · exact List.forall_mem_cons.2 ⟨blank, List.forall_mem_singleton.2 blank⟩
  · refine List.forall_mem_flatMap.2 fun f _ => ?_
    exact List.forall_mem_cons.2 ⟨f.noReturns_definition, List.forall_mem_cons.2 ⟨blank, List.forall_mem_singleton.2 blank⟩⟩
  · exact List.forall_mem_singleton.2 h.definition
  · exact List.forall_mem_cons.2 ⟨blank, List.forall_mem_cons.2 ⟨blank, List.forall_mem_map.2 deferred⟩⟩

end Descriptor.NoReturns

/-! ## Controllers -/

/-- The names that a controller mentions hold no carriage return. -/
structure Controller.NoReturns (c : Controller) : Prop where
  entityName : NoReturn c.entityName
  entityType : NoReturn c.entityType
  resource : NoReturn c.resource
  selectName : NoReturn c.selectName
  read : NoReturn c.read.name.display
  inputs : ∀ d ∈ c.inputs.toList, NoReturn d.name.display
  key : ∀ key, c.key? = some key → NoReturn key.name ∧ NoReturn key.type
  relations : ∀ r ∈ c.relations, NoReturn r.target.name.display ∧
    ∀ name, r.field.name = .text name → NoReturn name
  service : NoReturn c.service
  imports : ∀ i ∈ c.classImports, i.NoReturns

namespace Controller.NoReturns

variable {c : Controller} {key : KeyParameter}

/-- The service that is passed to a route has no carriage return. -/
theorem serviceParameter (h : c.NoReturns) : c.serviceParameter.NoReturns := by
  simp only [Controller.serviceParameter, serviceClass, Parameter.NoReturns, noReturn_append, h.entityType,
    Option.mem_some_iff, forall_eq', true_and]
  and_intros <;> exact noReturn_of_chars rfl (by decide)

/-- Neither has the body of a route. -/
theorem dataParameter {d : Descriptor} (h : NoReturn d.name.display) : (dataParameter d).NoReturns :=
  ⟨noReturn_of_chars (s := "data") rfl (by decide), h, fun value given => by cases given⟩

/-- Neither has the parameter that addresses a record. -/
theorem keyParameter (h : c.NoReturns) (hk : c.key? = some key) : key.parameter.NoReturns :=
  ⟨(h.key key hk).1, (h.key key hk).2, fun value given => by cases given⟩

/-- Neither has the class that routes answer with. -/
theorem readModel (h : c.NoReturns) : ∀ type ∈ some c.readModel, NoReturn type.name := by
  rintro type ⟨⟩
  exact h.read

/-! ### Routes of the collection -/

/-- Neither has the route that creates. -/
theorem createEndpoint (h : c.NoReturns) : c.createEndpoint.NoReturns := by
  have input := h.inputs c.inputs.createInput (by simp [InputDescriptors.toList])
  refine ⟨noReturn_of_chars (s := "") rfl (by decide), h.readModel, ?_, ?_, ?_⟩
  · exact noReturn_append.2 ⟨noReturn_of_chars rfl (by decide), h.entityName⟩
  · exact List.forall_mem_cons.2 ⟨dataParameter input, List.forall_mem_singleton.2 h.serviceParameter⟩
  · simp only [Controller.createEndpoint, List.forall_mem_singleton, noReturn_append, h.selectName, and_true]
    and_intros <;> exact noReturn_of_chars rfl (by decide)

/-- Neither has the one that lists. -/
theorem listEndpoint (h : c.NoReturns) : c.listEndpoint.NoReturns := by
  have filter := h.inputs c.inputs.whereInput (by simp [InputDescriptors.toList])
  have fixed {name type value : String} {isList optional : Bool} (hn : NoReturn name) (ht : NoReturn type)
      (hv : NoReturn value) : Parameter.NoReturns { name, type := { name := type, isList, optional }, default := some value } :=
    ⟨hn, ht, fun _ given => Option.some.inj given ▸ hv⟩
  refine ⟨noReturn_of_chars (s := "") rfl (by decide), ?_, ?_, ?_, ?_⟩
  · rintro type ⟨⟩
    exact h.read
  · exact noReturn_append.2 ⟨noReturn_of_chars rfl (by decide), h.entityName⟩
  · simp only [Controller.listEndpoint, List.forall_mem_cons, List.not_mem_nil, false_imp_iff, implies_true, and_true]
    refine ⟨fixed ?_ ?_ ?_, fixed ?_ ?_ ?_, fixed ?_ ?_ ?_, h.serviceParameter⟩ <;>
      exact noReturn_of_chars rfl (by decide)
  · simp only [Controller.listEndpoint, List.forall_mem_cons, noReturn_append, filter, h.selectName, List.not_mem_nil,
      false_imp_iff, implies_true, and_true]
    and_intros <;> exact noReturn_of_chars rfl (by decide)

/-! ### Routes of single records -/

/-- Neither has the path of a record. -/
theorem path (h : c.NoReturns) (hk : c.key? = some key) : NoReturn key.path := by
  simp only [KeyParameter.path, noReturn_append, (h.key key hk).1, and_true]
  and_intros <;> exact noReturn_of_chars rfl (by decide)

/-- Neither has the condition on a record. -/
theorem condition (h : c.NoReturns) (hk : c.key? = some key) : NoReturn key.condition := by
  simp only [KeyParameter.condition, noReturn_append, (h.key key hk).1, and_true]
  and_intros <;> exact noReturn_of_chars rfl (by decide)

/-- Neither has the answer when there is no record. -/
theorem unlessFound (h : c.NoReturns) (hk : c.key? = some key) : ∀ t ∈ c.unlessFound key, NoReturn t := by
  simp only [Controller.unlessFound, List.forall_mem_cons, noReturn_append, h.entityType, (h.key key hk).1,
    List.not_mem_nil, false_imp_iff, implies_true, and_true]
  and_intros <;> exact noReturn_of_chars rfl (by decide)

/-- The parameters of the routes that need no more than the key. -/
theorem recordParameters (h : c.NoReturns) (hk : c.key? = some key) :
    ∀ p ∈ [key.parameter, c.serviceParameter], p.NoReturns :=
  List.forall_mem_cons.2 ⟨h.keyParameter hk, List.forall_mem_singleton.2 h.serviceParameter⟩

/-- Neither has the route that reads. -/
theorem readEndpoint (h : c.NoReturns) (hk : c.key? = some key) : (c.readEndpoint key).NoReturns := by
  refine ⟨h.path hk, h.readModel, ?_, h.recordParameters hk, ?_⟩
  · exact noReturn_append.2 ⟨noReturn_of_chars rfl (by decide), h.entityName⟩
  · simp only [Controller.readEndpoint, List.forall_mem_append, List.forall_mem_singleton, noReturn_append,
      h.condition hk, h.selectName, and_true]
    exact ⟨⟨⟨⟨noReturn_of_chars rfl (by decide), noReturn_of_chars rfl (by decide)⟩, noReturn_of_chars rfl (by decide)⟩,
      h.unlessFound hk⟩, noReturn_of_chars rfl (by decide)⟩

/-- Neither has the one that updates. -/
theorem updateEndpoint (h : c.NoReturns) (hk : c.key? = some key) : (c.updateEndpoint key).NoReturns := by
  have input := h.inputs c.inputs.updateInput (by simp [InputDescriptors.toList])
  refine ⟨h.path hk, h.readModel, ?_, ?_, ?_⟩
  · exact noReturn_append.2 ⟨noReturn_of_chars rfl (by decide), h.entityName⟩
  · exact List.forall_mem_cons.2
      ⟨h.keyParameter hk, List.forall_mem_cons.2 ⟨dataParameter input, List.forall_mem_singleton.2 h.serviceParameter⟩⟩
  · refine List.forall_mem_append.2 ⟨List.forall_mem_append.2 ⟨?_, h.unlessFound hk⟩, ?_⟩
    · simp only [List.forall_mem_cons, noReturn_append, h.condition hk, h.selectName, List.not_mem_nil, false_imp_iff,
        implies_true, and_true]
      and_intros <;> exact noReturn_of_chars rfl (by decide)
    · exact List.forall_mem_singleton.2 (noReturn_of_chars rfl (by decide))

/-- Neither has the one that deletes. -/
theorem deleteEndpoint (h : c.NoReturns) (hk : c.key? = some key) : (c.deleteEndpoint key).NoReturns := by
  refine ⟨h.path hk, by rintro type ⟨⟩, ?_, h.recordParameters hk, ?_⟩
  · exact noReturn_append.2 ⟨noReturn_of_chars rfl (by decide), h.entityName⟩
  · refine List.forall_mem_append.2 ⟨List.forall_mem_append.2 ⟨?_, h.unlessFound hk⟩, ?_⟩
    · simp only [List.forall_mem_singleton, noReturn_append, h.condition hk, and_true]
      and_intros <;> exact noReturn_of_chars rfl (by decide)
    · exact List.forall_mem_singleton.2 (noReturn_of_chars rfl (by decide))

/-! ### Routes of relations -/

variable {r : Relation} {name : String}

/-- Words in lower case joined by underscores have no carriage return. -/
theorem snakeCase (name : String) : NoReturn (Text.snakeCase name) :=
  Text.not_mem_joined (by decide) name.toList (by decide)

/-- Neither has the path of the relations of a record. -/
theorem relationPath (h : c.NoReturns) (hk : c.key? = some key) (name : String) :
    NoReturn (key.path ++ "/" ++ Text.kebabCase name) := by
  simp only [noReturn_append]
  exact ⟨⟨h.path hk, noReturn_of_chars rfl (by decide)⟩, Text.not_mem_joined (by decide) name.toList (by decide)⟩

/-- Neither has the route that reads the targets of a relation. -/
theorem relatedEndpoint (h : c.NoReturns) (hk : c.key? = some key) (listed : r ∈ c.relations)
    (named : r.field.name = .text name) : (c.relatedEndpoint key r name).NoReturns := by
  obtain ⟨target, field⟩ := h.relations r listed
  refine ⟨h.relationPath hk name, ?_, ?_, h.recordParameters hk, ?_⟩
  · rintro type ⟨⟩
    exact target
  · simp only [Controller.relatedEndpoint, noReturn_append, h.entityName, snakeCase, and_true]
    and_intros <;> exact noReturn_of_chars rfl (by decide)
  · simp only [Controller.relatedEndpoint, List.forall_mem_singleton, noReturn_append, h.condition hk, field name named,
      r.selection.isVisible_literal.noReturn, and_true]
    and_intros <;> exact noReturn_of_chars rfl (by decide)

/-- Neither has one that connects or disconnects them. -/
theorem linkEndpoint (h : c.NoReturns) (hk : c.key? = some key) (listed : r ∈ c.relations)
    (named : r.field.name = .text name) (method : Method) {action : String} (ha : NoReturn action) :
    (c.linkEndpoint key r name method action).NoReturns := by
  obtain ⟨target, field⟩ := h.relations r listed
  have body : Parameter.NoReturns { name := "body", type := { name := r.uniqueClass, isList := true } } :=
    ⟨noReturn_of_chars (s := "body") rfl (by decide), noReturn_append.2 ⟨target, noReturn_of_chars rfl (by decide)⟩,
      fun value given => by cases given⟩
  refine ⟨h.relationPath hk name, by rintro type ⟨⟩, ?_, ?_, ?_⟩
  · simp only [Controller.linkEndpoint, noReturn_append, ha, h.entityName, snakeCase, and_true, true_and]
    and_intros <;> exact noReturn_of_chars rfl (by decide)
  · exact List.forall_mem_cons.2
      ⟨h.keyParameter hk, List.forall_mem_cons.2 ⟨body, List.forall_mem_singleton.2 h.serviceParameter⟩⟩
  · simp only [Controller.linkEndpoint, List.forall_mem_cons, noReturn_append, ha, h.condition hk, field name named,
      List.not_mem_nil, false_imp_iff, implies_true, and_true]
    and_intros <;> exact noReturn_of_chars rfl (by decide)

/-- No route of a controller holds a carriage return. -/
theorem endpoints (h : c.NoReturns) {endpoints : List Endpoint} (made : c.endpoints = .ok endpoints) :
    ∀ e ∈ endpoints, e.NoReturns := by
  have collection : ∀ e ∈ [c.createEndpoint, c.listEndpoint], e.NoReturns :=
    List.forall_mem_cons.2 ⟨h.createEndpoint, List.forall_mem_singleton.2 h.listEndpoint⟩
  unfold Controller.endpoints at made
  cases hk : c.key? with
  | none =>
      simp only [hk] at made
      cases made
      exact collection
  | some key =>
      simp only [hk] at made
      obtain ⟨relations, steps, rest⟩ := bind_eq_ok.1 made
      cases rest
      refine List.forall_mem_append.2 ⟨List.forall_mem_append.2 ⟨collection, ?_⟩, fun e member => ?_⟩
      · simp only [List.forall_mem_cons, List.not_mem_nil, false_imp_iff, implies_true, and_true]
        exact ⟨h.readEndpoint hk, h.updateEndpoint hk, h.deleteEndpoint hk⟩
      · obtain ⟨routes, inRoutes, inList⟩ := List.mem_flatten.1 member
        obtain ⟨r, listed, step⟩ := exists_mem_of_mapM_eq_ok steps inRoutes
        obtain ⟨name, text, rest⟩ := bind_eq_ok.1 step
        have named : r.field.name = .text name := by
          cases value : r.field.name <;> rw [value] at text <;> cases text
          rfl
        cases rest
        rcases List.mem_cons.1 inList with rfl | links
        · exact h.relatedEndpoint hk listed named
        · split at links
          · simp only [List.mem_cons, List.not_mem_nil, or_false] at links
            rcases links with rfl | rfl
            · exact h.linkEndpoint hk listed named .post (noReturn_of_chars rfl (by decide))
            · exact h.linkEndpoint hk listed named .delete (noReturn_of_chars rfl (by decide))
          · cases links

/-! ### The module -/

/-- Neither have the statements before the routes. -/
theorem opening (h : c.NoReturns) : ∀ s ∈ c.opening, s.NoReturns := by
  have date : ∀ s ∈ if c.keyIsDate then
      [Statement.importNames { origin := .library "datetime", names := ["datetime"] }] else [], s.NoReturns := by
    split
    · exact List.forall_mem_singleton.2
        ⟨noReturn_of_chars (s := "datetime") rfl (by decide), List.forall_mem_singleton.2 (noReturn_of_chars rfl (by decide))⟩
    · exact fun s none => absurd none List.not_mem_nil
  refine List.forall_mem_append.2 ⟨List.forall_mem_append.2 ⟨List.forall_mem_append.2 ⟨List.forall_mem_append.2
    ⟨List.forall_mem_singleton.2 (noReturn_of_chars (s := "json") rfl (by decide)), date⟩, ?_⟩,
    List.forall_mem_map.2 h.imports⟩, ?_⟩
  · simp only [List.forall_mem_cons, Statement.NoReturns, Import.NoReturns, Origin.dotted, serviceClass, noReturn_append,
      h.service.importPath, h.entityType, List.not_mem_nil, false_imp_iff, implies_true, and_true, true_and]
    and_intros <;> exact noReturn_of_chars rfl (by decide)
  · simp only [List.forall_mem_cons, Statement.NoReturns, serviceClass, noReturn_append, h.entityType, h.resource,
      h.selectName, c.select.noReturn_layout, List.not_mem_nil, false_imp_iff, implies_true, and_true, true_and]
    and_intros <;> exact noReturn_of_chars rfl (by decide)

/-- Neither has the module of a controller. -/
theorem moduleWith (h : c.NoReturns) {endpoints : List Endpoint} (made : c.endpoints = .ok endpoints) :
    ∀ s ∈ (c.moduleWith endpoints).body, s.NoReturns := by
  refine List.forall_mem_append.2 ⟨h.opening, List.forall_mem_flatMap.2 fun e listed => ?_⟩
  simp only [List.forall_mem_cons, List.not_mem_nil, false_imp_iff, implies_true, and_true]
  exact ⟨trivial, trivial, h.endpoints made e listed⟩

end Controller.NoReturns

/-! ## Tests -/

/-- A test has no carriage return if its name and its lines have none. -/
theorem noReturns_testFunction {name : String} {body : List String} (hname : NoReturn name) (h : ∀ t ∈ body, NoReturn t) :
    ∀ s ∈ testFunction name body, s.NoReturns := by
  simp only [testFunction, List.forall_mem_cons, List.forall_mem_map, Statement.NoReturns, noReturn_append, hname,
    List.not_mem_nil, false_imp_iff, implies_true, and_true, true_and]
  exact ⟨⟨noReturn_of_chars rfl (by decide), noReturn_of_chars rfl (by decide)⟩,
    fun t listed => ⟨noReturn_of_chars rfl (by decide), h t listed⟩⟩

section

variable {resource entityName : String} (hr : NoReturn resource) (hn : NoReturn entityName)
include hr hn

/-- Neither have the tests of single records. -/
theorem noReturns_recordTests {key : TestKey} (hk : NoReturn key.segment) :
    ∀ s ∈ recordTests resource entityName key, s.NoReturns := by
  have field := key.name.isVisible_literal.noReturn
  refine List.forall_mem_append.2 ⟨List.forall_mem_append.2 ⟨?_, ?_⟩, ?_⟩ <;>
  · refine noReturns_testFunction ?_ ?_
    all_goals
      simp only [List.forall_mem_cons, noReturn_append, hr, hn, hk, field, List.not_mem_nil, false_imp_iff, implies_true,
        and_true]
      and_intros
      all_goals exact noReturn_of_chars rfl (by decide)

/-- The tests of a resource hold no carriage return if its names and the address of its record hold none. -/
theorem TestPlan.noReturns {plan : TestPlan} {entityType service wiring : String} (h : NoReturn entityType)
    (hs : NoReturn service) (hw : NoReturn wiring) (hk : ∀ key, plan.key = some key → NoReturn key.segment) :
    ∀ s ∈ (plan.moduleWith resource entityName entityType service wiring).body, s.NoReturns := by
  refine List.forall_mem_append.2 ⟨List.forall_mem_append.2 ⟨List.forall_mem_append.2 ⟨?_, ?_⟩, ?_⟩, ?_⟩
  · simp only [List.forall_mem_cons, Statement.NoReturns, Import.NoReturns, Origin.dotted, serviceClass, wiringClass,
      noReturn_append, hs.importPath, hw.importPath, h, Value.noReturn_layout, List.not_mem_nil, false_imp_iff,
      implies_true, and_true, true_and]
    and_intros <;> exact noReturn_of_chars rfl (by decide)
  · refine noReturns_testFunction (noReturn_append.2 ⟨noReturn_of_chars rfl (by decide), hn⟩) ?_
    simp only [List.forall_mem_cons, noReturn_append, hr, List.not_mem_nil, false_imp_iff, implies_true, and_true]
    and_intros <;> exact noReturn_of_chars rfl (by decide)
  · refine noReturns_testFunction (noReturn_append.2 ⟨noReturn_of_chars rfl (by decide), hn⟩) ?_
    simp only [List.forall_mem_cons, noReturn_append, hr, List.not_mem_nil, false_imp_iff, implies_true, and_true]
    and_intros <;> exact noReturn_of_chars rfl (by decide)
  · split
    · next key keyed => exact noReturns_recordTests hr hn (hk key keyed)
    · exact fun s none => absurd none List.not_mem_nil

end

/-! ## Generations -/

section

variable {schema : Schema} {classes : Table Descriptor} {byName : Table Entity} {rs : List Resource} {e : Entity}
  {r : Resource}

/-- A class of a resource is among its class names. -/
theorem Resource.HasClass.mem_classNames {part : Part} {name : String} (h : r.HasClass part name) : name ∈ r.classNames := by
  cases h with
  | dataClass listed => exact List.mem_append_left _ (List.mem_map_of_mem listed)
  | enumeration listed => exact List.mem_append_right _ (List.mem_map_of_mem listed)

variable (h : schema.Generated ResourceNaming.derive classes byName rs)
include h

/-- The names of a resource and of its classes hold no carriage return. -/
theorem Schema.Generated.noReturn_names (member : r ∈ rs) :
    NoReturn r.name ∧ NoReturn (r.identifier ResourceNaming.derive) ∧ ∀ name ∈ r.classNames, NoReturn name := by
  obtain ⟨e, listed, of⟩ := h.owner member
  have named := h.prepared.named listed
  have accepted : checkEntityName (.text r.name) = .ok () := of.name ▸ named
  refine ⟨Text.IsMark.not_mem_entityName (by decide) (by decide) accepted, fun member => ?_, fun name inClasses => ?_⟩
  · exact absurd (isAlphanum_of_mem_identifier accepted member) (by decide)
  · exact of.not_mem_classNames (by decide) (by decide) named inClasses

/-- The paths of the modules of a resource hold no carriage return. -/
theorem Schema.Generated.noReturn_path (of : Resource.Of schema ResourceNaming.derive classes byName e r) (member : r ∈ rs)
    {part : Part} {m : SourceModule} (hasPart : r.HasPart ResourceNaming.derive part m) : NoReturn m.path := by
  obtain ⟨-, identifier, classNames⟩ := h.noReturn_names member
  have listed : m ∈ r.block ResourceNaming.derive ++ [r.readModule] := by
    rw [← of.parts_snd]
    exact List.mem_map.2 ⟨(part, m), of.mem_parts.2 hasPart, rfl⟩
  rcases List.mem_append.1 (of.paths_perm.subset (List.mem_map_of_mem listed)) with isClass | other
  · obtain ⟨name, inClasses, path⟩ := List.mem_map.1 isClass
    simp only [← path, classPath, noReturn_append]
    exact ⟨⟨⟨identifier, noReturn_of_chars rfl (by decide)⟩, classNames name inClasses⟩,
      noReturn_of_chars rfl (by decide)⟩
  · obtain ⟨file, inFiles, path⟩ := List.mem_map.1 other
    have name : NoReturn file := by
      have each : ∀ file ∈ resourceFiles (r.identifier ResourceNaming.derive), NoReturn file := by
        simp only [resourceFiles, List.forall_mem_cons, noReturn_append, identifier, List.not_mem_nil, false_imp_iff,
          implies_true, and_true, true_and]
        and_intros <;> exact noReturn_of_chars rfl (by decide)
      exact each file inFiles
    simp only [← path, noReturn_append]
    exact ⟨⟨identifier, noReturn_of_chars rfl (by decide)⟩, name⟩

/-- The import of a class of a resource has no carriage return. -/
theorem Schema.Generated.noReturns_hasClass {part : Part} {name : String} (member : r ∈ rs) (hasClass : r.HasClass part name) :
    (Import.ofClass (Text.camelCase r.name) name).NoReturns := by
  obtain ⟨-, identifier, classNames⟩ := h.noReturn_names member
  exact noReturns_ofClass identifier (classNames name hasClass.mem_classNames)

/-- The classes of an entity of the batch hold no carriage return. -/
theorem Schema.Generated.class_noReturns (of : Resource.Of schema ResourceNaming.derive classes byName e r) (member : r ∈ rs)
    {d : Descriptor} (isClass : d.IsClassOf schema.ids e) : d.NoReturns where
  name := by
    have suffix : IsVisible d.kind.suffix := by cases d.kind <;> decide
    rw [isClass.name_eq of.name, Value.display_text]
    exact noReturn_append.2 ⟨(h.noReturn_names member).1, suffix.noReturn⟩
  properties := by
    intro p hp
    obtain ⟨f, inFields, ofField⟩ := isClass.exists_field hp
    obtain ⟨s, text, usable, -⟩ := checkFieldName_eq_ok (checkFieldName_of_entityDescriptor of.read inFields)
    constructor
    · rw [ofField.name, text]
      exact Text.IsMark.not_mem_identifier (by decide) usable
    · have fields : ∀ f ∈ e.fields, checkFieldName e f = .ok () := fun f => checkFieldName_of_entityDescriptor of.read
      refine isClass.not_mem_type (by decide) (by decide) fields of.name (h.noReturn_names member).1
        (fun f field target found => ?_) hp
      obtain ⟨r', listed, related⟩ := h.target of field
      rw [related] at found
      cases found
      exact ⟨r'.name, rfl, (h.noReturn_names listed).1⟩

/-- The controllers of a generation hold no carriage return. -/
theorem Schema.Generated.controller_noReturns (member : r ∈ rs) (listed : e ∈ schema.entities)
    (of : Resource.Of schema ResourceNaming.derive classes byName e r) : r.controller.NoReturns := by
  obtain ⟨read, entityType, inputs, service, entityName, resource⟩ := h.controller_eq listed of
  obtain ⟨name, identifier, -⟩ := h.noReturn_names member
  have accepted : checkEntityName (.text r.name) = .ok () := of.name ▸ h.prepared.named listed
  have noReturns {d : Descriptor} (isClass : d ∈ r.read :: r.inputs.toList) : d.NoReturns :=
    h.class_noReturns of member (of.isClassOf isClass)
  refine
    { entityName := entityName ▸ identifier, entityType := entityType ▸ name
      resource := resource ▸ fun member => absurd (isSegmentChar_of_mem_resource accepted _ member) (by decide)
      selectName := noReturn_of_isConstantChar (Controller.isConstantChar_selectName ?_)
      read := read ▸ (noReturns List.mem_cons_self).name
      inputs := fun d input => (noReturns (List.mem_cons_of_mem _ (inputs ▸ input))).name
      key := fun key hk => ?_, relations := fun relation inRelations => ?_, service := service ▸ ?_
      imports := fun i imported => ?_ }
  · rw [entityType]
    exact isNameChar_of_isEntityWord (isEntityWord_of_checkEntityName accepted)
  · obtain ⟨p, keyed, made⟩ := Option.bind_eq_some_iff.1 hk
    rw [Controller.keyProperty?, inputs] at keyed
    have unique : r.inputs.whereUniqueInput.NoReturns := noReturns (by simp [InputDescriptors.toList])
    obtain ⟨name, type⟩ := unique.properties p (Descriptor.mem_of_keyProperty? keyed)
    unfold KeyParameter.ofProperty? at made
    split at made
    · cases made
    · cases made
      exact ⟨name, type⟩
  · obtain ⟨field, r', listed', -, target, -⟩ := h.relation of inRelations
    obtain ⟨s, text, usable, -⟩ :=
      checkFieldName_eq_ok (checkFieldName_of_entityDescriptor of.read (List.mem_filter.1 field).1)
    refine ⟨target ▸ (h.noReturn_names listed').2.2 _ (by simp [Resource.classNames]), fun name same => ?_⟩
    rw [text] at same
    cases same
    exact Text.IsMark.not_mem_identifier (by decide) usable
  · exact h.noReturn_path of member .service
  · obtain ⟨r', listed', kind, name, hasClass, rfl⟩ := h.controllerImport_target member listed of imported
    exact h.noReturns_hasClass listed' hasClass

/-- No statement of a generated module holds a carriage return. -/
theorem Schema.Generated.noReturns (member : r ∈ rs) (listed : e ∈ schema.entities)
    (of : Resource.Of schema ResourceNaming.derive classes byName e r) {part : Part} {m : SourceModule}
    (hasPart : r.HasPart ResourceNaming.derive part m) : ∀ s ∈ m.body, s.NoReturns := by
  obtain ⟨name, identifier, classNames⟩ := h.noReturn_names member
  cases hasPart with
  | @dataClass d m inClasses made =>
      obtain ⟨imports, filters, importsMade, -, rfl⟩ := Descriptor.toModule_eq_ok.1 made
      have isClass := of.isClassOf inClasses
      refine (h.class_noReturns of member isClass).moduleWith (fun i imported => ?_) _ _
      obtain ⟨r', listed', part, name, hasClass, source, -⟩ := h.classImport_target member of isClass importsMade imported
      rw [source]
      exact h.noReturns_hasClass listed' hasClass
  | @enumeration d inEnums =>
      obtain ⟨f, -, made⟩ := exists_mem_of_mapM_eq_ok of.enumerations inEnums
      exact EnumDescriptor.noReturns made (classNames _ (List.mem_append_right _ (List.mem_map_of_mem inEnums))) _
  | service => exact noReturns_service name
  | controller =>
      obtain ⟨endpoints, made, rendered⟩ := Controller.toModule_eq_ok.1 of.controllerModule
      rw [rendered]
      exact (h.controller_noReturns member listed of).moduleWith made
  | wiring => exact noReturns_wiring name (h.noReturn_path of member .service) (h.noReturn_path of member .controller)
  | tests =>
      obtain ⟨plan, planned, rendered⟩ := testModule_eq_ok.1 of.tests
      have accepted : checkEntityName (.text r.name) = .ok () := of.name ▸ h.prepared.named listed
      have resource : NoReturn (ResourceNaming.derive r.name).resource := fun member =>
        absurd (isSegmentChar_of_mem_resource accepted _ member) (by decide)
      rw [rendered, of.name, Value.display_text]
      exact TestPlan.noReturns resource identifier name (h.noReturn_path of member .service)
        (h.noReturn_path of member .wiring) fun key hk => (TestPlan.isVisible_segment of.read planned hk).noReturn

end

/-- The text of a generated module stays the same when the newline conventions are read as one. -/
theorem universalNewlines_content {schema : Schema} {modules : List SourceModule}
    (h : (schema.generate ResourceNaming.derive).outcome = .ok modules) {m : SourceModule} (member : m ∈ modules) :
    Text.universalNewlines m.content = m.content := by
  obtain ⟨classes, byName, rs, generated, rfl⟩ := generate_eq_ok h
  obtain ⟨r, inResources, part, hasPart⟩ := generated.mem_modules.1 member
  obtain ⟨e, listed, of⟩ := generated.owner inResources
  exact (SourceModule.noReturn_content (generated.noReturns inResources listed of hasPart)).universalNewlines

end ResourceScaffold
