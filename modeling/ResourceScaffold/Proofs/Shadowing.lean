import ResourceScaffold.Proofs.Bindings
import ResourceScaffold.Proofs.EntityNames

/-!
# Names that are bound from two sources

The check on entity names keeps out most of the names that generated modules bind themselves, but not all of them, and
enumerations may have any identifier as their name. So a module may import a class under a name that it also binds from
elsewhere. This file says, for a schema, exactly when that happens.

* `Entity.ClassShadows ids e kind`: in the module of the class of a kind of the entity `e`
  (`Schema.Generated.class_unshadowed_iff`).
* `Entity.ControllerShadows ids e`: in the module of the controller of `e` (`Schema.Generated.controller_unshadowed_iff`).
* `generate_unshadowed_iff`: in the modules of a generation.

Of the names that the modules bind whatever their entity is, the check accepts six (`accepted_and_fixed_iff`). The other
clashes are between names that are made: a suffix of one entity may complete the name of another.
-/

namespace ResourceScaffold

open Code

/-! ## Modules of classes -/

/-- The class of a kind refers to another class or a filter. -/
structure Entity.References (ids : Entries) (e : Entity) (kind : DescriptorKind) (ref : Reference) : Prop where
  refers : ∃ f ∈ e.fields, kind.includes f = true ∧ f.Refers ids e kind ref
  other : ref.name ≠ e.nameWith kind.suffix

/-- The module of the class of a kind imports the class that is referred to. -/
structure Entity.Imports (ids : Entries) (e : Entity) (kind : DescriptorKind) (ref : Reference) : Prop
    extends e.References ids kind ref where
  isClass : ref.kind ≠ .filter

/-- The module of the class of a kind binds the name of a class that it imports from another source too. -/
inductive Entity.ClassShadows (ids : Entries) (e : Entity) (kind : DescriptorKind) : Prop where
  /-- The name is one of those that the modules of all classes import from libraries. -/
  | library {ref : Reference} (imports : e.Imports ids kind ref) (named : ref.name.display ∈ classLibraryNames)
  /-- The name is the one that a module imports to defer imports, and the module defers one. -/
  | deferral {ref late : Reference} (imports : e.Imports ids kind ref) (named : ref.name.display = "TYPE_CHECKING")
      (defers : e.Imports ids kind late) (deferred : late.kind.isDeferred = true)
  /-- The name is that of a filter in the module. -/
  | filter {ref filter : Reference} (imports : e.Imports ids kind ref) (filters : e.References ids kind filter)
      (isFilter : filter.kind = .filter) (named : filter.name.display = ref.name.display)
  /-- The name is that of the class itself. -/
  | itself {ref : Reference} (imports : e.Imports ids kind ref)
      (named : ref.name.display = e.name.display ++ kind.suffix)
  /-- The name is that of another class that the module imports, of another entity. -/
  | twice {ref other : Reference} (imports : e.Imports ids kind ref) (imports' : e.Imports ids kind other)
      (named : other.name.display = ref.name.display) (owners : ref.entity ≠ other.entity)

section

variable {schema : Schema} {classes : Table Descriptor} {byName : Table Entity} {rs : List Resource} {e : Entity}
  {r : Resource} {d : Descriptor} {m : SourceModule} {kind : DescriptorKind}

/-- The references of a class are those of its kind. -/
theorem Descriptor.IsClassOf.mem_references (h : d.IsClassOf schema.ids e) {s : String} (text : e.name = .text s)
    {ref : Reference} : ref ∈ d.references ↔ e.References schema.ids d.kind ref := by
  rw [h.mem_references_iff text]
  exact ⟨fun ⟨refers, other⟩ => ⟨refers, other⟩, fun ⟨refers, other⟩ => ⟨refers, other⟩⟩

namespace Schema.Generated

/-- What the class of a kind imports belongs to a resource. -/
theorem imports_owner (h : schema.Generated ResourceNaming.derive classes byName rs) (member : r ∈ rs)
    (of : Resource.Of schema ResourceNaming.derive classes byName e r) (isClass : d.IsClassOf schema.ids e)
    {ref : Reference} (imports : e.Imports schema.ids d.kind ref) : ∃ r' ∈ rs, ref.entity = .text r'.name :=
  h.reference_owner member of isClass ((isClass.mem_references of.name).2 imports.toReferences) imports.isClass

/-- The module of a class imports, from generated modules, what the class of its kind imports. -/
theorem takes_iff_imports (h : schema.Generated ResourceNaming.derive classes byName rs) (member : r ∈ rs)
    (of : Resource.Of schema ResourceNaming.derive classes byName e r) (isClass : d.IsClassOf schema.ids e)
    {entityName : String} (made : d.toModule entityName = .ok m) {path name : String} :
    m.Takes path name ↔ ∃ ref, e.Imports schema.ids d.kind ref ∧ ref.name.display = name ∧
      path = classPath (Text.camelCase ref.entity.display) name := by
  have references {ref : Reference} : ref ∈ d.references ↔ e.References schema.ids d.kind ref :=
    isClass.mem_references of.name
  rw [h.class_takes_iff member of isClass made]
  constructor
  · rintro ⟨ref, inClass, other, same⟩
    exact ⟨ref, ⟨references.1 inClass, other⟩, same⟩
  · rintro ⟨ref, imports, same⟩
    exact ⟨ref, references.2 imports.toReferences, imports.isClass, same⟩

/-- The module of a class fixes the names that it imports from libraries, its own and those of its filters. -/
theorem fixes_iff_references (h : schema.Generated ResourceNaming.derive classes byName rs) (member : r ∈ rs)
    (of : Resource.Of schema ResourceNaming.derive classes byName e r) (isClass : d.IsClassOf schema.ids e)
    {entityName : String} (made : d.toModule entityName = .ok m) {name : String} :
    m.Fixes name ↔ name ∈ classLibraryNames ∨
      ((∃ late, e.Imports schema.ids d.kind late ∧ late.kind.isDeferred = true) ∧ name = "TYPE_CHECKING") ∨
      name = e.name.display ++ d.kind.suffix ∨
      ∃ filter, e.References schema.ids d.kind filter ∧ filter.kind = .filter ∧ filter.name.display = name := by
  have references {ref : Reference} : ref ∈ d.references ↔ e.References schema.ids d.kind ref :=
    isClass.mem_references of.name
  have own : d.name.display = e.name.display ++ d.kind.suffix := by
    rw [isClass.name_eq of.name, of.name, Value.display_text, Value.display_text]
  have late : (∃ ref ∈ d.references, ref.kind.isDeferred = true) ↔
      ∃ late, e.Imports schema.ids d.kind late ∧ late.kind.isDeferred = true := by
    refine exists_congr fun ref => and_congr_left fun deferred => ?_
    rw [references]
    refine ⟨fun refers => ⟨refers, fun isFilter => ?_⟩, Entity.Imports.toReferences⟩
    rw [isFilter] at deferred
    cases deferred
  rw [h.class_fixes_iff member of isClass made, own, late]
  simp only [references]

/-- The module of a class binds each name that it imports from a generated module from that source alone, unless it is one of
those that are bound twice. -/
theorem class_unshadowed_iff (h : schema.Generated ResourceNaming.derive classes byName rs) (member : r ∈ rs)
    (of : Resource.Of schema ResourceNaming.derive classes byName e r) (isClass : d.IsClassOf schema.ids e)
    {entityName : String} (made : d.toModule entityName = .ok m) :
    m.Unshadowed ↔ ¬ e.ClassShadows schema.ids d.kind := by
  have takes {path name : String} : m.Takes path name ↔ _ := h.takes_iff_imports member of isClass made
  have fixes {name : String} : m.Fixes name ↔ _ := h.fixes_iff_references member of isClass made
  rw [SourceModule.unshadowed_iff]
  constructor
  · intro unshadowed shadows
    have taken {ref : Reference} (imports : e.Imports schema.ids d.kind ref) :=
      unshadowed _ _ (takes.2 ⟨ref, imports, rfl, rfl⟩)
    cases shadows with
    | library imports named => exact (taken imports).1 (fixes.2 (.inl named))
    | deferral imports named defers deferred =>
        exact (taken imports).1 (fixes.2 (.inr (.inl ⟨⟨_, defers, deferred⟩, named⟩)))
    | filter imports filters isFilter named =>
        exact (taken imports).1 (fixes.2 (.inr (.inr (.inr ⟨_, filters, isFilter, named⟩))))
    | itself imports named => exact (taken imports).1 (fixes.2 (.inr (.inr (.inl named))))
    | twice imports imports' named owners =>
        obtain ⟨r₁, listed₁, entity₁⟩ := h.imports_owner member of isClass imports
        obtain ⟨r₂, listed₂, entity₂⟩ := h.imports_owner member of isClass imports'
        have paths := (taken imports).2 _ (takes.2 ⟨_, imports', named, rfl⟩)
        rw [entity₁, entity₂, Value.display_text, Value.display_text] at paths
        obtain ⟨rfl, -⟩ := h.ofClass_inj listed₂ listed₁ (congrArg some paths)
        exact owners (entity₁.trans entity₂.symm)
  · intro apart path name taken
    obtain ⟨ref, imports, rfl, rfl⟩ := takes.1 taken
    refine ⟨fun fixed => apart ?_, fun path' taken' => ?_⟩
    · rcases fixes.1 fixed with named | ⟨⟨late, defers, deferred⟩, named⟩ | named | ⟨filter, filters, isFilter, named⟩
      · exact .library imports named
      · exact .deferral imports named defers deferred
      · exact .itself imports named
      · exact .filter imports filters isFilter named
    · obtain ⟨other, imports', named, rfl⟩ := takes.1 taken'
      by_cases owners : ref.entity = other.entity
      · rw [owners]
      · exact absurd (.twice imports imports' named owners) apart

end Schema.Generated

end

/-! ## Modules of controllers -/

/-- What the module of a controller imports from generated modules, under which name: its service or a class, given with its
entity. -/
inductive Entity.ControllerTakes (ids : Entries) (e : Entity) : Option Value → String → Prop where
  | service : ControllerTakes ids e none (serviceClass e.name.display)
  | own (kind : DescriptorKind) : ControllerTakes ids e (some e.name) (e.name.display ++ kind.suffix)
  | related {f : Field} {target : Value} (field : f ∈ e.relationFields) (found : relatedName e f ids = .ok target) :
      ControllerTakes ids e (some target) target.display
  | identified {f : Field} {target : Value} (field : f ∈ e.relationFields) (found : relatedName e f ids = .ok target)
      (many : f.isToMany = true) : ControllerTakes ids e (some target) (target.display ++ "WhereUniqueInput")

/-- Single records of the entity can be addressed. -/
def Entity.HasKey (e : Entity) : Prop :=
  ∃ f ∈ e.fields, f.isFilterable = true ∧ f.isIdentifying = true

/-- The names of the routes of an entity with an identifier. -/
inductive Entity.RouteName (identifier : String) (e : Entity) : String → Prop where
  | create : RouteName identifier e ("create_" ++ identifier)
  | list : RouteName identifier e ("find_many_" ++ identifier)
  | read (keyed : e.HasKey) : RouteName identifier e ("find_one_" ++ identifier)
  | update (keyed : e.HasKey) : RouteName identifier e ("update_" ++ identifier)
  | delete (keyed : e.HasKey) : RouteName identifier e ("delete_" ++ identifier)
  | related {f : Field} {name : String} (keyed : e.HasKey) (field : f ∈ e.relationFields) (named : f.name = .text name) :
      RouteName identifier e ("find_" ++ identifier ++ "_" ++ Text.snakeCase name)
  | connect {f : Field} {name : String} (keyed : e.HasKey) (field : f ∈ e.relationFields) (named : f.name = .text name)
      (many : f.isToMany = true) : RouteName identifier e ("connect_" ++ identifier ++ "_" ++ Text.snakeCase name)
  | disconnect {f : Field} {name : String} (keyed : e.HasKey) (field : f ∈ e.relationFields) (named : f.name = .text name)
      (many : f.isToMany = true) : RouteName identifier e ("disconnect_" ++ identifier ++ "_" ++ Text.snakeCase name)

/-- The module of the controller of an entity binds the name of a class or service that it imports from another source too. -/
inductive Entity.ControllerShadows (ids : Entries) (e : Entity) : Prop where
  /-- The name is one of those that all controllers bind and the check on names does not reserve. -/
  | fixed {source : Option Value} {name : String} (takes : e.ControllerTakes ids source name)
      (named : name ∈ ["json", "ValidationError", "get_service"])
  /-- The name is that of the constant of the controller. -/
  | constant {source : Option Value}
      (takes : e.ControllerTakes ids source (Text.upper (Text.snakeCase e.name.display) ++ "_SELECT"))
  /-- The name is that of a route. -/
  | route {source : Option Value} {name : String} (takes : e.ControllerTakes ids source name)
      (named : e.RouteName (Text.camelCase e.name.display) name)
  /-- The name is that of another import of the controller. -/
  | twice {source other : Option Value} {name : String} (takes : e.ControllerTakes ids source name)
      (takes' : e.ControllerTakes ids other name) (sources : source ≠ other)

/-- The path of the module that the controller of an entity imports a name from. -/
def Entity.sourcePath (e : Entity) : Option Value → String → String
  | none, _ => servicePath (Text.camelCase e.name.display)
  | some owner, name => classPath (Text.camelCase owner.display) name

/-- A name with a suffix that no reserved name ends in is not reserved. -/
theorem append_not_mem_reservedNames {suffix : String} (fresh : ∀ entry ∈ reservedNames, ¬ suffix.toList <:+ entry.toList)
    (s : String) : s ++ suffix ∉ reservedNames :=
  fun listed => fresh _ listed ⟨s.toList, String.toList_append.symm⟩

/-- The check on entity names accepts six of the names that the modules of classes and controllers import from libraries or
define, whatever the entity is. -/
theorem accepted_and_fixed_iff (s : String) :
    checkEntityName (.text s) = .ok () ∧ s ∈ classLibraryNames ++ "TYPE_CHECKING" :: controllerNames ↔
      s ∈ ["annotations", "ConfigDict", "TYPE_CHECKING", "json", "ValidationError", "get_service"] := by
  constructor
  · rintro ⟨accepted, fixed⟩
    have free : s ∉ reservedNames := ((checkEntityName_text s).1.1 accepted).2.2.2
    have unreserved : ∀ name ∈ classLibraryNames ++ "TYPE_CHECKING" :: controllerNames, name ∉ reservedNames →
        name ∈ ["annotations", "ConfigDict", "TYPE_CHECKING", "json", "ValidationError", "get_service"] := by
      decide
    exact unreserved s fixed free
  · intro listed
    have subset : ["annotations", "ConfigDict", "TYPE_CHECKING", "json", "ValidationError", "get_service"] ⊆
        classLibraryNames ++ "TYPE_CHECKING" :: controllerNames := by
      decide
    refine ⟨?_, subset listed⟩
    simp only [List.mem_cons, List.not_mem_nil, or_false] at listed
    rcases listed with rfl | rfl | rfl | rfl | rfl | rfl <;> rfl

namespace Schema.Generated

variable {schema : Schema} {classes : Table Descriptor} {byName : Table Entity} {rs : List Resource} {e : Entity}
  {r : Resource} {path name : String}

/-- The class that is read of a resource has its name. -/
theorem display_read {naming : NamingStrategy} (of : Resource.Of schema naming classes byName e r) :
    r.read.name.display = r.name := by
  rw [name_of_entityDescriptor of.read, of.name, Value.display_text]

/-- Each relation field of an entity is that of a relation of its controller. -/
theorem exists_relation {naming : NamingStrategy} (h : schema.Generated naming classes byName rs)
    (of : Resource.Of schema naming classes byName e r) {f : Field} (field : f ∈ e.relationFields) :
    ∃ relation ∈ r.controller.relations, relation.field = f := by
  obtain ⟨made, -⟩ := Controller.ofEntity_eq_ok of.controller
  obtain ⟨relation, related, step⟩ := mem_results_of_mapM_eq_ok made.related field
  exact ⟨relation, related, (h.prepared.relationOf_eq_ok.1 step).1⟩

/-- The relation of a field names the resource that the field leads to, and the class that is read of it. -/
theorem relation_of_field {naming : NamingStrategy} (h : schema.Generated naming classes byName rs)
    (of : Resource.Of schema naming classes byName e r) {f : Field} {target : Value} (field : f ∈ e.relationFields)
    (found : relatedName e f schema.ids = .ok target) : ∃ r' ∈ rs, target = .text r'.name ∧
      ∃ relation ∈ r.controller.relations, relation.field = f ∧ relation.entity = r'.name ∧
        relation.target.name.display = r'.name := by
  obtain ⟨relation, inRelations, rfl⟩ := h.exists_relation of field
  obtain ⟨-, r', member', entity, target, leads⟩ := h.relation of inRelations
  obtain ⟨e', -, of'⟩ := h.owner member'
  rw [found] at leads
  exact ⟨r', member', Except.ok.inj leads, relation, inRelations, rfl, entity.symm, target ▸ display_read of'⟩

/-- Each class that a controller imports is one of its entity or of a related one. -/
theorem controllerTakes_of_mem_classImports (h : schema.Generated ResourceNaming.derive classes byName rs)
    (listed : e ∈ schema.entities) (of : Resource.Of schema ResourceNaming.derive classes byName e r) {i : Import}
    (imported : i ∈ r.controller.classImports) :
    ∃ owner name, e.ControllerTakes schema.ids (some owner) name ∧ i = Import.ofClass (Text.camelCase owner.display) name := by
  obtain ⟨read, entityType, inputs, -⟩ := h.controller_eq listed of
  have found := mem_of_mem_distinctBy imported
  rw [read, entityType, inputs] at found
  rcases List.mem_append.1 found with own | related
  · obtain ⟨d, inClasses, rfl⟩ := List.mem_map.1 own
    refine ⟨e.name, d.name.display, ?_, by rw [of.name, Value.display_text]⟩
    rw [(of.isClassOf inClasses).name_eq of.name, Value.display_text, ← Value.display_text r.name, ← of.name]
    exact .own d.kind
  · obtain ⟨relation, inRelations, related⟩ := List.mem_flatMap.1 related
    obtain ⟨field, r', member', entity, target, leads⟩ := h.relation of inRelations
    obtain ⟨e', -, of'⟩ := h.owner member'
    rw [← entity, ← target, display_read of'] at related
    rcases List.mem_cons.1 related with rfl | unique
    · exact ⟨_, _, .related field leads, by rw [Value.display_text]⟩
    · split at unique
      · next many => exact ⟨_, _, .identified field leads many, by rw [List.mem_singleton.1 unique, Value.display_text]⟩
      · cases unique

/-- A controller imports each class of its entity and those that its relations need. -/
theorem mem_classImports (h : schema.Generated ResourceNaming.derive classes byName rs) (member : r ∈ rs)
    (listed : e ∈ schema.entities) (of : Resource.Of schema ResourceNaming.derive classes byName e r) {owner : Value}
    (takes : e.ControllerTakes schema.ids (some owner) name) :
    Import.ofClass (Text.camelCase owner.display) name ∈ r.controller.classImports := by
  obtain ⟨read, entityType, inputs, -⟩ := h.controller_eq listed of
  -- another import with the same line as one that is asked for is the same import
  have kept {r' : Resource} {name : String} (member' : r' ∈ rs)
      (asked : ∃ i ∈ r.controller.classImports, i.line = (Import.ofClass (Text.camelCase r'.name) name).line) :
      Import.ofClass (Text.camelCase r'.name) name ∈ r.controller.classImports := by
    obtain ⟨i, imported, same⟩ := asked
    rwa [h.controllerImport_eq_of_line member listed of imported member' same] at imported
  cases takes with
  | own kind =>
      obtain ⟨d, inClasses, rfl⟩ := List.mem_map.1 (classes_kinds of.read of.inputs ▸ kind.mem_all)
      have own : Import.ofClass (Text.camelCase r.name) d.name.display ∈
          (r.controller.read :: r.controller.inputs.toList).map fun d =>
            Import.ofClass (Text.camelCase r.controller.entityType) d.name.display := by
        rw [read, entityType, inputs]
        exact List.mem_map_of_mem inClasses
      rw [(of.isClassOf inClasses).name_eq of.name, Value.display_text] at own
      rw [of.name, Value.display_text]
      exact kept member (exists_mem_distinctBy Import.line (List.mem_append_left _ own))
  | related field found =>
      obtain ⟨r', member', rfl, relation, inRelations, rfl, entity, target⟩ := h.relation_of_field of field found
      rw [Value.display_text]
      refine kept member' (exists_mem_distinctBy Import.line (List.mem_append_right _ ?_))
      refine List.mem_flatMap.2 ⟨relation, inRelations, ?_⟩
      rw [entity, target]
      exact List.mem_cons_self
  | identified field found many =>
      obtain ⟨r', member', rfl, relation, inRelations, rfl, entity, -⟩ := h.relation_of_field of field found
      rw [Value.display_text]
      refine kept member' (exists_mem_distinctBy Import.line (List.mem_append_right _ ?_))
      refine List.mem_flatMap.2 ⟨relation, inRelations, ?_⟩
      rw [entity, many]
      exact List.mem_cons_of_mem _ List.mem_cons_self

/-- The module of a controller imports its service, the classes of its entity and those of related entities. -/
theorem controller_takes_iff (h : schema.Generated ResourceNaming.derive classes byName rs) (member : r ∈ rs)
    (listed : e ∈ schema.entities) (of : Resource.Of schema ResourceNaming.derive classes byName e r) :
    r.controllerModule.Takes path name ↔
      ∃ source, e.ControllerTakes schema.ids source name ∧ path = e.sourcePath source name := by
  obtain ⟨endpoints, -, rendered⟩ := Controller.toModule_eq_ok.1 of.controllerModule
  obtain ⟨-, entityType, -, service, -⟩ := h.controller_eq listed of
  have display : e.name.display = r.name := by rw [of.name, Value.display_text]
  have servicePath : e.sourcePath none name = (r.service ResourceNaming.derive).path := by
    rw [Entity.sourcePath, display]
    rfl
  rw [rendered, Controller.takes_moduleWith, service, entityType]
  constructor
  · rintro (⟨rfl, rfl⟩ | ⟨i, imported, bound⟩)
    · exact ⟨none, display ▸ .service, servicePath.symm⟩
    · obtain ⟨owner, className, takes, rfl⟩ := h.controllerTakes_of_mem_classImports listed of imported
      rw [mem_bindings_ofClass, Option.some.injEq, Origin.generated.injEq] at bound
      obtain ⟨rfl, rfl⟩ := bound
      exact ⟨some owner, takes, rfl⟩
  · rintro ⟨source, takes, rfl⟩
    cases source with
    | none =>
        cases takes
        exact .inl ⟨servicePath, by rw [display]⟩
    | some owner => exact .inr ⟨_, h.mem_classImports member listed of takes, mem_bindings_ofClass.2 ⟨rfl, rfl⟩⟩

/-- Single records can be addressed iff the entity has a filterable identifying field. -/
theorem hasKey_iff {naming : NamingStrategy} (of : Resource.Of schema naming classes byName e r) :
    (∃ key, r.controller.key? = some key) ↔ e.HasKey := by
  simp only [of.exists_key_iff, Entity.identifyingFields, List.mem_filter, Bool.and_eq_true]
  rfl

/-- The routes of a controller have the names of the routes of its entity. -/
theorem exists_route_iff (h : schema.Generated ResourceNaming.derive classes byName rs)
    (of : Resource.Of schema ResourceNaming.derive classes byName e r) {endpoints : List Endpoint}
    (made : r.controller.endpoints = .ok endpoints) :
    (∃ route ∈ endpoints, route.name = name) ↔ e.RouteName r.controller.entityName name := by
  have keyed {key : KeyParameter} (found : r.controller.key? = some key) : e.HasKey := (hasKey_iff of).1 ⟨key, found⟩
  constructor
  · rintro ⟨route, listed, rfl⟩
    cases (Controller.mem_endpoints made).1 listed with
    | create => exact .create
    | list => exact .list
    | read key => exact .read (keyed key)
    | update key => exact .update (keyed key)
    | delete key => exact .delete (keyed key)
    | related key inRelations named => exact .related (keyed key) (h.relation of inRelations).1 named
    | connect key inRelations named many => exact .connect (keyed key) (h.relation of inRelations).1 named many
    | disconnect key inRelations named many => exact .disconnect (keyed key) (h.relation of inRelations).1 named many
  · have found {route : Endpoint} (listed : r.controller.Route route) : ∃ route' ∈ endpoints, route'.name = route.name :=
      ⟨route, (Controller.mem_endpoints made).2 listed, rfl⟩
    intro named
    cases named with
    | create => exact found .create
    | list => exact found .list
    | read has =>
        obtain ⟨key, keyed⟩ := (hasKey_iff of).2 has
        exact found (.read keyed)
    | update has =>
        obtain ⟨key, keyed⟩ := (hasKey_iff of).2 has
        exact found (.update keyed)
    | delete has =>
        obtain ⟨key, keyed⟩ := (hasKey_iff of).2 has
        exact found (.delete keyed)
    | related has field named =>
        obtain ⟨key, keyed⟩ := (hasKey_iff of).2 has
        obtain ⟨relation, inRelations, rfl⟩ := h.exists_relation of field
        exact found (.related keyed inRelations named)
    | connect has field named many =>
        obtain ⟨key, keyed⟩ := (hasKey_iff of).2 has
        obtain ⟨relation, inRelations, rfl⟩ := h.exists_relation of field
        exact found (.connect keyed inRelations named many)
    | disconnect has field named many =>
        obtain ⟨key, keyed⟩ := (hasKey_iff of).2 has
        obtain ⟨relation, inRelations, rfl⟩ := h.exists_relation of field
        exact found (.disconnect keyed inRelations named many)

/-- The module of a controller fixes the names of every controller, its constant and its routes. -/
theorem controller_fixes_iff (h : schema.Generated ResourceNaming.derive classes byName rs) (listed : e ∈ schema.entities)
    (of : Resource.Of schema ResourceNaming.derive classes byName e r) :
    r.controllerModule.Fixes name ↔ name ∈ controllerNames ∨ (r.controller.keyIsDate = true ∧ name = "datetime") ∨
      name = Text.upper (Text.snakeCase e.name.display) ++ "_SELECT" ∨
      e.RouteName (Text.camelCase e.name.display) name := by
  obtain ⟨endpoints, made, rendered⟩ := Controller.toModule_eq_ok.1 of.controllerModule
  obtain ⟨-, entityType, -, -, entityName, -⟩ := h.controller_eq listed of
  rw [rendered, Controller.fixes_moduleWith, h.exists_route_iff of made, Controller.selectName, entityType, entityName,
    of.name, Value.display_text]
  rfl

/-! ### Reserved names -/

/-- What the module of a controller imports from generated modules is its service or belongs to a resource. -/
theorem controllerTakes_owner (h : schema.Generated ResourceNaming.derive classes byName rs) (member : r ∈ rs)
    (of : Resource.Of schema ResourceNaming.derive classes byName e r) {owner : Value}
    (takes : e.ControllerTakes schema.ids (some owner) name) : ∃ r' ∈ rs, owner = .text r'.name := by
  have target {f : Field} {target : Value} (field : f ∈ e.relationFields)
      (found : relatedName e f schema.ids = .ok target) : ∃ r' ∈ rs, target = .text r'.name := by
    obtain ⟨r', member', leads⟩ := h.target of field
    rw [found] at leads
    exact ⟨r', member', Except.ok.inj leads⟩
  cases takes with
  | own kind => exact ⟨r, member, of.name⟩
  | related field found => exact target field found
  | identified field found => exact target field found

/-- The path that a controller imports a name from tells whether it is that of the service, or whose class it is. -/
theorem source_eq_of_sourcePath_eq (h : schema.Generated ResourceNaming.derive classes byName rs) (member : r ∈ rs)
    (of : Resource.Of schema ResourceNaming.derive classes byName e r) {source other : Option Value}
    (takes : e.ControllerTakes schema.ids source name) (takes' : e.ControllerTakes schema.ids other name)
    (paths : e.sourcePath source name = e.sourcePath other name) : source = other := by
  -- a class is not in the module of the service
  have service {owner : Value} (takes : e.ControllerTakes schema.ids (some owner) name) :
      e.sourcePath (some owner) name ≠ e.sourcePath none name := by
    obtain ⟨r', member', rfl⟩ := h.controllerTakes_owner member of takes
    have other := h.classPath_ne_service member member' name
    rw [Entity.sourcePath, Entity.sourcePath, of.name, Value.display_text, Value.display_text]
    exact other
  cases source with
  | none =>
      cases other with
      | none => rfl
      | some owner => exact absurd paths.symm (service takes')
  | some owner =>
      cases other with
      | none => exact absurd paths (service takes)
      | some owner' =>
          obtain ⟨r₁, member₁, rfl⟩ := h.controllerTakes_owner member of takes
          obtain ⟨r₂, member₂, rfl⟩ := h.controllerTakes_owner member of takes'
          rw [Entity.sourcePath, Entity.sourcePath, Value.display_text, Value.display_text] at paths
          obtain ⟨rfl, -⟩ := h.ofClass_inj member₁ member₂ (congrArg some paths)
          rfl

/-- No name that a controller imports from a generated module is reserved. -/
theorem not_reserved_of_controllerTakes (h : schema.Generated ResourceNaming.derive classes byName rs)
    (listed : e ∈ schema.entities) (of : Resource.Of schema ResourceNaming.derive classes byName e r)
    {source : Option Value} (takes : e.ControllerTakes schema.ids source name) : name ∉ reservedNames := by
  have accepted {e : Entity} (listed : e ∈ schema.entities) : e.name.display ∉ reservedNames := by
    obtain ⟨s, text⟩ := h.prepared.text listed
    have named := h.prepared.named listed
    rw [text] at named ⊢
    exact ((checkEntityName_text s).1.1 named).2.2.2
  cases takes with
  | service => exact append_not_mem_reservedNames (by decide) _
  | own kind =>
      cases kind with
      | entity => simpa [DescriptorKind.suffix] using accepted listed
      | createInput => exact append_not_mem_reservedNames (by decide) _
      | updateInput => exact append_not_mem_reservedNames (by decide) _
      | whereInput => exact append_not_mem_reservedNames (by decide) _
      | whereUniqueInput => exact append_not_mem_reservedNames (by decide) _
  | related field found =>
      obtain ⟨r', member', leads⟩ := h.target of field
      obtain ⟨e', listed', of'⟩ := h.owner member'
      rw [found, ← of'.name] at leads
      cases leads
      exact accepted listed'
  | identified => exact append_not_mem_reservedNames (by decide) _

/-- The module of a controller binds each name that it imports from a generated module from that source alone, unless it is
one of those that are bound twice. -/
theorem controller_unshadowed_iff (h : schema.Generated ResourceNaming.derive classes byName rs) (member : r ∈ rs)
    (listed : e ∈ schema.entities) (of : Resource.Of schema ResourceNaming.derive classes byName e r) :
    r.controllerModule.Unshadowed ↔ ¬ e.ControllerShadows schema.ids := by
  rw [SourceModule.unshadowed_iff]
  constructor
  · intro unshadowed shadows
    have taken {source : Option Value} {name : String} (takes : e.ControllerTakes schema.ids source name) :=
      unshadowed _ _ ((h.controller_takes_iff member listed of).2 ⟨source, takes, rfl⟩)
    cases shadows with
    | fixed takes named =>
        refine (taken takes).1 ((h.controller_fixes_iff listed of).2 (.inl ?_))
        have subset : ["json", "ValidationError", "get_service"] ⊆ controllerNames := by decide
        exact subset named
    | constant takes => exact (taken takes).1 ((h.controller_fixes_iff listed of).2 (.inr (.inr (.inl rfl))))
    | route takes named => exact (taken takes).1 ((h.controller_fixes_iff listed of).2 (.inr (.inr (.inr named))))
    | twice takes takes' sources =>
        have paths := (taken takes).2 _ ((h.controller_takes_iff member listed of).2 ⟨_, takes', rfl⟩)
        exact sources (h.source_eq_of_sourcePath_eq member of takes takes' paths.symm)
  · intro apart path name taken
    obtain ⟨source, takes, rfl⟩ := (h.controller_takes_iff member listed of).1 taken
    have free := h.not_reserved_of_controllerTakes listed of takes
    refine ⟨fun fixed => apart ?_, fun path' taken' => ?_⟩
    · rcases (h.controller_fixes_iff listed of).1 fixed with every | ⟨-, date⟩ | rfl | route
      · have unreserved : ∀ name ∈ controllerNames, name ∉ reservedNames → name ∈ ["json", "ValidationError", "get_service"] := by
          decide
        exact .fixed takes (unreserved name every free)
      · rw [date] at free
        exact absurd (by decide) free
      · exact .constant takes
      · exact .route takes route
    · obtain ⟨other, takes', rfl⟩ := (h.controller_takes_iff member listed of).1 taken'
      by_cases sources : source = other
      · rw [sources]
      · exact absurd (.twice takes takes' sources) apart

end Schema.Generated

/-! ## Generations -/

/-- The module defines a class for the data of requests and responses. -/
def Code.SourceModule.HasModel (m : SourceModule) : Prop :=
  ∃ c, .define c ∈ m.body ∧ "BaseModel" ∈ c.bases

/-- The module has a route. -/
def Code.SourceModule.HasRoute (m : SourceModule) : Prop :=
  ∃ route, .endpoint route ∈ m.body

section

variable {schema : Schema} {naming : NamingStrategy} {classes : Table Descriptor} {byName : Table Entity} {e : Entity}
  {r : Resource} {part : Part} {d : Descriptor} {m : SourceModule} {entityName : String}

/-- The module of a data class holds its model. -/
theorem Descriptor.hasModel (made : d.toModule entityName = .ok m) : m.HasModel := by
  obtain ⟨imports, filters, -, -, rfl⟩ := Descriptor.toModule_eq_ok.1 made
  refine ⟨d.definition, ?_, List.mem_cons_self⟩
  simp [moduleWith, opening]

/-- Only the classes of an entity have modules with classes for data. -/
theorem Resource.Of.class_of_hasModel (h : Of schema naming classes byName e r) (hasPart : r.HasPart naming part m)
    (hasModel : m.HasModel) : ∃ d ∈ r.read :: r.inputs.toList, d.toModule (r.identifier naming) = .ok m := by
  obtain ⟨c, inModule, isModel⟩ := hasModel
  cases hasPart with
  | dataClass listed made => exact ⟨_, listed, made⟩
  | enumeration listed =>
      have defined : c.bases = ["str", "Enum"] := by
        simp only [EnumDescriptor.toModule, List.mem_cons, reduceCtorEq, Statement.define.injEq, List.not_mem_nil, or_false,
          false_or] at inModule
        rw [inModule]
      rw [defined] at isModel
      exact absurd isModel (by decide)
  | service =>
      simp only [Resource.service, serviceModule, List.mem_cons, reduceCtorEq, Statement.define.injEq, List.not_mem_nil,
        or_false, false_or] at inModule
      rw [inModule] at isModel
      cases isModel
  | controller =>
      obtain ⟨endpoints, -, rendered⟩ := Controller.toModule_eq_ok.1 h.controllerModule
      rw [rendered, Controller.moduleWith, Controller.opening] at inModule
      split at inModule <;> simp at inModule
  | wiring =>
      simp only [Resource.wiring, wiringModule, List.mem_cons, reduceCtorEq, Statement.define.injEq, List.not_mem_nil,
        or_false, false_or] at inModule
      rw [inModule] at isModel
      cases isModel
  | tests =>
      obtain ⟨plan, -, rendered⟩ := testModule_eq_ok.1 h.tests
      rw [rendered] at inModule
      cases key : plan.key <;> simp [TestPlan.moduleWith, testFunction, recordTests, key] at inModule

/-- Every controller has a route. -/
theorem Resource.Of.controller_hasRoute (h : Of schema naming classes byName e r) : r.controllerModule.HasRoute := by
  obtain ⟨endpoints, made, rendered⟩ := Controller.toModule_eq_ok.1 h.controllerModule
  refine ⟨r.controller.createEndpoint, ?_⟩
  rw [rendered, Controller.mem_body_moduleWith]
  exact (Controller.mem_endpoints made).2 .create

/-- In the modules of classes and controllers of a generation each name that is imported from a generated module is bound from
that source alone, iff no entity has a class or a controller with one of the clashes of `Entity.ClassShadows` and
`Entity.ControllerShadows`. -/
theorem generate_unshadowed_iff {modules : List SourceModule}
    (h : (schema.generate ResourceNaming.derive).outcome = .ok modules) :
    (∀ m ∈ modules, m.HasModel ∨ m.HasRoute → m.Unshadowed) ↔
      ∀ e ∈ schema.entities, (∀ kind, ¬ e.ClassShadows schema.ids kind) ∧ ¬ e.ControllerShadows schema.ids := by
  obtain ⟨classes, byName, rs, generated, rfl⟩ := generate_eq_ok h
  constructor
  · intro unshadowed e inBatch
    obtain ⟨r, member, of⟩ := generated.resource inBatch
    constructor
    · intro kind
      obtain ⟨d, inClasses, rfl⟩ := List.mem_map.1 (classes_kinds of.read of.inputs ▸ kind.mem_all)
      obtain ⟨m, made⟩ := of.exists_toModule inClasses
      have listed := generated.mem_modules.2 ⟨r, member, _, .dataClass inClasses made⟩
      exact (generated.class_unshadowed_iff member of (of.isClassOf inClasses) made).1
        (unshadowed m listed (.inl (Descriptor.hasModel made)))
    · have listed := generated.mem_modules.2 ⟨r, member, _, .controller⟩
      exact (generated.controller_unshadowed_iff member inBatch of).1
        (unshadowed _ listed (.inr of.controller_hasRoute))
  · intro apart m listed dataOrRoutes
    obtain ⟨r, member, part, hasPart⟩ := generated.mem_modules.1 listed
    obtain ⟨e, inBatch, of⟩ := generated.owner member
    rcases dataOrRoutes with hasModel | ⟨route, inModule⟩
    · obtain ⟨d, inClasses, made⟩ := of.class_of_hasModel hasPart hasModel
      exact (generated.class_unshadowed_iff member of (of.isClassOf inClasses) made).2 ((apart e inBatch).1 d.kind)
    · rw [of.controller_of_endpoint hasPart inModule]
      exact (generated.controller_unshadowed_iff member inBatch of).2 (apart e inBatch).2

end

/-- A schema of one entity, named like a class that controllers import from a library. -/
def Schema.validationError : Schema :=
  { entities := [{ name := .text "ValidationError", id := .null, fields := [] }], ids := [] }

/-- The controller of the entity imports a class for validation errors from two modules. -/
theorem Schema.validationError_shadowed : ∃ modules,
    (validationError.generate ResourceNaming.derive).outcome = .ok modules ∧
    ((∀ m ∈ modules, m.HasModel ∨ m.HasRoute → m.Unshadowed) ↔
      ∀ e ∈ validationError.entities,
        (∀ kind, ¬ e.ClassShadows validationError.ids kind) ∧ ¬ e.ControllerShadows validationError.ids) ∧
    ∃ m ∈ modules, (m.HasModel ∨ m.HasRoute) ∧ ¬ m.Unshadowed := by
  have returns : (validationError.generate ResourceNaming.derive).outcome.isOk = true := rfl
  cases made : (validationError.generate ResourceNaming.derive).outcome with
  | error fault =>
      rw [made] at returns
      cases returns
  | ok modules =>
      have condition := generate_unshadowed_iff made
      refine ⟨modules, rfl, condition, ?_⟩
      by_contra all
      have unshadowed : ∀ m ∈ modules, m.HasModel ∨ m.HasRoute → m.Unshadowed := by
        intro m listed dataOrRoutes
        by_contra shadowed
        exact all ⟨m, listed, dataOrRoutes, shadowed⟩
      have apart := (condition.1 unshadowed _ List.mem_cons_self).2
      exact apart (.fixed (.own .entity) (by decide))

end ResourceScaffold
