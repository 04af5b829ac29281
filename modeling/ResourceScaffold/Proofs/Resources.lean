import Mathlib.Data.List.Perm.Basic
import ResourceScaffold.Proofs.Prepared
import ResourceScaffold.Proofs.References

/-!
# What a successful generation consists of

`Resource` holds the parts from which the modules of one entity are made, and `Resource.Of schema naming classes byName e r`
says that these are the parts of the entity `e`, each step having returned. A generation returns only when it has such
parts for every entity (`generate_eq_ok`), and its modules are the blocks of all entities followed by the modules of the
classes that are read. Nothing here asks for a well-typed schema or for the default names.
-/

namespace ResourceScaffold

open Code

/-! ## Modules -/

/-- The module of a class is made from its imports and filters. -/
theorem Descriptor.toModule_eq_ok {d : Descriptor} {entityName : String} {m : SourceModule} :
    d.toModule entityName = .ok m ↔
      ∃ imports filters, d.classImports = .ok imports ∧ d.filters = .ok filters ∧
        m = d.moduleWith entityName imports filters := by
  simp only [toModule, bind_eq_ok, pure_eq_ok, Except.ok.injEq]
  constructor
  · rintro ⟨imports, h, filters, h', rfl⟩
    exact ⟨imports, filters, h, h', rfl⟩
  · rintro ⟨imports, filters, h, h', rfl⟩
    exact ⟨imports, h, filters, h', rfl⟩

/-- A class module lies at the path its class name gives. -/
theorem Descriptor.path_of_toModule {d : Descriptor} {entityName : String} {m : SourceModule}
    (h : d.toModule entityName = .ok m) : m.path = classPath entityName d.name.display := by
  obtain ⟨imports, filters, -, -, rfl⟩ := toModule_eq_ok.1 h
  rfl

/-- The module of a controller is made from its routes. -/
theorem Controller.toModule_eq_ok {c : Controller} {m : SourceModule} :
    c.toModule = .ok m ↔ ∃ endpoints, c.endpoints = .ok endpoints ∧ m = c.moduleWith endpoints := by
  simp only [toModule, bind_eq_ok, pure_eq_ok, Except.ok.injEq]
  exact exists_congr fun _ => and_congr_right fun _ => eq_comm

/-- The module of the tests is made from the samples. -/
theorem testModule_eq_ok {resource entityName service wiring : String} {e : Entity} {ids : Entries} {m : SourceModule} :
    testModule resource entityName service wiring e ids = .ok m ↔
      ∃ plan, TestPlan.ofEntity e ids = .ok plan ∧
        m = plan.moduleWith resource entityName e.name.display service wiring := by
  simp only [testModule, bind_eq_ok, pure_eq_ok, Except.ok.injEq]
  exact exists_congr fun _ => and_congr_right fun _ => eq_comm

/-! ## Enumerations and controllers -/

/-- An enumeration has the name of its field's enumeration. -/
theorem enumName_of_ofField {e : Entity} {f : Field} {d : EnumDescriptor} (h : EnumDescriptor.ofField e f = .ok d) :
    enumName e f = .ok d.name := by
  obtain ⟨_, _, steps⟩ := EnumDescriptor.ofField_eq_ok.1 h
  exact steps.named

/-- The steps by which a controller is made have returned. -/
structure Controller.Made (classes : Table Descriptor) (ids : Entries) (byName : Table Entity) (e : Entity)
    (c : Controller) : Prop where
  read : classes.lookup e.name = .ok c.read
  entityType : e.name = .text c.entityType
  related : e.relationFields.mapM (Controller.relationOf e ids classes byName) = .ok c.relations
  selected : c.read.selection classes = .ok c.select

/-- What a controller is made of: its parts, and the names it was given. -/
theorem Controller.ofEntity_eq_ok {resource entityName service : String} {e : Entity} {inputs : InputDescriptors}
    {classes : Table Descriptor} {ids : Entries} {byName : Table Entity} {c : Controller}
    (h : ofEntity resource entityName service e inputs classes ids byName = .ok c) :
    c.Made classes ids byName e ∧ c.resource = resource ∧ c.entityName = entityName ∧ c.service = service ∧
      c.inputs = inputs := by
  obtain ⟨read, filed, rest⟩ := bind_eq_ok.1 h
  obtain ⟨entityType, text, rest⟩ := bind_eq_ok.1 rest
  obtain ⟨relations, related, rest⟩ := bind_eq_ok.1 rest
  obtain ⟨select, selected, rest⟩ := bind_eq_ok.1 rest
  cases rest
  have name : e.name = .text entityType := by
    cases h : e.name <;> rw [h] at text <;> cases text
    rfl
  exact ⟨⟨filed, name, related, selected⟩, rfl, rfl, rfl, rfl⟩

/-! ## Resources -/

/-- The parts of the modules of an entity. -/
structure Resource where
  /-- The name of the entity. -/
  name : String
  read : Descriptor
  readModule : SourceModule
  inputs : InputDescriptors
  inputModules : List SourceModule
  enumerations : List EnumDescriptor
  controller : Controller
  controllerModule : SourceModule
  tests : SourceModule

namespace Resource

/-- The identifier of a resource. -/
def identifier (naming : NamingStrategy) (r : Resource) : String :=
  (naming r.name).entityName

/-- The service module of a resource. -/
def service (naming : NamingStrategy) (r : Resource) : SourceModule :=
  serviceModule (r.identifier naming) r.name

/-- The wiring module of a resource. -/
def wiring (naming : NamingStrategy) (r : Resource) : SourceModule :=
  wiringModule (naming r.name).modulePath r.name (r.service naming).path r.controllerModule.path

/-- The modules of the enumerations of a resource. -/
def enumModules (naming : NamingStrategy) (r : Resource) : List SourceModule :=
  r.enumerations.map fun d => d.toModule (r.identifier naming)

/-- The modules of a resource, without that of the class that is read. -/
def block (naming : NamingStrategy) (r : Resource) : List SourceModule :=
  r.inputModules ++ r.enumModules naming ++ [r.service naming, r.controllerModule, r.wiring naming, r.tests]

/-- The parts of the modules of the entity `e`. -/
structure Of (schema : Schema) (naming : NamingStrategy) (classes : Table Descriptor) (byName : Table Entity)
    (e : Entity) (r : Resource) : Prop where
  name : e.name = .text r.name
  read : entityDescriptor e schema.ids = .ok r.read
  readModule : r.read.toModule (r.identifier naming) = .ok r.readModule
  inputs : inputDescriptors e schema.ids = .ok r.inputs
  inputModules : r.inputs.toList.mapM (fun d => d.toModule (r.identifier naming)) = .ok r.inputModules
  enumerations : e.enumFields.mapM (EnumDescriptor.ofField e) = .ok r.enumerations
  controller :
    Controller.ofEntity (naming r.name).resource (r.identifier naming) (r.service naming).path e r.inputs classes
      schema.ids byName = .ok r.controller
  controllerModule : r.controller.toModule = .ok r.controllerModule
  tests :
    testModule (naming r.name).resource (r.identifier naming) (r.service naming).path (r.wiring naming).path e schema.ids
      = .ok r.tests

/-- A resource keeps the identifier of its entity. -/
theorem Of.identifier_eq {schema : Schema} {naming : NamingStrategy} {classes : Table Descriptor}
    {byName : Table Entity} {e : Entity} {r : Resource} (h : Of schema naming classes byName e r) :
    e.identifier naming = r.identifier naming := by
  rw [Entity.identifier, h.name, Value.display_text, identifier]

/-- The data classes of a resource are those of its entity. -/
theorem Of.isClassOf {schema : Schema} {naming : NamingStrategy} {classes : Table Descriptor} {byName : Table Entity}
    {e : Entity} {r : Resource} (h : Of schema naming classes byName e r) {d : Descriptor}
    (listed : d ∈ r.read :: r.inputs.toList) : d.IsClassOf schema.ids e := by
  rcases List.mem_cons.1 listed with rfl | input
  · exact .read h.read
  · exact InputDescriptors.isClassOf h.inputs input

end Resource

/-! ## Batches -/

/-- All results of a batch are returned iff none failed. -/
theorem gather_eq_ok {α : Type} {results : List (Except Fault α)} {values : List α} :
    gather results = .ok values ↔ List.Forall₂ (fun x a => x = .ok a) results values := by
  have steps : List.Forall₂ (fun x a => x = .ok a) results values ↔ results.mapM id = .ok values := mapM_eq_ok.symm
  rw [steps, gather]
  cases results.mapM id with
  | ok values' => simp
  | error fault => cases results.findSome? misuse? <;> simp

section outcomes

variable {schema : Schema} {naming : NamingStrategy} {classes : Table Descriptor} {byName : Table Entity}
  {ids : Entries} {e : Entity}

/-- The modules of an entity, step by step. -/
theorem outcome_resourceModules :
    (resourceModules ids classes byName naming e).outcome = (do
      checkEntityName e.name
      let name ← e.name.asText
      let names := naming name
      let inputs ← inputDescriptors e ids
      let data ← dataModules e inputs names.entityName
      let service := serviceModule names.entityName name
      let controller ← Controller.ofEntity names.resource names.entityName service.path e inputs classes ids byName
      let controllerModule ← controller.toModule
      let wiring := wiringModule names.modulePath name service.path controllerModule.path
      let tests ← testModule names.resource names.entityName service.path wiring.path e ids
      return data ++ [service, controllerModule, wiring, tests]) := by
  simp [resourceModules]

/-- The generation of all modules, step by step. -/
theorem outcome_generate :
    (schema.generate naming).outcome = (do
      let byName ← entitiesByName schema.entities
      let classes ← entityClasses schema.entities schema.ids naming
      let modules ← gather (schema.entities.map fun e =>
        (resourceModules schema.ids classes byName naming e).outcome)
      let shared ← classModules classes naming
      return modules.flatten ++ shared) := by
  simp [Schema.generate, Function.comp_def]

/-- The modules of an entity are made from its parts. -/
theorem exists_resource (h : schema.Prepared naming classes byName) (member : e ∈ schema.entities)
    {block : List SourceModule} {readModule : SourceModule} {read : Descriptor}
    (made : (resourceModules schema.ids classes byName naming e).outcome = .ok block)
    (described : entityDescriptor e schema.ids = .ok read)
    (shared : read.toModule (e.identifier naming) = .ok readModule) :
    ∃ r, Resource.Of schema naming classes byName e r ∧ r.block naming = block ∧ r.readModule = readModule := by
  obtain ⟨name, text⟩ := h.text member
  rw [outcome_resourceModules, h.named member, ok_bind, text, Value.asText_text, ok_bind] at made
  obtain ⟨inputs, inputsMade, rest⟩ := bind_eq_ok.1 made
  obtain ⟨data, dataMade, rest⟩ := bind_eq_ok.1 rest
  obtain ⟨controller, controllerMade, rest⟩ := bind_eq_ok.1 rest
  obtain ⟨controllerModule, controllerRendered, rest⟩ := bind_eq_ok.1 rest
  obtain ⟨tests, testsMade, rest⟩ := bind_eq_ok.1 rest
  obtain ⟨enumerations, enumerationsMade, dataRest⟩ := bind_eq_ok.1 dataMade
  obtain ⟨inputModules, inputsRendered, dataRest⟩ := bind_eq_ok.1 dataRest
  cases dataRest
  cases rest
  rw [Entity.identifier, text, Value.display_text] at shared
  exact ⟨{ name, read, readModule, inputs, inputModules, enumerations, controller, controllerModule, tests },
    { name := text, read := described, readModule := shared, inputs := inputsMade, inputModules := inputsRendered,
      enumerations := enumerationsMade, controller := controllerMade, controllerModule := controllerRendered,
      tests := testsMade }, rfl, rfl⟩

/-- The classes of a batch are made, and each entity has the parts of its modules. -/
structure Schema.Generated (schema : Schema) (naming : NamingStrategy) (classes : Table Descriptor)
    (byName : Table Entity) (rs : List Resource) : Prop where
  prepared : schema.Prepared naming classes byName
  resources : List.Forall₂ (Resource.Of schema naming classes byName) schema.entities rs

variable {rs : List Resource}

/-- Every resource was made from an entity of the schema. -/
theorem Schema.Generated.owner (h : schema.Generated naming classes byName rs) {r : Resource} (member : r ∈ rs) :
    ∃ e ∈ schema.entities, Resource.Of schema naming classes byName e r :=
  exists_left_of_forall₂ h.resources member

/-- Every entity of the schema has its resource. -/
theorem Schema.Generated.resource (h : schema.Generated naming classes byName rs) (member : e ∈ schema.entities) :
    ∃ r ∈ rs, Resource.Of schema naming classes byName e r :=
  exists_right_of_forall₂ h.resources member

/-- Resources have different identifiers. -/
theorem Schema.Generated.identifiers_nodup (h : schema.Generated naming classes byName rs) :
    (rs.map (Resource.identifier naming)).Nodup := by
  rw [← map_eq_map_of_forall₂ h.resources fun e r of => of.identifier_eq]
  exact h.prepared.identifiers_nodup

/-- The controller of a resource is made from its other parts. -/
theorem Schema.Generated.controller_eq (h : schema.Generated naming classes byName rs) (member : e ∈ schema.entities)
    {r : Resource} (of : Resource.Of schema naming classes byName e r) :
    r.controller.read = r.read ∧ r.controller.entityType = r.name ∧ r.controller.inputs = r.inputs ∧
      r.controller.service = (r.service naming).path ∧ r.controller.entityName = r.identifier naming ∧
      r.controller.resource = (naming r.name).resource := by
  obtain ⟨made, resource, entityName, service, inputs⟩ := Controller.ofEntity_eq_ok of.controller
  refine ⟨?_, ?_, inputs, service, entityName, resource⟩
  · obtain ⟨e', member', same, read⟩ := h.prepared.lookup_eq_ok.1 made.read
    rw [h.prepared.eq_of_name_eq member' member same, of.read] at read
    exact (Except.ok.inj read).symm
  · have name := made.entityType
    rw [of.name] at name
    exact (Value.text.inj name).symm

/-- Each relation of a controller is made from a relation field of its entity and from the class that is read of a
resource. -/
theorem Schema.Generated.relation (h : schema.Generated naming classes byName rs) {r : Resource}
    (of : Resource.Of schema naming classes byName e r) {relation : Relation} (listed : relation ∈ r.controller.relations) :
    relation.field ∈ e.relationFields ∧ ∃ r' ∈ rs, r'.name = relation.entity ∧ r'.read = relation.target ∧
      relatedName e relation.field schema.ids = .ok (.text r'.name) := by
  obtain ⟨made, -⟩ := Controller.ofEntity_eq_ok of.controller
  obtain ⟨f, field, step⟩ := exists_mem_of_mapM_eq_ok made.related listed
  obtain ⟨rfl, t, member, related, name, read⟩ := h.prepared.relationOf_eq_ok.1 step
  obtain ⟨r', listed', of'⟩ := h.resource member
  rw [of'.name] at name
  rw [of'.read] at read
  rw [of'.name] at related
  exact ⟨field, r', listed', Value.text.inj name, Except.ok.inj read, related⟩

/-- Each relation field of an entity leads to a resource. -/
theorem Schema.Generated.target (h : schema.Generated naming classes byName rs) {r : Resource}
    (of : Resource.Of schema naming classes byName e r) {f : Field} (field : f ∈ e.relationFields) :
    ∃ r' ∈ rs, relatedName e f schema.ids = .ok (.text r'.name) := by
  obtain ⟨made, -⟩ := Controller.ofEntity_eq_ok of.controller
  obtain ⟨relation, listed, step⟩ := mem_results_of_mapM_eq_ok made.related field
  obtain ⟨rfl, -⟩ := h.prepared.relationOf_eq_ok.1 step
  obtain ⟨-, r', listed', -, -, related⟩ := h.relation of listed
  exact ⟨r', listed', related⟩

/-- A generation returns only when every entity has its parts, and then the modules of those. -/
theorem generate_eq_ok {modules : List SourceModule} (h : (schema.generate naming).outcome = .ok modules) :
    ∃ classes byName rs, schema.Generated naming classes byName rs ∧
      modules = rs.flatMap (Resource.block naming) ++ rs.map Resource.readModule := by
  rw [outcome_generate] at h
  obtain ⟨byName, entities, rest⟩ := bind_eq_ok.1 h
  obtain ⟨classes, made, rest⟩ := bind_eq_ok.1 rest
  obtain ⟨blocks, gathered, rest⟩ := bind_eq_ok.1 rest
  obtain ⟨shared, rendered, rest⟩ := bind_eq_ok.1 rest
  cases rest
  have prepared : schema.Prepared naming classes byName := ⟨registered_of_entityClasses made, entities⟩
  have filed := prepared.registered.classes_of_no_defects
  have each := List.forall₂_map_left_iff.1 (gather_eq_ok.1 gathered)
  have reads := forall₂_comp filed (mapM_eq_ok.1 rendered)
  obtain ⟨rs, of, blocksEq, sharedEq⟩ := exists_forall₂_of_both each reads
    (T := Resource.Of schema naming classes byName) (f := Resource.block naming) (g := Resource.readModule)
    fun e block readModule member blockMade ⟨entry, ⟨name, described⟩, sharedMade⟩ => by
      obtain ⟨first, read⟩ := entry
      cases name
      exact exists_resource prepared member blockMade described sharedMade
  exact ⟨classes, byName, rs, ⟨prepared, of⟩, by rw [← blocksEq, ← sharedEq, List.flatMap]⟩

/-- The modules of a generation, those of each resource together. -/
theorem modules_perm (naming : NamingStrategy) (rs : List Resource) :
    (rs.flatMap (Resource.block naming) ++ rs.map Resource.readModule).Perm
      (rs.flatMap fun r => r.block naming ++ [r.readModule]) := by
  rw [List.map_eq_flatMap]
  exact List.flatMap_append_perm rs _ _

end outcomes

end ResourceScaffold
