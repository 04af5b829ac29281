import Mathlib.Algebra.Ring.Nat
import ResourceScaffold.Proofs.FileNames

/-!
# The modules of each entity

`EntityModules` names the modules of one entity, and `Schema.entityModules` makes them, one step for each. The output of a
generation is the blocks of all entities, in order, and then the module of the class that is read of each entity; a
generation returns iff all those modules can be made (`generate_eq_ok_iff`).

* A generation with the default names lays out its modules in this way, and each entity has a directory of its own
  (`generate_laidOut`).
* What the batch adds to the modules of an entity is its controller, which is made from the classes and the entities that are
  filed under names (`Schema.Prepared.controllerModule_eq`).
-/

namespace ResourceScaffold

open Code

/-! ## The modules of an entity -/

/-- The modules of one entity. -/
structure EntityModules where
  createInput : SourceModule
  updateInput : SourceModule
  whereInput : SourceModule
  whereUniqueInput : SourceModule
  /-- One for each field that holds options. -/
  enumerations : List SourceModule
  service : SourceModule
  controller : SourceModule
  wiring : SourceModule
  tests : SourceModule
  /-- The module of the class that is read. -/
  read : SourceModule
  deriving Inhabited

namespace EntityModules

/-- The modules that stand together in the output. -/
def block (p : EntityModules) : List SourceModule :=
  [p.createInput, p.updateInput, p.whereInput, p.whereUniqueInput] ++ p.enumerations ++
    [p.service, p.controller, p.wiring, p.tests]

/-- All modules of an entity. -/
def all (p : EntityModules) : List SourceModule :=
  p.block ++ [p.read]

/-- An entity has eight modules, and one more for each enum. -/
theorem length_block (p : EntityModules) : p.block.length = 8 + p.enumerations.length := by
  simp only [block, List.length_append, List.length_cons, List.length_nil]
  omega

end EntityModules

/-- The class of a kind. -/
def Entity.descriptor (ids : Entries) (e : Entity) : DescriptorKind → Except Fault Descriptor
  | .entity => entityDescriptor e ids
  | .createInput => createDescriptor e ids
  | .updateInput => updateDescriptor e ids
  | .whereInput => whereDescriptor e ids
  | .whereUniqueInput => whereUniqueDescriptor e

/-- The module of the class of a kind. -/
def Entity.classModule (naming : NamingStrategy) (ids : Entries) (e : Entity) (kind : DescriptorKind) :
    Except Fault SourceModule := do
  let d ← e.descriptor ids kind
  d.toModule (e.identifier naming)

/-- The modules of the enumerations, in the order of their fields. -/
def Entity.enumModules (naming : NamingStrategy) (e : Entity) : Except Fault (List SourceModule) :=
  e.enumFields.mapM fun f => do
    let d ← EnumDescriptor.ofField e f
    return d.toModule (e.identifier naming)

/-- The controller of an entity, among those of a schema. -/
def Schema.controllerModule (schema : Schema) (naming : NamingStrategy) (e : Entity) : Except Fault SourceModule := do
  let classes ← entityClasses schema.entities schema.ids naming
  let byName ← entitiesByName schema.entities
  let name ← e.name.asText
  let inputs ← inputDescriptors e schema.ids
  let c ← Controller.ofEntity (naming name).resource (e.identifier naming) (servicePath (e.identifier naming)) e inputs
    classes schema.ids byName
  c.toModule

/-- The modules of an entity, among those of a schema. -/
def Schema.entityModules (schema : Schema) (naming : NamingStrategy) (e : Entity) : Except Fault EntityModules := do
  let name ← e.name.asText
  let createInput ← e.classModule naming schema.ids .createInput
  let updateInput ← e.classModule naming schema.ids .updateInput
  let whereInput ← e.classModule naming schema.ids .whereInput
  let whereUniqueInput ← e.classModule naming schema.ids .whereUniqueInput
  let enumerations ← e.enumModules naming
  let service := serviceModule (e.identifier naming) name
  let controller ← schema.controllerModule naming e
  let wiring := wiringModule (naming name).modulePath name service.path controller.path
  let tests ← testModule (naming name).resource (e.identifier naming) service.path wiring.path e schema.ids
  let read ← e.classModule naming schema.ids .entity
  return { createInput, updateInput, whereInput, whereUniqueInput, enumerations, service, controller, wiring, tests, read }

/-- The output is made of the modules of each entity: their blocks in order, and then what is read of each entity. -/
structure Schema.LaidOut (schema : Schema) (naming : NamingStrategy) (parts : Entity → EntityModules)
    (modules : List SourceModule) : Prop where
  made : ∀ e ∈ schema.entities, schema.entityModules naming e = .ok (parts e)
  listed : modules = schema.entities.flatMap (fun e => (parts e).block) ++ schema.entities.map fun e => (parts e).read

/-- The steps by which the modules of an entity are made have returned. -/
structure EntityModules.Made (schema : Schema) (naming : NamingStrategy) (e : Entity) (p : EntityModules) : Prop where
  createInput : e.classModule naming schema.ids .createInput = .ok p.createInput
  updateInput : e.classModule naming schema.ids .updateInput = .ok p.updateInput
  whereInput : e.classModule naming schema.ids .whereInput = .ok p.whereInput
  whereUniqueInput : e.classModule naming schema.ids .whereUniqueInput = .ok p.whereUniqueInput
  enumerations : e.enumModules naming = .ok p.enumerations
  controller : schema.controllerModule naming e = .ok p.controller
  service : ∀ name, e.name = .text name → p.service = serviceModule (e.identifier naming) name
  wiring : ∀ name, e.name = .text name →
    p.wiring = wiringModule (naming name).modulePath name p.service.path p.controller.path
  tests : ∀ name, e.name = .text name →
    testModule (naming name).resource (e.identifier naming) p.service.path p.wiring.path e schema.ids = .ok p.tests
  read : e.classModule naming schema.ids .entity = .ok p.read

/-! ## Parts and modules -/

variable {schema : Schema} {naming : NamingStrategy} {classes : Table Descriptor} {byName : Table Entity} {e : Entity}
  {r : Resource} {p : EntityModules} {modules : List SourceModule}

/-- The module of a class is written where the class's own module is. -/
theorem Entity.classModule_eq_ok {ids : Entries} (kind : DescriptorKind) {d : Descriptor} {m : SourceModule}
    (made : e.descriptor ids kind = .ok d) :
    e.classModule naming ids kind = .ok m ↔ d.toModule (e.identifier naming) = .ok m := by
  rw [classModule, made, ok_bind]

/-- The enumerations of an entity give its modules of enumerations. -/
theorem Entity.enumModules_eq_ok {modules : List SourceModule} :
    e.enumModules naming = .ok modules ↔
      ∃ ds, e.enumFields.mapM (EnumDescriptor.ofField e) = .ok ds ∧
        modules = ds.map fun d => d.toModule (e.identifier naming) := by
  simp only [enumModules, mapM_eq_ok, bind_eq_ok, pure_eq_ok, Except.ok.injEq]
  constructor
  · generalize e.enumFields = fields
    intro steps
    induction steps with
    | nil => exact ⟨[], .nil, rfl⟩
    | cons step _ ih =>
        obtain ⟨d, made, rfl⟩ := step
        obtain ⟨ds, others, rfl⟩ := ih
        exact ⟨d :: ds, .cons made others, rfl⟩
  · rintro ⟨ds, made, rfl⟩
    exact List.forall₂_map_right_iff.2 (made.imp fun f d step => ⟨d, step, rfl⟩)

/-- The controller of an entity is made from what is filed for its batch. -/
theorem Schema.Prepared.controllerModule_eq (h : schema.Prepared naming classes byName) {name : String}
    (text : e.name = .text name) :
    schema.controllerModule naming e = (do
      let inputs ← inputDescriptors e schema.ids
      let c ← Controller.ofEntity (naming name).resource (e.identifier naming) (servicePath (e.identifier naming)) e inputs
        classes schema.ids byName
      c.toModule) := by
  rw [controllerModule, h.classes_eq, ok_bind, h.entities, ok_bind, text, Value.asText_text, ok_bind]

/-- Where the modules of an entity were made, each step of their making returned. -/
theorem EntityModules.made (h : schema.entityModules naming e = .ok p) : p.Made schema naming e := by
  obtain ⟨name, text, h⟩ := bind_eq_ok.1 h
  obtain ⟨createInput, createMade, h⟩ := bind_eq_ok.1 h
  obtain ⟨updateInput, updateMade, h⟩ := bind_eq_ok.1 h
  obtain ⟨whereInput, filterMade, h⟩ := bind_eq_ok.1 h
  obtain ⟨whereUniqueInput, uniqueMade, h⟩ := bind_eq_ok.1 h
  obtain ⟨enumerations, enumsMade, h⟩ := bind_eq_ok.1 h
  obtain ⟨controller, controllerMade, h⟩ := bind_eq_ok.1 h
  obtain ⟨tests, testsMade, h⟩ := bind_eq_ok.1 h
  obtain ⟨read, readMade, h⟩ := bind_eq_ok.1 h
  cases h
  have same {name' : String} (text' : e.name = .text name') : name = name' := by
    rw [text', Value.asText_text] at text
    exact (Except.ok.inj text).symm
  exact
    { createInput := createMade, updateInput := updateMade, whereInput := filterMade, whereUniqueInput := uniqueMade
      enumerations := enumsMade, controller := controllerMade, read := readMade
      service := fun _ text => same text ▸ rfl
      wiring := fun _ text => same text ▸ rfl
      tests := fun _ text => same text ▸ testsMade }

/-- The parts of an entity give its modules. -/
theorem Resource.Of.entityModules (h : Of schema naming classes byName e r) (prepared : schema.Prepared naming classes byName) :
    ∃ p, schema.entityModules naming e = .ok p ∧ p.block = r.block naming ∧ p.read = r.readModule := by
  obtain ⟨create, update, filter, unique⟩ := inputDescriptors_eq_ok.1 h.inputs
  have inputs := mapM_eq_ok.1 h.inputModules
  rw [← h.identifier_eq] at inputs
  simp only [InputDescriptors.toList, List.forall₂_cons_left_iff, List.forall₂_nil_left_iff] at inputs
  obtain ⟨m₁, _, createModule, ⟨m₂, _, updateModule, ⟨m₃, _, filterModule, ⟨m₄, _, uniqueModule, rfl, rfl⟩, rfl⟩, rfl⟩, listed⟩ :=
    inputs
  have enumerations : e.enumModules naming = .ok (r.enumModules naming) :=
    Entity.enumModules_eq_ok.2 ⟨_, h.enumerations, by rw [enumModules, h.identifier_eq]⟩
  have controller : schema.controllerModule naming e = .ok r.controllerModule := by
    rw [prepared.controllerModule_eq h.name, h.inputs, ok_bind, h.identifier_eq]
    exact bind_eq_ok.2 ⟨_, h.controller, h.controllerModule⟩
  have readModule := h.readModule
  rw [← h.identifier_eq] at readModule
  let p : EntityModules :=
    { createInput := m₁, updateInput := m₂, whereInput := m₃, whereUniqueInput := m₄
      enumerations := r.enumModules naming, service := r.service naming, controller := r.controllerModule
      wiring := r.wiring naming, tests := r.tests, read := r.readModule }
  refine ⟨p, ?_, ?_, rfl⟩
  · rw [Schema.entityModules, h.name, Value.asText_text, ok_bind, (Entity.classModule_eq_ok .createInput create).2 createModule,
      ok_bind, (Entity.classModule_eq_ok .updateInput update).2 updateModule, ok_bind,
      (Entity.classModule_eq_ok .whereInput filter).2 filterModule, ok_bind,
      (Entity.classModule_eq_ok .whereUniqueInput unique).2 uniqueModule, ok_bind, enumerations, ok_bind, controller,
      ok_bind, (Entity.classModule_eq_ok .entity h.read).2 readModule, h.identifier_eq]
    exact bind_eq_ok.2 ⟨_, h.tests, rfl⟩
  · rw [block, listed]
    rfl

/-- The modules of an entity come from its parts. -/
theorem Schema.Prepared.exists_of (prepared : schema.Prepared naming classes byName) (member : e ∈ schema.entities)
    (made : schema.entityModules naming e = .ok p) :
    ∃ r, Resource.Of schema naming classes byName e r ∧ r.block naming = p.block ∧ r.readModule = p.read := by
  have made := EntityModules.made made
  obtain ⟨name, text⟩ := prepared.text member
  have identifier : e.identifier naming = (naming name).entityName := by rw [Entity.identifier, text, Value.display_text]
  have controllerMade := made.controller
  rw [prepared.controllerModule_eq text] at controllerMade
  obtain ⟨inputs, inputsMade, controllerMade⟩ := bind_eq_ok.1 controllerMade
  obtain ⟨controller, controllerMade, controllerRendered⟩ := bind_eq_ok.1 controllerMade
  obtain ⟨create, update, filter, unique⟩ := inputDescriptors_eq_ok.1 inputsMade
  obtain ⟨enumerations, enumerationsMade, enumModules⟩ := Entity.enumModules_eq_ok.1 made.enumerations
  obtain ⟨read, described, readRendered⟩ := bind_eq_ok.1 made.read
  have inputModules : inputs.toList.mapM (fun d => d.toModule (e.identifier naming)) =
      .ok [p.createInput, p.updateInput, p.whereInput, p.whereUniqueInput] :=
    mapM_eq_ok.2 (.cons ((Entity.classModule_eq_ok .createInput create).1 made.createInput)
      (.cons ((Entity.classModule_eq_ok .updateInput update).1 made.updateInput)
        (.cons ((Entity.classModule_eq_ok .whereInput filter).1 made.whereInput)
          (.cons ((Entity.classModule_eq_ok .whereUniqueInput unique).1 made.whereUniqueInput) .nil))))
  have service := made.service name text
  have wiring := made.wiring name text
  have tests := made.tests name text
  rw [identifier] at inputModules readRendered controllerMade enumModules service tests
  rw [wiring, service] at tests
  let r : Resource :=
    { name, read, readModule := p.read, inputs, enumerations, controller, controllerModule := p.controller, tests := p.tests
      inputModules := [p.createInput, p.updateInput, p.whereInput, p.whereUniqueInput] }
  have of : Resource.Of schema naming classes byName e r :=
    { name := text, read := described, readModule := readRendered, inputs := inputsMade, inputModules
      enumerations := enumerationsMade, controller := controllerMade, controllerModule := controllerRendered, tests }
  refine ⟨r, of, ?_, rfl⟩
  rw [EntityModules.block, enumModules, wiring, service]
  rfl

/-- The block of an entity is made from its parts. -/
theorem Resource.Of.outcome_eq (h : Of schema naming classes byName e r) (named : checkEntityName e.name = .ok ()) :
    (resourceModules schema.ids classes byName naming e).outcome = .ok (r.block naming) := by
  have data : dataModules e r.inputs (r.identifier naming) = .ok (r.inputModules ++ r.enumModules naming) := by
    rw [dataModules, h.enumerations, ok_bind, h.inputModules]
    rfl
  rw [outcome_resourceModules, named, ok_bind, h.name, Value.asText_text, ok_bind, h.inputs, ok_bind]
  refine bind_eq_ok.2 ⟨_, data, bind_eq_ok.2 ⟨_, h.controller, bind_eq_ok.2 ⟨_, h.controllerModule, ?_⟩⟩⟩
  exact bind_eq_ok.2 ⟨_, h.tests, rfl⟩

/-- A batch whose entities have their parts is generated. -/
theorem Schema.Generated.generate_eq {rs : List Resource} (h : schema.Generated naming classes byName rs) :
    (schema.generate naming).outcome =
      .ok (rs.flatMap (Resource.block naming) ++ rs.map Resource.readModule) := by
  have gathered : gather (schema.entities.map fun e => (resourceModules schema.ids classes byName naming e).outcome) =
      .ok (rs.map (Resource.block naming)) := by
    rw [gather_eq_ok, List.forall₂_map_left_iff, List.forall₂_map_right_iff]
    exact ((List.forall₂_and_left _ _).2 ⟨fun e => h.prepared.named, h.resources⟩).imp fun e r both => both.2.outcome_eq both.1
  have shared : classModules classes naming = .ok (rs.map Resource.readModule) := by
    rw [classModules, mapM_eq_ok, List.forall₂_map_right_iff]
    refine (forall₂_comp h.prepared.registered.classes_of_no_defects.flip h.resources).imp ?_
    rintro ⟨name, d⟩ r ⟨e, ⟨rfl, described⟩, of⟩
    rw [of.read] at described
    cases described
    have readModule := of.readModule
    rwa [← of.identifier_eq] at readModule
  rw [outcome_generate, h.prepared.entities, ok_bind, h.prepared.classes_eq, ok_bind, gathered, ok_bind, shared, ok_bind,
    List.flatMap]
  rfl

/-! ## The output of a generation -/

/-- Parts that are listed for each entity give the layout of the output. -/
theorem Schema.Generated.laidOut {rs : List Resource} (h : schema.Generated naming classes byName rs) :
    ∃ parts, schema.LaidOut naming parts (rs.flatMap (Resource.block naming) ++ rs.map Resource.readModule) := by
  have each : ∀ e ∈ schema.entities, ∃ p, schema.entityModules naming e = .ok p := by
    intro e member
    obtain ⟨r, -, of⟩ := h.resource member
    obtain ⟨p, made, -⟩ := of.entityModules h.prepared
    exact ⟨p, made⟩
  choose! parts made using each
  have listed : ∀ e r, e ∈ schema.entities ∧ Resource.Of schema naming classes byName e r →
      (parts e).block = r.block naming ∧ (parts e).read = r.readModule := by
    rintro e r ⟨member, of⟩
    obtain ⟨p, made', block, read⟩ := of.entityModules h.prepared
    rw [made e member] at made'
    cases made'
    exact ⟨block, read⟩
  have both := (List.forall₂_and_left _ _).2 ⟨fun _ member => member, h.resources⟩
  refine ⟨parts, made, ?_⟩
  rw [List.flatMap, List.flatMap, map_eq_map_of_forall₂ both fun e r of => (listed e r of).1,
    map_eq_map_of_forall₂ both fun e r of => (listed e r of).2]

/-- The modules of an entity can only be made in a batch that is prepared. -/
theorem Schema.LaidOut.prepared {parts : Entity → EntityModules} (h : schema.LaidOut naming parts modules) :
    ∃ classes byName, schema.Prepared naming classes byName := by
  cases entities : schema.entities with
  | nil => exact ⟨[], [], by rw [entities]; exact .nil, by rw [entities]; rfl⟩
  | cons e rest =>
      have made := EntityModules.made (h.made e (entities ▸ List.mem_cons_self))
      obtain ⟨classes, described, rendered⟩ := bind_eq_ok.1 made.controller
      obtain ⟨byName, tabled, -⟩ := bind_eq_ok.1 rendered
      exact ⟨classes, byName, registered_of_entityClasses described, tabled⟩

/-- A generation returns iff the modules of each entity can be made, and then it returns those. -/
theorem generate_eq_ok_iff :
    (schema.generate naming).outcome = .ok modules ↔ ∃ parts, schema.LaidOut naming parts modules := by
  constructor
  · intro returned
    obtain ⟨classes, byName, rs, generated, rfl⟩ := generate_eq_ok returned
    exact generated.laidOut
  · rintro ⟨parts, laidOut⟩
    obtain ⟨classes, byName, prepared⟩ := laidOut.prepared
    obtain ⟨rs, each⟩ := exists_forall₂ fun e member => prepared.exists_of member (laidOut.made e member)
    have generated : schema.Generated naming classes byName rs := ⟨prepared, each.imp fun e r of => of.1⟩
    rw [generated.generate_eq, laidOut.listed, List.flatMap, List.flatMap,
      map_eq_map_of_forall₂ each fun e r of => of.2.1.symm, map_eq_map_of_forall₂ each fun e r of => of.2.2.symm]

/-- The number of modules of a layout. -/
theorem Schema.LaidOut.length_eq {parts : Entity → EntityModules} (h : schema.LaidOut naming parts modules) :
    modules.length = (schema.entities.map fun e => 8 + e.enumFields.length).sum + schema.entities.length := by
  have block : ∀ e ∈ schema.entities, (parts e).block.length = 8 + e.enumFields.length := by
    intro e member
    have enumerations := mapM_eq_ok.1 (EntityModules.made (h.made e member)).enumerations
    rw [EntityModules.length_block, enumerations.length_eq]
  rw [h.listed, List.length_append, List.length_flatMap, List.length_map, List.map_congr_left block]

/-- The paths of the modules of an entity in the directory of its identifier: four classes, the enumerations, the other
files, and the class that is read. -/
def Entity.paths (e : Entity) : Except Fault (List String) := do
  let enumerations ← e.enumFields.mapM (enumName e)
  let directory := e.identifier ResourceNaming.derive
  let inputs : List DescriptorKind := [.createInput, .updateInput, .whereInput, .whereUniqueInput]
  return inputs.map (fun kind => classPath directory (e.name.display ++ kind.suffix)) ++
    enumerations.map (fun name => classPath directory name.display) ++
    (resourceFiles directory).map (directory ++ "/" ++ ·) ++
    [classPath directory e.name.display]

/-- The modules of an entity have the paths that follow from the entity alone, in this order. -/
theorem Resource.Of.paths_eq (h : Of schema ResourceNaming.derive classes byName e r) :
    e.paths = .ok ((r.block ResourceNaming.derive ++ [r.readModule]).map SourceModule.path) := by
  have names : r.inputs.toList.map Descriptor.name =
      [.createInput, .updateInput, .whereInput, .whereUniqueInput].map fun kind =>
        .text (r.name ++ DescriptorKind.suffix kind) :=
    congrArg List.tail (classes_names h.name h.read h.inputs)
  have inputs : r.inputs.toList.map (fun d => classPath (r.identifier ResourceNaming.derive) d.name.display) =
      (r.inputs.toList.map Descriptor.name).map fun v => classPath (r.identifier ResourceNaming.derive) v.display := by
    rw [List.map_map]
    rfl
  have read : r.readModule.path = classPath (r.identifier ResourceNaming.derive) r.name := by
    rw [Descriptor.path_of_toModule h.readModule, name_of_entityDescriptor h.read, h.name, Value.display_text]
  rw [Entity.paths, h.enumNames, ok_bind, List.map_append, List.map_singleton, read, block, List.map_append,
    List.map_append, h.inputModules_paths, h.files_paths, h.identifier_eq, h.name, Value.display_text, inputs, names,
    enumModules]
  simp only [List.map_map]
  rfl

/-- A generation lays out the modules of each entity, and each entity has a directory of its own for its modules. -/
theorem generate_laidOut (h : (schema.generate ResourceNaming.derive).outcome = .ok modules) :
    ∃ parts, schema.LaidOut ResourceNaming.derive parts modules ∧
      modules.length = (schema.entities.map fun e => 8 + e.enumFields.length).sum + schema.entities.length ∧
      (∀ e ∈ schema.entities,
        e.paths = .ok ((parts e).all.map SourceModule.path) ∧
        IsFileName (e.identifier ResourceNaming.derive) ∧
        ∀ m ∈ (parts e).all, LiesIn (e.identifier ResourceNaming.derive) m.path) ∧
      (schema.entities.map (Entity.identifier ResourceNaming.derive)).Nodup := by
  obtain ⟨parts, laidOut⟩ := generate_eq_ok_iff.1 h
  obtain ⟨classes, byName, prepared⟩ := laidOut.prepared
  refine ⟨parts, laidOut, laidOut.length_eq, fun e member => ?_, prepared.identifiers_nodup⟩
  obtain ⟨r, of, block, read⟩ := prepared.exists_of member (laidOut.made e member)
  have named := prepared.named member
  have identifier := isFileName_identifier (of.name ▸ named)
  rw [EntityModules.all, ← block, ← read]
  exact ⟨of.paths_eq, of.identifier_eq ▸ identifier, fun m listed => of.identifier_eq ▸ of.liesIn named listed⟩

/-- The generation of the schema of a blog: nine modules for the posts, which have an enumeration, eight for the users, and
two classes that are read. -/
theorem Schema.blog_laidOut : ∃ modules parts, (blog.generate ResourceNaming.derive).outcome = .ok modules ∧
    blog.LaidOut ResourceNaming.derive parts modules ∧ modules.length = 19 ∧
    (∀ e ∈ blog.entities, e.paths = .ok ((parts e).all.map SourceModule.path) ∧
      IsFileName (e.identifier ResourceNaming.derive) ∧
      ∀ m ∈ (parts e).all, LiesIn (e.identifier ResourceNaming.derive) m.path) ∧
    (blog.entities.map (Entity.identifier ResourceNaming.derive)).Nodup := by
  obtain ⟨modules, generated⟩ := generate_of_acceptable blog_wellTyped blog_acceptable
  obtain ⟨parts, laidOut, length, separate, distinct⟩ := generate_laidOut generated
  exact ⟨modules, parts, generated, laidOut, length, separate, distinct⟩

end ResourceScaffold
