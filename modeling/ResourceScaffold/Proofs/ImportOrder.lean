import ResourceScaffold.Proofs.Linking
import ResourceScaffold.Proofs.Paths

/-!
# Generated modules can be loaded in any order

Relations lead from entity to entity in any way, also in circles, and the classes of related entities import each other. The
modules of a generation are nevertheless layered (`Schema.Generated.layered`): a data class imports enumerations and classes
that identify before its own class, and these import nothing; the classes of its own level it imports after its class. So
whichever module is loaded first, no import reads a name that is not bound yet (`generate_loads_bound_names`).
-/

namespace ResourceScaffold

open Code

/-! ## Levels -/

/-- The level of the module with a path. -/
def levelOf (parts : List (Part × SourceModule)) (path : String) : Nat :=
  match parts.find? fun p => p.2.path == path with
  | some p => p.1.level
  | none => 0

/-- The level found under a module's path is that of its part. -/
theorem levelOf_path {parts : List (Part × SourceModule)} (distinct : (parts.map fun p => p.2.path).Nodup) {part : Part}
    {m : SourceModule} (member : (part, m) ∈ parts) : levelOf parts m.path = part.level := by
  rw [levelOf]
  cases found : parts.find? fun p => p.2.path == m.path with
  | none =>
      have other := List.find?_eq_none.1 found _ member
      simp at other
  | some p =>
      have same : p.2.path = m.path := by simpa using List.find?_some found
      rw [List.inj_on_of_nodup_map distinct (List.mem_of_find?_eq_some found) member same]

/-- Names can be taken from a module of a batch at a level. -/
def LeadsToLevel (rs : List Resource) (source : String) (names : List String) (n : Nat) : Prop :=
  ∃ r ∈ rs, ∃ part m, r.HasPart ResourceNaming.derive part m ∧ m.path = source ∧ (∀ name ∈ names, name ∈ m.defines) ∧
    part.level = n

/-- The module first takes names from lower modules only, and then from modules that are not above a level. -/
def Descends (rs : List Resource) (m : SourceModule) (level : Nat) : Prop :=
  ∃ early late, m.loadSteps = early ++ late ∧
    (∀ source names, .load source names ∈ early → ∃ n < level, LeadsToLevel rs source names n) ∧
    ∀ step ∈ late, ∃ source names, step = .load source names ∧ ∃ n ≤ level, LeadsToLevel rs source names n

section

variable {rs : List Resource} {m : SourceModule} {level : Nat}

/-- What a resource provides, derived, leads to a module of the part's level. -/
theorem Resource.Provides.leads {r : Resource} {part : Part} {i : Import} {source : String}
    (h : r.Provides ResourceNaming.derive part i) (member : r ∈ rs) (generated : i.generatedPath? = some source) :
    LeadsToLevel rs source i.names part.level := by
  obtain ⟨m, hasPart, path, defined⟩ := h
  rw [path] at generated
  exact ⟨r, member, part, m, hasPart, Option.some.inj generated, defined, rfl⟩

/-- The imports of a module that descends lead to modules of lower levels. -/
theorem Descends.leads (h : Descends rs m level) {source : String} {names : List String}
    (load : .load source names ∈ m.loadSteps) : ∃ n, LeadsToLevel rs source names n := by
  obtain ⟨early, late, steps, lower, last⟩ := h
  rw [steps] at load
  rcases List.mem_append.1 load with first | second
  · obtain ⟨n, -, found⟩ := lower source names first
    exact ⟨n, found⟩
  · obtain ⟨source', names', same, n, -, found⟩ := last _ second
    cases same
    exact ⟨n, found⟩

/-- A module whose imports all lead to lower ones. -/
theorem descends_of_lower (late : m.body.filterMap Statement.lateImport? = [])
    (lower : ∀ i ∈ m.body.filterMap Statement.directImport?, ∃ r ∈ rs, ∃ part,
      r.Provides ResourceNaming.derive part i ∧ part.level < level) : Descends rs m level := by
  refine ⟨m.loadSteps, [], (List.append_nil _).symm, fun source names load => ?_, fun _ step => absurd step List.not_mem_nil⟩
  obtain ⟨i, imported, generated, rfl⟩ := exists_import_of_load load
  rw [late, List.append_nil] at imported
  obtain ⟨r, member, part, provided, less⟩ := lower i imported
  exact ⟨part.level, less, provided.leads member generated⟩

end

namespace Schema.Generated

variable {schema : Schema} {classes : Table Descriptor} {byName : Table Entity} {rs : List Resource} {e : Entity}
  {r : Resource} {part : Part} {m : SourceModule}

/-- A data class imports lower modules before its class and no higher ones after it. -/
theorem dataClass_descends (h : schema.Generated ResourceNaming.derive classes byName rs) (member : r ∈ rs)
    (of : Resource.Of schema ResourceNaming.derive classes byName e r) {d : Descriptor} (isClass : d.IsClassOf schema.ids e)
    {entityName : String} (made : d.toModule entityName = .ok m) :
    Descends rs m (Part.dataClass d.kind).level := by
  obtain ⟨imports, filters, importsMade, -, rfl⟩ := Descriptor.toModule_eq_ok.1 made
  -- a class that identifies imports nothing, so the level of a class with imports is one
  have level {i : ClassImport} (listed : i ∈ imports) : (Part.dataClass d.kind).level = 1 := by
    obtain ⟨ref, inClass, -⟩ := d.exists_reference importsMade listed
    cases kind : d.kind with
    | whereUniqueInput =>
        rw [isClass.references_eq_nil kind] at inClass
        cases inClass
    | _ => rfl
  refine ⟨(d.opening imports filters).flatMap Statement.loadSteps, (lateImports imports).flatMap Statement.loadSteps,
    List.flatMap_append, fun source names load => ?_, fun step taken => ?_⟩
  · obtain ⟨i, imported, generated, rfl⟩ := exists_import_of_load load
    rw [directImports_opening importsMade, lateImports_opening, List.append_nil] at imported
    have direct := mem_directImports.1 imported
    obtain ⟨r', member', part, provided, bottom⟩ := h.classImport_provided member of isClass importsMade direct
    refine ⟨part.level, ?_, provided.leads member' generated⟩
    rw [bottom, level direct]
    exact Nat.zero_lt_one
  · obtain ⟨s, inLate, inSteps⟩ := List.mem_flatMap.1 taken
    have imported : ∃ i ∈ deferredImports imports, i.loadStep? = some step := by
      rw [lateImports] at inLate
      split at inLate
      · cases inLate
      · simp only [List.mem_cons, List.mem_map] at inLate
        rcases inLate with rfl | rfl | ⟨i, listed, rfl⟩
        · cases inSteps
        · cases inSteps
        · exact ⟨i, listed, Option.mem_toList.1 inSteps⟩
    obtain ⟨i, imported, loaded⟩ := imported
    have late := mem_deferredImports.1 imported
    obtain ⟨source, generated, rfl⟩ := Option.map_eq_some_iff.1 loaded
    obtain ⟨r', member', part, provided, same⟩ := h.classImport_provided member of isClass importsMade late
    refine ⟨source, i.names, rfl, part.level, ?_, provided.leads member' generated⟩
    rw [same, level late]
    exact Nat.le_refl 1

/-- What a module of a kind imports lies below it, and what it imports last not above it. -/
theorem descends (h : schema.Generated ResourceNaming.derive classes byName rs) (member : r ∈ rs)
    (listed : e ∈ schema.entities) (of : Resource.Of schema ResourceNaming.derive classes byName e r)
    (hasPart : r.HasPart ResourceNaming.derive part m) : Descends rs m part.level := by
  obtain ⟨read, entityType, inputs, service, entityName, -⟩ := h.controller_eq listed of
  have serviceProvided := r.provides_service ResourceNaming.derive
  cases hasPart with
  | dataClass inClasses made => exact h.dataClass_descends member of (of.isClassOf inClasses) made
  | enumeration inEnums => exact descends_of_lower rfl (fun i imported => absurd imported List.not_mem_nil)
  | service => exact descends_of_lower rfl (fun i imported => absurd imported List.not_mem_nil)
  | controller =>
      obtain ⟨endpoints, -, rendered⟩ := Controller.toModule_eq_ok.1 of.controllerModule
      rw [rendered]
      refine descends_of_lower (lateImports_controller _ _) fun i imported => ?_
      rw [directImports_controller, Controller.serviceImport, service, entityType] at imported
      rcases List.mem_cons.1 imported with rfl | isClass
      · exact ⟨r, member, .service, serviceProvided, by decide⟩
      · obtain ⟨r', member', kind, provided, -⟩ := h.controllerImport_provided member listed of isClass
        exact ⟨r', member', .dataClass kind, provided, by cases kind <;> decide⟩
  | wiring =>
      refine descends_of_lower (lateImports_wiring _ _) fun i imported => ?_
      simp only [directImports_wiring, List.mem_cons, List.not_mem_nil, or_false] at imported
      rcases imported with rfl | rfl
      · exact ⟨r, member, .controller, of.provides_controller, by decide⟩
      · exact ⟨r, member, .service, serviceProvided, by decide⟩
  | tests =>
      obtain ⟨plan, -, rendered⟩ := testModule_eq_ok.1 of.tests
      rw [rendered, of.name, Value.display_text]
      refine descends_of_lower (lateImports_tests _ _ _ _ _ _) fun i imported => ?_
      simp only [directImports_tests, List.mem_cons, List.not_mem_nil, or_false] at imported
      rcases imported with rfl | rfl
      · exact ⟨r, member, .wiring, r.provides_wiring _, by decide⟩
      · exact ⟨r, member, .service, serviceProvided, by decide⟩

/-- If no two modules share a path, they are layered. -/
theorem layered (h : schema.Generated ResourceNaming.derive classes byName rs)
    (distinct : ((rs.flatMap (Resource.block ResourceNaming.derive) ++ rs.map Resource.readModule).map
      SourceModule.path).Nodup) :
    Layered (rs.flatMap (Resource.block ResourceNaming.derive) ++ rs.map Resource.readModule)
      (levelOf (rs.flatMap (Resource.parts ResourceNaming.derive))) := by
  have parts : ((rs.flatMap (Resource.parts ResourceNaming.derive)).map fun p => p.2.path).Nodup := by
    have second : (rs.flatMap (Resource.parts ResourceNaming.derive)).map Prod.snd =
        rs.flatMap fun r => r.block ResourceNaming.derive ++ [r.readModule] := by
      rw [List.map_flatMap]
      refine List.flatMap_congr fun r member => ?_
      obtain ⟨e, -, of⟩ := h.owner member
      exact of.parts_snd
    have paths := ((modules_perm ResourceNaming.derive rs).map SourceModule.path).nodup_iff.1 distinct
    rwa [← second, List.map_map] at paths
  have level {r : Resource} {part : Part} {m : SourceModule} (member : r ∈ rs)
      (hasPart : r.HasPart ResourceNaming.derive part m) :
      levelOf (rs.flatMap (Resource.parts ResourceNaming.derive)) m.path = part.level := by
    obtain ⟨e, -, of⟩ := h.owner member
    exact levelOf_path parts (List.mem_flatMap.2 ⟨r, member, of.mem_parts.2 hasPart⟩)
  have leads {source : String} {names : List String} {n : Nat} (found : LeadsToLevel rs source names n) :
      levelOf (rs.flatMap (Resource.parts ResourceNaming.derive)) source = n ∧
        ∃ m ∈ rs.flatMap (Resource.block ResourceNaming.derive) ++ rs.map Resource.readModule, m.path = source ∧
          ∀ name ∈ names, name ∈ m.defines := by
    obtain ⟨r, member, part, m, hasPart, rfl, defined, rfl⟩ := found
    exact ⟨level member hasPart, m, h.mem_modules.2 ⟨r, member, part, hasPart⟩, rfl, defined⟩
  have each {m : SourceModule} (listed : m ∈ rs.flatMap (Resource.block ResourceNaming.derive) ++
      rs.map Resource.readModule) :
      Descends rs m (levelOf (rs.flatMap (Resource.parts ResourceNaming.derive)) m.path) := by
    obtain ⟨r, member, part, hasPart⟩ := h.mem_modules.1 listed
    obtain ⟨e, inBatch, of⟩ := h.owner member
    rw [level member hasPart]
    exact h.descends member inBatch of hasPart
  refine ⟨fun m listed source names load => ?_, fun m listed => ?_⟩
  · obtain ⟨n, found⟩ := (each listed).leads load
    exact (leads found).2
  · obtain ⟨early, late, steps, lower, last⟩ := each listed
    refine ⟨early, late, steps, fun source names load => ?_, fun step load => ?_⟩
    · obtain ⟨n, less, found⟩ := lower source names load
      rwa [(leads found).1]
    · obtain ⟨source, names, rfl, n, atMost, found⟩ := last step load
      exact ⟨source, names, rfl, by rwa [(leads found).1]⟩

end Schema.Generated

/-- Whichever modules of a generation are loaded, and in whatever order: when a module takes names from another one that was
started, that module has bound all of them. The other one always exists. -/
theorem generate_loads_bound_names {schema : Schema} {modules : List SourceModule}
    (h : (schema.generate ResourceNaming.derive).outcome = .ok modules)
    (distinct : (modules.map SourceModule.path).Nodup) {s : Loading} (reached : s.Reachable modules)
    {path source : String} {names : List String} {rest : List LoadStep} {below : List Frame}
    (stack : s.stack = ⟨path, .load source names :: rest⟩ :: below) :
    (∃ m ∈ modules, m.path = source) ∧ (source ∈ s.started → ∀ name ∈ names, (source, name) ∈ s.bound) := by
  obtain ⟨classes, byName, rs, generated, rfl⟩ := generate_eq_ok h
  exact (generated.layered distinct).bound_of_started distinct reached stack

/-- Two entities that relate to each other. -/
def Schema.authorship : Schema :=
  { entities :=
      [{ name := .text "Author"
         id := .text "a"
         fields :=
           [{ name := .text "posts", dataType := .lookup, required := false, unique := false, searchable := true
              properties := [(.text "relatedEntityId", .text "p"), (.text "allowMultipleSelection", .bool true)] }] },
       { name := .text "Post"
         id := .text "p"
         fields :=
           [{ name := .text "author", dataType := .lookup, required := true, unique := false, searchable := true
              properties := [(.text "relatedEntityId", .text "a")] }] }]
    ids := [(.text "a", .text "Author"), (.text "p", .text "Post")] }

/-- The steps of the module with a path among the modules of those entities. -/
def Schema.authorshipSteps? (path : String) : Option (List LoadStep) :=
  (authorship.generate ResourceNaming.derive).outcome.toOption.bind fun modules =>
    (modules.find? fun m => m.path == path).map SourceModule.loadSteps

/-- The class of an author is bound when the class of a post takes it, although its module is still being loaded: it waits for the
module of the class of a post. -/
theorem Schema.authorship_loads_bound_names : ∃ modules s author post,
    (authorship.generate ResourceNaming.derive).outcome = .ok modules ∧ (modules.map SourceModule.path).Nodup ∧
      Loading.Reachable modules s ∧
      s.stack = [⟨post, [.load author ["Author"]]⟩, ⟨author, [.load post ["Post"]]⟩] ∧ author ∈ s.started ∧
      (∃ m ∈ modules, m.path = author) ∧ (author ∈ s.started → ∀ name ∈ ["Author"], (author, name) ∈ s.bound) := by
  have authorSteps : authorshipSteps? "author/base/Author.py" =
      some [.bind "Author", .load "post/base/Post.py" ["Post"]] := by decide +kernel
  have postSteps : authorshipSteps? "post/base/Post.py" =
      some [.bind "Post", .load "author/base/Author.py" ["Author"]] := by decide +kernel
  have paths : ((authorship.generate ResourceNaming.derive).outcome.toOption.map fun modules =>
      decide (modules.map SourceModule.path).Nodup) = some true := by decide +kernel
  obtain ⟨modules, returned, distinct⟩ := Option.map_eq_some_iff.1 paths
  have distinct := of_decide_eq_true distinct
  rw [authorshipSteps?, returned, Option.bind_some, Option.map_eq_some_iff] at authorSteps postSteps
  obtain ⟨author, authorFound, authorSteps⟩ := authorSteps
  obtain ⟨post, postFound, postSteps⟩ := postSteps
  have authorListed := List.mem_of_find?_eq_some authorFound
  have postListed := List.mem_of_find?_eq_some postFound
  have authorPath : author.path = "author/base/Author.py" := by simpa using List.find?_some authorFound
  have postPath : post.path = "post/base/Post.py" := by simpa using List.find?_some postFound
  rw [← postPath] at authorSteps
  rw [← authorPath] at postSteps
  have other : post.path ≠ author.path := by simp [authorPath, postPath]
  let halfway : Loading :=
    { started := [post.path, author.path]
      bound := [(post.path, "Post"), (author.path, "Author")]
      stack := [⟨post.path, [.load author.path ["Author"]]⟩, ⟨author.path, [.load post.path ["Post"]]⟩] }
  have reached : halfway.Reachable modules := by
    have entered := Relation.ReflTransGen.single (Loading.Step.enter (s := {}) authorListed rfl List.not_mem_nil)
    rw [authorSteps] at entered
    have descended := (entered.tail (.bind rfl)).tail (.descend postListed rfl (by simpa using other))
    rw [postSteps] at descended
    exact descended.tail (.bind rfl)
  exact ⟨modules, halfway, author.path, post.path, eq_ok_of_toOption returned, distinct, reached, rfl, by simp [halfway],
    generate_loads_bound_names (eq_ok_of_toOption returned) distinct reached rfl⟩

end ResourceScaffold
