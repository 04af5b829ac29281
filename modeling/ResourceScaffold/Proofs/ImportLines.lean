import ResourceScaffold.Proofs.Dependencies
import ResourceScaffold.Proofs.ImportOrder
import ResourceScaffold.Proofs.RouteLines

/-!
# The imports of generated modules resolve

`SourceModule.ImportsInLines direct deferred` says what the lines of a module import from generated code: the direct imports
one after the other, the deferred ones for types only, and these once more after the class of the module.
`Import.Resolves modules` says that an import takes its names from a module that defines them at the top level.

* The lines of every module of a generation import what its statements import (`Schema.Generated.importsInLines`).
* These imports are those of the dependencies of the module, each once, and they all resolve (`generate_imports_resolve`).
-/

namespace ResourceScaffold.Code

/-! ## Imports in lines -/

/-- The lines that import for types. -/
def typeLines (deferred : List Import) : List (List Char) :=
  if deferred.isEmpty then []
  else "if TYPE_CHECKING:".toList :: deferred.map fun i => ("    " ++ i.line).toList

/-- The lines of a module import from generated code exactly what is listed: the direct imports first, then the deferred
ones for types, and these once more, marked, after the class of the module. -/
def SourceModule.ImportsInLines (m : SourceModule) (direct deferred : List Import) : Prop :=
  ∃ before between after, linesOf m.content = before ++ typeLines deferred ++ between ++ after ∧
    before.filter importsGenerated = direct.map (fun i => i.line.toList) ∧
    between.filter importsGenerated = [] ∧
    (deferred ≠ [] → ∃ entityName className, m.path = classPath entityName className ∧
      ∃ line ∈ between, Binds className line) ∧
    after.filter importsGenerated = deferred.map fun i => (i.line ++ "  # noqa: E402").toList

/-- The names of an import are defined at the top level of a module with its path, each by a line that begins so. -/
def Import.Resolves (modules : List SourceModule) (i : Import) : Prop :=
  ∃ m ∈ modules, i.generatedPath? = some m.path ∧
    ∀ name ∈ i.names, name ∈ m.defines ∧ ∃ line ∈ linesOf m.content, Binds name line

/-- What is left of a list by a test, without repetition, occurs in the list once. -/
theorem count_eq_one_of_filter {α : Type} [BEq α] [LawfulBEq α] {test : α → Bool} {as kept : List α} {a : α}
    (filtered : as.filter test = kept) (distinct : kept.Nodup) (member : a ∈ kept) : as.count a = 1 := by
  have holds : test a = true := (List.mem_filter.1 (filtered ▸ member)).2
  rw [← List.count_filter holds, filtered]
  exact List.count_eq_one_of_mem distinct member

section

variable {m : SourceModule}

/-- A module with a statement that has lines has lines. -/
theorem lines_ne_nil {s : Statement} (member : s ∈ m.body) (h : s.lines ≠ []) : m.lines ≠ [] := by
  obtain ⟨line, rest, lines⟩ := List.exists_cons_of_ne_nil h
  exact List.ne_nil_of_mem (List.mem_flatMap.2 ⟨s, member, lines ▸ List.mem_cons_self⟩)

/-- The last line of a module is empty. -/
theorem generatedLines_of_content (h : m.lines ≠ []) : (linesOf m.content).filter importsGenerated = generatedLines m.body := by
  rw [SourceModule.linesOf_content h, List.filter_append]
  exact List.append_nil _

/-- A module of plain statements imports directly. -/
theorem importsInLines_of_plain (plain : ∀ s ∈ m.body, s.IsPlain) (h : m.lines ≠ []) :
    m.ImportsInLines (m.body.filterMap Statement.directImport?) [] := by
  refine ⟨linesOf m.content, [], [], by simp [typeLines], ?_, rfl, fun none => absurd rfl none, rfl⟩
  rw [generatedLines_of_content h, generatedLines_of_plain plain]

/-- Plain statements import nothing late. -/
theorem lateImports_of_plain (plain : ∀ s ∈ m.body, s.IsPlain) : m.body.filterMap Statement.lateImport? = [] := by
  rw [List.filterMap_eq_nil_iff]
  intro s member
  cases found : s.lateImport? with
  | none => rfl
  | some i =>
      obtain ⟨rfl, -⟩ := Statement.eq_of_lateImport? found
      exact absurd (plain _ member) id

/-- The imports of plain statements can be read back. -/
theorem spelled_of_plain (plain : ∀ s ∈ m.body, s.IsPlain) :
    ∀ i ∈ m.body.filterMap Statement.directImport?, i.Spelled := by
  intro i imported
  obtain ⟨s, member, found⟩ := List.mem_filterMap.1 imported
  obtain ⟨rfl, -⟩ := Statement.eq_of_directImport? found
  exact plain _ member

/-- What a module defines is defined by one of its lines. -/
theorem SourceModule.exists_binding_line {name : String} (h : name ∈ m.defines) (noFeed : '\n' ∉ name.toList)
    (starts : ∀ s ∈ m.body, s.StartsFunction) : ∃ line ∈ linesOf m.content, Binds name line := by
  obtain ⟨s, member, defined⟩ := List.mem_flatMap.1 h
  obtain ⟨line, inLines, binds⟩ := Statement.exists_binding_line defined noFeed (starts s member)
  obtain ⟨text, inStatement, inText⟩ := List.mem_flatMap.1 inLines
  have inModule : text ∈ m.lines := List.mem_flatMap.2 ⟨s, member, inStatement⟩
  refine ⟨line, ?_, binds⟩
  rw [linesOf_content (List.ne_nil_of_mem inModule)]
  exact List.mem_append_left _ (List.mem_flatMap.2 ⟨text, inModule, inText⟩)

end

end ResourceScaffold.Code

namespace ResourceScaffold

open Code

/-! ## Data classes -/

section

variable {d : Descriptor} {imports : List ClassImport} {filters : List Filter}

/-- The class with its filters executes no import. -/
theorem directImports_classStatements : (d.classStatements filters).filterMap Statement.directImport? = [] := by
  rw [List.filterMap_eq_nil_iff]
  intro s member
  simp only [Descriptor.classStatements, List.mem_append, List.mem_cons, List.not_mem_nil, or_false, List.mem_flatMap]
    at member
  rcases member with ((rfl | rfl) | ⟨f, -, rfl | rfl | rfl⟩) | rfl <;> rfl

/-- The imports for types are not executed. -/
theorem directImports_typeImports : (typeImports imports).filterMap Statement.directImport? = [] := by
  unfold typeImports
  split <;> rfl

/-- The direct imports of a data class stand before the imports for types. -/
theorem directImports_headStatements (made : d.classImports = .ok imports) :
    (headStatements imports).filterMap Statement.directImport? = directImports imports := by
  have whole : (d.moduleWith "" imports []).body.filterMap Statement.directImport? = directImports imports :=
    directImports_moduleWith made ""
  rw [d.body_moduleWith] at whole
  simp only [List.filterMap_append, directImports_typeImports, directImports_classStatements, directImports_lateImports,
    List.append_nil] at whole
  exact whole

/-- They are written in the lines of the deferred imports. -/
theorem linesOf_typeImports (spelled : ∀ i ∈ imports, i.source.Spelled) :
    ((typeImports imports).flatMap Statement.lines).flatMap linesOf = typeLines (deferredImports imports) := by
  unfold typeImports typeLines
  split
  · rfl
  · rw [List.flatMap_singleton]
    exact linesOf_importForTypes fun i listed => spelled _ (mem_deferredImports.1 listed)

/-- The lines of some statements. -/
def statementLines (body : List Statement) : List (List Char) :=
  (body.flatMap Statement.lines).flatMap linesOf

/-- The lines of two parts of a body come one after the other. -/
theorem statementLines_append (front back : List Statement) :
    statementLines (front ++ back) = statementLines front ++ statementLines back := by
  rw [statementLines, List.flatMap_append, List.flatMap_append]
  rfl

/-- A line is one of a body iff it is one of its statements. -/
theorem mem_statementLines {body : List Statement} {line : List Char} :
    line ∈ statementLines body ↔ ∃ s ∈ body, ∃ t ∈ s.lines, line ∈ linesOf t := by
  simp only [statementLines, List.mem_flatMap]
  constructor
  · rintro ⟨t, ⟨s, inBody, inStatement⟩, inText⟩
    exact ⟨s, inBody, t, inStatement, inText⟩
  · rintro ⟨s, inBody, t, inStatement, inText⟩
    exact ⟨t, ⟨s, inBody, inStatement⟩, inText⟩

/-- The lines of the module of a data class: its imports, those for types, its filters and its class, and the late imports. -/
theorem Descriptor.linesOf_moduleWith (spelled : ∀ i ∈ imports, i.source.Spelled) (entityName : String) :
    linesOf (d.moduleWith entityName imports filters).content =
      statementLines (headStatements imports) ++ typeLines (deferredImports imports) ++
        statementLines (d.classStatements filters) ++ (statementLines (lateImports imports) ++ [[]]) := by
  have inBody : Statement.define d.definition ∈ (d.moduleWith entityName imports filters).body := by
    rw [body_moduleWith]
    simp [classStatements]
  have types : statementLines (typeImports imports) = typeLines (deferredImports imports) := linesOf_typeImports spelled
  rw [SourceModule.linesOf_content (lines_ne_nil inBody (List.cons_ne_nil d.definition.heading _)), SourceModule.lines,
    ← statementLines, body_moduleWith]
  simp only [statementLines_append, types, List.append_assoc]

/-- The module of a data class imports the deferred classes for types and after its class. -/
theorem Descriptor.Spelled.importsInLines (h : d.Spelled) (made : d.classImports = .ok imports)
    (spelled : ∀ i ∈ imports, i.source.Spelled) (entityName : String) :
    (d.moduleWith entityName imports filters).ImportsInLines (directImports imports) (deferredImports imports) := by
  have generated : ∀ i ∈ imports, i.source.generatedPath?.isSome := fun i listed => d.classImports_generated made listed
  have defined : Statement.define d.definition ∈ d.classStatements filters := by simp [Descriptor.classStatements]
  refine ⟨_, _, _, Descriptor.linesOf_moduleWith spelled entityName, ?_, ?_,
    fun _ => ⟨entityName, d.name.display, rfl, ?_⟩, ?_⟩
  · rw [← directImports_headStatements made]
    exact generatedLines_of_plain (isPlain_headStatements spelled)
  · have quiet := generatedLines_of_plain (h.isPlain_classStatements filters)
    rwa [directImports_classStatements] at quiet
  · obtain ⟨line, inLines, binds⟩ :=
      Statement.exists_binding_line (s := .define d.definition) (List.mem_singleton_self _) h.name.noFeed trivial
    obtain ⟨text, inClass, inText⟩ := List.mem_flatMap.1 inLines
    exact ⟨line, List.mem_flatMap.2 ⟨text, List.mem_flatMap.2 ⟨_, defined, inClass⟩, inText⟩, binds⟩
  · rw [List.filter_append, ← generatedLines_lateImports spelled generated]
    exact List.append_nil _

/-- The imports of a data class, those before it and those after it. -/
theorem imports_perm (imports : List ClassImport) :
    (directImports imports ++ deferredImports imports).Perm (imports.map ClassImport.source) := by
  have sorted (l : List Import) : (sortImports l).Perm l := List.mergeSort_perm _ _
  refine ((sorted _).append (sorted _)).trans ?_
  rw [← List.map_append]
  have parts := List.filter_append_perm (fun i : ClassImport => !i.deferred) imports
  simp only [Bool.not_not] at parts
  exact parts.map _

end

/-! ## Modules of a generation -/

section

variable {schema : Schema} {classes : Table Descriptor} {byName : Table Entity} {rs : List Resource} {e : Entity}
  {r : Resource} {part : Part} {m : SourceModule}

/-- A test begins as a function. -/
theorem startsFunction_testFunction {name : String} {body : List String} :
    ∀ s ∈ testFunction name body, s.StartsFunction := by
  intro s member
  simp only [testFunction, List.mem_cons, List.not_mem_nil, or_false] at member
  rcases member with rfl | rfl | rfl
  · trivial
  · trivial
  · have mark : "():" = "(" ++ "):" := rfl
    exact ⟨"):", _, congrArg (· :: _) (by rw [mark, ← String.append_assoc])⟩

/-- Each function among the tests begins as one. -/
theorem startsFunction_tests {plan : TestPlan} {resource entityName entityType service wiring name : String}
    {lines : List String}
    (member : .function name lines ∈ (plan.moduleWith resource entityName entityType service wiring).body) :
    (Statement.function name lines).StartsFunction := by
  simp only [TestPlan.moduleWith, List.mem_append] at member
  rcases member with ((fixed | created) | many) | record
  · simp only [List.mem_cons, List.not_mem_nil, or_false, reduceCtorEq, false_or, Statement.function.injEq] at fixed
    rcases fixed with ⟨rfl, rfl⟩ | ⟨rfl, rfl⟩
    · exact ⟨"service):", _, rfl⟩
    · exact ⟨"**methods):", _, rfl⟩
  · exact startsFunction_testFunction _ created
  · exact startsFunction_testFunction _ many
  · split at record
    · simp only [recordTests, List.mem_append] at record
      rcases record with (found | notFound) | deleted
      · exact startsFunction_testFunction _ found
      · exact startsFunction_testFunction _ notFound
      · exact startsFunction_testFunction _ deleted
    · cases record

/-- Functions are written as they begin. -/
theorem Resource.Of.startsFunction (of : Resource.Of schema ResourceNaming.derive classes byName e r)
    (hasPart : r.HasPart ResourceNaming.derive part m) : ∀ s ∈ m.body, s.StartsFunction := by
  intro s member
  cases s with
  | function name lines =>
      cases hasPart with
      | dataClass inClasses made =>
          obtain ⟨imports, filters, -, -, rfl⟩ := Descriptor.toModule_eq_ok.1 made
          simp [Descriptor.moduleWith, Descriptor.opening, libraryImports, lateImports] at member
      | enumeration inEnums => simp [EnumDescriptor.toModule] at member
      | service => simp [Resource.service, serviceModule] at member
      | controller =>
          obtain ⟨endpoints, -, rendered⟩ := Controller.toModule_eq_ok.1 of.controllerModule
          rw [rendered] at member
          obtain ⟨rfl, rfl⟩ : name = "get_service" ∧ lines =
              ["def get_service() -> " ++ serviceClass r.controller.entityType ++ ":",
               "    return " ++ serviceClass r.controller.entityType ++ "()"] := by
            simpa [Controller.moduleWith, Controller.opening] using member
          refine ⟨") -> " ++ (serviceClass r.controller.entityType ++ ":"), _, congrArg (· :: _) ?_⟩
          rw [← String.append_assoc, ← String.append_assoc]
          rfl
      | wiring => simp [Resource.wiring, wiringModule] at member
      | tests =>
          obtain ⟨plan, -, rendered⟩ := testModule_eq_ok.1 of.tests
          rw [rendered] at member
          exact startsFunction_tests member
  | _ => trivial

/-- The dependencies of a module are the paths that its statements import. -/
theorem Resource.Of.dependencies_perm (of : Resource.Of schema ResourceNaming.derive classes byName e r)
    (hasPart : r.HasPart ResourceNaming.derive part m) :
    ((m.body.filterMap Statement.directImport? ++ m.body.filterMap Statement.lateImport?).map Import.generatedPath?).Perm
      (m.dependencies.map some) := by
  cases hasPart with
  | @dataClass d m inClasses made =>
      obtain ⟨imports, filters, importsMade, -, rfl⟩ := Descriptor.toModule_eq_ok.1 made
      rw [directImports_moduleWith importsMade, lateImports_moduleWith importsMade]
      refine ((imports_perm imports).map _).trans (.of_eq ?_)
      rw [List.map_map]
      exact map_eq_map_some fun i listed => d.classImports_generated importsMade listed
  | enumeration inEnums => exact .nil
  | service => exact .nil
  | controller =>
      obtain ⟨endpoints, -, rendered⟩ := Controller.toModule_eq_ok.1 of.controllerModule
      rw [rendered, directImports_controller, lateImports_controller, List.append_nil]
      refine .cons _ (.of_eq ?_)
      exact map_eq_map_some fun i imported => r.controller.classImports_generated imported
  | wiring =>
      rw [directImports_wiring, lateImports_wiring]
      exact .swap _ _ _
  | tests =>
      obtain ⟨plan, -, rendered⟩ := testModule_eq_ok.1 of.tests
      rw [rendered, directImports_tests, lateImports_tests]
      exact .swap _ _ _

variable (names : schema.HasWordNames) (h : schema.Generated ResourceNaming.derive classes byName rs)
include names h

/-- Modules other than data classes have plain statements. -/
theorem Schema.Generated.isPlain (member : r ∈ rs) (listed : e ∈ schema.entities)
    (of : Resource.Of schema ResourceNaming.derive classes byName e r)
    (hasPart : r.HasPart ResourceNaming.derive part m) (other : ∀ kind, part ≠ .dataClass kind) :
    (∀ s ∈ m.body, s.IsPlain) ∧ m.lines ≠ [] := by
  have spelled := h.spelled names member
  cases hasPart with
  | dataClass inClasses made => exact absurd rfl (other _)
  | @enumeration d inEnums =>
      obtain ⟨f, -, made⟩ := exists_mem_of_mapM_eq_ok of.enumerations inEnums
      have name : IsWord d.name.display :=
        spelled.classes _ (List.mem_append_right _ (List.mem_map.2 ⟨d, inEnums, rfl⟩))
      exact ⟨EnumDescriptor.isPlain made name _, List.cons_ne_nil _ _⟩
  | service => exact ⟨isPlain_service spelled.name, List.cons_ne_nil _ _⟩
  | controller =>
      obtain ⟨endpoints, made, rendered⟩ := Controller.toModule_eq_ok.1 of.controllerModule
      rw [rendered]
      exact ⟨(h.controller_spelled names member listed of).isPlain made, List.cons_ne_nil _ _⟩
  | wiring =>
      exact ⟨isPlain_wiring spelled.name (of.path_spelled spelled .service) (of.path_spelled spelled .controller),
        List.cons_ne_nil _ _⟩
  | tests =>
      obtain ⟨plan, planned, rendered⟩ := testModule_eq_ok.1 of.tests
      rw [rendered, of.name, Value.display_text]
      refine ⟨TestPlan.isPlain spelled.resource.noFeed spelled.identifier.noFeed spelled.name
        (of.path_spelled spelled .service) (of.path_spelled spelled .wiring) fun key hk => ?_, List.cons_ne_nil _ _⟩
      exact (TestPlan.isVisible_segment of.read planned hk).noFeed

/-- The lines of a module import what its statements import, and each import can be read back from its line. -/
theorem Schema.Generated.importsInLines (member : r ∈ rs) (listed : e ∈ schema.entities)
    (of : Resource.Of schema ResourceNaming.derive classes byName e r)
    (hasPart : r.HasPart ResourceNaming.derive part m) :
    m.ImportsInLines (m.body.filterMap Statement.directImport?) (m.body.filterMap Statement.lateImport?) ∧
      ∀ i ∈ m.body.filterMap Statement.directImport? ++ m.body.filterMap Statement.lateImport?, i.Spelled := by
  by_cases isClass : ∃ kind, part = .dataClass kind
  · obtain ⟨kind, rfl⟩ := isClass
    cases hasPart with
    | @dataClass d m inClasses made =>
        have spelledClass := h.class_spelled names of member (of.isClassOf inClasses)
        obtain ⟨imports, filters, importsMade, -, rfl⟩ := Descriptor.toModule_eq_ok.1 made
        have spelled := h.classImport_spelled names of member (of.isClassOf inClasses) importsMade
        rw [directImports_moduleWith importsMade, lateImports_moduleWith importsMade]
        refine ⟨spelledClass.importsInLines importsMade spelled _, fun i imported => ?_⟩
        obtain ⟨j, found, rfl⟩ := List.mem_map.1 ((imports_perm imports).subset imported)
        exact spelled j found
  · obtain ⟨plain, lines⟩ := h.isPlain names member listed of hasPart fun kind same => isClass ⟨kind, same⟩
    rw [lateImports_of_plain plain, List.append_nil]
    exact ⟨importsInLines_of_plain plain lines, spelled_of_plain plain⟩

/-- What a module imports is defined by a module of the generation. -/
theorem Schema.Generated.resolves (member : r ∈ rs) (listed : e ∈ schema.entities)
    (of : Resource.Of schema ResourceNaming.derive classes byName e r)
    (hasPart : r.HasPart ResourceNaming.derive part m) {i : Import}
    (imported : i ∈ m.body.filterMap Statement.directImport? ++ m.body.filterMap Statement.lateImport?) :
    i.Resolves (rs.flatMap (Resource.block ResourceNaming.derive) ++ rs.map Resource.readModule) := by
  obtain ⟨source, path, load⟩ := load_of_import imported
  obtain ⟨n, r', listed', part', m', hasPart', same, defined, -⟩ := (h.descends member listed of hasPart).leads load
  obtain ⟨e', -, of'⟩ := h.owner listed'
  have spelled := (h.importsInLines names member listed of hasPart).2 i imported
  refine ⟨m', h.mem_modules.2 ⟨r', listed', part', hasPart'⟩, by rw [path, same], fun name wanted => ?_⟩
  exact ⟨defined name wanted, SourceModule.exists_binding_line (defined name wanted) (spelled.names name wanted)
    (of'.startsFunction hasPart')⟩

end

/-- The imports of each module of a generation from entities with names of letters, digits and underscores: its
dependencies are different and each is the path of a module; its lines import exactly these from generated code; and what
they import is defined there. -/
theorem generate_imports_resolve {schema : Schema} {modules : List SourceModule} (names : schema.HasWordNames)
    (h : (schema.generate ResourceNaming.derive).outcome = .ok modules) {m : SourceModule} (member : m ∈ modules) :
    m.dependencies.Nodup ∧ (∀ path ∈ m.dependencies, ∃ m' ∈ modules, m'.path = path) ∧
      ∃ direct deferred : List Import, m.ImportsInLines direct deferred ∧
        ((direct ++ deferred).map Import.generatedPath?).Perm (m.dependencies.map some) ∧
        ∀ i ∈ direct ++ deferred, i.Resolves modules := by
  obtain ⟨classes, byName, rs, generated, rfl⟩ := generate_eq_ok h
  obtain ⟨r, inBatch, part, hasPart⟩ := generated.mem_modules.1 member
  obtain ⟨e, listed, of⟩ := generated.owner inBatch
  have perm := of.dependencies_perm hasPart
  have resolves {i : Import} (imported : i ∈ m.body.filterMap Statement.directImport? ++
      m.body.filterMap Statement.lateImport?) := generated.resolves names inBatch listed of hasPart imported
  refine ⟨generated.dependencies_nodup inBatch listed of hasPart, fun path depends => ?_, _, _,
    (generated.importsInLines names inBatch listed of hasPart).1, perm, fun i imported => resolves imported⟩
  obtain ⟨i, imported, found⟩ := List.mem_map.1 (perm.symm.subset (List.mem_map_of_mem depends))
  obtain ⟨m', listed', same, -⟩ := resolves imported
  exact ⟨m', listed', Option.some.inj (same.symm.trans found)⟩

/-- The names of the blog can be words. -/
theorem Schema.blog_hasWordNames : blog.HasWordNames := by
  simp only [HasWordNames, blog, List.forall_mem_cons]
  exact ⟨⟨_, rfl, List.all_eq_true.1 (by decide)⟩, ⟨_, rfl, List.all_eq_true.1 (by decide)⟩, by simp⟩

/-- A wiring module of the blog, which imports a controller and a service. -/
theorem Schema.blog_imports_resolve : ∃ modules m, (blog.generate ResourceNaming.derive).outcome = .ok modules ∧
    m ∈ modules ∧ m.dependencies.length = 2 ∧
    m.dependencies.Nodup ∧ (∀ path ∈ m.dependencies, ∃ m' ∈ modules, m'.path = path) ∧
      ∃ direct deferred : List Import, m.ImportsInLines direct deferred ∧
        ((direct ++ deferred).map Import.generatedPath?).Perm (m.dependencies.map some) ∧
        ∀ i ∈ direct ++ deferred, i.Resolves modules := by
  obtain ⟨modules, returned⟩ := generate_of_acceptable blog_wellTyped blog_acceptable
  obtain ⟨classes, byName, rs, generated, rfl⟩ := generate_eq_ok returned
  have listed : blog.entities.head (by decide) ∈ blog.entities := List.head_mem _
  obtain ⟨r, member, of⟩ := generated.resource listed
  have wiring := generated.mem_modules.2 ⟨r, member, _, .wiring⟩
  exact ⟨_, _, returned, wiring, rfl, generate_imports_resolve blog_hasWordNames returned wiring⟩

end ResourceScaffold
