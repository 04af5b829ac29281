import ResourceScaffold.Proofs.RelatedRoutes
import ResourceScaffold.Proofs.Strategies

/-!
# What the modules of classes and controllers bind

Every name that is bound at the top level of a module has a source: the library or the generated module that it is imported
from, or the module itself. `SourceModule.Takes` holds of a name that is imported from a generated module, `SourceModule.Fixes`
of one with another source; a module is `Unshadowed` if no name is taken that is also fixed or taken from elsewhere
(`SourceModule.unshadowed_iff`).

* The module of a class takes the classes that its properties refer to, and fixes what `libraryImports` names, its filters and
  itself (`Schema.Generated.class_takes_iff`, `Schema.Generated.class_fixes_iff`).
* The module of a controller takes its service and its classes, and fixes what it imports from libraries, the router, the
  constant, the function that gets the service and its routes (`Controller.takes_moduleWith`, `Controller.fixes_moduleWith`).
-/

namespace ResourceScaffold

open Code

/-! ## Names and their sources -/

namespace Code

/-- The names that an import binds, with the source that it takes them from. -/
def Import.bindings (i : Import) : List (Option Origin × String) :=
  i.names.map fun name => (some i.origin, name)

/-- The names that a statement binds at the top level, each with the source that it is imported from; a name that is defined
has none. -/
def Statement.bindings : Statement → List (Option Origin × String)
  | importModule name => [(some (.library name), name)]
  | importNames i => i.bindings
  | importLate i => i.bindings
  | importForTypes imports => imports.flatMap Import.bindings
  | statement => statement.defines.map fun name => (none, name)

namespace Statement

-- What each kind of statement binds.

@[simp] theorem bindings_blank : bindings .blank = [] := rfl

@[simp] theorem bindings_importModule (name : String) :
    bindings (.importModule name) = [(some (.library name), name)] := rfl

@[simp] theorem bindings_importNames (i : Import) : bindings (.importNames i) = i.bindings := rfl

@[simp] theorem bindings_importLate (i : Import) : bindings (.importLate i) = i.bindings := rfl

@[simp] theorem bindings_importForTypes (imports : List Import) :
    bindings (.importForTypes imports) = imports.flatMap Import.bindings := rfl

@[simp] theorem bindings_assign (name value : String) : bindings (.assign name value) = [(none, name)] := rfl

@[simp] theorem bindings_define (c : ClassDefinition) : bindings (.define c) = [(none, c.name)] := rfl

@[simp] theorem bindings_function (name : String) (lines : List String) :
    bindings (.function name lines) = [(none, name)] := rfl

@[simp] theorem bindings_endpoint (e : Endpoint) : bindings (.endpoint e) = [(none, e.name)] := rfl

end Statement

namespace SourceModule

/-- The names that a module binds at the top level, with their sources. -/
def bindings (m : SourceModule) : List (Option Origin × String) :=
  m.body.flatMap Statement.bindings

/-- Each name that the module imports from a generated module is bound from that source alone. -/
def Unshadowed (m : SourceModule) : Prop :=
  ∀ path name source, (some (.generated path), name) ∈ m.bindings → (source, name) ∈ m.bindings →
    source = some (.generated path)

/-- The module imports the name from the generated module at the path. -/
def Takes (m : SourceModule) (path name : String) : Prop :=
  (some (.generated path), name) ∈ m.bindings

/-- The module defines the name or imports it from a library. -/
def Fixes (m : SourceModule) (name : String) : Prop :=
  ∃ source, (source, name) ∈ m.bindings ∧ ∀ path, source ≠ some (.generated path)

variable {m : SourceModule}

/-- No name is shadowed iff each name that is taken from a module is neither fixed nor taken from another one. -/
theorem unshadowed_iff :
    m.Unshadowed ↔ ∀ path name, m.Takes path name → ¬ m.Fixes name ∧ ∀ path', m.Takes path' name → path' = path := by
  constructor
  · intro h path name takes
    refine ⟨fun ⟨source, bound, other⟩ => other path (h path name source takes bound), fun path' takes' => ?_⟩
    have same := h path name _ takes takes'
    cases same
    rfl
  · intro h path name source takes bound
    obtain ⟨notFixed, alone⟩ := h path name takes
    by_cases generated : ∃ path', source = some (.generated path')
    · obtain ⟨path', rfl⟩ := generated
      rw [alone path' bound]
    · exact absurd ⟨source, bound, not_exists.1 generated⟩ notFixed

end SourceModule

/-- The import of a class binds the class, from its module. -/
theorem mem_bindings_ofClass {entityName className name : String} {source : Option Origin} :
    (source, name) ∈ (Import.ofClass entityName className).bindings ↔
      source = some (.generated (classPath entityName className)) ∧ name = className := by
  simp [Import.bindings, Import.ofClass]

/-- What an import of a generated module binds comes from a generated module. -/
theorem exists_path_of_mem_bindings {i : Import} (generated : i.generatedPath?.isSome) {name : String}
    {source : Option Origin} (bound : (source, name) ∈ i.bindings) : ∃ path, source = some (.generated path) := by
  obtain ⟨name', -, same⟩ := List.mem_map.1 bound
  cases same
  unfold Import.generatedPath? at generated
  split at generated
  · next path origin => exact ⟨path, congrArg some origin⟩
  · cases generated

end Code

/-- A name is bound by something iff it is among the names bound. -/
theorem exists_mem_bindings_iff {bindings : List (Option Origin × String)} {name : String} :
    (∃ source, (source, name) ∈ bindings) ↔ name ∈ bindings.map Prod.snd := by
  simp

/-! ## Modules of classes -/

section dataClass

variable {d : Descriptor} {imports : List ClassImport} {filters : List Filter} {entityName path name : String}
  {source : Option Origin}

/-- What the module of a class imports from libraries, whatever it refers to. -/
def classLibraryNames : List String :=
  ["annotations", "datetime", "Any", "Dict", "List", "Optional", "BaseModel", "ConfigDict", "Field"]

/-- What imports from libraries bind comes from libraries. -/
theorem library_of_mem_bindings {deferring : Bool} (h : (source, name) ∈ (libraryImports deferring).flatMap Statement.bindings) :
    ∃ library, source = some (.library library) := by
  simp only [libraryImports, List.flatMap_cons, List.flatMap_nil, List.append_nil, List.mem_append,
    Statement.bindings_blank, Statement.bindings_importNames, List.not_mem_nil, false_or, Import.bindings, List.mem_map,
    Prod.mk.injEq] at h
  rcases h with ⟨_, -, rfl, -⟩ | ⟨_, -, rfl, -⟩ | ⟨_, -, rfl, -⟩ | ⟨_, -, rfl, -⟩
  all_goals exact ⟨_, rfl⟩

/-- The module of a class imports what it needs to defer imports if it defers any. -/
theorem exists_mem_bindings_libraryImports {deferring : Bool} :
    (∃ source, (source, name) ∈ (libraryImports deferring).flatMap Statement.bindings) ↔
      name ∈ classLibraryNames ∨ deferring = true ∧ name = "TYPE_CHECKING" := by
  rw [exists_mem_bindings_iff]
  cases deferring with
  | false =>
      change name ∈ classLibraryNames ↔ _
      simp
  | true =>
      change name ∈ ["annotations", "datetime", "TYPE_CHECKING", "Any", "Dict", "List", "Optional", "BaseModel", "ConfigDict",
        "Field"] ↔ _
      grind [classLibraryNames]

/-- The module of a class binds the names of libraries, of the classes that it imports, of its filters and of itself. -/
theorem mem_bindings_moduleWith :
    (source, name) ∈ (d.moduleWith entityName imports filters).bindings ↔
      (source, name) ∈ (libraryImports (!(deferredImports imports).isEmpty)).flatMap Statement.bindings ∨
      (∃ i ∈ imports, (source, name) ∈ i.source.bindings) ∨
      source = none ∧ (name = d.name.display ∨ ∃ f ∈ filters, name = f.name) := by
  have direct : (if (directImports imports).isEmpty then [] else .blank :: (directImports imports).map .importNames).flatMap
      Statement.bindings = (directImports imports).flatMap Import.bindings := by
    cases directImports imports <;> simp [List.flatMap_map]
  have forTypes : (if (deferredImports imports).isEmpty then [] else [.blank, .importForTypes (deferredImports imports)]).flatMap
      Statement.bindings = (deferredImports imports).flatMap Import.bindings := by
    cases deferredImports imports <;> simp
  have late : (lateImports imports).flatMap Statement.bindings = (deferredImports imports).flatMap Import.bindings := by
    rw [lateImports]
    cases deferredImports imports <;> simp [List.flatMap_map]
  have filterClasses : (filters.flatMap fun f => [.define f.definition, .blank, .blank]).flatMap Statement.bindings =
      filters.map fun f => (none, f.name) := by
    rw [List.flatMap_assoc, List.map_eq_flatMap]
    exact List.flatMap_congr fun f _ => rfl
  have imported : ((source, name) ∈ (directImports imports).flatMap Import.bindings ∨
      (source, name) ∈ (deferredImports imports).flatMap Import.bindings) ↔
      ∃ i ∈ imports, (source, name) ∈ i.source.bindings := by
    simp only [List.mem_flatMap, mem_directImports, mem_deferredImports]
    constructor
    · rintro (⟨i, listed, bound⟩ | ⟨i, listed, bound⟩)
      · exact ⟨_, listed, bound⟩
      · exact ⟨_, listed, bound⟩
    · rintro ⟨⟨deferred, i⟩, listed, bound⟩
      cases deferred with
      | false => exact .inl ⟨i, listed, bound⟩
      | true => exact .inr ⟨i, listed, bound⟩
  have own : (source, name) ∈ filters.map (fun f => ((none : Option Origin), f.name)) ∨
      (source, name) ∈ [((none : Option Origin), d.name.display)] ↔
      source = none ∧ (name = d.name.display ∨ ∃ f ∈ filters, name = f.name) := by
    simp only [List.mem_map, Prod.mk.injEq, List.mem_singleton]
    constructor
    · rintro (⟨f, listed, rfl, rfl⟩ | ⟨rfl, rfl⟩)
      · exact ⟨rfl, .inr ⟨f, listed, rfl⟩⟩
      · exact ⟨rfl, .inl rfl⟩
    · rintro ⟨rfl, rfl | ⟨f, listed, rfl⟩⟩
      · exact .inr ⟨rfl, rfl⟩
      · exact .inl ⟨f, listed, rfl, rfl⟩
  rw [← imported, ← own, SourceModule.bindings, Descriptor.moduleWith, Descriptor.opening]
  simp only [List.flatMap_append, direct, forTypes, filterClasses, late, List.flatMap_cons, List.flatMap_nil,
    Statement.bindings_blank, Statement.bindings_define, Descriptor.definition, List.append_nil, List.mem_append]
  grind

/-- The module of a class imports from generated modules what its imports say. -/
theorem takes_moduleWith :
    (d.moduleWith entityName imports filters).Takes path name ↔
      ∃ i ∈ imports, (some (.generated path), name) ∈ i.source.bindings := by
  rw [SourceModule.Takes, mem_bindings_moduleWith]
  constructor
  · rintro (library | taken | ⟨own, -⟩)
    · obtain ⟨_, same⟩ := library_of_mem_bindings library
      cases same
    · exact taken
    · cases own
  · exact fun taken => .inr (.inl taken)

/-- It fixes the names of libraries, of its filters and of itself. -/
theorem fixes_moduleWith (generated : ∀ i ∈ imports, i.source.generatedPath?.isSome) :
    (d.moduleWith entityName imports filters).Fixes name ↔
      name ∈ classLibraryNames ∨ (deferredImports imports ≠ [] ∧ name = "TYPE_CHECKING") ∨ name = d.name.display ∨
        ∃ f ∈ filters, name = f.name := by
  have defers : (!(deferredImports imports).isEmpty) = true ↔ deferredImports imports ≠ [] := by
    simp
  rw [← defers, ← or_assoc, ← exists_mem_bindings_libraryImports]
  constructor
  · rintro ⟨source, bound, other⟩
    rcases mem_bindings_moduleWith.1 bound with library | ⟨i, listed, taken⟩ | ⟨-, own⟩
    · exact .inl ⟨source, library⟩
    · obtain ⟨path, same⟩ := exists_path_of_mem_bindings (generated i listed) taken
      exact absurd same (other path)
    · exact .inr own
  · rintro (⟨source, library⟩ | own)
    · obtain ⟨l, rfl⟩ := library_of_mem_bindings library
      exact ⟨_, mem_bindings_moduleWith.2 (.inl library), by simp⟩
    · exact ⟨none, mem_bindings_moduleWith.2 (.inr (.inr ⟨rfl, own⟩)), by simp⟩

/-- The filters of a class have the names that it refers to, each once. -/
theorem Descriptor.map_name_filters (made : d.filters = .ok filters) :
    filters.map Filter.name =
      distinctBy (fun name => name) ((d.references.filter fun r => r.kind == .filter).map fun r => r.name.display) := by
  have named := map_eq_map_of_forall₂ (f := fun s => s) (g := Filter.name) (mapM_eq_ok.1 made) fun s f found => by
    split at found
    · next filter listed =>
        cases found
        have name : f.name = s := by simpa using List.find?_some listed
        exact name.symm
    · cases found
  rw [← named, List.map_id']

/-- The filters of the module of a class are those that it refers to. -/
theorem Descriptor.exists_filter_iff (made : d.filters = .ok filters) :
    (∃ f ∈ filters, name = f.name) ↔ ∃ ref ∈ d.references, ref.kind = .filter ∧ ref.name.display = name := by
  have refers : name ∈ ((d.references.filter fun r => r.kind == .filter).map fun r => r.name.display) ↔
      ∃ ref ∈ d.references, ref.kind = .filter ∧ ref.name.display = name := by
    simp only [List.mem_map, List.mem_filter, beq_iff_eq, and_assoc]
  have listed : (∃ f ∈ filters, name = f.name) ↔ name ∈ filters.map Filter.name := by
    simp only [List.mem_map, eq_comm]
  rw [listed, d.map_name_filters made, ← refers]
  refine ⟨mem_of_mem_distinctBy, fun member => ?_⟩
  obtain ⟨s, kept, same⟩ := exists_mem_distinctBy (fun name => name) member
  exact same ▸ kept

/-- The module of a class defers imports if the class makes a reference that is deferred. -/
theorem Descriptor.defers_iff (made : d.classImports = .ok imports)
    (owned : ∀ ref ∈ d.references, ref.kind ≠ .filter → ∃ owner, ref.entity = .text owner) :
    deferredImports imports ≠ [] ↔ ∃ ref ∈ d.references, ref.kind.isDeferred = true := by
  constructor
  · intro some
    obtain ⟨i, listed⟩ := List.exists_mem_of_ne_nil _ some
    obtain ⟨ref, inClass, -, deferred, -⟩ := d.exists_reference made (mem_deferredImports.1 listed)
    exact ⟨ref, inClass, deferred.symm⟩
  · rintro ⟨ref, inClass, deferred⟩
    have other : ref.kind ≠ .filter := by
      intro isFilter
      rw [isFilter] at deferred
      cases deferred
    obtain ⟨owner, entity⟩ := owned ref inClass other
    obtain ⟨⟨late, i⟩, listed, same, -⟩ := d.exists_import made inClass other entity
    rw [deferred] at same
    cases same
    exact List.ne_nil_of_mem (mem_deferredImports.2 listed)

end dataClass

namespace Schema.Generated

variable {schema : Schema} {classes : Table Descriptor} {byName : Table Entity} {rs : List Resource} {e : Entity}
  {r : Resource} {d : Descriptor} {m : SourceModule} {path name : String}

/-- The module of a class takes the classes that its properties refer to, each from under the name of its entity. -/
theorem class_takes_iff (h : schema.Generated ResourceNaming.derive classes byName rs) (member : r ∈ rs)
    (of : Resource.Of schema ResourceNaming.derive classes byName e r) (isClass : d.IsClassOf schema.ids e)
    {entityName : String} (made : d.toModule entityName = .ok m) :
    m.Takes path name ↔ ∃ ref ∈ d.references, ref.kind ≠ .filter ∧ ref.name.display = name ∧
      path = classPath (Text.camelCase ref.entity.display) name := by
  obtain ⟨imports, filters, importsMade, -, rfl⟩ := Descriptor.toModule_eq_ok.1 made
  rw [takes_moduleWith]
  constructor
  · rintro ⟨i, listed, bound⟩
    obtain ⟨ref, inClass, other, -, -, source⟩ := d.exists_reference importsMade listed
    rw [source, mem_bindings_ofClass, Option.some.injEq, Origin.generated.injEq] at bound
    obtain ⟨rfl, rfl⟩ := bound
    exact ⟨ref, inClass, other, rfl, rfl⟩
  · rintro ⟨ref, inClass, other, rfl, rfl⟩
    obtain ⟨r', listed', entity⟩ := h.reference_owner member of isClass inClass other
    obtain ⟨i, listed, -, line⟩ := d.exists_import importsMade inClass other entity
    -- another import with the same line is the same import
    obtain ⟨ref', inClass', other', -, -, source⟩ := d.exists_reference importsMade listed
    obtain ⟨r'', listed'', entity'⟩ := h.reference_owner member of isClass inClass' other'
    rw [source, entity', Value.display_text] at line
    obtain ⟨owners, names⟩ := Import.ofClass_inj_of_line (h.plain_camelCase listed'') (h.plain_camelCase listed') line
    refine ⟨i, listed, ?_⟩
    rw [source, entity', Value.display_text, owners, names, mem_bindings_ofClass, entity, Value.display_text]
    exact ⟨rfl, rfl⟩

/-- The module of a class fixes what it imports from libraries, itself and the filters that its properties refer to. -/
theorem class_fixes_iff (h : schema.Generated ResourceNaming.derive classes byName rs) (member : r ∈ rs)
    (of : Resource.Of schema ResourceNaming.derive classes byName e r) (isClass : d.IsClassOf schema.ids e)
    {entityName : String} (made : d.toModule entityName = .ok m) :
    m.Fixes name ↔ name ∈ classLibraryNames ∨
      ((∃ ref ∈ d.references, ref.kind.isDeferred = true) ∧ name = "TYPE_CHECKING") ∨ name = d.name.display ∨
      ∃ ref ∈ d.references, ref.kind = .filter ∧ ref.name.display = name := by
  obtain ⟨imports, filters, importsMade, filtersMade, rfl⟩ := Descriptor.toModule_eq_ok.1 made
  have owned : ∀ ref ∈ d.references, ref.kind ≠ .filter → ∃ owner, ref.entity = .text owner := by
    intro ref inClass other
    obtain ⟨r', -, entity⟩ := h.reference_owner member of isClass inClass other
    exact ⟨_, entity⟩
  rw [fixes_moduleWith fun i => d.classImports_generated importsMade, d.defers_iff importsMade owned,
    d.exists_filter_iff filtersMade]

end Schema.Generated

/-! ## What the properties of classes refer to -/

/-- Whether the class of a kind has a property for a field. -/
def DescriptorKind.includes : DescriptorKind → Field → Bool
  | entity, _ => true
  | createInput, f => f.isEditable
  | updateInput, f => f.isEditable
  | whereInput, f => f.isFilterable
  | whereUniqueInput, f => f.isFilterable && f.isIdentifying

/-- What the property of a field refers to in the class of a kind: a class of the related entity, the enumeration of the field
or, where entities are filtered, the filter of a scalar. -/
inductive Field.Refers (ids : Entries) (e : Entity) (kind : DescriptorKind) (f : Field) : Reference → Prop where
  | relation {target : Value} {other : DescriptorKind} (relates : f.kind = .relation)
      (found : relatedName e f ids = .ok target) (refers : kind.target? = some other) :
      Refers ids e kind f { name := .text (target.display ++ other.suffix), kind := other.reference, entity := target }
  | enumeration {many : Bool} {name : Value} (enumerates : f.kind = .enumeration many) (named : enumName e f = .ok name) :
      Refers ids e kind f { name, kind := .enumeration, entity := e.name }
  | filter {t : ScalarType} {filter : Filter} (filters : kind = .whereInput) (scalar : f.kind = .scalar t)
      (found : t.filter? = some filter) :
      Refers ids e kind f { name := .text filter.name, kind := .filter, entity := .null }

section refers

variable {ids : Entries} {e : Entity} {kind : DescriptorKind} {f : Field} {p : Property} {ref : Reference} {d : Descriptor}

/-- A property of a scalar field refers to a class iff the field does, except in the class that filters. -/
theorem scalarProperty_refers {t : ScalarType} (scalar : f.kind = .scalar t) (other : kind ≠ .whereInput) (optional : Bool) :
    (scalarProperty f t optional).reference = some ref ↔ f.Refers ids e kind ref := by
  refine iff_of_false (by simp [scalarProperty]) fun refers => ?_
  cases refers with
  | relation relates => cases scalar.symm.trans relates
  | enumeration enumerates => cases scalar.symm.trans enumerates
  | filter filters => exact other filters

/-- The property that a field gives refers to what the field refers to. -/
theorem Field.Gives.refers {form : PropertyForm} (h : f.Gives ids e form p) (related : kind.target? = some form.other) :
    p.reference = some ref ↔ f.Refers ids e kind ref := by
  have filters : form.other = .whereInput ↔ kind = .whereInput := by
    clear h
    generalize form.other = other at related
    cases kind <;> cases related <;> decide
  cases h with
  | scalar fieldKind other => exact scalarProperty_refers fieldKind (mt filters.2 other) _
  | filter fieldKind filtered found =>
      rw [Option.some.injEq]
      constructor
      · rintro rfl
        exact .filter (filters.1 filtered) fieldKind found
      · intro refers
        cases refers with
        | relation relates => cases fieldKind.symm.trans relates
        | enumeration enumerates => cases fieldKind.symm.trans enumerates
        | filter _ scalar found' =>
            cases fieldKind.symm.trans scalar
            rw [found] at found'
            cases found'
            rfl
  | enumeration fieldKind named =>
      rw [Option.some.injEq]
      constructor
      · rintro rfl
        exact .enumeration fieldKind named
      · intro refers
        cases refers with
        | relation relates => cases fieldKind.symm.trans relates
        | enumeration _ named' =>
            rw [named] at named'
            cases named'
            rfl
        | filter _ scalar => cases fieldKind.symm.trans scalar
  | relation fieldKind found =>
      rw [Option.some.injEq]
      constructor
      · rintro rfl
        exact .relation fieldKind found related
      · intro refers
        cases refers with
        | relation _ found' related' =>
            rw [found] at found'
            rw [related] at related'
            cases found'
            cases related'
            rfl
        | enumeration enumerates => cases fieldKind.symm.trans enumerates
        | filter _ scalar => cases fieldKind.symm.trans scalar

/-- A property that is read refers to a class iff its field does. -/
theorem readProperty_refers (made : readProperty e ids f = .ok p) : p.reference = some ref ↔ f.Refers ids e .entity ref :=
  (readProperty_gives made).refers rfl

/-- So does one that is written. -/
theorem writeProperty_refers (written : kind.target? = some .whereUniqueInput) {allOptional : Bool}
    (made : writeProperty e ids allOptional f = .ok p) : p.reference = some ref ↔ f.Refers ids e kind ref :=
  (writeProperty_gives made).refers written

/-- So does one that filters. -/
theorem whereProperty_refers (made : whereProperty e ids f = .ok p) :
    p.reference = some ref ↔ f.Refers ids e .whereInput ref :=
  (whereProperty_gives made).refers rfl

/-- So does one that identifies. -/
theorem whereUniqueProperty_refers (made : whereUniqueProperty f = .ok p) :
    p.reference = some ref ↔ f.Refers ids e .whereUniqueInput ref := by
  obtain ⟨⟨t, scalar, rfl⟩, -⟩ := whereUniqueProperty_ofField made
  exact scalarProperty_refers scalar (by decide) _

/-- The properties of some fields refer to what the fields refer to. -/
theorem properties_refer_iff {step : Field → Except Fault Property} {fields : List Field} {properties : List Property}
    (steps : fields.mapM step = .ok properties)
    (each : ∀ f p, step f = .ok p → (p.reference = some ref ↔ f.Refers ids e kind ref)) :
    (∃ p ∈ properties, p.reference = some ref) ↔ ∃ f ∈ fields, f.Refers ids e kind ref := by
  constructor
  · rintro ⟨p, listed, reference⟩
    obtain ⟨f, member, step⟩ := exists_mem_of_mapM_eq_ok steps listed
    exact ⟨f, member, (each f p step).1 reference⟩
  · rintro ⟨f, member, refers⟩
    obtain ⟨p, listed, step⟩ := mem_results_of_mapM_eq_ok steps member
    exact ⟨p, listed, (each f p step).2 refers⟩

/-- The properties of a class refer to what the fields that it includes refer to. -/
theorem Descriptor.IsClassOf.properties_refer_iff (h : d.IsClassOf ids e) :
    (∃ p ∈ d.properties, p.reference = some ref) ↔
      ∃ f ∈ e.fields, d.kind.includes f = true ∧ f.Refers ids e d.kind ref := by
  have filtered {p : Field → Bool} {q : Field → Prop} :
      (∃ f ∈ e.fields.filter p, q f) ↔ ∃ f ∈ e.fields, p f = true ∧ q f := by
    simp only [List.mem_filter, and_assoc]
  cases h with
  | read made =>
      obtain ⟨properties, steps, rest⟩ := bind_eq_ok.1 made
      cases rest
      rw [ResourceScaffold.properties_refer_iff steps fun _ _ => readProperty_refers]
      simp [DescriptorKind.includes]
  | create made =>
      obtain ⟨properties, steps, rest⟩ := bind_eq_ok.1 made
      cases rest
      have written : DescriptorKind.createInput.target? = some .whereUniqueInput := rfl
      rw [ResourceScaffold.properties_refer_iff steps fun _ _ => writeProperty_refers written, filtered]
      rfl
  | update made =>
      obtain ⟨properties, steps, rest⟩ := bind_eq_ok.1 made
      cases rest
      have written : DescriptorKind.updateInput.target? = some .whereUniqueInput := rfl
      rw [ResourceScaffold.properties_refer_iff steps fun _ _ => writeProperty_refers written, filtered]
      rfl
  | filter made =>
      obtain ⟨properties, steps, rest⟩ := bind_eq_ok.1 made
      cases rest
      rw [ResourceScaffold.properties_refer_iff steps fun _ _ => whereProperty_refers, filtered]
      rfl
  | identify made =>
      obtain ⟨properties, steps, rest⟩ := bind_eq_ok.1 made
      cases rest
      rw [ResourceScaffold.properties_refer_iff steps fun _ _ => whereUniqueProperty_refers, filtered]
      rfl

/-- A class refers to what its properties refer to, except to itself. -/
theorem Descriptor.mem_references_iff_of_name {s : String} (own : d.name = .text s) :
    ref ∈ d.references ↔ (∃ p ∈ d.properties, p.reference = some ref) ∧ ref.name ≠ d.name := by
  have same : ref.name.sameKey d.name = true ↔ ref.name = d.name := by
    refine ⟨eq_of_sameKey_text own, fun same => ?_⟩
    rw [same, own, Value.sameKey, Value.key?_text]
    simp
  rw [Descriptor.references, List.mem_filter, List.mem_filterMap, Bool.not_eq_true', ← Bool.not_eq_true, same]

/-- A class refers to what the fields that it includes refer to, except to itself. -/
theorem Descriptor.IsClassOf.mem_references_iff (h : d.IsClassOf ids e) {s : String} (text : e.name = .text s) :
    ref ∈ d.references ↔ (∃ f ∈ e.fields, d.kind.includes f = true ∧ f.Refers ids e d.kind ref) ∧
      ref.name ≠ e.nameWith d.kind.suffix := by
  have own := h.name_eq text
  rw [d.mem_references_iff_of_name own, h.properties_refer_iff, own, Entity.nameWith, text, Value.display_text]

end refers

/-! ## Modules of controllers -/

/-- What the module of a controller imports from libraries or defines, whatever its entity is. -/
def controllerNames : List String :=
  ["json", "List", "Optional", "APIRouter", "Depends", "HTTPException", "Query", "ValidationError", "router", "get_service"]

section controller

variable {c : Controller} {endpoints : List Endpoint} {path name : String} {source : Option Origin}

/-- What a controller binds besides its imports of generated modules. -/
def Controller.ownBindings (c : Controller) (endpoints : List Endpoint) : List (Option Origin × String) :=
  [(some (.library "json"), "json")] ++
  (if c.keyIsDate then [(some (.library "datetime"), "datetime")] else []) ++
  [(some (.library "typing"), "List"), (some (.library "typing"), "Optional"),
   (some (.library "fastapi"), "APIRouter"), (some (.library "fastapi"), "Depends"),
   (some (.library "fastapi"), "HTTPException"), (some (.library "fastapi"), "Query"),
   (some (.library "pydantic"), "ValidationError"), (none, "router"), (none, c.selectName), (none, "get_service")] ++
  endpoints.map fun e => (none, e.name)

/-- A controller binds what it imports and what it defines. -/
theorem Controller.mem_bindings :
    (source, name) ∈ (c.moduleWith endpoints).bindings ↔
      (∃ i ∈ c.serviceImport :: c.classImports, (source, name) ∈ i.bindings) ∨ (source, name) ∈ c.ownBindings endpoints := by
  have routes : (endpoints.flatMap fun e => [.blank, .blank, .endpoint e]).flatMap Statement.bindings =
      endpoints.map fun e => (none, e.name) := by
    rw [List.flatMap_assoc, List.map_eq_flatMap]
    exact List.flatMap_congr fun e _ => rfl
  have date : (if c.keyIsDate then [.importNames { origin := .library "datetime", names := ["datetime"] }] else []).flatMap
      Statement.bindings = if c.keyIsDate then [(some (.library "datetime"), "datetime")] else [] := by
    split <;> rfl
  have classes : (c.classImports.map .importNames).flatMap Statement.bindings = c.classImports.flatMap Import.bindings := by
    simp [List.flatMap_map]
  rw [SourceModule.bindings, moduleWith, opening, ownBindings]
  simp only [List.flatMap_append, routes, date, classes, List.mem_append, List.mem_flatMap,
    List.flatMap_cons, List.flatMap_nil, Statement.bindings_blank, Statement.bindings_importModule,
    Statement.bindings_importNames, Statement.bindings_assign, Statement.bindings_function, serviceImport, Import.bindings,
    List.map_cons, List.map_nil, List.append_nil, List.mem_cons, List.not_mem_nil, or_false, false_or]
  grind

/-- What a controller defines comes from no generated module. -/
theorem Controller.other_of_mem_ownBindings (h : (source, name) ∈ c.ownBindings endpoints) (path : String) :
    source ≠ some (.generated path) := by
  rintro rfl
  unfold ownBindings at h
  split at h <;> simp at h

/-- The module of a controller imports its service and its classes from generated modules. -/
theorem Controller.takes_moduleWith :
    (c.moduleWith endpoints).Takes path name ↔
      path = c.service ∧ name = serviceClass c.entityType ∨
        ∃ i ∈ c.classImports, (some (.generated path), name) ∈ i.bindings := by
  have service : (some (.generated path), name) ∈ c.serviceImport.bindings ↔
      path = c.service ∧ name = serviceClass c.entityType := by
    simp [serviceImport, Import.bindings]
  rw [SourceModule.Takes, mem_bindings, or_iff_left fun own => other_of_mem_ownBindings own path rfl]
  simp only [List.mem_cons, exists_eq_or_imp, service]

/-- The module of a controller imports from libraries or defines the names of every controller, its constant and its routes. -/
theorem Controller.fixes_moduleWith :
    (c.moduleWith endpoints).Fixes name ↔
      name ∈ controllerNames ∨ (c.keyIsDate = true ∧ name = "datetime") ∨ name = c.selectName ∨
        ∃ route ∈ endpoints, route.name = name := by
  have own : (∃ source, (source, name) ∈ c.ownBindings endpoints) ↔
      name ∈ controllerNames ∨ (c.keyIsDate = true ∧ name = "datetime") ∨ name = c.selectName ∨
        ∃ route ∈ endpoints, route.name = name := by
    have names : (c.ownBindings endpoints).map Prod.snd =
        ["json"] ++ (if c.keyIsDate then ["datetime"] else []) ++
          ["List", "Optional", "APIRouter", "Depends", "HTTPException", "Query", "ValidationError", "router", c.selectName,
            "get_service"] ++ endpoints.map Endpoint.name := by
      rw [ownBindings]
      split <;> simp
    rw [exists_mem_bindings_iff, names]
    grind [controllerNames]
  rw [← own]
  constructor
  · rintro ⟨source, bound, other⟩
    rcases mem_bindings.1 bound with ⟨i, listed, taken⟩ | own
    · have generated : i.generatedPath?.isSome := by
        rcases List.mem_cons.1 listed with rfl | isClass
        · rfl
        · exact classImports_generated isClass
      obtain ⟨path, same⟩ := exists_path_of_mem_bindings generated taken
      exact absurd same (other path)
    · exact ⟨source, own⟩
  · rintro ⟨source, own⟩
    exact ⟨source, mem_bindings.2 (.inr own), other_of_mem_ownBindings own⟩

end controller

end ResourceScaffold
