import ResourceScaffold.Proofs.Linking
import ResourceScaffold.Proofs.Paths

/-!
# The dependencies of generated modules

A module lists the paths of the modules that it imports.

* A path tells the resource and the class that an import of a class leads to (`Schema.Generated.ofClass_inj`).
* A class does not refer to one entity both directly and by a deferred import
  (`Descriptor.IsClassOf.entity_ne_of_isDeferred`).
* So every module of a generation lists each dependency once (`Schema.Generated.dependencies_nodup`).
-/

namespace ResourceScaffold

open Code

/-! ## Lists without repetitions -/

/-- Different elements give different results. -/
theorem nodup_filterMap {α β : Type} {f : α → Option β} {as : List α} (distinct : as.Nodup)
    (inj : ∀ a ∈ as, ∀ b ∈ as, (f a).isSome → f a = f b → a = b) : (as.filterMap f).Nodup := by
  refine List.Pairwise.filterMap f ?_ (distinct.imp_of_mem fun ha hb differ => And.intro (And.intro ha hb) differ)
  rintro a b ⟨⟨ha, hb⟩, differ⟩ x found y found' rfl
  exact differ (inj a ha b hb (by simp [found]) (found.trans found'.symm))

/-- Elements of which all have a result. -/
theorem map_eq_map_some {α β : Type} {f : α → Option β} {as : List α} (each : ∀ a ∈ as, (f a).isSome) :
    as.map f = (as.filterMap f).map some := by
  induction as with
  | nil => rfl
  | cons a rest ih =>
      obtain ⟨b, found⟩ := Option.isSome_iff_exists.1 (each a List.mem_cons_self)
      rw [List.map_cons, List.filterMap_cons_some found, List.map_cons, found, ih fun a ha => each a (List.mem_cons_of_mem _ ha)]

/-- The import of a class leads to the file of the class. -/
theorem generatedPath?_ofClass (entityName className : String) :
    (Import.ofClass entityName className).generatedPath? = some (classPath entityName className) := rfl

/-! ## References of a class -/

section

variable {ids : Entries} {e : Entity} {d : Descriptor} {first second : Reference}

/-- Classes of a kind defer references to classes of their own kind only. -/
theorem DescriptorKind.eq_of_isDeferred {kind other : DescriptorKind} (refers : kind.target? = some other)
    (deferred : other.reference.isDeferred = true) : other = kind := by
  revert refers deferred
  cases kind <;> cases other <;> decide

/-- A deferred reference is one to another entity, and the direct ones beside it are to the own entity. -/
theorem Descriptor.IsClassOf.entity_ne_of_isDeferred (h : d.IsClassOf ids e) {name : String} (entity : e.name = .text name)
    (inClass : first ∈ d.references) (deferred : first.kind.isDeferred = true) (beside : second ∈ d.references)
    (direct : second.kind.isDeferred = false) (other : second.kind ≠ .filter) : first.entity ≠ second.entity := by
  obtain ⟨arises, differs⟩ := h.references inClass
  cases arises with
  | @relation f target kind member relates found refers =>
      have same : kind = d.kind := DescriptorKind.eq_of_isDeferred refers deferred
      have own : second.entity = e.name := by
        cases (h.references beside).1 with
        | @relation f' target' kind' member' relates' found' refers' =>
            rw [refers] at refers'
            cases refers'
            exact absurd (deferred.symm.trans direct) (by decide)
        | enumeration => rfl
        | filter => exact absurd rfl other
      -- a deferred reference to the own entity would be one to the class itself
      intro agree
      have owner : target = .text name := (agree.trans own).trans entity
      rw [h.name_eq entity, owner, same] at differs
      simp [Value.sameKey] at differs
  | enumeration => cases deferred
  | filter => cases deferred

end

namespace Schema.Generated

variable {schema : Schema} {classes : Table Descriptor} {byName : Table Entity} {rs : List Resource} {e : Entity}
  {r r' : Resource} {d : Descriptor} {part : Part} {m : SourceModule}

/-- What a class refers to belongs to a resource. -/
theorem reference_owner (h : schema.Generated ResourceNaming.derive classes byName rs) (member : r ∈ rs)
    (of : Resource.Of schema ResourceNaming.derive classes byName e r) (isClass : d.IsClassOf schema.ids e)
    {ref : Reference} (inClass : ref ∈ d.references) (other : ref.kind ≠ .filter) :
    ∃ r' ∈ rs, ref.entity = .text r'.name := by
  cases (isClass.references inClass).1 with
  | relation field relates found refers =>
      obtain ⟨r', listed, related⟩ := h.target of (List.mem_filter.2 ⟨field, relates⟩)
      rw [related] at found
      cases found
      exact ⟨r', listed, rfl⟩
  | enumeration field enumerates named => exact ⟨r, member, of.name⟩
  | filter => exact absurd rfl other

/-- The identifier of a resource is one segment of a path. -/
theorem segment (h : schema.Generated ResourceNaming.derive classes byName rs) (member : r ∈ rs) :
    '/' ∉ (r.identifier ResourceNaming.derive).toList := by
  obtain ⟨e, listed, of⟩ := h.owner member
  exact of.slash_not_mem (h.prepared.named listed)

/-- A path tells which class of which resource is imported. -/
theorem ofClass_inj (h : schema.Generated ResourceNaming.derive classes byName rs) (member : r ∈ rs) (member' : r' ∈ rs)
    {a b : String}
    (same : (Import.ofClass (r.identifier ResourceNaming.derive) a).generatedPath? =
      (Import.ofClass (r'.identifier ResourceNaming.derive) b).generatedPath?) : r = r' ∧ a = b := by
  have paths : classPath (r.identifier ResourceNaming.derive) a = classPath (r'.identifier ResourceNaming.derive) b := by
    rwa [generatedPath?_ofClass, generatedPath?_ofClass, Option.some.injEq] at same
  have under : IsUnder (r'.identifier ResourceNaming.derive) (classPath (r.identifier ResourceNaming.derive) a) := by
    rw [paths]
    exact isUnder_classPath _ b
  have identifiers := (isUnder_classPath _ a).unique under (h.segment member) (h.segment member')
  rw [identifiers] at paths
  exact ⟨List.inj_on_of_nodup_map h.identifiers_nodup member member' identifiers, classPath_inj.1 paths⟩

/-! ## Modules of each kind -/

/-- The imports of a data class have different paths. -/
theorem classImport_inj (h : schema.Generated ResourceNaming.derive classes byName rs) (member : r ∈ rs)
    (of : Resource.Of schema ResourceNaming.derive classes byName e r) (isClass : d.IsClassOf schema.ids e)
    {imports : List ClassImport} (made : d.classImports = .ok imports) {i j : ClassImport} (hi : i ∈ imports)
    (hj : j ∈ imports) (same : i.source.generatedPath? = j.source.generatedPath?) : i = j := by
  have found {i : ClassImport} (listed : i ∈ imports) : ∃ ref ∈ d.references, ref.kind ≠ .filter ∧
      i.deferred = ref.kind.isDeferred ∧ ∃ r' ∈ rs, ref.entity = .text r'.name ∧
        ∃ name, i.source = Import.ofClass (r'.identifier ResourceNaming.derive) name := by
    obtain ⟨ref, inClass, other, deferred, -, source⟩ := d.exists_reference made listed
    obtain ⟨r', listed', entity⟩ := h.reference_owner member of isClass inClass other
    rw [entity, Value.display_text] at source
    exact ⟨ref, inClass, other, deferred, r', listed', entity, _, source⟩
  obtain ⟨first, inClass, other, deferred, r₁, listed₁, entity₁, a, source₁⟩ := found hi
  obtain ⟨second, inClass', other', deferred', r₂, listed₂, entity₂, b, source₂⟩ := found hj
  rw [source₁, source₂] at same
  obtain ⟨rfl, rfl⟩ := h.ofClass_inj listed₁ listed₂ same
  have entities : first.entity = second.entity := entity₁.trans entity₂.symm
  have agree : first.kind.isDeferred = second.kind.isDeferred := by
    cases hf : first.kind.isDeferred <;> cases hs : second.kind.isDeferred
    · rfl
    · exact absurd entities.symm (isClass.entity_ne_of_isDeferred of.name inClass' hs inClass hf other)
    · exact absurd entities (isClass.entity_ne_of_isDeferred of.name inClass hf inClass' hs other')
    · rfl
  cases i
  cases j
  simp only at source₁ source₂ deferred deferred'
  rw [source₁, source₂, deferred, deferred', agree]

/-- The module of a data class names no dependency twice. -/
theorem dataClass_dependencies_nodup (h : schema.Generated ResourceNaming.derive classes byName rs) (member : r ∈ rs)
    (of : Resource.Of schema ResourceNaming.derive classes byName e r) (isClass : d.IsClassOf schema.ids e)
    {entityName : String} (made : d.toModule entityName = .ok m) : m.dependencies.Nodup := by
  obtain ⟨imports, filters, importsMade, -, rfl⟩ := Descriptor.toModule_eq_ok.1 made
  have distinct : imports.Nodup := by
    obtain ⟨all, -, rest⟩ := bind_eq_ok.1 importsMade
    cases rest
    exact (nodup_map_distinctBy _ all).of_map _
  exact nodup_filterMap distinct fun i hi j hj _ same => h.classImport_inj member of isClass importsMade hi hj same

/-- The module of a service is not that of a class. -/
theorem classPath_ne_service (h : schema.Generated ResourceNaming.derive classes byName rs) (member : r ∈ rs)
    (member' : r' ∈ rs) (name : String) :
    classPath (r'.identifier ResourceNaming.derive) name ≠ (r.service ResourceNaming.derive).path := by
  intro same
  have meets : classPath (r'.identifier ResourceNaming.derive) name = r.identifier ResourceNaming.derive ++ "/" ++
      (r.identifier ResourceNaming.derive ++ "_service.py") := by
    rw [same]
    simp only [Resource.service, serviceModule, servicePath, Resource.identifier, String.append_assoc]
  have under : IsUnder (r.identifier ResourceNaming.derive) (classPath (r'.identifier ResourceNaming.derive) name) :=
    ⟨_, meets⟩
  have identifiers := under.unique (isUnder_classPath _ name) (h.segment member) (h.segment member')
  rw [← identifiers] at meets
  exact classPath_ne (slash_not_mem_resourceFiles (h.segment member) List.mem_cons_self) meets

/-- A controller imports each class once, and its service, which is no class. -/
theorem controller_dependencies_nodup (h : schema.Generated ResourceNaming.derive classes byName rs) (member : r ∈ rs)
    (listed : e ∈ schema.entities) (of : Resource.Of schema ResourceNaming.derive classes byName e r) :
    r.controllerModule.dependencies.Nodup := by
  obtain ⟨endpoints, -, rendered⟩ := Controller.toModule_eq_ok.1 of.controllerModule
  obtain ⟨-, -, -, service, -, -⟩ := h.controller_eq listed of
  have distinct : r.controller.classImports.Nodup := (nodup_map_distinctBy _ _).of_map _
  rw [rendered]
  refine List.nodup_cons.2 ⟨fun isClass => ?_, nodup_filterMap distinct fun i hi j hj _ same => ?_⟩
  · obtain ⟨i, imported, path⟩ := List.mem_filterMap.1 isClass
    obtain ⟨r', listed', kind, -, name, rfl⟩ := h.controllerImport_provided member listed of imported
    rw [service] at path
    exact h.classPath_ne_service member listed' name (Option.some.inj path)
  · obtain ⟨r₁, listed₁, -, -, a, rfl⟩ := h.controllerImport_provided member listed of hi
    obtain ⟨r₂, listed₂, -, -, b, rfl⟩ := h.controllerImport_provided member listed of hj
    obtain ⟨rfl, rfl⟩ := h.ofClass_inj listed₁ listed₂ same
    rfl

/-- Every module of a generation lists each dependency once. -/
theorem dependencies_nodup (h : schema.Generated ResourceNaming.derive classes byName rs) (member : r ∈ rs)
    (listed : e ∈ schema.entities) (of : Resource.Of schema ResourceNaming.derive classes byName e r)
    (hasPart : r.HasPart ResourceNaming.derive part m) : m.dependencies.Nodup := by
  have files : ([r.service ResourceNaming.derive, r.controllerModule, r.wiring ResourceNaming.derive, r.tests].map
      SourceModule.path).Nodup := by
    rw [of.files_paths]
    exact resourcePaths_nodup _
  cases hasPart with
  | dataClass inClasses made => exact h.dataClass_dependencies_nodup member of (of.isClassOf inClasses) made
  | enumeration inEnums => exact List.nodup_nil
  | service => exact List.nodup_nil
  | controller => exact h.controller_dependencies_nodup member listed of
  | wiring => exact files.sublist (by simp [Resource.wiring, wiringModule])
  | tests =>
      obtain ⟨plan, -, rendered⟩ := testModule_eq_ok.1 of.tests
      have listsTwo : r.tests.dependencies = [(r.service ResourceNaming.derive).path, (r.wiring ResourceNaming.derive).path] := by
        rw [rendered]
        rfl
      rw [listsTwo]
      exact files.sublist (.cons_cons _ (.cons _ (.cons_cons _ (.cons _ .slnil))))

end Schema.Generated

end ResourceScaffold
