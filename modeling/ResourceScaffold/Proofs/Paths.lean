import ResourceScaffold.Proofs.Acceptance
import ResourceScaffold.Proofs.Names

/-!
# The paths of generated modules

Every module of an entity has a path under the identifier of the entity (`Resource.Of.under`), and no two accepted entities
share an identifier, so only modules of one entity can meet on a path. Among those, the modules other than classes never
meet with another one, and two classes do exactly if they have one name. So no two modules of a generation share a path iff
no entity has two classes of one name (`generate_paths_nodup_iff`). The names of its five data classes are always
different; what can coincide are the names of its enumerations, with each other or with a data class.
-/

namespace ResourceScaffold

open Code

/-! ## Parts of paths -/

/-- What stands before the first mark in a list, and what stands after it, are determined by the list. -/
theorem eq_and_eq_of_append_cons {α : Type} {x y s t : List α} {mark : α} (hx : mark ∉ x) (hy : mark ∉ y)
    (same : x ++ mark :: s = y ++ mark :: t) : x = y ∧ s = t := by
  induction x generalizing y with
  | nil =>
      cases y with
      | nil => exact ⟨rfl, (List.cons.inj same).2⟩
      | cons b y => exact absurd ((List.cons.inj same).1 ▸ List.mem_cons_self) hy
  | cons a x ih =>
      cases y with
      | nil => exact absurd ((List.cons.inj same).1 ▸ List.mem_cons_self) hx
      | cons b y =>
          obtain ⟨rfl, rest⟩ := List.cons.inj same
          obtain ⟨rfl, tails⟩ := ih (List.not_mem_of_not_mem_cons hx) (List.not_mem_of_not_mem_cons hy) rest
          exact ⟨rfl, tails⟩

/-- The path lies in the directory of the resource. -/
def IsUnder (entityName path : String) : Prop :=
  ∃ rest, path = entityName ++ "/" ++ rest

/-- A directory of one segment is determined by each path in it. -/
theorem IsUnder.unique {a b path : String} (ha : IsUnder a path) (hb : IsUnder b path) (segmentA : '/' ∉ a.toList)
    (segmentB : '/' ∉ b.toList) : a = b := by
  obtain ⟨rest, rfl⟩ := ha
  obtain ⟨rest', same⟩ := hb
  have chars := congrArg String.toList same
  simp only [String.toList_append, String.reduceToList, List.append_assoc, List.cons_append, List.nil_append] at chars
  exact String.toList_inj.1 (eq_and_eq_of_append_cons segmentA segmentB chars).1

/-- A class file lies under its entity's directory. -/
theorem isUnder_classPath (entityName className : String) : IsUnder entityName (classPath entityName className) := by
  refine ⟨"base/" ++ className ++ ".py", ?_⟩
  have base : "/base/" = "/" ++ "base/" := rfl
  rw [classPath, base]
  simp only [String.append_assoc]

/-- Within one entity two class files agree only where the classes do. -/
theorem classPath_inj {entityName a b : String} : classPath entityName a = classPath entityName b ↔ a = b := by
  constructor
  · intro same
    have chars := congrArg String.toList same
    simp only [classPath, String.toList_append, List.append_assoc] at chars
    have rest := List.append_cancel_left (List.append_cancel_left chars)
    exact String.toList_inj.1 (List.append_cancel_right rest)
  · rintro rfl
    rfl

/-- A text without slashes stays as it is in the path for imports. -/
theorem map_dot_of_not_mem {s : List Char} (slash : '/' ∉ s) : s.map (fun c => if c = '/' then '.' else c) = s := by
  calc
    s.map (fun c => if c = '/' then '.' else c) = s.map id := by
      apply List.map_congr_left
      intro c member
      have other : c ≠ '/' := fun same => slash (same ▸ member)
      exact if_neg other
    _ = s := List.map_id s

/-- A module is imported under its path with dots for the slashes. -/
theorem toList_importPath (path : String) :
    (importPath (path ++ ".py")).toList = path.toList.map fun c => if c = '/' then '.' else c := by
  have suffix : dropSuffix (path ++ ".py").toList = path.toList := by
    have ends : ['.', 'p', 'y'].isSuffixOf (path.toList ++ ['.', 'p', 'y']) = true := by simp
    have chars : (path ++ ".py").toList = path.toList ++ ['.', 'p', 'y'] := by simp
    rw [dropSuffix, chars, if_pos ends]
    simp
  rw [importPath, String.toList_ofList, suffix]

/-- The path of a class is not that of another module of a resource. -/
theorem classPath_ne {entityName className rest : String} (segment : '/' ∉ rest.toList) :
    classPath entityName className ≠ entityName ++ "/" ++ rest := by
  intro same
  have chars := congrArg String.toList same
  simp only [classPath, String.toList_append, String.reduceToList, List.append_assoc] at chars
  have tails := List.append_cancel_left chars
  simp only [List.cons_append, List.nil_append, List.cons.injEq, true_and] at tails
  rw [← tails] at segment
  exact segment (by simp)

/-- The paths of the modules of a resource that are not classes, after its directory. -/
def resourceFiles (entityName : String) : List String :=
  [entityName ++ "_service.py", entityName ++ "_controller.py", entityName ++ "_module.py",
   "test_" ++ entityName ++ "_controller.py"]

/-- The files beside the class files have distinct names. -/
theorem resourceFiles_nodup (entityName : String) : (resourceFiles entityName).Nodup := by
  let ending (s : String) := s.toList.reverse.take 5
  have service (s : String) : ending (s ++ "_service.py") = ['y', 'p', '.', 'e', 'c'] := by simp [ending]
  have controller (s : String) : ending (s ++ "_controller.py") = ['y', 'p', '.', 'r', 'e'] := by simp [ending]
  have wiring (s : String) : ending (s ++ "_module.py") = ['y', 'p', '.', 'e', 'l'] := by simp [ending]
  have differ {s t : String} (h : ending s ≠ ending t) : s ≠ t := fun same => h (congrArg ending same)
  -- the tests end like the controller, but their name is longer
  have longer : entityName ++ "_controller.py" ≠ "test_" ++ entityName ++ "_controller.py" := by
    intro same
    have lengths := congrArg String.length same
    simp only [String.length_append] at lengths
    have prefixed : "test_".length = 5 := rfl
    omega
  simp only [resourceFiles, List.nodup_cons, List.mem_cons, List.not_mem_nil, or_false, not_or, not_false_eq_true,
    List.nodup_nil, and_true]
  refine ⟨⟨differ ?_, differ ?_, differ ?_⟩, ⟨differ ?_, longer⟩, differ ?_⟩ <;>
    simp only [service, controller, wiring] <;> decide

/-- The files beside the class files have distinct paths. -/
theorem resourcePaths_nodup (entityName : String) :
    ((resourceFiles entityName).map (entityName ++ "/" ++ ·)).Nodup := by
  refine (List.nodup_map_iff_inj_on (resourceFiles_nodup _)).2 fun a _ b _ same => ?_
  have chars := congrArg String.toList same
  simp only [String.toList_append] at chars
  exact String.toList_inj.1 (List.append_cancel_left chars)

/-- The names of the files beside the class files are single segments. -/
theorem slash_not_mem_resourceFiles {entityName file : String} (segment : '/' ∉ entityName.toList)
    (h : file ∈ resourceFiles entityName) : '/' ∉ file.toList := by
  simp only [resourceFiles, List.mem_cons, List.not_mem_nil, or_false] at h
  rcases h with rfl | rfl | rfl | rfl <;> simpa using segment

/-! ## The modules of an entity -/

namespace Resource

/-- The names of the classes of a resource: its data classes and its enumerations. -/
def classNames (r : Resource) : List String :=
  (r.read :: r.inputs.toList).map (fun d => d.name.display) ++ r.enumerations.map fun d => d.name.display

variable {schema : Schema} {classes : Table Descriptor} {byName : Table Entity} {e : Entity} {r : Resource}

/-- The paths of the modules of the classes of operations. -/
theorem Of.inputModules_paths {naming : NamingStrategy} (h : Of schema naming classes byName e r) :
    r.inputModules.map SourceModule.path =
      r.inputs.toList.map fun d => classPath (r.identifier naming) d.name.display :=
  (map_eq_map_of_forall₂ (mapM_eq_ok.1 h.inputModules) fun _ _ made => (Descriptor.path_of_toModule made).symm).symm

/-- The names of the enumerations follow from the fields. -/
theorem Of.enumNames {naming : NamingStrategy} (h : Of schema naming classes byName e r) :
    e.enumFields.mapM (enumName e) = .ok (r.enumerations.map EnumDescriptor.name) := by
  refine mapM_eq_ok.2 (List.forall₂_map_right_iff.2 ?_)
  exact (mapM_eq_ok.1 h.enumerations).imp fun f d => enumName_of_ofField

/-- The paths of the modules of an entity that are not classes. -/
theorem Of.files_paths (h : Of schema ResourceNaming.derive classes byName e r) :
    [r.service ResourceNaming.derive, r.controllerModule, r.wiring ResourceNaming.derive, r.tests].map SourceModule.path =
      (resourceFiles (r.identifier ResourceNaming.derive)).map (r.identifier ResourceNaming.derive ++ "/" ++ ·) := by
  obtain ⟨endpoints, -, controller⟩ := Controller.toModule_eq_ok.1 h.controllerModule
  obtain ⟨plan, -, tests⟩ := testModule_eq_ok.1 h.tests
  obtain ⟨-, -, entityName, -, -⟩ := Controller.ofEntity_eq_ok h.controller
  simp only [List.map_cons, List.map_nil, resourceFiles, controller, tests, entityName, Controller.moduleWith,
    TestPlan.moduleWith, service, serviceModule, wiring, wiringModule, servicePath, controllerPath, testPath,
    identifier, ResourceNaming.derive, String.append_assoc]
  rfl

/-- The paths of the modules of an entity are those of its classes and those of its other modules. -/
theorem Of.paths_perm (h : Of schema ResourceNaming.derive classes byName e r) :
    ((r.block ResourceNaming.derive ++ [r.readModule]).map SourceModule.path).Perm
      (r.classNames.map (classPath (r.identifier ResourceNaming.derive)) ++
        (resourceFiles (r.identifier ResourceNaming.derive)).map
          (r.identifier ResourceNaming.derive ++ "/" ++ ·)) := by
  have enums : (r.enumModules ResourceNaming.derive).map SourceModule.path =
      r.enumerations.map fun d => classPath (r.identifier ResourceNaming.derive) d.name.display := by
    rw [enumModules, List.map_map]
    rfl
  rw [List.map_append, block, List.map_append, List.map_append, h.inputModules_paths, enums, h.files_paths, List.map_singleton,
    Descriptor.path_of_toModule h.readModule]
  simp only [classNames, List.map_cons, List.map_append, List.map_map, Function.comp_def, List.cons_append]
  exact List.perm_append_singleton _ _

/-- Every module of an entity lies in the directory of the entity. -/
theorem Of.under (h : Of schema ResourceNaming.derive classes byName e r) {m : SourceModule}
    (member : m ∈ r.block ResourceNaming.derive ++ [r.readModule]) :
    IsUnder (r.identifier ResourceNaming.derive) m.path := by
  rcases List.mem_append.1 (h.paths_perm.subset (List.mem_map_of_mem member)) with isClass | other
  · obtain ⟨name, -, path⟩ := List.mem_map.1 isClass
    exact path ▸ isUnder_classPath _ _
  · obtain ⟨file, -, path⟩ := List.mem_map.1 other
    exact ⟨file, path.symm⟩

/-- The modules of an entity have different paths iff its classes have different names. -/
theorem Of.paths_nodup_iff (h : Of schema ResourceNaming.derive classes byName e r)
    (segment : '/' ∉ (r.identifier ResourceNaming.derive).toList) :
    ((r.block ResourceNaming.derive ++ [r.readModule]).map SourceModule.path).Nodup ↔ r.classNames.Nodup := by
  rw [h.paths_perm.nodup_iff, List.nodup_append]
  constructor
  · rintro ⟨names, -, -⟩
    exact names.of_map _
  · intro names
    refine ⟨(List.nodup_map_iff_inj_on names).2 fun a _ b _ => classPath_inj.1, resourcePaths_nodup _, ?_⟩
    rintro path isClass other isFile rfl
    obtain ⟨name, -, rfl⟩ := List.mem_map.1 isClass
    obtain ⟨file, listed, same⟩ := List.mem_map.1 isFile
    exact classPath_ne (slash_not_mem_resourceFiles segment listed) same.symm

end Resource

/-! ## The modules of a batch -/

/-- The names of the classes of an entity: its five data classes and its enumerations. -/
def Entity.classNames (e : Entity) : Except Fault (List String) := do
  let enumerations ← e.enumFields.mapM (enumName e)
  return (DescriptorKind.all.map fun kind => e.name.display ++ kind.suffix) ++ enumerations.map Value.display

variable {schema : Schema} {classes : Table Descriptor} {byName : Table Entity} {e : Entity} {r : Resource}

/-- The classes of an entity have the names that follow from the entity alone. -/
theorem Resource.Of.classNames_eq_ok {naming : NamingStrategy} (h : Of schema naming classes byName e r) :
    e.classNames = .ok r.classNames := by
  have names := congrArg (List.map Value.display) (classes_names h.name h.read h.inputs)
  rw [List.map_map, List.map_map] at names
  rw [Entity.classNames, h.enumNames, ok_bind, classNames, h.name, Value.display_text, List.map_map]
  exact congrArg Except.ok (congrArg (· ++ _) names.symm)

/-- The identifier of an entity of a batch is one segment of a path. -/
theorem Resource.Of.slash_not_mem (h : Of schema ResourceNaming.derive classes byName e r)
    (named : checkEntityName e.name = .ok ()) : '/' ∉ (r.identifier ResourceNaming.derive).toList := by
  intro slash
  rw [h.name] at named
  have alphanum := isAlphanum_of_mem_identifier named slash
  cases alphanum

/-- The paths of the modules of a batch are all different iff no entity has two classes of one name. -/
theorem Schema.Generated.paths_nodup_iff {rs : List Resource}
    (generated : schema.Generated ResourceNaming.derive classes byName rs) :
    ((rs.flatMap (Resource.block ResourceNaming.derive) ++ rs.map Resource.readModule).map SourceModule.path).Nodup ↔
      ∀ e ∈ schema.entities, ∃ names, e.classNames = .ok names ∧ names.Nodup := by
  let all (r : Resource) := r.block ResourceNaming.derive ++ [r.readModule]
  have segment {r : Resource} (member : r ∈ rs) : '/' ∉ (r.identifier ResourceNaming.derive).toList := by
    obtain ⟨e, listed, of⟩ := generated.owner member
    exact of.slash_not_mem (generated.prepared.named listed)
  have apart : rs.Pairwise fun r r' => List.Disjoint ((all r).map SourceModule.path) ((all r').map SourceModule.path) := by
    refine (List.pairwise_map.1 generated.identifiers_nodup).imp_of_mem ?_
    intro r r' hr hr' differ path inR inR'
    obtain ⟨m, hm, rfl⟩ := List.mem_map.1 inR
    obtain ⟨m', hm', same⟩ := List.mem_map.1 inR'
    obtain ⟨e, -, of⟩ := generated.owner hr
    obtain ⟨e', -, of'⟩ := generated.owner hr'
    exact differ ((of.under hm).unique (same ▸ of'.under hm') (segment hr) (segment hr'))
  rw [((modules_perm _ rs).map SourceModule.path).nodup_iff, List.map_flatMap, List.nodup_flatMap]
  constructor
  · rintro ⟨nodup, -⟩ e member
    obtain ⟨r, listed, of⟩ := generated.resource member
    exact ⟨r.classNames, of.classNames_eq_ok, (of.paths_nodup_iff (segment listed)).1 (nodup r listed)⟩
  · intro distinct
    refine ⟨fun r listed => ?_, apart⟩
    obtain ⟨e, member, of⟩ := generated.owner listed
    obtain ⟨names, made, nodup⟩ := distinct e member
    rw [of.classNames_eq_ok] at made
    cases made
    exact (of.paths_nodup_iff (segment listed)).2 nodup

/-- The paths of a generation are all different iff no entity has two classes of one name. -/
theorem generate_paths_nodup_iff {modules : List SourceModule}
    (h : (schema.generate ResourceNaming.derive).outcome = .ok modules) :
    (modules.map SourceModule.path).Nodup ↔
      ∀ e ∈ schema.entities, ∃ names, e.classNames = .ok names ∧ names.Nodup := by
  obtain ⟨classes, byName, rs, generated, rfl⟩ := generate_eq_ok h
  exact generated.paths_nodup_iff

/-- A schema with two enumerations of one name, since made names do not tell the case of the first letter of a field. -/
def Schema.twoStatuses : Schema :=
  { entities :=
      [{ name := .text "Post"
         id := .text "p"
         fields :=
           [{ name := .text "status", dataType := .optionSet, required := true, unique := false, searchable := false
              properties := [(.text "options", .list [.text "draft", .text "live"])] },
            { name := .text "Status", dataType := .optionSet, required := true, unique := false, searchable := false
              properties := [(.text "options", .list [.text "open", .text "closed"])] }] }]
    ids := [(.text "p", .text "Post")] }

/-- The schema with the two statuses carries values of the types its document form asks for. -/
theorem Schema.twoStatuses_wellTyped : twoStatuses.WellTyped := by
  constructor
  · simp only [twoStatuses, List.forall_mem_cons, List.not_mem_nil, false_imp_iff, implies_true, and_true]
    refine ⟨.text _, ?_⟩
    simp only [List.forall_mem_cons, List.not_mem_nil, false_imp_iff, implies_true, and_true]
    constructor <;> exact ⟨.text _, .inl rfl, .inl rfl, .inr ⟨_, rfl, by simp [Value.IsOption]⟩⟩
  · simp [Entries.AreTexts, twoStatuses]

/-- Every check of the first phase passes on the schema with the two statuses. -/
theorem Schema.twoStatuses_acceptable : twoStatuses.Acceptable where
  entityNames := by simp only [twoStatuses, List.forall_mem_cons]; exact ⟨rfl, by simp⟩
  identifiers := by decide
  fieldNames := by simp only [twoStatuses, List.forall_mem_cons]; exact ⟨⟨rfl, rfl, by simp⟩, by simp⟩
  targets := by simp [twoStatuses, Entity.relationFields, Field.isRelation, Field.kind, DataType.kind]
  enumNames := by
    simp [twoStatuses, Entity.enumFields, Field.isEnumeration, Field.kind, DataType.kind, Field.HasUsableEnumName,
      Entries.getD, Entries.get?]
  options := by
    simp [twoStatuses, Entity.enumFields, Field.isEnumeration, Field.kind, DataType.kind, Field.HasOptions,
      Entries.getD, Entries.get?, Value.unmarked, Value.optionText, Value.optionLabel]
    decide

/-- Two enumerations of one name meet on a path. -/
theorem Schema.twoStatuses_paths : ∃ modules,
    (twoStatuses.generate ResourceNaming.derive).outcome = .ok modules ∧
      ((modules.map SourceModule.path).Nodup ↔
        ∀ e ∈ twoStatuses.entities, ∃ names, e.classNames = .ok names ∧ names.Nodup) ∧
      ¬ (modules.map SourceModule.path).Nodup := by
  obtain ⟨modules, generated⟩ := generate_of_acceptable twoStatuses_wellTyped twoStatuses_acceptable
  have condition := generate_paths_nodup_iff generated
  refine ⟨modules, generated, condition, fun nodup => ?_⟩
  obtain ⟨names, made, distinct⟩ := condition.1 nodup _ List.mem_cons_self
  have named : Except.ok (DescriptorKind.all.map (fun kind => "Post" ++ kind.suffix) ++
    ["EnumPostStatus", "EnumPostStatus"]) = Except.ok names := made
  cases named
  revert distinct
  decide

end ResourceScaffold
