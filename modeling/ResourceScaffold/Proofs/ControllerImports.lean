import ResourceScaffold.Proofs.ImportLines
import ResourceScaffold.Proofs.RecordAddresses
import ResourceScaffold.Proofs.Shadowing

/-!
# The classes that controllers mention

A controller collects its imports in one pass over the relations of its entity and mentions classes in routes that it has only
when single records can be addressed. `Code.Endpoint.Mentions` says which classes a route mentions, and
`Entity.ControllerTakes` which ones the controller of an entity imports.

* Every class that a route mentions is one of those that are imported (`Schema.Generated.controllerTakes_of_mentions`).
* Each of those has its line once (`Schema.Generated.count_controller_line`): the lines are made different, and that of the
  service is another one because fewer dots are in it.
* A date is imported iff the parameter that addresses single records is one (`Schema.Generated.date_mem_lines_iff`).

`generate_controller_imports` puts them together for the controllers of a generation.
-/

namespace ResourceScaffold

open Code

/-! ## Classes in routes -/

/-- The types of the parameters that address single records. -/
def keyTypes : List String :=
  ["str", "int", "float", "bool", "datetime"]

/-- How the line begins that reads the filter of a request. -/
def argsStart : String :=
  "    args = "

/-- The line that reads the filter of a request with the class of the given name. -/
def argsLine (name : String) : String :=
  argsStart ++ name ++ ".model_validate(json.loads(where)) if where else " ++ name ++ "()"

/-- The route mentions a class: as what it answers with, as the type of what it is sent, or as what it reads the filter of a
request with. A parameter that addresses records may have the name of one that is sent, but its type is no class. -/
inductive Code.Endpoint.Mentions (route : Endpoint) : String → Prop where
  | response {type : TypeExpr} (given : route.response = some type) : Mentions route type.name
  | parameter {p : Parameter} (listed : p ∈ route.parameters) (named : p.name = "data" ∨ p.name = "body")
      (isClass : p.type.name ∉ keyTypes) : Mentions route p.type.name
  | args {name : String} (line : argsLine name ∈ route.body) : Mentions route name

/-- The line that reads a filter tells the name of the class. -/
theorem argsLine_inj {a b : String} (same : argsLine a = argsLine b) : a = b := by
  have chars := congrArg String.toList same
  simp only [argsLine, String.toList_append, List.append_assoc] at chars
  have rest := List.append_cancel_left chars
  -- the name stands in the line twice, so both names have one length
  have lengths := congrArg List.length rest
  simp only [List.length_append] at lengths
  exact String.toList_inj.1 (List.append_inj rest (by omega)).1

/-- The line differs from one that reads a filter. -/
def DiffersFromArgs (line : String) : Prop :=
  differ line.toList argsStart.toList = true

instance (line : String) : Decidable (DiffersFromArgs line) :=
  inferInstanceAs (Decidable (_ = _))

/-- A line that differs at its start still does when more is written after it. -/
theorem DiffersFromArgs.append {line : String} (h : DiffersFromArgs line) (rest : String) :
    DiffersFromArgs (line ++ rest) := by
  rw [DiffersFromArgs, String.toList_append]
  exact differ_append h rest.toList

/-- A line that differs from the ones that read a filter is none of them. -/
theorem DiffersFromArgs.ne {line : String} (h : DiffersFromArgs line) (name : String) : line ≠ argsLine name := by
  rintro rfl
  have other := isPrefixOf_of_differ h
  have front : argsStart.toList <+: (argsLine name).toList := by
    simp only [argsLine, String.toList_append, List.append_assoc]
    exact List.prefix_append _ _
  rw [List.isPrefixOf_iff_prefix.2 front] at other
  cases other

namespace Controller

variable {c : Controller} {key : KeyParameter} {route : Endpoint} {name : String}

/-- The lines that answer a missing record read no filter. -/
theorem unlessFound_differs (c : Controller) (key : KeyParameter) : ∀ line ∈ c.unlessFound key, DiffersFromArgs line := by
  intro line listed
  simp only [unlessFound, List.mem_cons, List.not_mem_nil, or_false] at listed
  rcases listed with rfl | rfl
  · decide
  · exact (((((DiffersFromArgs.append (by decide) _).append _).append _).append _).append _).append _

/-- Of the routes, the one that lists records reads a filter, with the class that filters them. -/
theorem Route.name_of_argsLine (h : c.Route route) (line : argsLine name ∈ route.body) :
    name = c.inputs.whereInput.name.display := by
  have other (differs : ∀ line ∈ route.body, DiffersFromArgs line) : name = c.inputs.whereInput.name.display :=
    absurd rfl ((differs _ line).ne name)
  cases h with
  | create =>
      refine other fun line listed => ?_
      rw [List.mem_singleton.1 listed]
      exact (DiffersFromArgs.append (by decide) _).append _
  | list =>
      simp only [listEndpoint, List.mem_cons, List.not_mem_nil, or_false] at line
      rcases line with same | same | same | same | same | same | same
      · exact absurd same.symm (DiffersFromArgs.ne (by decide) name)
      · exact argsLine_inj same
      · exact absurd same.symm (DiffersFromArgs.ne (by decide) name)
      · exact absurd same.symm (DiffersFromArgs.ne (by decide) name)
      · exact absurd same.symm (DiffersFromArgs.ne (by decide) name)
      · exact absurd same.symm (DiffersFromArgs.ne (DiffersFromArgs.append (by decide) _) name)
      · exact absurd same.symm (DiffersFromArgs.ne (by decide) name)
  | @read key keyed =>
      refine other fun line listed => ?_
      simp only [readEndpoint, List.mem_append, List.mem_singleton] at listed
      rcases listed with (rfl | missing) | rfl
      · exact (((DiffersFromArgs.append (by decide) _).append _).append _).append _
      · exact c.unlessFound_differs key line missing
      · decide
  | @update key keyed =>
      refine other fun line listed => ?_
      simp only [updateEndpoint, List.mem_append, List.mem_cons, List.not_mem_nil, or_false] at listed
      rcases listed with ((rfl | rfl | rfl) | missing) | rfl
      · decide
      · exact ((DiffersFromArgs.append (by decide) _).append _).append _
      · decide
      · exact c.unlessFound_differs key line missing
      · decide
  | @delete key keyed =>
      refine other fun line listed => ?_
      simp only [deleteEndpoint, List.mem_append, List.mem_singleton] at listed
      rcases listed with (rfl | missing) | rfl
      · exact (DiffersFromArgs.append (by decide) _).append _
      · exact c.unlessFound_differs key line missing
      · decide
  | related keyed listed named =>
      refine other fun line inBody => ?_
      rw [List.mem_singleton.1 inBody]
      exact (((((DiffersFromArgs.append (by decide) _).append _).append _).append _).append _).append _
  | connect keyed listed named many | disconnect keyed listed named many =>
      refine other fun line inBody => ?_
      simp only [linkEndpoint, List.mem_cons, List.not_mem_nil, or_false] at inBody
      rcases inBody with rfl | rfl
      · exact (((((DiffersFromArgs.append (by decide) _).append _).append _).append _).append _).append _
      · decide

end Controller

/-! ## Lines of imports -/

/-- In the line that imports a class there are at least two dots: one after its owner, and one after `base`. -/
theorem two_le_count_dot_ofClass {owner : String} (segment : '/' ∉ owner.toList) (name : String) :
    2 ≤ (Import.ofClass owner name).line.toList.count '.' := by
  have base : "base.".toList.count '.' = 1 := by decide
  rw [Import.toList_line_ofClass segment]
  simp only [List.count_append, List.count_cons_self, base]
  omega

/-- In the line that imports a service there is one dot. -/
theorem count_dot_service (identifier : String) {entityType : String}
    (plain : '.' ∉ identifier.toList ∧ '/' ∉ identifier.toList)
    (letters : '.' ∉ entityType.toList) :
    ({ origin := .generated (servicePath identifier), names := [serviceClass entityType] } : Import).line.toList.count '.' = 1 := by
  have path : servicePath identifier = identifier ++ "/" ++ identifier ++ "_service" ++ ".py" := by
    simp [servicePath, String.append_assoc]
  have noDots : identifier.toList.count '.' = 0 ∧ entityType.toList.count '.' = 0 :=
    ⟨List.count_eq_zero_of_not_mem plain.1, List.count_eq_zero_of_not_mem letters⟩
  simp [Import.line, Origin.dotted, path, toList_importPath, map_dot_of_not_mem plain.2, serviceClass, noDots]

section

variable {schema : Schema} {classes : Table Descriptor} {byName : Table Entity} {rs : List Resource} {e : Entity}
  {r : Resource} {name : String} {owner : Value} {modules : List SourceModule} {m : SourceModule}

/-! ## Controllers of a generation -/

/-- The names that a controller imports, each kind at its place. -/
theorem Controller.importNames_mem_moduleWith {c : Controller} {endpoints : List Endpoint} {i : Import} :
    .importNames i ∈ (c.moduleWith endpoints).body ↔
      (c.keyIsDate = true ∧ i = { origin := .library "datetime", names := ["datetime"] }) ∨
      i ∈ [{ origin := .library "typing", names := ["List", "Optional"] },
           { origin := .library "fastapi", names := ["APIRouter", "Depends", "HTTPException", "Query"] },
           { origin := .library "pydantic", names := ["ValidationError"] }] ∨
      i ∈ c.serviceImport :: c.classImports := by
  cases date : c.keyIsDate <;> simp [Controller.moduleWith, Controller.opening, Controller.serviceImport, date, or_assoc]

/-- The parameter that addresses single records has one of the types of keys. -/
theorem Resource.Of.type_mem_keyTypes {naming : NamingStrategy} (of : Of schema naming classes byName e r)
    {key : KeyParameter} (keyed : r.controller.key? = some key) : key.type ∈ keyTypes := by
  obtain ⟨f, field⟩ := (exists_iff_of_rel of.key_rel).1 ⟨key, keyed⟩
  obtain ⟨key', keyed', -, t, -, other, type⟩ := exists_right_of_rel of.key_rel field
  rw [keyed] at keyed'
  cases keyed'
  rw [type]
  cases t <;> first | decide | exact absurd rfl other

/-- A controller addresses single records by one parameter. -/
theorem Code.SourceModule.RoutesBy.unique {key key' : KeyParameter} (h : m.RoutesBy key) (h' : m.RoutesBy key') :
    key = key' := by
  obtain ⟨route, inModule, -, path⟩ := h.reads
  have record : route.path ≠ "" := by
    rw [path]
    exact key.path_ne_empty
  have same := (h.addressed route inModule record).2.symm.trans (h'.addressed route inModule record).2
  obtain ⟨name, type⟩ := Parameter.mk.inj (Option.some.inj same)
  obtain ⟨name', type'⟩ := key'
  subst name
  cases type.1
  rfl

/-- The parameter by which the routes of a controller address single records is that of the controller. -/
theorem Resource.Of.routesBy_iff {naming : NamingStrategy} (of : Of schema naming classes byName e r) {key : KeyParameter} :
    r.controllerModule.RoutesBy key ↔ r.controller.key? = some key := by
  refine ⟨fun routes => ?_, of.routesBy⟩
  obtain ⟨route, inModule, -, path⟩ := routes.reads
  have record : r.controllerModule.HasRecordRoute := ⟨route, inModule, path ▸ key.path_ne_empty⟩
  obtain ⟨key', keyed⟩ := of.hasRecordRoute_iff.1 record
  rw [keyed, routes.unique (of.routesBy keyed)]

namespace Schema.Generated

/-- The lines by which a controller imports from generated code are different. -/
theorem nodup_controller_lines (h : schema.Generated ResourceNaming.derive classes byName rs) (member : r ∈ rs)
    (listed : e ∈ schema.entities) (of : Resource.Of schema ResourceNaming.derive classes byName e r) :
    ((r.controller.serviceImport :: r.controller.classImports).map fun i => i.line.toList).Nodup := by
  obtain ⟨-, entityType, -, service, -⟩ := h.controller_eq listed of
  rw [List.map_cons, List.nodup_cons]
  constructor
  · intro shared
    obtain ⟨i, imported, same⟩ := List.mem_map.1 shared
    obtain ⟨r', member', kind, name, -, rfl⟩ := h.controllerImport_target member listed of imported
    have several := two_le_count_dot_ofClass (h.plain_camelCase member').2 name
    have named : checkEntityName (.text r.name) = .ok () := of.name ▸ h.prepared.named listed
    have letters : '.' ∉ r.name.toList := fun dot => by
      have letter := isNameChar_of_isEntityWord (isEntityWord_of_checkEntityName named) _ dot
      exact absurd letter (by decide)
    have one := count_dot_service (r.identifier ResourceNaming.derive) (h.plain_camelCase member) letters
    rw [same, Controller.serviceImport, service, entityType] at several
    have path : (r.service ResourceNaming.derive).path = servicePath (r.identifier ResourceNaming.derive) := rfl
    rw [path, one] at several
    omega
  · have apart := nodup_map_distinctBy Import.line
      ((r.controller.read :: r.controller.inputs.toList).map
          (fun d => Import.ofClass (Text.camelCase r.controller.entityType) d.name.display) ++
        r.controller.relations.flatMap fun relation =>
          Import.ofClass (Text.camelCase relation.entity) relation.target.name.display ::
            if relation.field.isToMany then
              [Import.ofClass (Text.camelCase relation.entity) (relation.entity ++ "WhereUniqueInput")]
            else [])
    have lines := List.Nodup.map (f := String.toList) (fun _ _ same => String.toList_inj.1 same) apart
    rwa [List.map_map] at lines

/-- Each class that a controller imports has its line once in the controller. -/
theorem count_controller_line (h : schema.Generated ResourceNaming.derive classes byName rs) (names : schema.HasWordNames)
    (member : r ∈ rs) (listed : e ∈ schema.entities)
    (of : Resource.Of schema ResourceNaming.derive classes byName e r)
    (takes : e.ControllerTakes schema.ids (some owner) name) :
    (linesOf r.controllerModule.content).count (Import.ofClass (Text.camelCase owner.display) name).line.toList = 1 := by
  have imported := h.mem_classImports member listed of takes
  obtain ⟨plain, lines⟩ := h.isPlain names member listed of .controller fun kind same => by cases same
  obtain ⟨endpoints, -, rendered⟩ := Controller.toModule_eq_ok.1 of.controllerModule
  have filtered := generatedLines_of_content lines
  rw [generatedLines_of_plain plain, rendered, directImports_controller] at filtered
  rw [rendered]
  exact count_eq_one_of_filter filtered (h.nodup_controller_lines member listed of)
    (List.mem_map.2 ⟨_, List.mem_cons_of_mem _ imported, rfl⟩)

/-- A class that a route of a controller mentions is one of those that the controller imports. -/
theorem controllerTakes_of_mentions (h : schema.Generated ResourceNaming.derive classes byName rs)
    (listed : e ∈ schema.entities) (of : Resource.Of schema ResourceNaming.derive classes byName e r) {route : Endpoint}
    (kind : r.controller.Route route) (mentions : route.Mentions name) :
    ∃ owner, e.ControllerTakes schema.ids (some owner) name := by
  obtain ⟨read, -, inputs, -⟩ := h.controller_eq listed of
  have own {d : Descriptor} (inClasses : d ∈ r.read :: r.inputs.toList) :
      ∃ owner, e.ControllerTakes schema.ids (some owner) d.name.display := by
    rw [(of.isClassOf inClasses).name_eq of.name, Value.display_text, ← Value.display_text r.name, ← of.name]
    exact ⟨e.name, .own d.kind⟩
  have target {relation : Relation} (inRelations : relation ∈ r.controller.relations) :
      relation.field ∈ e.relationFields ∧ ∃ t, relatedName e relation.field schema.ids = .ok t ∧
        relation.target.name.display = t.display := by
    obtain ⟨field, r', member', -, target, leads⟩ := h.relation of inRelations
    obtain ⟨e', -, of'⟩ := h.owner member'
    exact ⟨field, _, leads, by rw [← target, display_read of', Value.display_text]⟩
  have readModel : ∃ owner, e.ControllerTakes schema.ids (some owner) r.controller.read.name.display := by
    rw [read]
    exact own List.mem_cons_self
  have input {d : Descriptor} (isInput : d ∈ r.controller.inputs.toList) :
      ∃ owner, e.ControllerTakes schema.ids (some owner) d.name.display := by
    rw [inputs] at isInput
    exact own (List.mem_cons_of_mem _ isInput)
  cases mentions with
  | @args name line =>
      rw [kind.name_of_argsLine line]
      exact input (by simp [InputDescriptors.toList])
  | response given =>
      cases kind with
      | create | list | read | update =>
          cases given
          exact readModel
      | delete | connect | disconnect => cases given
      | related _ inRelations =>
          cases given
          obtain ⟨field, t, leads, display⟩ := target inRelations
          exact ⟨t, display ▸ .related field leads⟩
  | parameter inRoute named isClass =>
      cases kind with
      | create =>
          simp only [Controller.createEndpoint, List.mem_cons, List.not_mem_nil, or_false] at inRoute
          rcases inRoute with rfl | rfl
          · exact input (by simp [InputDescriptors.toList])
          · simp [Controller.serviceParameter] at named
      | list =>
          simp only [Controller.listEndpoint, List.mem_cons, List.not_mem_nil, or_false] at inRoute
          rcases inRoute with rfl | rfl | rfl | rfl <;> simp [Controller.serviceParameter] at named
      | read isKey | delete isKey | related isKey =>
          simp only [Controller.readEndpoint, Controller.deleteEndpoint, Controller.relatedEndpoint, List.mem_cons,
            List.not_mem_nil, or_false] at inRoute
          rcases inRoute with rfl | rfl
          · exact absurd (of.type_mem_keyTypes isKey) isClass
          · simp [Controller.serviceParameter] at named
      | update isKey =>
          simp only [Controller.updateEndpoint, List.mem_cons, List.not_mem_nil, or_false] at inRoute
          rcases inRoute with rfl | rfl | rfl
          · exact absurd (of.type_mem_keyTypes isKey) isClass
          · exact input (by simp [InputDescriptors.toList])
          · simp [Controller.serviceParameter] at named
      | connect isKey inRelations _ many | disconnect isKey inRelations _ many =>
          simp only [Controller.linkEndpoint, List.mem_cons, List.not_mem_nil, or_false] at inRoute
          rcases inRoute with rfl | rfl | rfl
          · exact absurd (of.type_mem_keyTypes isKey) isClass
          · obtain ⟨field, t, leads, display⟩ := target inRelations
            rw [Relation.uniqueClass, display]
            exact ⟨t, .identified field leads many⟩
          · simp [Controller.serviceParameter] at named

/-- The line that imports dates is in a controller iff the parameter that addresses single records is a date. -/
theorem date_mem_lines_iff (h : schema.Generated ResourceNaming.derive classes byName rs) (names : schema.HasWordNames)
    (member : r ∈ rs) (listed : e ∈ schema.entities)
    (of : Resource.Of schema ResourceNaming.derive classes byName e r) :
    "from datetime import datetime".toList ∈ linesOf r.controllerModule.content ↔
      ∃ key, r.controllerModule.RoutesBy key ∧ key.type = "datetime" := by
  have spelled := h.controller_spelled names member listed of
  obtain ⟨endpoints, made, rendered⟩ := Controller.toModule_eq_ok.1 of.controllerModule
  have lines : r.controllerModule.lines ≠ [] :=
    (h.isPlain names member listed of .controller fun kind same => by cases same).2
  simp only [of.routesBy_iff, ← of.keyIsDate_iff]
  rw [SourceModule.linesOf_content lines, List.mem_append, List.mem_singleton, or_iff_left (by decide), SourceModule.lines,
    rendered, mem_lines_of_calm (spelled.calm_moduleWith made) (by decide)]
  constructor
  · rintro (⟨-, json⟩ | ⟨i, imported, same⟩)
    · exact absurd json (by decide)
    · rcases Controller.importNames_mem_moduleWith.1 imported with ⟨date, -⟩ | library | generated
      · exact date
      · simp only [List.mem_cons, List.not_mem_nil, or_false] at library
        rcases library with rfl | rfl | rfl <;> exact absurd same (by decide)
      · -- other imports are from generated code, and this line is not
        have isGenerated : i.generatedPath?.isSome = true := by
          rcases List.mem_cons.1 generated with rfl | isClass
          · rfl
          · exact r.controller.classImports_generated isClass
        have reads := (spelled.imports i generated).importsGenerated_line [] rfl []
        rw [List.nil_append, List.append_nil, isGenerated, ← same] at reads
        exact absurd reads (by decide)
  · intro date
    exact .inr ⟨_, Controller.importNames_mem_moduleWith.2 (.inl ⟨date, rfl⟩), by decide⟩

end Schema.Generated

/-- In every controller of a generation from entities with names of letters, digits and underscores, each class that a route
mentions is imported, and each class that the controller of its entity imports has its line once, from the module of the class.
The parameter that addresses single records has one of five types, and dates are imported iff it is a date. -/
theorem generate_controller_imports (names : schema.HasWordNames)
    (h : (schema.generate ResourceNaming.derive).outcome = .ok modules) (member : m ∈ modules) (routes : m.HasRoute) :
    ∃ e ∈ schema.entities, m.path = controllerPath (e.identifier ResourceNaming.derive) ∧
      (∀ route, .endpoint route ∈ m.body → ∀ name, route.Mentions name →
        ∃ owner, e.ControllerTakes schema.ids (some owner) name) ∧
      (∀ owner name, e.ControllerTakes schema.ids (some owner) name →
        (linesOf m.content).count (Import.ofClass (Text.camelCase owner.display) name).line.toList = 1 ∧
        (Import.ofClass (Text.camelCase owner.display) name).Resolves modules) ∧
      (m.HasRecordRoute → ∃ key, m.RoutesBy key ∧ key.type ∈ ["str", "int", "float", "bool", "datetime"]) ∧
      ("from datetime import datetime".toList ∈ linesOf m.content ↔ ∃ key, m.RoutesBy key ∧ key.type = "datetime") := by
  obtain ⟨classes, byName, rs, generated, rfl⟩ := generate_eq_ok h
  obtain ⟨r, inBatch, part, hasPart⟩ := generated.mem_modules.1 member
  obtain ⟨e, listed, of⟩ := generated.owner inBatch
  obtain ⟨route, inModule⟩ := routes
  obtain rfl := of.controller_of_endpoint hasPart inModule
  obtain ⟨-, -, -, -, entityName, -⟩ := generated.controller_eq listed of
  obtain ⟨endpoints, -, rendered⟩ := Controller.toModule_eq_ok.1 of.controllerModule
  refine ⟨e, listed, ?_, fun route inModule name mentions => ?_, fun owner name takes => ⟨?_, ?_⟩, fun record => ?_, ?_⟩
  · rw [rendered, of.identifier_eq, ← entityName]
    rfl
  · exact generated.controllerTakes_of_mentions listed of (of.mem_controllerModule.1 inModule) mentions
  · exact generated.count_controller_line names inBatch listed of takes
  · apply generated.resolves names inBatch listed of .controller
    rw [rendered, directImports_controller]
    exact List.mem_append_left _ (List.mem_cons_of_mem _ (generated.mem_classImports inBatch listed of takes))
  · obtain ⟨key, keyed⟩ := of.hasRecordRoute_iff.1 record
    exact ⟨key, of.routesBy keyed, of.type_mem_keyTypes keyed⟩
  · exact generated.date_mem_lines_iff names inBatch listed of

end

/-- Patients are identified by the time of their admission; they have several visits, a last one and perhaps a mother. -/
def Schema.clinic : Schema :=
  let relation (name target : String) (many : Bool) : Field :=
    { name := .text name
      dataType := .lookup
      required := false
      unique := false
      searchable := true
      properties := [(.text "relatedEntityId", .text target), (.text "allowMultipleSelection", .bool many)] }
  { entities :=
      [{ name := .text "Patient"
         id := .text "patient"
         fields :=
           [{ name := .text "admittedAt", dataType := .dateTime, required := true, unique := true, searchable := false
              properties := [] },
            relation "visits" "visit" true,
            relation "lastVisit" "visit" false,
            relation "mother" "patient" false] },
       { name := .text "Visit"
         id := .text "visit"
         fields := [{ name := .text "id", dataType := .id, required := true, unique := false, searchable := true
                      properties := [] }] }]
    ids := [(.text "patient", .text "Patient"), (.text "visit", .text "Visit")] }

/-- The names of the clinic are words. -/
theorem Schema.clinic_hasWordNames : clinic.HasWordNames := by
  simp only [HasWordNames, clinic, List.forall_mem_cons]
  exact ⟨⟨_, rfl, List.all_eq_true.1 (by decide)⟩, ⟨_, rfl, List.all_eq_true.1 (by decide)⟩, by simp⟩

/-- The controller of patients imports the class of visits once, for two relations, and dates. -/
theorem Schema.clinic_imports : ∃ modules m, (clinic.generate ResourceNaming.derive).outcome = .ok modules ∧ m ∈ modules ∧
    m.HasRoute ∧ m.path = "patient/patient_controller.py" ∧
    (linesOf m.content).count "from visit.base.Visit import Visit".toList = 1 ∧
    (linesOf m.content).count "from visit.base.VisitWhereUniqueInput import VisitWhereUniqueInput".toList = 1 ∧
    (linesOf m.content).count "from patient.base.Patient import Patient".toList = 1 ∧
    "from datetime import datetime".toList ∈ linesOf m.content := by
  have returns : (clinic.generate ResourceNaming.derive).outcome.isOk = true := rfl
  obtain ⟨modules, made⟩ := isOk_iff.1 returns
  obtain ⟨classes, byName, rs, generated, rfl⟩ := generate_eq_ok made
  obtain ⟨r, member, of⟩ := generated.resource (e := clinic.entities.head (by decide)) (List.head_mem _)
  have controller := generated.mem_modules.2 ⟨r, member, _, .controller⟩
  obtain ⟨endpoints, -, rendered⟩ := Controller.toModule_eq_ok.1 of.controllerModule
  obtain ⟨-, -, -, -, entityName, -⟩ := generated.controller_eq (List.head_mem _) of
  have path : r.controllerModule.path = "patient/patient_controller.py" := by
    rw [rendered, Controller.moduleWith, entityName, ← of.identifier_eq]
    rfl
  obtain ⟨e, listed, same, -, imports, -, date⟩ :=
    generate_controller_imports clinic_hasWordNames made controller of.controller_hasRoute
  have patient : e = clinic.entities.head (by decide) := by
    rw [path] at same
    simp only [clinic, List.mem_cons, List.not_mem_nil, or_false] at listed
    rcases listed with rfl | rfl
    · rfl
    · exact absurd same (by decide)
  subst patient
  obtain ⟨visits, field, leads, many⟩ : ∃ f ∈ (clinic.entities.head (by decide)).relationFields,
      relatedName (clinic.entities.head (by decide)) f clinic.ids = .ok (.text "Visit") ∧ f.isToMany = true :=
    ⟨_, List.mem_cons_self, rfl, rfl⟩
  refine ⟨_, _, made, controller, of.controller_hasRoute, path, ?_, ?_, ?_, date.2 ?_⟩
  · exact (imports _ _ (.related field leads)).1
  · exact (imports _ _ (.identified field leads many)).1
  · exact (imports _ _ (.own .entity)).1
  · obtain ⟨key, keyed, -, t, kind, -, type⟩ := exists_right_of_rel of.key_rel rfl
    cases kind
    exact ⟨key, of.routesBy keyed, type⟩

end ResourceScaffold
