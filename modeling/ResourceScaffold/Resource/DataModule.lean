import ResourceScaffold.Code.Text
import ResourceScaffold.Descriptor.Basic
import ResourceScaffold.Descriptor.Filter
import ResourceScaffold.Json.Writer
import ResourceScaffold.Value.Access

/-!
# Modules of data classes

The module of a descriptor holds its class, the filter classes that the class refers to, and the imports of the other
classes that it refers to. What entities read and filter by may refer to each other in a circle, so those imports are
deferred to the end of the module, after the class; types are resolved when a class is first used.
-/

namespace ResourceScaffold

open Code

/-- The references of a class to others than itself, in the order of its properties. -/
def Descriptor.references (d : Descriptor) : List Reference :=
  (d.properties.filterMap Property.reference).filter fun r => !r.name.sameKey d.name

/-- The import of the class that a reference names, from the module of its owner. -/
def Reference.classImport (r : Reference) : Except Fault Import := do
  let owner ← r.entity.asShownText
  return Import.ofClass (Text.camelCase owner) r.name.display

/-- An import that a class needs; a deferred one stands after the class. -/
structure ClassImport where
  deferred : Bool
  source : Import
  deriving DecidableEq, Repr

/-- The imports that a class needs, in the order in which its properties ask for them and each once. -/
def Descriptor.classImports (d : Descriptor) : Except Fault (List ClassImport) := do
  let imports ← (d.references.filter fun r => r.kind != .filter).mapM fun r => do
    return { deferred := r.kind.isDeferred, source := ← r.classImport : ClassImport }
  return distinctBy (fun i => (i.deferred, i.source.line)) imports

/-- The filters that a class refers to, each once. -/
def Descriptor.filters (d : Descriptor) : Except Fault (List Filter) := do
  let names := (d.references.filter fun r => r.kind == .filter).map fun r => r.name.display
  (distinctBy (fun name => name) names).mapM fun name =>
    match Filter.ofName? name with
    | some f => .ok f
    | none => .error (.misuse .absentKey)

/-- The class of a filter: every operator may be left out. -/
def Filter.definition (f : Filter) : ClassDefinition :=
  { name := f.name
    bases := ["BaseModel"]
    members := [.modelConfig, .blank] ++ f.operators.map fun o =>
      .field o.name { name := f.valueType.typeName, isList := o.isList, optional := true } o.requestName }

/-- The attribute of a property. -/
def Property.member (p : Property) : Member :=
  .field p.name.display { name := p.type.display, isList := p.isList, optional := p.optional } none

/-- The class of a descriptor. -/
def Descriptor.definition (d : Descriptor) : ClassDefinition :=
  { name := d.name.display
    bases := ["BaseModel"]
    members := [.modelConfig, .blank] ++
      if d.properties.isEmpty then [.pass] else d.properties.map Property.member }

/-- The imports from libraries with which the module of a class begins. -/
def libraryImports (deferring : Bool) : List Statement :=
  [.importNames { origin := .library "__future__", names := ["annotations"] },
   .blank,
   .importNames { origin := .library "datetime", names := ["datetime"] },
   .importNames {
     origin := .library "typing"
     names := (if deferring then ["TYPE_CHECKING"] else []) ++ ["Any", "Dict", "List", "Optional"] },
   .blank,
   .importNames { origin := .library "pydantic", names := ["BaseModel", "ConfigDict", "Field"] }]

/-- The imports before a class, in order. -/
def directImports (imports : List ClassImport) : List Import :=
  sortImports ((imports.filter fun i => !i.deferred).map ClassImport.source)

/-- The imports after a class, in order. -/
def deferredImports (imports : List ClassImport) : List Import :=
  sortImports ((imports.filter fun i => i.deferred).map ClassImport.source)

/-- The statements up to a class: imports, filters and the class itself. -/
def Descriptor.opening (d : Descriptor) (imports : List ClassImport) (filters : List Filter) : List Statement :=
  let direct := directImports imports
  let deferred := deferredImports imports
  libraryImports (!deferred.isEmpty) ++
  (if direct.isEmpty then [] else .blank :: direct.map .importNames) ++
  (if deferred.isEmpty then [] else [.blank, .importForTypes deferred]) ++
  [.blank, .blank] ++
  filters.flatMap (fun f => [.define f.definition, .blank, .blank]) ++
  [.define d.definition]

/-- The statements after a class: the deferred imports. -/
def lateImports (imports : List ClassImport) : List Statement :=
  let deferred := deferredImports imports
  if deferred.isEmpty then [] else .blank :: .blank :: deferred.map .importLate

/-- The module of a data class with the imports and the filters that the class needs. -/
def Descriptor.moduleWith (d : Descriptor) (entityName : String) (imports : List ClassImport) (filters : List Filter) :
    SourceModule :=
  { path := classPath entityName d.name.display
    body := d.opening imports filters ++ lateImports imports
    dependencies := imports.filterMap fun i => i.source.generatedPath? }

/-- The module of a data class, among the modules of the resource with the given identifier. -/
def Descriptor.toModule (d : Descriptor) (entityName : String) : Except Fault SourceModule := do
  let imports ← d.classImports
  let filters ← d.filters
  return d.moduleWith entityName imports filters

/-- The module of an enumeration class. -/
def EnumDescriptor.toModule (d : EnumDescriptor) (entityName : String) : SourceModule :=
  { path := classPath entityName d.name.display
    body :=
      [.importNames { origin := .library "enum", names := ["Enum"] },
       .blank,
       .blank,
       .define {
         name := d.name.display
         bases := ["str", "Enum"]
         members := d.members.map fun m => .constant m.name (Json.string m.value) }] }

end ResourceScaffold
