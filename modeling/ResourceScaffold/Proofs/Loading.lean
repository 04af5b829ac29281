import Mathlib.Data.List.Chain
import Mathlib.Data.List.Nodup
import Mathlib.Logic.Relation
import ResourceScaffold.Code.Basic

/-!
# Loading generated modules

Loading a module executes its top-level imports of generated modules and binds the names of its classes and functions, in
the order of the module; an import of a module that has not been started loads that module first. Imports for types are not
executed. `Loading.Step` is one step of this; a module to begin with may be chosen whenever none is being loaded.

`Layered modules level` asks that an import leads to a module that binds its names, and to a lower level or, once the
importing module has bound all its names, to the same one. Then no import ever reads a name that is not bound yet
(`Layered.bound_of_started`), however the modules refer to each other. The invariant is `Loading.Sound`: each module on the
stack waits for the one above it, so levels do not rise towards the top, and a module that was left has bound its names.
-/

namespace ResourceScaffold.Code

/-! ## Steps of a module -/

/-- The names that a statement binds at the top level. -/
def Statement.defines : Statement → List String
  | assign name _ => [name]
  | define c => [c.name]
  | function name _ => [name]
  | endpoint e => [e.name]
  | _ => []

/-- The names that a module binds. -/
def SourceModule.defines (m : SourceModule) : List String :=
  m.body.flatMap Statement.defines

/-- What loading a module does: it takes names from another generated module, or binds a name of its own. -/
inductive LoadStep where
  | load (path : String) (names : List String)
  | bind (name : String)
  deriving DecidableEq, Repr

/-- The step of an import, unless it reads a library. -/
def Import.loadStep? (i : Import) : Option LoadStep :=
  i.generatedPath?.map fun path => .load path i.names

/-- The import of a generated module that a statement executes where it stands, before the classes of its module. -/
def Statement.directImport? : Statement → Option Import
  | importNames i => Option.guard (fun i => i.generatedPath?.isSome) i
  | _ => none

/-- The import of a generated module that a statement executes after the class of its module. -/
def Statement.lateImport? : Statement → Option Import
  | importLate i => Option.guard (fun i => i.generatedPath?.isSome) i
  | _ => none

/-- A direct import is an import statement of names of a generated module. -/
theorem Statement.eq_of_directImport? {s : Statement} {i : Import} (h : s.directImport? = some i) :
    s = .importNames i ∧ i.generatedPath?.isSome := by
  cases s with
  | importNames j =>
      rw [directImport?, Option.guard_eq_some_iff] at h
      obtain ⟨rfl, generated⟩ := h
      exact ⟨rfl, generated⟩
  | _ => cases h

/-- A late import is a deferred import of names of a generated module. -/
theorem Statement.eq_of_lateImport? {s : Statement} {i : Import} (h : s.lateImport? = some i) :
    s = .importLate i ∧ i.generatedPath?.isSome := by
  cases s with
  | importLate j =>
      rw [lateImport?, Option.guard_eq_some_iff] at h
      obtain ⟨rfl, generated⟩ := h
      exact ⟨rfl, generated⟩
  | _ => cases h

/-- The steps of a statement; what is imported for types is not loaded. -/
def Statement.loadSteps : Statement → List LoadStep
  | importNames i => i.loadStep?.toList
  | importLate i => i.loadStep?.toList
  | statement => statement.defines.map .bind

/-- The steps of a module. -/
def SourceModule.loadSteps (m : SourceModule) : List LoadStep :=
  m.body.flatMap Statement.loadSteps

/-- What a statement defines is bound when the statement runs. -/
theorem Statement.bind_mem_loadSteps {s : Statement} {name : String} (h : name ∈ s.defines) :
    .bind name ∈ s.loadSteps := by
  cases s with
  | assign | define | function | endpoint => exact List.mem_map_of_mem h
  | _ => cases h

/-- What a module defines is bound when the module has run to its end. -/
theorem SourceModule.bind_mem_loadSteps {m : SourceModule} {name : String} (h : name ∈ m.defines) :
    .bind name ∈ m.loadSteps := by
  obtain ⟨s, member, defined⟩ := List.mem_flatMap.1 h
  exact List.mem_flatMap.2 ⟨s, member, Statement.bind_mem_loadSteps defined⟩

/-- An import loads exactly the generated module its path names. -/
theorem loadStep?_eq_some {i : Import} {source : String} {names : List String} :
    i.loadStep? = some (.load source names) ↔ i.generatedPath? = some source ∧ i.names = names := by
  rw [Import.loadStep?, Option.map_eq_some_iff]
  constructor
  · rintro ⟨path, generated, same⟩
    cases same
    exact ⟨generated, rfl⟩
  · rintro ⟨generated, rfl⟩
    exact ⟨source, generated, rfl⟩

/-- A module takes names from another one only by an import. -/
theorem exists_import_of_load {body : List Statement} {source : String} {names : List String}
    (h : .load source names ∈ body.flatMap Statement.loadSteps) :
    ∃ i ∈ body.filterMap Statement.directImport? ++ body.filterMap Statement.lateImport?,
      i.generatedPath? = some source ∧ i.names = names := by
  obtain ⟨s, member, step⟩ := List.mem_flatMap.1 h
  simp only [List.mem_append, List.mem_filterMap]
  cases s with
  | importNames i =>
      obtain ⟨generated, same⟩ := loadStep?_eq_some.1 (Option.mem_toList.1 step)
      exact ⟨i, .inl ⟨_, member, by simp [Statement.directImport?, generated]⟩, generated, same⟩
  | importLate i =>
      obtain ⟨generated, same⟩ := loadStep?_eq_some.1 (Option.mem_toList.1 step)
      exact ⟨i, .inr ⟨_, member, by simp [Statement.lateImport?, generated]⟩, generated, same⟩
  | _ => simp [Statement.loadSteps, Statement.defines] at step

/-- An import of a generated module takes names from it. -/
theorem load_of_import {body : List Statement} {i : Import}
    (h : i ∈ body.filterMap Statement.directImport? ++ body.filterMap Statement.lateImport?) :
    ∃ source, i.generatedPath? = some source ∧ .load source i.names ∈ body.flatMap Statement.loadSteps := by
  have loads {s : Statement} (member : s ∈ body) (steps : s.loadSteps = i.loadStep?.toList)
      (generated : i.generatedPath?.isSome) :
      ∃ source, i.generatedPath? = some source ∧ .load source i.names ∈ body.flatMap Statement.loadSteps := by
    obtain ⟨source, path⟩ := Option.isSome_iff_exists.1 generated
    refine ⟨source, path, List.mem_flatMap.2 ⟨s, member, ?_⟩⟩
    rw [steps, loadStep?_eq_some.2 ⟨path, rfl⟩]
    exact List.mem_singleton_self _
  rcases List.mem_append.1 h with direct | late
  · obtain ⟨s, member, found⟩ := List.mem_filterMap.1 direct
    obtain ⟨rfl, generated⟩ := Statement.eq_of_directImport? found
    exact loads member rfl generated
  · obtain ⟨s, member, found⟩ := List.mem_filterMap.1 late
    obtain ⟨rfl, generated⟩ := Statement.eq_of_lateImport? found
    exact loads member rfl generated

/-! ## States -/

/-- A module that is being loaded, with the steps that are left. -/
structure Frame where
  path : String
  rest : List LoadStep

/-- The modules that were started, the names that they have bound, and the modules that are being loaded, innermost
first. -/
structure Loading where
  started : List String := []
  bound : List (String × String) := []
  stack : List Frame := []

namespace Loading

/-- One step of loading modules, in any order. -/
inductive Step (modules : List SourceModule) : Loading → Loading → Prop where
  /-- A module is chosen while none is being loaded. -/
  | enter {s : Loading} {m : SourceModule} (member : m ∈ modules) (idle : s.stack = []) (fresh : m.path ∉ s.started) :
      Step modules s { s with started := m.path :: s.started, stack := [⟨m.path, m.loadSteps⟩] }
  /-- An import starts a module. -/
  | descend {s : Loading} {m : SourceModule} {path : String} {names : List String} {rest : List LoadStep}
      {below : List Frame} (member : m ∈ modules) (top : s.stack = ⟨path, .load m.path names :: rest⟩ :: below)
      (fresh : m.path ∉ s.started) :
      Step modules s { s with started := m.path :: s.started, stack := ⟨m.path, m.loadSteps⟩ :: s.stack }
  /-- An import takes its names from a module that was started. -/
  | take {s : Loading} {path source : String} {names : List String} {rest : List LoadStep} {below : List Frame}
      (top : s.stack = ⟨path, .load source names :: rest⟩ :: below) (started : source ∈ s.started) :
      Step modules s { s with stack := ⟨path, rest⟩ :: below }
  /-- A class or function is executed. -/
  | bind {s : Loading} {path name : String} {rest : List LoadStep} {below : List Frame}
      (top : s.stack = ⟨path, .bind name :: rest⟩ :: below) :
      Step modules s { s with bound := (path, name) :: s.bound, stack := ⟨path, rest⟩ :: below }
  /-- A module ends. -/
  | leave {s : Loading} {path : String} {below : List Frame} (top : s.stack = ⟨path, []⟩ :: below) :
      Step modules s { s with stack := below }

/-- The states that come about by loading modules. -/
def Reachable (modules : List SourceModule) (s : Loading) : Prop :=
  Relation.ReflTransGen (Step modules) {} s

/-! ## The invariant -/

/-- The module with a path has bound the names of the given steps. -/
def HasBound (s : Loading) (path : String) (steps : List LoadStep) : Prop :=
  ∀ name, .bind name ∈ steps → (path, name) ∈ s.bound

/-- What holds of all states that come about by loading modules. -/
structure Sound (modules : List SourceModule) (s : Loading) : Prop where
  frames : ∀ f ∈ s.stack, ∃ m ∈ modules, m.path = f.path ∧ ∃ done, m.loadSteps = done ++ f.rest ∧ s.HasBound f.path done
  waits : s.stack.IsChain fun above below => ∃ names rest, below.rest = .load above.path names :: rest
  left : ∀ path ∈ s.started,
    (∃ f ∈ s.stack, f.path = path) ∨ ∃ m ∈ modules, m.path = path ∧ s.HasBound path m.loadSteps

variable {modules : List SourceModule} {s t : Loading}

/-- Before anything is loaded nothing is promised. -/
theorem sound_initial (modules : List SourceModule) : Sound modules {} where
  frames := fun _ member => absurd member List.not_mem_nil
  waits := .nil
  left := fun _ member => absurd member List.not_mem_nil

/-- The top module goes one step on that binds what the state has bound; the modules below wait as before. -/
theorem Sound.advance {path : String} {step : LoadStep} {rest : List LoadStep} {below : List Frame}
    (h : s.Sound modules) (top : s.stack = ⟨path, step :: rest⟩ :: below) {bound : List (String × String)}
    (grown : s.bound ⊆ bound) (executed : ∀ name, step = .bind name → (path, name) ∈ bound) :
    Sound modules { s with bound, stack := ⟨path, rest⟩ :: below } := by
  have frames := h.frames
  have waits := h.waits
  have left := h.left
  rw [top] at frames waits left
  refine ⟨fun f member => ?_, ?_, fun source started => ?_⟩
  · rcases List.mem_cons.1 member with rfl | lower
    · obtain ⟨m, listed, same, done, steps, all⟩ := frames _ List.mem_cons_self
      refine ⟨m, listed, same, done ++ [step], by rw [steps, List.append_assoc]; rfl, fun name bindStep => ?_⟩
      rcases List.mem_append.1 bindStep with before | now
      · exact grown (all name before)
      · exact executed name (List.mem_singleton.1 now).symm
    · obtain ⟨m, listed, same, done, steps, all⟩ := frames f (List.mem_cons_of_mem _ lower)
      exact ⟨m, listed, same, done, steps, fun name bindStep => grown (all name bindStep)⟩
  · cases below with
    | nil => exact .singleton _
    | cons next others =>
        obtain ⟨waiting, others⟩ := List.isChain_cons_cons.1 waits
        exact List.isChain_cons_cons.2 ⟨waiting, others⟩
  · rcases left source started with ⟨f, member, same⟩ | ⟨m, listed, same, all⟩
    · rcases List.mem_cons.1 member with rfl | lower
      · exact .inl ⟨_, List.mem_cons_self, same⟩
      · exact .inl ⟨f, List.mem_cons_of_mem _ lower, same⟩
    · exact .inr ⟨m, listed, same, fun name bindStep => grown (all name bindStep)⟩

/-- A module is put on the stack, above none or above one that waits for it. -/
theorem Sound.start {m : SourceModule} (h : s.Sound modules) (member : m ∈ modules)
    (waiting : ∀ f ∈ s.stack.head?, ∃ names rest, f.rest = .load m.path names :: rest) :
    Sound modules { s with started := m.path :: s.started, stack := ⟨m.path, m.loadSteps⟩ :: s.stack } := by
  refine ⟨fun f listed => ?_, ?_, fun path started => ?_⟩
  · rcases List.mem_cons.1 listed with rfl | lower
    · exact ⟨m, member, rfl, [], rfl, fun name bindStep => absurd bindStep List.not_mem_nil⟩
    · exact h.frames f lower
  · cases stack : s.stack with
    | nil => exact .singleton _
    | cons next others =>
        refine List.isChain_cons_cons.2 ⟨waiting next (by rw [stack]; rfl), ?_⟩
        rw [← stack]
        exact h.waits
  · rcases List.mem_cons.1 started with rfl | earlier
    · exact .inl ⟨_, List.mem_cons_self, rfl⟩
    · rcases h.left path earlier with ⟨f, listed, same⟩ | done
      · exact .inl ⟨f, List.mem_cons_of_mem _ listed, same⟩
      · exact .inr done

/-- The top module has no steps left and is taken from the stack. -/
theorem Sound.leave {path : String} {below : List Frame} (h : s.Sound modules) (top : s.stack = ⟨path, []⟩ :: below) :
    Sound modules { s with stack := below } := by
  have frames := h.frames
  have waits := h.waits
  have left := h.left
  rw [top] at frames waits left
  refine ⟨fun f member => frames f (List.mem_cons_of_mem _ member), waits.tail, fun source started => ?_⟩
  rcases left source started with ⟨f, member, same⟩ | done
  · rcases List.mem_cons.1 member with rfl | lower
    · obtain ⟨m, listed, name, done, steps, all⟩ := frames _ List.mem_cons_self
      rw [List.append_nil] at steps
      exact .inr ⟨m, listed, name.trans same, by rw [steps, ← same]; exact all⟩
    · exact .inl ⟨f, lower, same⟩
  · exact .inr done

/-- Every step keeps the invariant. -/
theorem Sound.step (h : s.Sound modules) (step : Step modules s t) : t.Sound modules := by
  cases step with
  | @enter m member idle fresh =>
      have started := h.start member (by simp [idle])
      rwa [idle] at started
  | descend member top fresh => exact h.start member (by simp [top])
  | take top started => exact h.advance top (List.Subset.refl _) (by simp)
  | bind top => exact h.advance top (List.subset_cons_self _ _) (by simp)
  | leave top => exact h.leave top

/-- The invariant holds of all states that come about by loading modules. -/
theorem Reachable.sound (h : Reachable modules s) : s.Sound modules := by
  induction h with
  | refl => exact sound_initial modules
  | tail _ step ih => exact ih.step step

end Loading

/-! ## Levels -/

/-- Every import leads to a module that binds its names. A module first does what needs lower levels only, and then takes
names from modules that are not higher. -/
structure Layered (modules : List SourceModule) (level : String → Nat) : Prop where
  resolves : ∀ m ∈ modules, ∀ source names, .load source names ∈ m.loadSteps →
    ∃ m' ∈ modules, m'.path = source ∧ ∀ name ∈ names, name ∈ m'.defines
  descends : ∀ m ∈ modules, ∃ early late, m.loadSteps = early ++ late ∧
    (∀ source names, .load source names ∈ early → level source < level m.path) ∧
    ∀ step ∈ late, ∃ source names, step = .load source names ∧ level source ≤ level m.path

namespace Layered

variable {modules : List SourceModule} {level : String → Nat} {s : Loading} {top : Frame} {below : List Frame}

/-- An import leads to a lower level or, when only imports follow, to no higher one. -/
theorem level_lt_or_le (h : Layered modules level) {m : SourceModule} (member : m ∈ modules) {done rest : List LoadStep}
    {source : String} {names : List String} (steps : m.loadSteps = done ++ .load source names :: rest) :
    level source < level m.path ∨ level source ≤ level m.path ∧ ∀ name, .bind name ∉ rest := by
  obtain ⟨early, late, parts, lower, onlyLoads⟩ := h.descends m member
  have inLate (suffix : .load source names :: rest <:+ late) :
      level source ≤ level m.path ∧ ∀ name, .bind name ∉ rest := by
    obtain ⟨source', names', same, atMost⟩ := onlyLoads _ (suffix.subset List.mem_cons_self)
    cases same
    refine ⟨atMost, fun name binds => ?_⟩
    obtain ⟨_, _, other, -⟩ := onlyLoads _ (suffix.subset (List.mem_cons_of_mem _ binds))
    cases other
  rcases List.append_eq_append_iff.1 (steps.symm.trans parts) with ⟨others, rfl, tail⟩ | ⟨others, rfl, tail⟩
  · cases others with
    | nil => exact .inr (inLate ⟨[], tail⟩)
    | cons first others =>
        cases tail
        exact .inl (lower source names (by simp))
  · exact .inr (inLate ⟨others, tail.symm⟩)

/-- Levels do not rise towards the top: no module waits for one that is lower than the top. -/
theorem level_le (h : Layered modules level) (sound : s.Sound modules) (stack : top :: below <:+ s.stack)
    {f : Frame} (member : f ∈ below) :
    ∃ source names rest, f.rest = .load source names :: rest ∧ level top.path ≤ level source := by
  induction below generalizing top with
  | nil => cases member
  | cons next others ih =>
      obtain ⟨⟨names, rest, waiting⟩, -⟩ := List.isChain_cons_cons.1 (sound.waits.suffix stack)
      obtain ⟨m, listed, same, done, steps, -⟩ :=
        sound.frames next (stack.subset (List.mem_cons_of_mem _ List.mem_cons_self))
      rw [waiting] at steps
      have lower : level top.path ≤ level next.path := by
        rw [← same]
        rcases h.level_lt_or_le listed steps with less | ⟨atMost, -⟩
        · exact less.le
        · exact atMost
      rcases List.mem_cons.1 member with rfl | later
      · exact ⟨top.path, names, rest, waiting, Nat.le_refl _⟩
      · obtain ⟨source, names', rest', waits, atMost⟩ := ih ((List.suffix_cons _ _).trans stack) later
        exact ⟨source, names', rest', waits, lower.trans atMost⟩

/-- Whenever an import is about to be executed, its module is one of the modules, and if that module was started, it has
bound all the names. -/
theorem bound_of_started (h : Layered modules level) (distinct : (modules.map SourceModule.path).Nodup)
    (reached : s.Reachable modules) {path source : String} {names : List String} {rest : List LoadStep}
    (stack : s.stack = ⟨path, .load source names :: rest⟩ :: below) :
    (∃ m ∈ modules, m.path = source) ∧ (source ∈ s.started → ∀ name ∈ names, (source, name) ∈ s.bound) := by
  have sound := reached.sound
  have unique {m m' : SourceModule} (hm : m ∈ modules) (hm' : m' ∈ modules) (same : m.path = m'.path) : m = m' :=
    List.inj_on_of_nodup_map distinct hm hm' same
  obtain ⟨importer, listed, rfl, done, steps, -⟩ := sound.frames ⟨path, .load source names :: rest⟩ (by simp [stack])
  obtain ⟨m, member, rfl, defined⟩ := h.resolves importer listed source names (by simp [steps])
  refine ⟨⟨m, member, rfl⟩, fun started name wanted => ?_⟩
  have bindStep := SourceModule.bind_mem_loadSteps (defined name wanted)
  rcases sound.left m.path started with ⟨f, onStack, same⟩ | ⟨m', listed', same, all⟩
  · obtain ⟨m', listed', same', done', steps', all⟩ := sound.frames f onStack
    rw [unique listed' member (same'.trans same)] at steps'
    rw [same] at all
    rw [steps'] at bindStep
    rcases List.mem_append.1 bindStep with executed | pending
    · exact all name executed
    · -- the module is still being loaded, so it waits for a module of its own level and has bound all its names
      exfalso
      have descends := h.level_lt_or_le listed steps
      rw [stack] at onStack
      rcases List.mem_cons.1 onStack with rfl | lower
      · rcases List.mem_cons.1 pending with here | later
        · cases here
        · rw [← same] at descends
          rcases descends with less | ⟨-, none⟩
          · exact Nat.lt_irrefl _ less
          · exact none name later
      · obtain ⟨source', names', rest', waits, atMost⟩ :=
          h.level_le sound ⟨[], stack.symm⟩ lower
        rw [waits] at pending steps'
        rcases List.mem_cons.1 pending with here | later
        · cases here
        · rcases h.level_lt_or_le member steps' with less | ⟨-, none⟩
          · have level_source : level importer.path ≤ level source' := atMost
            have level_module : level m.path ≤ level importer.path := descends.elim Nat.le_of_lt And.left
            omega
          · exact none name later
  · rw [unique listed' member same] at all
    exact all name bindStep

end Layered

end ResourceScaffold.Code
