import ResourceScaffold.Command.Run
import ResourceScaffold.Proofs.Updates

/-!
# Runs of the command as a whole

A run of the command with options has three ways to end, and `Command.Ends` says what it has done to the files in each of them:
nothing, without code 0; it has stored the modules of a schema, with code 0; or storing them has met a fault, which is no code.
So a run that ends with code 1 has changed nothing, and a run that ends with code 0 has stored all the modules
(`Command.run_all_or_nothing`). A run that meets a failure leaves the files as they were, or as storing the modules before some
module leaves them (`Command.run_failure_keeps_prefix`).
-/

namespace ResourceScaffold

open Code

section

variable {schema : Schema} {modules : List SourceModule} {t after : FileTree} {base : Location} {out : FilePath}

/-! ## Stored modules -/

/-- The path of a generated module does not lead out of the directory in which it is stored. -/
theorem not_escapes (h : (schema.generate ResourceNaming.derive).outcome = .ok modules) {m : SourceModule}
    (member : m ∈ modules) (directory : Location) :
    '\x00' ∉ m.toDocument.path.toList ∧ ¬ m.toDocument.Escapes directory := by
  obtain ⟨names, modulePath, path, -⟩ := exists_place h member
  have found := Document.target_join (d := m.toDocument) path modulePath.nonempty modulePath.fileNames directory ""
  obtain ⟨noNull, inside, -⟩ := Document.target_eq_ok_iff.1 found
  exact ⟨noNull, inside⟩

/-- What is stored of generated modules has its places in the output directory. -/
theorem documents_inside (h : (schema.generate ResourceNaming.derive).outcome = .ok modules) (directory : Location) :
    (∀ d ∈ modules.map SourceModule.toDocument, '\x00' ∉ d.path.toList) ∧
      ∀ d ∈ modules.map SourceModule.toDocument, ¬ d.Escapes directory :=
  ⟨List.forall_mem_map.2 fun _ listed => (not_escapes h listed directory).1,
    List.forall_mem_map.2 fun _ listed => (not_escapes h listed directory).2⟩

/-- Modules with one place have one path. -/
theorem path_eq_of_place_eq (h : (schema.generate ResourceNaming.derive).outcome = .ok modules) {m m' : SourceModule}
    (hm : m ∈ modules) (hm' : m' ∈ modules) {directory : Location} (same : m.place directory = m'.place directory) :
    m.path = m'.path := by
  obtain ⟨names, -, path, place⟩ := exists_place h hm
  obtain ⟨names', -, path', place'⟩ := exists_place h hm'
  rw [place, place', List.append_cancel_left_eq] at same
  rw [path, path', same]

/-- When all modules of a generation are stored, each path reads as the last module with that path, and no other file has
changed. -/
theorem files_of_store (h : (schema.generate ResourceNaming.derive).outcome = .ok modules) {written : List Location}
    (stored : store t base out (modules.map SourceModule.toDocument) = { tree := after, outcome := .ok written }) :
    (∀ front m back, modules = front ++ m :: back → (∀ later ∈ back, later.path ≠ m.path) →
      (after.text? (m.place (base.resolve out))).map Text.universalNewlines = some m.content) ∧
    ∀ here, (∀ m ∈ modules, here ≠ m.place (base.resolve out)) → after.file? here = t.file? here := by
  obtain ⟨noNull, inside⟩ := documents_inside h (base.resolve out)
  refine ⟨fun front m back split last => ?_, fun here other => ?_⟩
  · have member : m ∈ modules := by simp [split]
    have inModules : ∀ later ∈ back, later ∈ modules := fun later listed => by simp [split, listed]
    obtain ⟨above, -, run⟩ := store_eq_ok noNull inside stored
    rw [List.map_map, split, List.map_append, List.map_cons] at run
    refine storeTargets_reads (universalNewlines_content h member) (List.forall_mem_map.2 fun later listed same => ?_) run
    exact last later listed (path_eq_of_place_eq h (inModules later listed) member same.symm)
  · exact store_file?_of_ne noNull inside stored (List.forall_mem_map.2 other)

/-- When storing the modules of a generation fails, the files are as they were, or as storing the modules before some module
leaves them. -/
theorem files_of_failed_store (h : (schema.generate ResourceNaming.derive).outcome = .ok modules) {fault : FileFault}
    (stored : store t base out (modules.map SourceModule.toDocument) = { tree := after, outcome := .error fault }) :
    (∀ here, after.file? here = t.file? here) ∨
      ∃ before m rest reached written, modules = before ++ m :: rest ∧
        store t base out (before.map SourceModule.toDocument) = { tree := reached, outcome := .ok written } ∧
        ∀ here, after.file? here = reached.file? here := by
  obtain ⟨noNull, inside⟩ := documents_inside h (base.resolve out)
  rcases store_eq_error noNull inside stored with ⟨-, files⟩ | ⟨front, d, back, reached, written, split, returned, -, files⟩
  · exact .inl files
  · obtain ⟨before, others, rfl, rfl, last⟩ := List.map_eq_append_iff.1 split
    obtain ⟨m, rest, rfl, rfl, rfl⟩ := List.map_eq_cons_iff.1 last
    exact .inr ⟨before, m, rest, reached, written, rfl, returned, files⟩

end

namespace Command

variable {settings : Settings} {t : FileTree} {base : Location} {options : Options} {arguments : List String}

/-! ## How a run ends -/

/-- How a run with options ends, and with which files: without code 0 and with nothing changed; with code 0 when the modules of
the schema are stored; or with the fault that storing them has met. -/
inductive Ends (t : FileTree) (base : Location) (options : Options) : FileTree → Except Failure Nat → Prop
  | unchanged {outcome : Except Failure Nat} (unfinished : outcome ≠ .ok 0) : Ends t base options t outcome
  | stored {schema : Schema} {modules : List SourceModule} {after : FileTree} {written : List Location}
      (loaded : Schema.load t base options.schema = .ok schema)
      (generated : (schema.generate ResourceNaming.derive).outcome = .ok modules)
      (stored : store t base options.out (modules.map SourceModule.toDocument) = { tree := after, outcome := .ok written }) :
      Ends t base options after (.ok 0)
  | interrupted {schema : Schema} {modules : List SourceModule} {after : FileTree} {fault : FileFault}
      (loaded : Schema.load t base options.schema = .ok schema)
      (generated : (schema.generate ResourceNaming.derive).outcome = .ok modules)
      (failed : store t base options.out (modules.map SourceModule.toDocument) = { tree := after, outcome := .error fault }) :
      Ends t base options after (.error (.file fault))

/-- A run that gives up changes nothing. -/
theorem giveUp_ends (outputs : List Output) (failure : Failure) :
    Ends t base options (giveUp t outputs failure).tree (giveUp t outputs failure).outcome := by
  unfold giveUp
  split <;> exact .unchanged (by simp)

/-- Once a generation has returned, storing its modules or a failure ends the run. -/
theorem storeModules_ends {schema : Schema} {modules : List SourceModule} (threshold : Threshold) (outputs : List Output)
    (loaded : Schema.load t base options.schema = .ok schema)
    (generated : (schema.generate ResourceNaming.derive).outcome = .ok modules) :
    Ends t base options (storeModules t base options.out threshold outputs modules).tree
      (storeModules t base options.out threshold outputs modules).outcome := by
  unfold storeModules
  cases run : store t base options.out (modules.map SourceModule.toDocument) with
  | mk after outcome =>
      cases outcome with
      | error fault => exact .interrupted loaded generated run
      | ok written => exact .stored loaded generated run

/-- A run with options ends in one of the three ways. -/
theorem perform_ends (t : FileTree) (base : Location) (options : Options) :
    Ends t base options (perform t base options).tree (perform t base options).outcome := by
  unfold perform
  split
  · exact giveUp_ends _ _
  · exact .unchanged (by simp)
  · split
    · exact giveUp_ends _ _
    · next schema loaded =>
        unfold generateModules
        simp only
        split
        · exact giveUp_ends _ _
        · next modules generated => exact storeModules_ends _ _ loaded generated

/-- A run with arguments that are understood does what their options ask for. -/
theorem run_eq_perform (valid : Options.ofArguments settings arguments = .ok options) :
    run settings t base arguments = perform t base options := by
  unfold run
  rw [valid]

/-- A run of the command that ends with code 1 has changed nothing. A run that ends with code 0 has loaded a schema, generated
its modules and stored all of them: each path reads as the last module with that path, and no other file has changed. -/
theorem run_all_or_nothing (valid : Options.ofArguments settings arguments = .ok options) :
    ((run settings t base arguments).outcome = .ok 1 → (run settings t base arguments).tree = t) ∧
    ((run settings t base arguments).outcome = .ok 0 → ∃ schema modules,
      Schema.load t base options.schema = .ok schema ∧
      (schema.generate ResourceNaming.derive).outcome = .ok modules ∧
      (∀ front m back, modules = front ++ m :: back → (∀ later ∈ back, later.path ≠ m.path) →
        ((run settings t base arguments).tree.text? (m.place (base.resolve options.out))).map Text.universalNewlines =
          some m.content) ∧
      ∀ here, (∀ m ∈ modules, here ≠ m.place (base.resolve options.out)) →
        (run settings t base arguments).tree.file? here = t.file? here) := by
  have ends := perform_ends t base options
  rw [run_eq_perform valid]
  generalize (perform t base options).tree = after, (perform t base options).outcome = outcome at ends
  cases ends with
  | unchanged unfinished => exact ⟨fun _ => rfl, fun finished => absurd finished unfinished⟩
  | stored loaded generated stored =>
      refine ⟨fun refused => by simp at refused, fun _ => ?_⟩
      exact ⟨_, _, loaded, generated, files_of_store generated stored⟩
  | interrupted => exact ⟨fun refused => by simp at refused, fun finished => by simp at finished⟩

/-- A run of the command that meets a failure leaves the files as they were, or it has begun to store the modules of a schema
and leaves the files that storing the modules before some module leaves. -/
theorem run_failure_keeps_prefix (valid : Options.ofArguments settings arguments = .ok options) {failure : Failure}
    (failed : (run settings t base arguments).outcome = .error failure) :
    (∀ here, (run settings t base arguments).tree.file? here = t.file? here) ∨
      ∃ schema modules before m rest reached written,
        Schema.load t base options.schema = .ok schema ∧
        (schema.generate ResourceNaming.derive).outcome = .ok modules ∧ modules = before ++ m :: rest ∧
        store t base options.out (before.map SourceModule.toDocument) = { tree := reached, outcome := .ok written } ∧
        ∀ here, (run settings t base arguments).tree.file? here = reached.file? here := by
  have ends := perform_ends t base options
  rw [run_eq_perform valid] at failed ⊢
  generalize (perform t base options).tree = after, (perform t base options).outcome = outcome at ends failed
  cases ends with
  | unchanged unfinished => exact .inl fun _ => rfl
  | stored => cases failed
  | interrupted loaded generated stored =>
      rcases files_of_failed_store generated stored with files | ⟨before, m, rest, reached, written, split, returned, files⟩
      · exact .inl files
      · exact .inr ⟨_, _, before, m, rest, reached, written, loaded, generated, split, returned, files⟩

end Command

/-- A working directory with a schema file. -/
def FileTree.project : FileTree :=
  FileTree.workshop.set ["work", "post.json"] (.file "\x7b\"entities\": [\x7b\"name\": \"Post\"\x7d]\x7d")

/-- The arguments that ask for the modules of that schema. -/
def Options.project : List String :=
  ["post.json", "--out=out"]

/-- The modules of the schema in the file are stored beside it, and the file is as before. -/
theorem Command.project_stored :
    Options.ofArguments {} Options.project =
      .ok { schema := .ofString "post.json", out := .ofString "out", logLevel := "INFO" } ∧
    (Command.run {} .project ["work"] Options.project).outcome = .ok 0 ∧
    ∃ schema modules, Schema.load .project ["work"] (.ofString "post.json") = .ok schema ∧
      (schema.generate ResourceNaming.derive).outcome = .ok modules ∧
      (∀ front m back, modules = front ++ m :: back → (∀ later ∈ back, later.path ≠ m.path) →
        ((Command.run {} .project ["work"] Options.project).tree.text? (m.place ["work", "out"])).map Text.universalNewlines =
          some m.content) ∧
      (Command.run {} .project ["work"] Options.project).tree.file? ["work", "post.json"] =
        FileTree.project.file? ["work", "post.json"] := by
  have valid : Options.ofArguments {} Options.project =
      .ok { schema := .ofString "post.json", out := .ofString "out", logLevel := "INFO" } := by decide +kernel
  have code : (Command.run {} .project ["work"] Options.project).outcome.toOption = some 0 := by decide +kernel
  have finished : (Command.run {} .project ["work"] Options.project).outcome = .ok 0 := eq_ok_of_toOption code
  have directory : Location.resolve ["work"] (.ofString "out") = ["work", "out"] := rfl
  obtain ⟨-, stored⟩ := Command.run_all_or_nothing (t := .project) valid
  obtain ⟨schema, modules, loaded, generated, texts, others⟩ := stored finished
  rw [directory] at texts others
  refine ⟨valid, finished, schema, modules, loaded, generated, texts, others _ fun m listed same => ?_⟩
  obtain ⟨names, -, -, place⟩ := exists_place generated listed
  rw [place] at same
  simp at same

end ResourceScaffold
