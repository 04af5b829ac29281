import ResourceScaffold.Proofs.ModuleBreaks
import ResourceScaffold.Proofs.Places
import ResourceScaffold.Proofs.Strategies

/-!
# Storing generated modules

Writing a file where nothing stands, below directories and missing ones, adds the file and directories above it and changes
nothing else (`FileTree.exists_write`). So files at places none of which leads through another are all written
(`storeTargets_stores`), and a second attempt writes nothing (`storeTargets_of_current`).

Generated modules with different paths are such files. In an output directory that can be made (`FileTree.HasRoom`) they are
all stored, they are its only files, and storing them again writes nothing (`store_generated`).
-/

namespace ResourceScaffold

open Code

namespace FileTree

variable {t t' : FileTree} {here there : Location} {content : String}

/-! ## Writing one file -/

/-- A new file can be written at a place, if directories above it are made. -/
structure Accepts (t : FileTree) (here : Location) : Prop where
  absent : t.get? here = none
  passable : ∀ front, front <+: here.dropLast → ∀ content, t.get? front ≠ some (.file content)
  names : ∀ name ∈ here, t.Admits name

/-- A new file stands in the second tree, in directories some of which may be new; nothing else is new. -/
structure Writes (t : FileTree) (here : Location) (content : String) (t' : FileTree) : Prop where
  wellFormed : t'.WellFormed
  limit : t'.nameLimit = t.nameLimit
  kept : ∀ there entry, t.get? there = some entry → t'.get? there = some entry
  added : ∀ there, t.get? there = none →
    there = here ∨ t'.get? there = none ∨ t'.get? there = some .directory ∧ there <+: here.dropLast
  stored : t'.get? here = some (.file content)
  files : ∀ directory, here.isWithin directory = true →
    t'.contentsWithin directory = t.contentsWithin directory ++ [(here, .text content)]

/-- The root itself is never written. -/
theorem Accepts.nonroot (h : t.Accepts here) : here ≠ [] := by
  rintro rfl
  cases h.absent

/-- A new file is written into a directory that was made for it. -/
theorem exists_write (wf : t.WellFormed) (accepts : t.Accepts here) (content : String) :
    ∃ above t', t.ensureDirectory here.dropLast = (above, none) ∧ above.write here content = .ok t' ∧
      t.Writes here content t' := by
  have names : ∀ name ∈ here.dropLast, t.Admits name := fun name listed =>
    accepts.names name (List.mem_of_mem_dropLast listed)
  have follow {front : List String} (before : front <+: here.dropLast) : Location.follow [] front = front :=
    Location.follow_eq_append fun name listed => (names name (before.subset listed)).down
  have passable : t.Passable [] here.dropLast := fun front before old => by
    rw [follow before]
    exact accepts.passable front before old
  obtain ⟨above, made, way⟩ :=
    makeDirectories_makesWay wf t.get?_root passable fun name listed => (names name listed).short
  have shorter {front : List String} (before : front <+: here.dropLast) : here ≠ front := by
    rintro rfl
    have lengths := before.length_le
    rw [List.length_dropLast] at lengths
    have positive := List.length_pos_of_ne_nil accepts.nonroot
    omega
  have absent : above.get? here = none := by
    rcases way.adds.added here accepts.absent with still | ⟨-, front, before, place⟩
    · exact still
    · rw [follow before] at place
      exact absurd place (shorter before)
  have parent : above.get? here.dropLast = some .directory := by
    have there := way.there here.dropLast (List.prefix_refl _)
    rwa [follow (List.prefix_refl _)] at there
  have admits : ∀ name ∈ here, above.Admits name := fun name listed =>
    ⟨(accepts.names name listed).down, by rw [way.adds.isTooLong_eq, (accepts.names name listed).short]⟩
  have short : here.getLast?.any above.isTooLong = false := by
    cases last : here.getLast? with
    | none => rfl
    | some name => exact (admits name (List.mem_of_getLast? last)).short
  refine ⟨above, above.set here (.file content), made, ?_, ?_⟩
  · simp only [write, absent, isDirectory_iff.2 parent, short]
    rfl
  · refine ⟨way.wellFormed.set _ absent parent admits, way.adds.limit, fun there entry found => ?_, fun there missing => ?_,
      get?_set_self _ _ accepts.nonroot, fun directory inside => ?_⟩
    · rw [get?_set_of_ne]
      · exact way.adds.kept there entry found
      · rintro rfl
        rw [accepts.absent] at found
        cases found
    · by_cases same : there = here
      · exact .inl same
      · rw [get?_set_of_ne _ _ same]
        refine .inr ((way.adds.added there missing).imp_right fun ⟨directory, front, before, place⟩ => ⟨directory, ?_⟩)
        rwa [place, follow before]
    · rw [contentsWithin_set_file absent _ inside, way.adds.files]

/-- A place that leads neither to nor through a new file accepts a file as before. -/
theorem Writes.accepts (h : t.Writes here content t') (accepts : t.Accepts there) (after : ¬ here <+: there)
    (before : ¬ there <+: here) : t'.Accepts there where
  absent := by
    rcases h.added there accepts.absent with rfl | still | ⟨-, above⟩
    · exact absurd (List.prefix_refl _) after
    · exact still
    · exact absurd (above.trans (List.dropLast_prefix here)) before
  passable := by
    intro front inside content' found
    cases old : t.get? front with
    | some entry =>
        rw [h.kept front entry old] at found
        cases found
        exact accepts.passable front inside content' old
    | none =>
        rcases h.added front old with rfl | still | ⟨directory, -⟩
        · exact after (inside.trans (List.dropLast_prefix there))
        · rw [still] at found
          cases found
        · rw [directory] at found
          cases found
  names := fun name listed =>
    ⟨(accepts.names name listed).down, by rw [isTooLong, h.limit]; exact (accepts.names name listed).short⟩

/-! ## Writing files in order -/

/-- New files stand in the second tree; nothing that stood before has changed. -/
structure Stores (t : FileTree) (targets : List (Location × String)) (t' : FileTree) : Prop where
  limit : t'.nameLimit = t.nameLimit
  kept : ∀ there entry, t.get? there = some entry → t'.get? there = some entry
  stored : ∀ target ∈ targets, t'.get? target.1 = some (.file target.2)
  files : ∀ directory, (∀ target ∈ targets, target.1.isWithin directory = true) →
    t'.contentsWithin directory = t.contentsWithin directory ++ targets.map fun (here, text) => (here, .text text)

/-- A file that is not there is not current. -/
theorem isCurrent_of_absent (absent : t.get? here = none) (content : String) : t.isCurrent here content = .ok false := by
  rw [isCurrent, file?, absent]

/-- A file is current if it has the text and the text has no carriage returns to be read as line feeds. -/
theorem isCurrent_of_file (found : t.get? here = some (.file content)) (same : Text.universalNewlines content = content) :
    t.isCurrent here content = .ok true := by
  rw [isCurrent, file?, found]
  exact congrArg Except.ok (beq_iff_eq.2 same)

end FileTree

open FileTree

/-- Files at places none of which leads through another are all written. -/
theorem storeTargets_stores {t : FileTree} {targets : List (Location × String)} (wf : t.WellFormed)
    (accepts : ∀ target ∈ targets, t.Accepts target.1)
    (apart : targets.Pairwise fun a b => ¬ a.1 <+: b.1 ∧ ¬ b.1 <+: a.1) (written : List Location) :
    ∃ t', storeTargets t written targets = { tree := t', outcome := .ok (written ++ targets.map Prod.fst) } ∧
      t.Stores targets t' := by
  induction targets generalizing t written with
  | nil =>
      refine ⟨t, by simp [storeTargets], rfl, fun _ _ found => found, fun target none => absurd none List.not_mem_nil, ?_⟩
      exact fun directory _ => (List.append_nil _).symm
  | cons target rest ih =>
      obtain ⟨here, content⟩ := target
      rw [List.forall_mem_cons] at accepts
      rw [List.pairwise_cons] at apart
      obtain ⟨above, next, made, wrote, writes⟩ := exists_write wf accepts.1 content
      obtain ⟨t', run, stores⟩ := ih writes.wellFormed
        (fun other listed => writes.accepts (accepts.2 other listed) (apart.1 other listed).1 (apart.1 other listed).2)
        apart.2 (written ++ [here])
      refine ⟨t', ?_, stores.limit.trans writes.limit, fun there entry found => stores.kept _ _ (writes.kept _ _ found), ?_, ?_⟩
      · simp only [storeTargets, isCurrent_of_absent accepts.1.absent, made, wrote, run]
        simp
      · exact List.forall_mem_cons.2 ⟨stores.kept _ _ writes.stored, stores.stored⟩
      · intro directory inside
        rw [List.forall_mem_cons] at inside
        rw [stores.files directory inside.2, writes.files directory inside.1, List.append_assoc, List.singleton_append,
          List.map_cons]

/-- Files that are current are not written. -/
theorem storeTargets_of_current {t : FileTree} {targets : List (Location × String)}
    (current : ∀ target ∈ targets, t.isCurrent target.1 target.2 = .ok true) (written : List Location) :
    storeTargets t written targets = { tree := t, outcome := .ok written } := by
  induction targets with
  | nil => rfl
  | cons target rest ih =>
      rw [List.forall_mem_cons] at current
      simp only [storeTargets, current.1, ih current.2]

/-! ## Storing modules -/

/-- The place of a module below a directory. -/
def Code.SourceModule.place (directory : Location) (m : SourceModule) : Location :=
  directory.resolve (FilePath.ofString m.path)

/-- An output directory can be made and filled: it is not there yet, its path is possible, and the path leads through no file
and through no place of a module. -/
structure FileTree.HasRoom (t : FileTree) (base : Location) (out : FilePath) (modules : List SourceModule) : Prop where
  wellFormed : t.WellFormed
  unlimited : t.nameLimit = none
  start : t.get? base = some .directory
  noNull : '\x00' ∉ out.text.toList
  absent : t.get? (base.resolve out) = none
  passable : ∀ front, front <+: out.parts →
    ∀ content, t.get? (base.resolve { out with parts := front }) ≠ some (.file content)
  free : ∀ front, front <+: out.parts → ∀ m ∈ modules,
    base.resolve { out with parts := front } ≠ m.place (base.resolve out)

section

variable {schema : Schema} {modules : List SourceModule} {t : FileTree} {base : Location} {out : FilePath}

/-- Each module has its place below the output directory, at the names of its path. -/
theorem exists_place (h : (schema.generate ResourceNaming.derive).outcome = .ok modules) {m : SourceModule}
    (member : m ∈ modules) : ∃ names, IsModulePath names ∧ m.path = String.intercalate "/" names ∧
      ∀ directory, m.place directory = directory ++ names := by
  obtain ⟨names, modulePath, path⟩ := exists_modulePath h member
  refine ⟨names, modulePath, path, fun directory => ?_⟩
  rw [SourceModule.place, path, FilePath.ofString_join modulePath.nonempty modulePath.fileNames]
  exact Location.follow_eq_append (IsFileName.down modulePath.fileNames)

/-- What is stored of each module. -/
def targets (directory : Location) (modules : List SourceModule) : List (Location × String) :=
  modules.map fun m => (m.place directory, m.content)

/-- Once every document has its place, storing makes the output directory and then stores one document after the other. -/
theorem store_of_targets {documents : List Document} {targets : List (Location × String)}
    (found : documents.mapM (fun d => (d.target (base.resolve out) out.text).map (·, d.content)) = .ok targets) :
    store t base out documents =
      if out.text.toList.contains '\x00' then { tree := t, outcome := .error .badPath }
      else match t.makeDirectories (if out.isAbsolute then [] else base) out.parts.reverse with
        | (above, some fault) => { tree := above, outcome := .error fault }
        | (above, none) => storeTargets above [] targets := by
  simp only [store]
  generalize documents.mapM (fun d => (d.target (base.resolve out) out.text).map (·, d.content)) = located at found ⊢
  cases found
  rfl

/-- No module of a generation leads out of the output directory, so storing begins with making it. -/
theorem store_eq (h : (schema.generate ResourceNaming.derive).outcome = .ok modules) (noNull : '\x00' ∉ out.text.toList) :
    store t base out (modules.map SourceModule.toDocument) =
      match t.makeDirectories (if out.isAbsolute then [] else base) out.parts.reverse with
      | (above, some fault) => { tree := above, outcome := .error fault }
      | (above, none) => storeTargets above [] (targets (base.resolve out) modules) := by
  have possible : ¬ out.text.toList.contains '\x00' = true := by rwa [List.contains_iff_mem]
  have found : (modules.map SourceModule.toDocument).mapM
      (fun d => (d.target (base.resolve out) out.text).map (·, d.content)) =
        .ok (targets (base.resolve out) modules) := by
    refine mapM_eq_ok.2 (List.forall₂_map_left_iff.2 (List.forall₂_map_right_iff.2 (List.forall₂_same.2 fun m member => ?_)))
    obtain ⟨names, modulePath, path, place⟩ := exists_place h member
    rw [Document.target_join path modulePath.nonempty modulePath.fileNames, place]
    rfl
  rw [store_of_targets found, if_neg possible]

/-- The files of a generated schema all lie within the output directory. -/
theorem targets_isWithin (h : (schema.generate ResourceNaming.derive).outcome = .ok modules) (directory : Location) :
    ∀ target ∈ targets directory modules, target.1.isWithin directory = true := by
  intro target member
  obtain ⟨m, listed, rfl⟩ := List.mem_map.1 member
  obtain ⟨names, -, -, place⟩ := exists_place h listed
  rw [place]
  exact List.isPrefixOf_iff_prefix.2 (List.prefix_append _ _)

/-- Seen from the output directory, the modules are stored under their paths. -/
theorem targets_relative (h : (schema.generate ResourceNaming.derive).outcome = .ok modules) (directory : Location) :
    ((targets directory modules).map fun (here, text) => (directory.relativeText here, FileContent.text text)) =
      modules.map fun m => (m.path, .text m.content) := by
  rw [targets, List.map_map]
  refine List.map_congr_left fun m listed => ?_
  obtain ⟨names, -, path, place⟩ := exists_place h listed
  simp only [Function.comp_apply, Location.relativeText, place, List.drop_left, path]

/-- The places of different modules do not lead through each other. -/
theorem targets_apart (h : (schema.generate ResourceNaming.derive).outcome = .ok modules)
    (distinct : (modules.map SourceModule.path).Nodup) (directory : Location) :
    (targets directory modules).Pairwise fun a b => ¬ a.1 <+: b.1 ∧ ¬ b.1 <+: a.1 := by
  have apart {m m' : SourceModule} (hm : m ∈ modules) (hm' : m' ∈ modules) (other : m.path ≠ m'.path) :
      ¬ m.place directory <+: m'.place directory := by
    obtain ⟨names, modulePath, path, place⟩ := exists_place h hm
    obtain ⟨names', modulePath', path', place'⟩ := exists_place h hm'
    rw [place, place', List.prefix_append_right_inj]
    intro before
    exact other (by rw [path, path', modulePath.eq_of_prefix modulePath' before])
  rw [targets, List.pairwise_map]
  exact (List.pairwise_map.1 distinct).imp_of_mem fun hm hm' other => ⟨apart hm hm' other, apart hm' hm other.symm⟩

/-- A path that does not go up leads through no place of a module. -/
theorem hasRoom_of_down (h : (schema.generate ResourceNaming.derive).outcome = .ok modules) (wellFormed : t.WellFormed)
    (unlimited : t.nameLimit = none) (start : t.get? base = some .directory) (noNull : '\x00' ∉ out.text.toList)
    (absent : t.get? (base.resolve out) = none) (down : ∀ name ∈ out.parts, name ≠ "..")
    (passable : ∀ front, front <+: out.parts →
      ∀ content, t.get? (base.resolve { out with parts := front }) ≠ some (.file content)) :
    t.HasRoom base out modules := by
  refine ⟨wellFormed, unlimited, start, noNull, absent, passable, fun front before m listed same => ?_⟩
  obtain ⟨names, modulePath, -, place⟩ := exists_place h listed
  have follow {front : List String} (before : front <+: out.parts) :
      base.resolve { out with parts := front } = (if out.isAbsolute then [] else base) ++ front :=
    Location.follow_eq_append fun name inFront => down name (before.subset inFront)
  have lengths := congrArg List.length same
  rw [place, follow before, show base.resolve out = base.resolve { out with parts := out.parts } from rfl,
    follow (List.prefix_refl _)] at lengths
  simp only [List.length_append] at lengths
  have shorter := before.length_le
  have positive := List.length_pos_of_ne_nil modulePath.nonempty
  omega

/-- The output directory is made, with those above it. -/
theorem FileTree.HasRoom.exists_above (room : t.HasRoom base out modules) :
    ∃ above, t.makeDirectories (if out.isAbsolute then [] else base) out.parts.reverse = (above, none) ∧
      t.MakesWay (if out.isAbsolute then [] else base) out.parts above := by
  have start : t.get? (if out.isAbsolute then [] else base) = some .directory := by
    split
    · rfl
    · exact room.start
  exact makeDirectories_makesWay room.wellFormed start room.passable fun name _ =>
    isTooLong_of_unlimited room.unlimited name

/-- A directory that was made for modules accepts them. -/
theorem accepts_targets (h : (schema.generate ResourceNaming.derive).outcome = .ok modules)
    (room : t.HasRoom base out modules) {above : FileTree}
    (way : t.MakesWay (if out.isAbsolute then [] else base) out.parts above) :
    ∀ target ∈ targets (base.resolve out) modules, above.Accepts target.1 := by
  have made : above.get? (base.resolve out) = some .directory := way.there out.parts (List.prefix_refl _)
  have below (names : List String) : t.get? (base.resolve out ++ names) = none :=
    room.wellFormed.absent_below room.absent names
  intro target member
  obtain ⟨m, listed, rfl⟩ := List.mem_map.1 member
  obtain ⟨names, modulePath, -, place⟩ := exists_place h listed
  refine ⟨?_, fun front before content found => ?_, fun name inPlace => ?_⟩
  · rcases way.adds.added _ (place _ ▸ below names) with still | ⟨-, front, before, same⟩
    · exact still
    · exact absurd same.symm (room.free front before m listed)
  · rw [place, List.dropLast_append_of_ne_nil modulePath.nonempty] at before
    rcases List.prefix_or_prefix_of_prefix before (List.prefix_append _ _) with ⟨rest, same⟩ | ⟨names, rfl⟩
    · -- above the output directory there are directories
      have directory : above.get? front = some .directory := by
        by_cases empty : rest = []
        · rw [empty, List.append_nil] at same
          rw [same, made]
        · exact way.wellFormed.above (by rw [same, made]; rfl) empty
      rw [directory] at found
      cases found
    · -- below it there is nothing but the directories of its own path
      rcases way.adds.added _ (below names) with still | ⟨directory, -⟩
      · rw [still] at found
        cases found
      · rw [directory] at found
        cases found
  · rw [place] at inPlace
    rcases List.mem_append.1 inPlace with inDirectory | inNames
    · exact way.wellFormed.names _ (by rw [made]; rfl) name inDirectory
    · exact ⟨(modulePath.fileNames name inNames).notDots,
        isTooLong_of_unlimited (way.adds.limit.trans room.unlimited) name⟩

/-- The modules of a generation with different paths are stored in an output directory that can be made: all of them are
written, in order; they are the only files in it, under their paths and with their texts; what stood before has not changed;
and storing them again writes nothing. -/
theorem store_generated (h : (schema.generate ResourceNaming.derive).outcome = .ok modules)
    (distinct : (modules.map SourceModule.path).Nodup) (room : t.HasRoom base out modules) :
    ∃ after,
      store t base out (modules.map SourceModule.toDocument) =
        { tree := after, outcome := .ok (modules.map (SourceModule.place (base.resolve out))) } ∧
      ((after.contentsWithin (base.resolve out)).map fun (here, content) =>
          (Location.relativeText (base.resolve out) here, content)) =
        modules.map (fun m => (m.path, .text m.content)) ∧
      (∀ m ∈ modules, after.text? (m.place (base.resolve out)) = some m.content) ∧
      (∀ here entry, t.get? here = some entry → after.get? here = some entry) ∧
      store after base out (modules.map SourceModule.toDocument) = { tree := after, outcome := .ok [] } := by
  obtain ⟨above, made, way⟩ := room.exists_above
  obtain ⟨after, run, stores⟩ := storeTargets_stores way.wellFormed (accepts_targets h room way)
    (targets_apart h distinct (base.resolve out)) []
  have found {m : SourceModule} (member : m ∈ modules) :
      after.get? (m.place (base.resolve out)) = some (.file m.content) :=
    stores.stored _ (List.mem_map_of_mem member)
  refine ⟨after, ?_, ?_, fun m member => ?_, fun here entry old => ?_, ?_⟩
  · rw [List.nil_append, targets, List.map_map] at run
    rw [store_eq h room.noNull, made]
    exact run
  · rw [stores.files _ (targets_isWithin h _), way.adds.files, room.wellFormed.contentsWithin_eq_nil room.absent,
      List.nil_append, List.map_map]
    exact targets_relative h _
  · rw [text?, file?, found member]
    rfl
  · exact stores.kept here entry (way.adds.kept here entry old)
  · have there : ∀ front, front <+: out.parts →
        after.get? ((if out.isAbsolute then [] else base : Location).follow front) = some .directory :=
      fun front before => stores.kept _ _ (way.there front before)
    have limit : after.nameLimit = none := stores.limit.trans (way.adds.limit.trans room.unlimited)
    rw [store_eq h room.noNull, makeDirectories_of_there (fun name _ => isTooLong_of_unlimited limit name) there]
    refine storeTargets_of_current (fun target member => ?_) []
    obtain ⟨m, listed, rfl⟩ := List.mem_map.1 member
    exact isCurrent_of_file (found listed) (universalNewlines_content h listed)

end

/-! ## A tree with a directory to work in -/

/-- A tree of one directory with one file, where names may have any length. -/
def FileTree.workshop : FileTree :=
  FileTree.set (.set { nameLimit := none } ["work"] .directory) ["work", "notes"] (.file "")

/-- In the workshop every entry stands in a directory. -/
theorem FileTree.workshop_wellFormed : workshop.WellFormed := by
  have admits {t : FileTree} {here : Location} (limit : t.nameLimit = none) (down : ".." ∉ here) :
      ∀ name ∈ here, t.Admits name :=
    fun name listed => ⟨fun up => down (up ▸ listed), isTooLong_of_unlimited limit name⟩
  exact (((wellFormed_empty none).set .directory rfl rfl (admits rfl (by decide))).set (.file "") rfl rfl
    (admits rfl (by decide)))

/-- The modules of the blog are stored in the working directory. -/
theorem Schema.blog_stored : ∃ modules after,
    (blog.generate ResourceNaming.derive).outcome = .ok modules ∧ (modules.map SourceModule.path).Nodup ∧
    FileTree.workshop.HasRoom ["work"] (.ofString "out") modules ∧
    store .workshop ["work"] (.ofString "out") (modules.map SourceModule.toDocument) =
      { tree := after, outcome := .ok (modules.map (SourceModule.place ["work", "out"])) } ∧
    store after ["work"] (.ofString "out") (modules.map SourceModule.toDocument) = { tree := after, outcome := .ok [] } := by
  obtain ⟨modules, h⟩ := generate_of_acceptable blog_wellTyped blog_acceptable
  have distinct : (modules.map SourceModule.path).Nodup := by
    obtain ⟨classes, byName, rs, generated, rfl⟩ := generate_eq_ok h
    refine generated.paths_nodup_iff.2 ?_
    simp only [blog, List.forall_mem_cons, List.not_mem_nil, false_imp_iff, implies_true, and_true]
    exact ⟨⟨_, rfl, by decide⟩, ⟨_, rfl, by decide⟩⟩
  have room : FileTree.workshop.HasRoom ["work"] (.ofString "out") modules := by
    refine hasRoom_of_down h FileTree.workshop_wellFormed rfl rfl (by decide) rfl (by decide) fun front before text => ?_
    have parts : (FilePath.ofString "out").parts = ["out"] := rfl
    rw [parts, List.prefix_cons_iff] at before
    rcases before with rfl | ⟨rest, rfl, inRest⟩
    · have directory : FileTree.workshop.get? ["work"] = some .directory := rfl
      exact fun found => by cases directory.symm.trans found
    · have absent : FileTree.workshop.get? ["work", "out"] = none := rfl
      rw [List.prefix_nil.1 inRest]
      exact fun found => by cases absent.symm.trans found
  obtain ⟨after, stored, -, -, -, again⟩ := store_generated h distinct room
  exact ⟨modules, after, h, distinct, room, stored, again⟩

/-- An output directory that is not there cannot be made if a file stands above it or its path is impossible, nor be filled if
its path leads through the place of a module, which then is a directory. -/
theorem Schema.post_barred : ∃ modules,
    (post.generate ResourceNaming.derive).outcome = .ok modules ∧ (modules.map SourceModule.path).Nodup ∧
    FileTree.workshop.WellFormed ∧ FileTree.workshop.nameLimit = none ∧
    FileTree.workshop.get? ["work"] = some .directory ∧
    ∀ barred ∈ [("notes/out", FileFault.notADirectory), ("o/post/post_service.py/../..", .isADirectory), ("o\x00", .badPath)],
      FileTree.workshop.get? (Location.resolve ["work"] (.ofString barred.1)) = none ∧
        (store .workshop ["work"] (.ofString barred.1) (modules.map SourceModule.toDocument)).outcome = .error barred.2 := by
  have barred : (post.generate ResourceNaming.derive).outcome.map (fun modules =>
      ["notes/out", "o/post/post_service.py/../..", "o\x00"].map fun out =>
        (store .workshop ["work"] (.ofString out) (modules.map SourceModule.toDocument)).outcome) =
      .ok [.error .notADirectory, .error .isADirectory, .error .badPath] := rfl
  cases made : (post.generate ResourceNaming.derive).outcome with
  | error fault =>
      rw [made] at barred
      cases barred
  | ok modules =>
      rw [made] at barred
      have outcomes := Except.ok.inj barred
      simp only [List.map_cons, List.map_nil, List.cons.injEq, and_true] at outcomes
      have distinct : (modules.map SourceModule.path).Nodup := by
        obtain ⟨classes, byName, rs, generated, rfl⟩ := generate_eq_ok made
        refine generated.paths_nodup_iff.2 ?_
        simp only [post, List.forall_mem_cons, List.not_mem_nil, false_imp_iff, implies_true, and_true]
        exact ⟨_, rfl, by decide⟩
      refine ⟨modules, rfl, distinct, FileTree.workshop_wellFormed, rfl, rfl, ?_⟩
      simp only [List.forall_mem_cons, List.not_mem_nil, false_imp_iff, implies_true, and_true]
      exact ⟨⟨rfl, outcomes.1⟩, ⟨rfl, outcomes.2.1⟩, rfl, outcomes.2.2⟩

end ResourceScaffold
