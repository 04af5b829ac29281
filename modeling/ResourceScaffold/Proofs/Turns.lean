import ResourceScaffold.Files.Store
import ResourceScaffold.Proofs.Directories

/-!
# Turns of storing

Whether or not it succeeds, making directories adds directories and changes nothing else (`FileTree.makeDirectories_adds`). So
one turn of the loop that stores files has three ways to go, and `Turn` says all that it can do in each of them: it leaves a
current file alone, it writes a file in a directory, or it fails, perhaps after some directories were made.

* `storeTargets_append`: a run over two lists is a run over the first, and over the second unless the first one fails.
* `storeTargets_keeps`: what every turn keeps, a run keeps.
* `storeTargets_eq_ok`, `storeTargets_eq_error`: at different places, a run that returns has written the files that were not
  current at its beginning, and a run that fails does so in one turn, after a run over the targets before it.
-/

namespace ResourceScaffold

namespace FileTree

variable {t t' : FileTree} {start here there : Location} {parts : List String} {content : String} {fault : FileFault}

/-! ## Making directories, whether or not it succeeds -/

/-- A directory that is made is new. -/
theorem makeDirectory_eq_ok (made : t.makeDirectory start parts = .ok t') :
    t.get? (start.follow parts) = none ∧ t' = t.set (start.follow parts) .directory := by
  unfold makeDirectory at made
  split at made
  · cases made
  · next place walked =>
      obtain ⟨rfl, -, -⟩ := walk_eq_ok_iff.1 walked
      split at made
      · cases made
      · next absent =>
          cases made
          exact ⟨absent, rfl⟩

/-- A fault does not count only where a directory stands. -/
theorem directory_of_unlessDirectory (passed : t.unlessDirectory start parts fault = none) :
    t.get? (start.follow parts) = some .directory := by
  unfold unlessDirectory at passed
  split at passed
  · next place walked =>
      obtain ⟨rfl, -, -⟩ := walk_eq_ok_iff.1 walked
      split at passed
      · next directory => exact isDirectory_iff.1 directory
      · cases passed
  · cases passed

/-- A directory that is made stands where the path leads. -/
theorem directory_of_makeDirectory (made : t.makeDirectory start parts = .ok t') :
    t'.get? (start.follow parts) = some .directory := by
  obtain ⟨absent, rfl⟩ := makeDirectory_eq_ok made
  refine get?_set_self t .directory fun root => ?_
  rw [root, get?_root] at absent
  cases absent

/-- A directory that is made is a place that the path leads through. -/
theorem makeDirectory_adds (made : t.makeDirectory start parts = .ok t') :
    t.AddsDirectories (fun here => ∃ front, front <+: parts ∧ here = start.follow front) t' := by
  obtain ⟨absent, rfl⟩ := makeDirectory_eq_ok made
  exact .set absent ⟨parts, List.prefix_refl _, rfl⟩

/-- Making directories adds directories at places that the path leads through, and changes nothing else, also when it fails. -/
theorem makeDirectories_adds (t : FileTree) (start : Location) (parts : List String) :
    t.AddsDirectories (fun here => ∃ front, front <+: parts ∧ here = start.follow front)
      (t.makeDirectories start parts.reverse).1 := by
  induction parts using List.reverseRecOn with
  | nil => exact .refl t _
  | append_singleton front last ih =>
      have parts : (last :: front.reverse).reverse = front ++ [last] := by simp
      have above := ih.mono (q := fun here => ∃ first, first <+: front ++ [last] ∧ here = start.follow first)
        fun here ⟨first, before, place⟩ => ⟨first, before.trans (List.prefix_append _ _), place⟩
      rw [List.reverse_concat]
      unfold makeDirectories
      simp only [parts]
      split
      · next made => exact makeDirectory_adds made
      · split
        · next failed => simpa only [failed] using above
        · next reached done =>
            rw [done] at above
            split
            · next made => exact above.trans (makeDirectory_adds made)
            · exact above
      · exact .refl t _

/-- Where making directories succeeds there is a directory, provided that the path begins at one. -/
theorem directory_of_makeDirectories (base : t.get? start = some .directory)
    (made : t.makeDirectories start parts.reverse = (t', none)) : t'.get? (start.follow parts) = some .directory := by
  cases parts using List.reverseRecOn with
  | nil =>
      cases made
      exact base
  | append_singleton front last =>
      have parts : (last :: front.reverse).reverse = front ++ [last] := by simp
      rw [List.reverse_concat] at made
      unfold makeDirectories at made
      simp only [parts] at made
      split at made
      · next made' =>
          cases made
          exact directory_of_makeDirectory made'
      · split at made
        · cases made
        · split at made
          · next made' =>
              cases made
              exact directory_of_makeDirectory made'
          · obtain ⟨rfl, passed⟩ := Prod.mk.inj made
            exact directory_of_unlessDirectory passed
      · obtain ⟨rfl, passed⟩ := Prod.mk.inj made
        exact directory_of_unlessDirectory passed

/-! ## Faults

Only a path that leads out of the output directory is told in a message; no operation on a tree meets that fault. -/

/-- The fault of a walk is no escape. -/
theorem message?_of_walk (failed : t.walk start parts = .error fault) : fault.message? = none := by
  induction parts generalizing start with
  | nil => cases failed
  | cons part rest ih =>
      unfold walk at failed
      split at failed
      · cases failed
        rfl
      · cases failed
        rfl
      · split at failed
        · cases failed
          rfl
        · exact ih failed

/-- Neither is the fault of making a directory. -/
theorem message?_of_makeDirectory (failed : t.makeDirectory start parts = .error fault) : fault.message? = none := by
  unfold makeDirectory at failed
  split at failed
  · next walked =>
      cases failed
      exact message?_of_walk walked
  · split at failed
    · cases failed
      rfl
    · cases failed

/-- Unless a directory is there, the fault is the one given. -/
theorem eq_of_unlessDirectory {met : FileFault} (failed : t.unlessDirectory start parts met = some fault) : fault = met := by
  unfold unlessDirectory at failed
  split at failed
  · split at failed
    · cases failed
    · exact (Option.some.inj failed).symm
  · exact (Option.some.inj failed).symm

/-- The fault of making all directories of a path is no escape. -/
theorem message?_of_makeDirectories (failed : t.makeDirectories start parts.reverse = (t', some fault)) :
    fault.message? = none := by
  induction parts using List.reverseRecOn generalizing t' with
  | nil => cases failed
  | append_singleton front last ih =>
      rw [List.reverse_concat] at failed
      unfold makeDirectories at failed
      simp only at failed
      split at failed
      · cases failed
      · split at failed
        · next above =>
            obtain ⟨rfl, same⟩ := Prod.mk.inj failed
            cases same
            exact ih above
        · split at failed
          · cases failed
          · next met =>
              rw [eq_of_unlessDirectory (Prod.mk.inj failed).2]
              exact message?_of_makeDirectory met
      · next met =>
          rw [eq_of_unlessDirectory (Prod.mk.inj failed).2]
          exact message?_of_makeDirectory met

/-- Neither is the fault of writing. -/
theorem message?_of_write (failed : t.write here content = .error fault) : fault.message? = none := by
  unfold write at failed
  split at failed
  · cases failed
    rfl
  · cases failed
  · split at failed
    · cases failed
      rfl
    · split at failed
      · cases failed
        rfl
      · cases failed

/-! ## Files -/

/-- What stands at a place is what stood there before, or a directory where nothing stood. -/
def KeepsAt (t : FileTree) (here : Location) (t' : FileTree) : Prop :=
  t'.get? here = t.get? here ∨ t.get? here = none ∧ t'.get? here = some .directory

namespace KeepsAt

variable {t'' : FileTree}

/-- What stands at a place is kept by doing nothing. -/
theorem refl (t : FileTree) (here : Location) : t.KeepsAt here t :=
  .inl rfl

/-- It is kept by two steps that keep it. -/
theorem trans (h : t.KeepsAt here t') (h' : t'.KeepsAt here t'') : t.KeepsAt here t'' := by
  unfold KeepsAt at h h' ⊢
  rcases h with same | ⟨absent, made⟩
  · rwa [same] at h'
  · rcases h' with same' | ⟨absent', -⟩
    · exact .inr ⟨absent, same'.trans made⟩
    · rw [made] at absent'
      cases absent'

/-- No file has changed there, whatever it holds. -/
theorem file?_eq (h : t.KeepsAt here t') : t'.file? here = t.file? here := by
  unfold file?
  rcases h with same | ⟨absent, made⟩
  · rw [same]
  · rw [absent, made]

end KeepsAt

/-- It is kept when directories are added. -/
theorem AddsDirectories.keepsAt {p : Location → Prop} (h : t.AddsDirectories p t') (here : Location) :
    t.KeepsAt here t' := by
  cases found : t.get? here with
  | some entry => exact .inl ((h.kept here entry found).trans found.symm)
  | none => exact (h.added here found).imp (fun still => still.trans found.symm) fun ⟨made, _⟩ => ⟨found, made⟩

/-- A file that is set is found at its place, and the others as before. -/
theorem file?_set_file (nonroot : here ≠ []) (content : FileContent) (there : Location) :
    (t.set here (.file content)).file? there = if there = here then some content else t.file? there := by
  unfold file?
  by_cases same : there = here
  · rw [if_pos same, same, get?_set_self t _ nonroot]
  · rw [if_neg same, get?_set_of_ne t _ same]

/-- A file is written where no directory stands. -/
theorem write_eq_ok (wrote : t.write here content = .ok t') :
    t.get? here ≠ some .directory ∧ t' = t.set here (.file content) := by
  unfold write at wrote
  split at wrote
  · cases wrote
  · next found =>
      cases wrote
      exact ⟨by simp [found], rfl⟩
  · next absent =>
      split at wrote
      · cases wrote
      · split at wrote
        · cases wrote
        · cases wrote
          exact ⟨by simp [absent], rfl⟩

/-! ## Current files -/

/-- The text of a file is the same in two trees in which the file is the same. -/
theorem text?_congr (same : t'.file? here = t.file? here) : t'.text? here = t.text? here := by
  rw [text?, text?, same]

/-- If it is known whether a file is current, then it is so iff it reads as the content. -/
theorem reads_of_isCurrent {current : Bool} (known : t.isCurrent here content = .ok current) :
    ((t.text? here).map Text.universalNewlines == some content) = current := by
  unfold isCurrent at known
  unfold text?
  split at known
  · next found file =>
      rw [file]
      cases found with
      | text text => exact Except.ok.inj known
      | undecodable data noText => cases known
  · next none =>
      rw [none]
      exact Except.ok.inj known

/-- A file of which it is not known whether it is current holds no text, and that is told in no message. -/
theorem message?_of_isCurrent (failed : t.isCurrent here content = .error fault) : fault.message? = none := by
  unfold isCurrent at failed
  split at failed
  · next found file =>
      cases found with
      | text text => cases failed
      | undecodable data noText =>
          cases failed
          rfl
  · cases failed

/-! ## One turn -/

/-- What one turn of storing does with the file at a place: nothing if it is current; otherwise directories are made and the
file is written where no directory stands, or else the turn fails, with a fault that has no message. The result says whether
the file was written. -/
inductive Turn (t : FileTree) (here : Location) (content : String) : FileTree → Except FileFault Bool → Prop
  | current (same : t.isCurrent here content = .ok true) : Turn t here content t (.ok false)
  | written {above : FileTree} (outdated : t.isCurrent here content = .ok false)
      (adds : t.AddsDirectories (fun _ => True) above) (free : above.get? here ≠ some .directory) :
      Turn t here content (above.set here (.file content)) (.ok true)
  | failed {above : FileTree} (pending : t.isCurrent here content ≠ .ok true)
      (adds : t.AddsDirectories (fun _ => True) above) {fault : FileFault} (silent : fault.message? = none) :
      Turn t here content above (.error fault)

namespace Turn

variable {done : Except FileFault Bool}

/-- A turn adds directories, and else it changes nothing but its own place. -/
theorem keepsAt (h : Turn t here content t' done) (other : there ≠ here) : t.KeepsAt there t' := by
  cases h with
  | current same => exact .refl t there
  | written outdated adds free => exact (adds.keepsAt there).trans (.inl (get?_set_of_ne _ _ other))
  | failed pending adds silent => exact adds.keepsAt there

/-- A directory stays. -/
theorem keeps_directory (h : Turn t here content t' done) (directory : t.get? there = some .directory) :
    t'.get? there = some .directory := by
  cases h with
  | current same => exact directory
  | written outdated adds free =>
      have kept := adds.kept there _ directory
      rw [get?_set_of_ne, kept]
      rintro rfl
      exact free kept
  | failed pending adds silent => exact adds.kept there _ directory

/-- A turn that fails changes no file. -/
theorem file?_of_error (h : Turn t here content t' (.error fault)) (there : Location) :
    t'.file? there = t.file? there := by
  cases h with
  | failed pending adds silent => exact (adds.keepsAt there).file?_eq

/-- A turn that does not fail writes its file unless it reads as the content. -/
theorem file?_self {wrote : Bool} (h : Turn t here content t' (.ok wrote)) :
    wrote = ((t.text? here).map Text.universalNewlines != some content) ∧
      t'.file? here = if wrote then some (.text content) else t.file? here := by
  cases h with
  | current same => exact ⟨by rw [bne, reads_of_isCurrent same]; rfl, rfl⟩
  | written outdated adds free =>
      have nonroot : here ≠ [] := by
        rintro rfl
        exact free (get?_root _)
      refine ⟨by rw [bne, reads_of_isCurrent outdated]; rfl, ?_⟩
      rw [file?_set_file nonroot, if_pos rfl, if_pos rfl]

end Turn

end FileTree

open FileTree

/-! ## Runs -/

section

variable {t after : FileTree} {written places : List Location} {targets : List (Location × String)} {fault : FileFault}

/-- Storing begins with a turn for the first file; if that does not fail, the others are stored. -/
theorem exists_turn (t : FileTree) (here : Location) (content : String) : ∃ next done,
    Turn t here content next done ∧ ∀ written rest, storeTargets t written ((here, content) :: rest) =
      match done with
      | .ok wrote => storeTargets next (if wrote then written ++ [here] else written) rest
      | .error fault => { tree := next, outcome := .error fault } := by
  rcases known : t.isCurrent here content with fault | _ | _
  · have silent := message?_of_isCurrent known
    exact ⟨t, .error fault, .failed (by simp [known]) (.refl t _) silent, fun written rest => by simp [storeTargets, known]⟩
  · have pending : t.isCurrent here content ≠ .ok true := by simp [known]
    have adds := (makeDirectories_adds t [] here.dropLast).mono (q := fun _ => True) fun _ _ => trivial
    cases made : t.ensureDirectory here.dropLast with
    | mk above failed =>
        rw [show t.makeDirectories [] here.dropLast.reverse = (above, failed) from made] at adds
        cases failed with
        | some fault =>
            refine ⟨above, .error fault, .failed pending adds (message?_of_makeDirectories made), fun written rest => ?_⟩
            simp only [storeTargets, known, made]
        | none =>
            cases wrote : above.write here content with
            | error fault =>
                refine ⟨above, .error fault, .failed pending adds (message?_of_write wrote), fun written rest => ?_⟩
                simp only [storeTargets, known, made, wrote]
            | ok next =>
                obtain ⟨free, rfl⟩ := write_eq_ok wrote
                refine ⟨_, .ok true, .written known adds free, fun written rest => ?_⟩
                simp only [storeTargets, known, made, wrote]
                rfl
  · exact ⟨t, .ok false, .current known, fun written rest => by simp [storeTargets, known]⟩

/-- A run over two lists is a run over the first one, and over the second one unless the first fails. -/
theorem storeTargets_append (t : FileTree) (written : List Location) (front rest : List (Location × String)) :
    storeTargets t written (front ++ rest) =
      match storeTargets t written front with
      | { tree := reached, outcome := .ok places } => storeTargets reached places rest
      | { tree := reached, outcome := .error fault } => { tree := reached, outcome := .error fault } := by
  induction front generalizing t written with
  | nil => rfl
  | cons target front ih =>
      obtain ⟨here, content⟩ := target
      obtain ⟨next, done, -, step⟩ := exists_turn t here content
      rw [List.cons_append, step, step]
      cases done with
      | error fault => rfl
      | ok wrote => exact ih next _

/-- What every turn keeps, a run keeps. -/
theorem storeTargets_keeps {p : FileTree → Prop}
    (step : ∀ target ∈ targets, ∀ t next done, Turn t target.1 target.2 next done → p t → p next) (h : p t)
    (written : List Location) : p (storeTargets t written targets).tree := by
  induction targets generalizing t written with
  | nil => exact h
  | cons target rest ih =>
      obtain ⟨here, content⟩ := target
      rw [List.forall_mem_cons] at step
      obtain ⟨next, done, turn, run⟩ := exists_turn t here content
      have kept : p next := step.1 t next done turn h
      rw [run]
      cases done with
      | error fault => exact kept
      | ok wrote => exact ih step.2 kept _

/-! ## Runs that return and runs that fail -/

/-- A run changes no file at a place that is not among its targets. -/
theorem storeTargets_file?_of_ne {here : Location} (other : ∀ target ∈ targets, here ≠ target.1) (t : FileTree)
    (written : List Location) : (storeTargets t written targets).tree.file? here = t.file? here := by
  refine storeTargets_keeps (p := fun reached => reached.file? here = t.file? here) ?_ rfl written
  intro target listed reached next done turn same
  rw [(turn.keepsAt (other target listed)).file?_eq, same]

/-- At different places, a run that returns has written those files that read otherwise at its beginning, in order. -/
theorem storeTargets_eq_ok (distinct : (targets.map Prod.fst).Nodup)
    (stored : storeTargets t written targets = { tree := after, outcome := .ok places }) :
    places = written ++
        (targets.filter fun target => (t.text? target.1).map Text.universalNewlines != some target.2).map Prod.fst ∧
      ∀ target ∈ targets, after.file? target.1 =
        if (t.text? target.1).map Text.universalNewlines = some target.2 then t.file? target.1
        else some (.text target.2) := by
  induction targets generalizing t written with
  | nil =>
      cases stored
      exact ⟨(List.append_nil _).symm, fun target none => absurd none List.not_mem_nil⟩
  | cons target rest ih =>
      obtain ⟨here, content⟩ := target
      rw [List.map_cons, List.nodup_cons] at distinct
      have apart : ∀ target ∈ rest, target.1 ≠ here := fun target listed same =>
        distinct.1 (List.mem_map.2 ⟨target, listed, same⟩)
      obtain ⟨next, done, turn, run⟩ := exists_turn t here content
      rw [run] at stored
      cases done with
      | error fault => cases stored
      | ok wrote =>
          simp only at stored
          obtain ⟨outdated, file⟩ := turn.file?_self
          -- the files at the later places are as they were, so the same of them read as they should
          have unchanged : ∀ target ∈ rest, next.file? target.1 = t.file? target.1 := fun target listed =>
            (turn.keepsAt (apart target listed)).file?_eq
          obtain ⟨places', files⟩ := ih distinct.2 stored
          have filtered : (rest.filter fun target => (next.text? target.1).map Text.universalNewlines != some target.2) =
              rest.filter fun target => (t.text? target.1).map Text.universalNewlines != some target.2 :=
            List.filter_congr fun target listed => by rw [text?_congr (unchanged target listed)]
          refine ⟨?_, List.forall_mem_cons.2 ⟨?_, fun target listed => ?_⟩⟩
          · rw [places', filtered, List.filter_cons, ← outdated]
            cases wrote <;> simp
          · have kept := storeTargets_file?_of_ne (fun target listed => (apart target listed).symm) next
              (if wrote then written ++ [here] else written)
            rw [stored] at kept
            rw [kept, file, outdated]
            by_cases reads : (t.text? here).map Text.universalNewlines = some content <;> simp [reads]
          · rw [files target listed, text?_congr (unchanged target listed), unchanged target listed]

/-- A run that fails does so in the turn of one target. The run over the targets before it returns. -/
theorem storeTargets_eq_error (stored : storeTargets t written targets = { tree := after, outcome := .error fault }) :
    ∃ before target rest reached places, targets = before ++ target :: rest ∧
      storeTargets t written before = { tree := reached, outcome := .ok places } ∧
      storeTargets t written (before ++ [target]) = { tree := after, outcome := .error fault } ∧
      Turn reached target.1 target.2 after (.error fault) := by
  induction targets generalizing t written with
  | nil => cases stored
  | cons target rest ih =>
      obtain ⟨here, content⟩ := target
      obtain ⟨next, done, turn, run⟩ := exists_turn t here content
      rw [run] at stored
      cases done with
      | error fault' =>
          cases stored
          exact ⟨[], _, rest, t, written, rfl, rfl, run written [], turn⟩
      | ok wrote =>
          obtain ⟨before, target, rest, reached, places, rfl, returned, failed, turn⟩ := ih stored
          exact ⟨(here, content) :: before, target, rest, reached, places, rfl, (run _ _).trans returned,
            (run _ _).trans failed, turn⟩

/-- A run meets no fault with a message. -/
theorem message?_of_storeTargets (failed : (storeTargets t written targets).outcome = .error fault) :
    fault.message? = none := by
  cases stored : storeTargets t written targets with
  | mk after outcome =>
      rw [stored] at failed
      subst failed
      obtain ⟨_, target, _, reached, _, -, -, -, turn⟩ := storeTargets_eq_error stored
      cases turn with
      | failed pending adds silent => exact silent

/-- After a run that returns, the last file for a place reads as it should, if its text has only line feeds as newlines. -/
theorem storeTargets_reads {front back : List (Location × String)} {here : Location} {content : String}
    (plain : Text.universalNewlines content = content) (last : ∀ later ∈ back, here ≠ later.1)
    (stored : storeTargets t written (front ++ (here, content) :: back) = { tree := after, outcome := .ok places }) :
    (after.text? here).map Text.universalNewlines = some content := by
  rw [storeTargets_append] at stored
  split at stored
  · next reached places' returned =>
      obtain ⟨next, done, turn, run⟩ := exists_turn reached here content
      rw [run] at stored
      cases done with
      | error fault => cases stored
      | ok wrote =>
          simp only at stored
          have kept := storeTargets_file?_of_ne last next (if wrote then places' ++ [here] else places')
          rw [stored] at kept
          obtain ⟨outdated, file⟩ := turn.file?_self
          cases wrote with
          | false =>
              rw [text?_congr (kept.trans file)]
              simpa using outdated
          | true =>
              rw [text?, kept, file]
              exact congrArg some plain
  · cases stored

end

end ResourceScaffold
