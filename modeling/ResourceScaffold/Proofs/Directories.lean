import Mathlib.Data.List.Infix
import ResourceScaffold.Files.Tree

/-!
# Making directories

A path is walked iff its names are possible and lead through directories, and then to the place they say (`walk_eq_ok_iff`).
When no file stands in the way, a directory and those above it are made without a fault: directories are added where the
path leads through, and nothing else changes (`makeDirectories_makesWay`). The names of a path may go up as well as down, so
the places it leads through need not lie above each other.
-/

namespace ResourceScaffold

/-! ## Places -/

namespace Location

@[simp] theorem follow_nil (here : Location) : here.follow [] = here := rfl

/-- The first part of a path is followed before the others. -/
theorem follow_cons (here : Location) (part : String) (rest : List String) :
    here.follow (part :: rest) = Location.follow (if part = ".." then here.dropLast else here ++ [part]) rest := rfl

/-- A path is followed part by part. -/
theorem follow_append (here : Location) (front rest : List String) :
    here.follow (front ++ rest) = (here.follow front).follow rest :=
  List.foldl_append

/-- Names that do not go up lead down. -/
theorem follow_eq_append {here : Location} {names : List String} (down : ∀ name ∈ names, name ≠ "..") :
    here.follow names = here ++ names := by
  induction names generalizing here with
  | nil => simp
  | cons name rest ih =>
      rw [List.forall_mem_cons] at down
      rw [follow_cons, if_neg down.1, ih down.2, List.append_assoc, List.singleton_append]

end Location

namespace FileTree

variable {t t' : FileTree} {start here there : Location} {parts : List String} {name : String}

@[simp] theorem get?_root (t : FileTree) : t.get? [] = some .directory := rfl

/-- A directory is what stands at a place as one. -/
theorem isDirectory_iff : t.isDirectory here = true ↔ t.get? here = some .directory := by
  rw [isDirectory, beq_iff_eq]

/-- Without a limit no name is too long. -/
theorem isTooLong_of_unlimited (limit : t.nameLimit = none) (name : String) : t.isTooLong name = false := by
  rw [isTooLong, limit]
  rfl

/-! ## Well-formed trees -/

/-- A name of a file or directory: it does not lead up, and it is not too long. -/
structure Admits (t : FileTree) (name : String) : Prop where
  down : name ≠ ".."
  short : t.isTooLong name = false

/-- Whatever stands in the tree stands in a directory, under names that a file or directory can have. -/
structure WellFormed (t : FileTree) : Prop where
  parent : ∀ here, (t.get? here).isSome = true → t.get? here.dropLast = some .directory
  names : ∀ here, (t.get? here).isSome = true → ∀ name ∈ here, t.Admits name

/-- The tree in which nothing stands is well-formed. -/
theorem wellFormed_empty (limit : Option Nat) : WellFormed { nameLimit := limit } := by
  have root {here : Location} (found : (FileTree.get? { nameLimit := limit } here).isSome = true) : here = [] := by
    cases here with
    | nil => rfl
    | cons first rest => cases found
  constructor
  · intro here found
    rw [root found]
    rfl
  · intro here found
    rw [root found]
    exact fun name none => absurd none List.not_mem_nil

/-- Every place above one at which something stands is a directory. -/
theorem WellFormed.above (h : t.WellFormed) (exists' : (t.get? (here ++ there)).isSome = true) (below : there ≠ []) :
    t.get? here = some .directory := by
  induction there using List.reverseRecOn with
  | nil => exact absurd rfl below
  | append_singleton front last ih =>
      have parent := h.parent _ exists'
      rw [← List.append_assoc, List.dropLast_concat] at parent
      by_cases empty : front = []
      · rwa [empty, List.append_nil] at parent
      · exact ih (by rw [parent]; rfl) empty

/-- Nothing stands below a place at which nothing stands. -/
theorem WellFormed.absent_below (h : t.WellFormed) (absent : t.get? here = none) (there : Location) :
    t.get? (here ++ there) = none := by
  by_cases empty : there = []
  · rwa [empty, List.append_nil]
  · cases found : t.get? (here ++ there) with
    | none => rfl
    | some entry =>
        rw [h.above (by rw [found]; rfl) empty] at absent
        cases absent

/-- A new entry in a directory keeps a tree well-formed. -/
theorem WellFormed.set (h : t.WellFormed) (entry : FileEntry) (absent : t.get? here = none)
    (parent : t.get? here.dropLast = some .directory) (names : ∀ name ∈ here, t.Admits name) :
    (t.set here entry).WellFormed := by
  have nonroot : here ≠ [] := by
    rintro rfl
    cases absent
  have old {there : Location} (directory : t.get? there = some .directory) :
      (t.set here entry).get? there = some .directory := by
    rwa [get?_set_of_ne]
    rintro rfl
    rw [absent] at directory
    cases directory
  constructor
  · intro there found
    by_cases same : there = here
    · rw [same]
      exact old parent
    · rw [get?_set_of_ne t entry same] at found
      exact old (h.parent there found)
  · intro there found
    by_cases same : there = here
    · rw [same]
      exact fun name listed => ⟨(names name listed).down, (names name listed).short⟩
    · rw [get?_set_of_ne t entry same] at found
      exact fun name listed => ⟨(h.names there found name listed).down, (h.names there found name listed).short⟩

/-! ## New entries -/

/-- An entry at a place at which nothing stands is appended. -/
theorem setEntry_of_absent {entries : List (Location × FileEntry)} (absent : entries.lookup here = none)
    (entry : FileEntry) : setEntry here entry entries = entries ++ [(here, entry)] := by
  induction entries with
  | nil => rfl
  | cons first rest ih =>
      obtain ⟨place, old⟩ := first
      rw [List.lookup_cons] at absent
      have other : place ≠ here := by
        rintro rfl
        rw [beq_self_eq_true] at absent
        cases absent
      rw [beq_false_of_ne other.symm] at absent
      rw [setEntry, if_neg other, ih absent, List.cons_append]

/-- A new entry comes after the others. -/
theorem entries_set (absent : t.get? here = none) (entry : FileEntry) :
    (t.set here entry).entries = t.entries ++ [(here, entry)] := by
  unfold get? at absent
  split at absent
  · cases absent
  · exact setEntry_of_absent absent entry

/-- A new directory is no new file. -/
theorem contentsWithin_set_directory (absent : t.get? here = none) (directory : Location) :
    (t.set here .directory).contentsWithin directory = t.contentsWithin directory := by
  simp [contentsWithin, entries_set absent]

/-- A new file is the last one of its directory. -/
theorem contentsWithin_set_file (absent : t.get? here = none) (content : FileContent) {directory : Location}
    (inside : here.isWithin directory = true) :
    (t.set here (.file content)).contentsWithin directory = t.contentsWithin directory ++ [(here, content)] := by
  simp [contentsWithin, entries_set absent, inside]

/-- There are no files below a place at which nothing stands. -/
theorem WellFormed.contentsWithin_eq_nil (h : t.WellFormed) (absent : t.get? here = none) :
    t.contentsWithin here = [] := by
  have known {place : Location} {entry : FileEntry} (listed : (place, entry) ∈ t.entries) :
      (t.entries.lookup place).isSome = true :=
    List.lookup_isSome_iff.2 ⟨_, listed, beq_self_eq_true place⟩
  rw [contentsWithin, List.filterMap_eq_nil_iff]
  rintro ⟨place, entry⟩ listed
  cases entry with
  | directory => rfl
  | file content =>
      have outside : place.isWithin here ≠ true := by
        intro inside
        obtain ⟨there, rfl⟩ := List.isPrefixOf_iff_prefix.1 inside
        have below := h.absent_below absent there
        unfold get? at below
        split at below
        · cases below
        · have found := known listed
          rw [below] at found
          cases found
      simp only [if_neg outside]

/-! ## Walking -/

/-- No file stands where the names lead through. -/
def Passable (t : FileTree) (start : Location) (parts : List String) : Prop :=
  ∀ front, front <+: parts → ∀ content, t.get? (start.follow front) ≠ some (.file content)

/-- Where a path is open, so is what follows its first part. -/
theorem Passable.tail {part : String} {rest : List String} (h : t.Passable start (part :: rest)) :
    t.Passable (start.follow [part]) rest := by
  intro front before
  have shifted := h (part :: front) (List.cons_prefix_cons.2 ⟨rfl, before⟩)
  rwa [← List.singleton_append, Location.follow_append] at shifted

/-- Where a path is open, so is each of its beginnings. -/
theorem Passable.of_prefix {front : List String} (h : t.Passable start parts) (before : front <+: parts) :
    t.Passable start front :=
  fun first earlier => h first (earlier.trans before)

/-- A path is walked iff its names are not too long and lead through directories, and then to the place that they say. -/
theorem walk_eq_ok_iff : t.walk start parts = .ok there ↔
    there = start.follow parts ∧ (∀ name ∈ parts, t.isTooLong name = false) ∧
      ∀ front, front <+: parts → front ≠ parts → t.get? (start.follow front) = some .directory := by
  induction parts generalizing start with
  | nil =>
      constructor
      · intro walked
        cases walked
        exact ⟨rfl, by simp, fun front before other => absurd (List.prefix_nil.1 before) other⟩
      · rintro ⟨rfl, -, -⟩
        rfl
  | cons part rest ih =>
      constructor
      · intro walked
        unfold walk at walked
        split at walked
        · cases walked
        · cases walked
        · next directory =>
            split at walked
            · cases walked
            · next short =>
                obtain ⟨place, shorts, directories⟩ := ih.1 walked
                refine ⟨place, List.forall_mem_cons.2 ⟨by simpa using short, shorts⟩, fun front before other => ?_⟩
                rcases List.prefix_cons_iff.1 before with rfl | ⟨later, rfl, inRest⟩
                · exact directory
                · exact directories later inRest fun same => other (same ▸ rfl)
      · rintro ⟨rfl, shorts, directories⟩
        rw [List.forall_mem_cons] at shorts
        have directory : t.get? start = some .directory := directories [] List.nil_prefix (List.cons_ne_nil _ _).symm
        have walked : t.walk (start.follow [part]) rest = .ok ((start.follow [part]).follow rest) := by
          refine ih.2 ⟨rfl, shorts.2, fun front before other => ?_⟩
          have shifted := directories (part :: front) (List.cons_prefix_cons.2 ⟨rfl, before⟩) (by simpa using other)
          rwa [← List.singleton_append, Location.follow_append] at shifted
        rw [walk, directory]
        simp only [shorts.1, Bool.false_eq_true, if_false]
        exact walked

/-- When no file stands in the way, the only fault of a walk is that something is missing. -/
theorem walk_fails (passable : t.Passable start parts) (short : ∀ name ∈ parts, t.isTooLong name = false)
    {fault : FileFault} (failed : t.walk start parts = .error fault) : fault = .notFound := by
  induction parts generalizing start with
  | nil => cases failed
  | cons part rest ih =>
      rw [List.forall_mem_cons] at short
      unfold walk at failed
      split at failed
      · cases failed
        rfl
      · next content found => exact absurd found (passable [] (List.nil_prefix) content)
      · rw [if_neg (by simp [short.1])] at failed
        exact ih passable.tail short.2 failed

/-! ## Adding directories -/

/-- What stands stays, and what is added is directories at places with a property. -/
structure AddsDirectories (t : FileTree) (p : Location → Prop) (t' : FileTree) : Prop where
  limit : t'.nameLimit = t.nameLimit
  kept : ∀ here entry, t.get? here = some entry → t'.get? here = some entry
  added : ∀ here, t.get? here = none → t'.get? here = none ∨ t'.get? here = some .directory ∧ p here
  files : ∀ directory, t'.contentsWithin directory = t.contentsWithin directory

namespace AddsDirectories

variable {p q : Location → Prop} {t'' : FileTree}

/-- Nothing has to be added. -/
theorem refl (t : FileTree) (p : Location → Prop) : t.AddsDirectories p t :=
  ⟨rfl, fun _ _ found => found, fun _ absent => .inl absent, fun _ => rfl⟩

/-- What is added in two steps is added. -/
theorem trans (h : t.AddsDirectories p t') (h' : t'.AddsDirectories p t'') : t.AddsDirectories p t'' := by
  refine ⟨h'.limit.trans h.limit, fun here entry found => h'.kept _ _ (h.kept _ _ found), fun here absent => ?_,
    fun directory => (h'.files directory).trans (h.files directory)⟩
  rcases h.added here absent with still | ⟨made, holds⟩
  · exact h'.added here still
  · exact .inr ⟨h'.kept _ _ made, holds⟩

/-- What is added has every property that follows. -/
theorem mono (h : t.AddsDirectories p t') (weaker : ∀ here, p here → q here) : t.AddsDirectories q t' :=
  ⟨h.limit, h.kept, fun here absent => (h.added here absent).imp_right fun ⟨made, holds⟩ => ⟨made, weaker here holds⟩,
    h.files⟩

/-- A directory may be added where nothing stands. -/
theorem set (absent : t.get? here = none) (holds : p here) : t.AddsDirectories p (t.set here .directory) := by
  have nonroot : here ≠ [] := by
    rintro rfl
    cases absent
  refine ⟨rfl, fun there entry found => ?_, fun there missing => ?_, contentsWithin_set_directory absent⟩
  · rwa [get?_set_of_ne]
    rintro rfl
    rw [absent] at found
    cases found
  · by_cases same : there = here
    · subst same
      exact .inr ⟨get?_set_self t .directory nonroot, holds⟩
    · exact .inl (by rwa [get?_set_of_ne t _ same])

/-- An open path stays open, because only directories are added. -/
theorem passable (h : t.AddsDirectories p t') (open' : t.Passable start parts) : t'.Passable start parts := by
  intro front before content found
  cases old : t.get? (start.follow front) with
  | some entry =>
      rw [h.kept _ _ old] at found
      cases found
      exact open' front before content old
  | none =>
      rcases h.added _ old with still | ⟨made, -⟩
      · rw [still] at found
        cases found
      · rw [made] at found
        cases found

/-- Names that are too long stay so. -/
theorem isTooLong_eq (h : t.AddsDirectories p t') (name : String) : t'.isTooLong name = t.isTooLong name := by
  rw [isTooLong, isTooLong, h.limit]

end AddsDirectories

/-- All directories that a path leads through stand in the second tree, and nothing else is new. -/
structure MakesWay (t : FileTree) (start : Location) (parts : List String) (t' : FileTree) : Prop where
  wellFormed : t'.WellFormed
  adds : t.AddsDirectories (fun here => ∃ front, front <+: parts ∧ here = start.follow front) t'
  there : ∀ front, front <+: parts → t'.get? (start.follow front) = some .directory

/-- One attempt to make a directory to which no file bars the way: something above it is missing, or it is there, or it is
made. -/
theorem makeDirectory_cases (passable : t.Passable start parts) (short : ∀ name ∈ parts, t.isTooLong name = false) :
    t.makeDirectory start parts = .error .notFound ∧ t.walk start parts = .error .notFound ∨
    t.walk start parts = .ok (start.follow parts) ∧ (
      t.get? (start.follow parts) = some .directory ∧ t.makeDirectory start parts = .error .alreadyExists ∧
        t.unlessDirectory start parts .alreadyExists = none ∨
      t.get? (start.follow parts) = none ∧
        t.makeDirectory start parts = .ok (t.set (start.follow parts) .directory)) := by
  cases walked : t.walk start parts with
  | error fault =>
      cases walk_fails passable short walked
      exact .inl ⟨by rw [makeDirectory, walked], rfl⟩
  | ok there =>
      obtain ⟨rfl, -, -⟩ := walk_eq_ok_iff.1 walked
      refine .inr ⟨rfl, ?_⟩
      cases found : t.get? (start.follow parts) with
      | none => exact .inr ⟨rfl, by simp only [makeDirectory, walked, found]⟩
      | some entry =>
          cases entry with
          | file content => exact absurd found (passable parts (List.prefix_refl _) content)
          | directory =>
              refine .inl ⟨rfl, by simp only [makeDirectory, walked, found], ?_⟩
              simp [unlessDirectory, walked, isDirectory, found]

/-- Making way for a beginning of a path and then for the path makes way for the path. -/
theorem MakesWay.trans {front : List String} {t'' : FileTree} (h : t.MakesWay start front t')
    (h' : t'.MakesWay start parts t'') (before : front <+: parts) : t.MakesWay start parts t'' :=
  ⟨h'.wellFormed,
    .trans (h.adds.mono fun _ ⟨first, earlier, place⟩ => ⟨first, earlier.trans before, place⟩) h'.adds, h'.there⟩

/-- A path that is walked to a directory leads through directories. -/
theorem makesWay_refl (wf : t.WellFormed) (walked : t.walk start parts = .ok (start.follow parts))
    (directory : t.get? (start.follow parts) = some .directory) : t.MakesWay start parts t := by
  obtain ⟨-, -, directories⟩ := walk_eq_ok_iff.1 walked
  refine ⟨wf, .refl t _, fun front before => ?_⟩
  by_cases same : front = parts
  · rwa [same]
  · exact directories front before same

/-- A missing directory in one that is there can be made. -/
theorem makesWay_set (wf : t.WellFormed) {front : List String} {last : String}
    (walked : t.walk start (front ++ [last]) = .ok (start.follow (front ++ [last])))
    (absent : t.get? (start.follow (front ++ [last])) = none) :
    t.MakesWay start (front ++ [last]) (t.set (start.follow (front ++ [last])) .directory) := by
  obtain ⟨-, short, directories⟩ := walk_eq_ok_iff.1 walked
  have parent : t.get? (start.follow front) = some .directory :=
    directories front (List.prefix_append _ _) (by simp)
  have down : last ≠ ".." := by
    rintro rfl
    rw [Location.follow_append, Location.follow_cons, if_pos rfl, Location.follow_nil] at absent
    rw [wf.parent _ (by rw [parent]; rfl)] at absent
    cases absent
  have place : start.follow (front ++ [last]) = start.follow front ++ [last] := by
    rw [Location.follow_append, Location.follow_cons, if_neg down, Location.follow_nil]
  have adds : t.AddsDirectories (fun here => ∃ first, first <+: front ++ [last] ∧ here = start.follow first)
      (t.set (start.follow (front ++ [last])) .directory) :=
    .set absent ⟨_, List.prefix_refl _, rfl⟩
  refine ⟨?_, adds, fun first before => ?_⟩
  · refine wf.set .directory absent (by rw [place, List.dropLast_concat]; exact parent) fun name listed => ?_
    rw [place] at listed
    rcases List.mem_append.1 listed with above | own
    · exact wf.names _ (by rw [parent]; rfl) name above
    · rw [List.mem_singleton.1 own]
      exact ⟨down, short last (by simp)⟩
  · by_cases same : first = front ++ [last]
    · have nonroot : start.follow (front ++ [last]) ≠ [] := by rw [place]; simp
      rw [same, get?_set_self t _ nonroot]
    · exact adds.kept _ _ (directories first before same)

/-- A directory and those above it are made if no file stands in the way. -/
theorem makeDirectories_makesWay (wf : t.WellFormed) (base : t.get? start = some .directory)
    (passable : t.Passable start parts) (short : ∀ name ∈ parts, t.isTooLong name = false) :
    ∃ t', t.makeDirectories start parts.reverse = (t', none) ∧ t.MakesWay start parts t' := by
  induction parts using List.reverseRecOn with
  | nil =>
      refine ⟨t, rfl, wf, .refl t _, fun front before => ?_⟩
      rw [List.prefix_nil.1 before]
      exact base
  | append_singleton front last ih =>
      have parts : (last :: front.reverse).reverse = front ++ [last] := by simp
      rw [List.reverse_concat]
      unfold makeDirectories
      simp only [parts]
      rcases makeDirectory_cases passable short with ⟨failed, -⟩ | ⟨walked, ⟨there, failed, none⟩ | ⟨absent, made⟩⟩
      · -- first the directories above, then a second attempt, for which nothing is missing any more
        have before : front <+: front ++ [last] := List.prefix_append _ _
        obtain ⟨above, madeAbove, way⟩ := ih (passable.of_prefix before) fun name listed => short name (by simp [listed])
        have short' : ∀ name ∈ front ++ [last], above.isTooLong name = false := fun name listed => by
          rw [way.adds.isTooLong_eq, short name listed]
        have walked' : above.walk start (front ++ [last]) = .ok (start.follow (front ++ [last])) := by
          refine walk_eq_ok_iff.2 ⟨rfl, short', fun first earlier other => way.there first ?_⟩
          exact (List.prefix_concat_iff.1 earlier).resolve_left other
        rw [failed]
        simp only [madeAbove]
        rcases makeDirectory_cases (way.adds.passable passable) short' with
          ⟨-, stuck⟩ | ⟨-, ⟨there, failed', none⟩ | ⟨absent, made⟩⟩
        · rw [stuck] at walked'
          cases walked'
        · exact ⟨above, by rw [failed']; simp [none], way.trans (makesWay_refl way.wellFormed walked' there) before⟩
        · exact ⟨_, by rw [made], way.trans (makesWay_set way.wellFormed walked' absent) before⟩
      · exact ⟨t, by rw [failed]; simp [none], makesWay_refl wf walked there⟩
      · exact ⟨_, by rw [made], makesWay_set wf walked absent⟩

/-- A directory that is there already is left as it is. -/
theorem makeDirectories_of_there (short : ∀ name ∈ parts, t.isTooLong name = false)
    (there : ∀ front, front <+: parts → t.get? (start.follow front) = some .directory) :
    t.makeDirectories start parts.reverse = (t, none) := by
  have walked : t.walk start parts = .ok (start.follow parts) :=
    walk_eq_ok_iff.2 ⟨rfl, short, fun front before _ => there front before⟩
  have directory := there parts (List.prefix_refl _)
  cases reversed : parts.reverse with
  | nil => rfl
  | cons last front =>
      have parts : (last :: front).reverse = parts := by rw [← reversed, List.reverse_reverse]
      unfold makeDirectories
      simp only [parts, makeDirectory, walked, directory, unlessDirectory, isDirectory]
      rfl

end FileTree

end ResourceScaffold
