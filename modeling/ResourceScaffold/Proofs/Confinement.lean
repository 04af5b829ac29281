import ResourceScaffold.Proofs.Storing
import ResourceScaffold.Proofs.Turns

/-!
# Confinement to the output directory

A path is written as names between slashes. `Location.Leads` says to which place such names lead, with single dots and empty
names staying and double dots going up, and `Document.Escapes` says when a path leads out of a directory.

Storing is refused iff the path of some document leads out of the output directory. Then nothing has changed and the message
names the first such path; otherwise nothing but new directories stands anywhere else than below the output directory, whether
or not storing succeeds (`store_confined`).
-/

namespace ResourceScaffold

open FileTree

/-! ## Where the names of a path lead -/

namespace Location

variable {here there : Location} {names : List String} {name : String}

/-- Names lead from one place to another: an empty name or a single dot stays, a double dot goes up, with the root above
itself, and any other name goes down. -/
inductive Leads : Location → List String → Location → Prop
  | arrived (here : Location) : Leads here [] here
  | stay {here there : Location} {name : String} {names : List String} (idle : name = "" ∨ name = ".")
      (rest : Leads here names there) : Leads here (name :: names) there
  | up {here there : Location} {names : List String} (rest : Leads here.dropLast names there) : Leads here (".." :: names) there
  | down {here there : Location} {name : String} {names : List String} (proper : name ≠ "" ∧ name ≠ "." ∧ name ≠ "..")
      (rest : Leads (here ++ [name]) names there) : Leads here (name :: names) there

/-- Names lead where those of them that move lead. -/
theorem leads_iff : Leads here names there ↔ there = here.follow (names.filter fun name => name != "" && name != ".") := by
  constructor
  · intro leads
    induction leads with
    | arrived here => rfl
    | stay idle rest ih => rcases idle with rfl | rfl <;> simpa using ih
    | up rest ih => simpa [follow_cons] using ih
    | down proper rest ih => simpa [proper.1, proper.2.1, proper.2.2, follow_cons] using ih
  · rintro rfl
    induction names generalizing here with
    | nil => exact .arrived here
    | cons name rest ih =>
        by_cases idle : name = "" ∨ name = "."
        · have dropped : (name != "" && name != ".") = false := by rcases idle with rfl | rfl <;> rfl
          rw [List.filter_cons_of_neg (by simp [dropped])]
          exact .stay idle ih
        · rw [not_or] at idle
          rw [List.filter_cons_of_pos (by simp [idle]), follow_cons]
          by_cases up : name = ".."
          · rw [if_pos up, up]
            exact .up ih
          · rw [if_neg up]
            exact .down ⟨idle.1, idle.2, up⟩ ih

end Location

/-- A path is absolute iff its text begins with a slash. -/
theorem FilePath.isAbsolute_ofString (s : String) :
    (FilePath.ofString s).isAbsolute = true ↔ s.toList.head? = some '/' := by
  unfold FilePath.isAbsolute FilePath.ofString
  cases s.toList with
  | nil => simp
  | cons c rest =>
      by_cases slash : c = '/'
      · subst slash
        simp
        split <;> omega
      · simp [slash]

/-! ## Documents and their places -/

namespace Document

variable {d : Document} {directory : Location}

/-- The names between the slashes of the path of a document, as they are written. -/
def segments (d : Document) : List String :=
  (splitSlashes d.path.toList).map String.ofList

/-- The place of a document that is stored below a directory. -/
def place (directory : Location) (d : Document) : Location :=
  directory.resolve (FilePath.ofString d.path)

/-- The path of a document leads out of a directory: it begins at the root, or its names lead from the directory to a place
that is neither the directory nor below it. -/
inductive Escapes (directory : Location) (d : Document) : Prop
  | absolute (root : d.path.toList.head? = some '/')
  | outside {there : Location} (leads : directory.Leads d.segments there) (apart : ¬ directory <+: there)

/-- A relative path leads from the output directory along its segments. -/
theorem place_of_relative (relative : d.path.toList.head? ≠ some '/') :
    d.place directory = directory.follow (d.segments.filter fun name => name != "" && name != ".") := by
  unfold place Location.resolve
  rw [if_neg fun absolute => relative ((FilePath.isAbsolute_ofString d.path).1 absolute)]
  rfl

/-- A path leads out of a directory iff it is absolute or its place is neither the directory nor below it. -/
theorem escapes_iff : d.Escapes directory ↔ d.path.toList.head? = some '/' ∨ ¬ directory <+: d.place directory := by
  by_cases root : d.path.toList.head? = some '/'
  · exact ⟨fun _ => .inl root, fun _ => .absolute root⟩
  · constructor
    · intro escapes
      cases escapes with
      | absolute root' => exact absurd root' root
      | outside leads apart =>
          rw [Location.leads_iff.1 leads, ← place_of_relative root] at apart
          exact .inr apart
    · rintro (root' | apart)
      · exact absurd root' root
      · exact .outside (Location.leads_iff.2 rfl) (place_of_relative root ▸ apart)

instance (directory : Location) (d : Document) : Decidable (d.Escapes directory) :=
  decidable_of_iff _ escapes_iff.symm

/-- A path that does not lead out of a directory leads to it or below it. -/
theorem isPrefix_place (inside : ¬ d.Escapes directory) : directory <+: d.place directory := by
  by_contra apart
  exact inside (escapes_iff.2 (.inr apart))

/-- A document with a path that leads out of a directory has no place below it. -/
theorem target_of_escapes (noNull : '\x00' ∉ d.path.toList) (escapes : d.Escapes directory) (outText : String) :
    d.target directory outText = .error (.escapes d.path outText) := by
  have possible : d.path.toList.contains '\x00' = false := by rwa [List.contains_eq_mem, decide_eq_false_iff_not]
  have refused : ((FilePath.ofString d.path).isAbsolute || !(d.place directory).isWithin directory) = true := by
    rw [Bool.or_eq_true, FilePath.isAbsolute_ofString, Bool.not_eq_true', ← Bool.not_eq_true, Location.isWithin,
      List.isPrefixOf_iff_prefix]
    exact escapes_iff.1 escapes
  unfold target
  unfold place at refused
  simp only [possible, refused]
  rfl

/-- A document with any other path has its place. -/
theorem target_of_inside (noNull : '\x00' ∉ d.path.toList) (inside : ¬ d.Escapes directory) (outText : String) :
    d.target directory outText = .ok (d.place directory) := by
  have possible : d.path.toList.contains '\x00' = false := by rwa [List.contains_eq_mem, decide_eq_false_iff_not]
  have relative : (FilePath.ofString d.path).isAbsolute = false :=
    Bool.eq_false_iff.2 fun absolute => inside (.absolute ((FilePath.isAbsolute_ofString d.path).1 absolute))
  have within : (directory.resolve (FilePath.ofString d.path)).isWithin directory = true :=
    List.isPrefixOf_iff_prefix.2 (isPrefix_place inside)
  unfold target
  simp only [possible, relative, within]
  rfl

/-- A document has a place iff its path is possible and does not lead out of the directory. -/
theorem target_eq_ok_iff {outText : String} {here : Location} :
    d.target directory outText = .ok here ↔
      '\x00' ∉ d.path.toList ∧ ¬ d.Escapes directory ∧ here = d.place directory := by
  by_cases null : '\x00' ∈ d.path.toList
  · simp [target, null]
  · by_cases escapes : d.Escapes directory
    · simp [target_of_escapes null escapes, escapes]
    · simp [target_of_inside null escapes, null, escapes, eq_comm]

/-- What is stored of a document. -/
def entry (directory : Location) (d : Document) : Location × String :=
  (d.place directory, d.content)

end Document

/-! ## Storing documents -/

section

variable {t : FileTree} {base : Location} {out : FilePath} {documents : List Document}

/-- A path that leads out of the output directory is refused before anything is stored; only the first one is told. -/
theorem store_of_escapes {before after : List Document} {d : Document} (possible : '\x00' ∉ out.text.toList)
    (noNull : ∀ d' ∈ before ++ d :: after, '\x00' ∉ d'.path.toList)
    (inside : ∀ d' ∈ before, ¬ d'.Escapes (base.resolve out)) (escapes : d.Escapes (base.resolve out)) :
    store t base out (before ++ d :: after) = { tree := t, outcome := .error (.escapes d.path out.text) } := by
  have possible : out.text.toList.contains '\x00' = false := by rwa [List.contains_eq_mem, decide_eq_false_iff_not]
  rw [List.forall_mem_append, List.forall_mem_cons] at noNull
  have refused : (before ++ d :: after).mapM (fun d => (d.target (base.resolve out) out.text).map (·, d.content)) =
      .error (.escapes d.path out.text) := by
    refine mapM_eq_error (fun d' listed => ⟨d'.entry (base.resolve out), ?_⟩) ?_
    · rw [Document.target_of_inside (noNull.1 d' listed) (inside d' listed)]
      rfl
    · rw [Document.target_of_escapes noNull.2.1 escapes]
      rfl
  simp only [store, possible, refused]
  rfl

/-- Documents that all have their place are stored one after the other, once the output directory has been made. -/
theorem store_of_inside (noNull : ∀ d ∈ documents, '\x00' ∉ d.path.toList)
    (inside : ∀ d ∈ documents, ¬ d.Escapes (base.resolve out)) :
    store t base out documents =
      if out.text.toList.contains '\x00' then { tree := t, outcome := .error .badPath }
      else match t.makeDirectories (if out.isAbsolute then [] else base) out.parts.reverse with
        | (above, some fault) => { tree := above, outcome := .error fault }
        | (above, none) => storeTargets above [] (documents.map (Document.entry (base.resolve out))) := by
  have found : documents.mapM (fun d => (d.target (base.resolve out) out.text).map (·, d.content)) =
      .ok (documents.map (Document.entry (base.resolve out))) := by
    refine mapM_eq_ok_map fun d listed => ?_
    rw [Document.target_of_inside (noNull d listed) (inside d listed)]
    rfl
  exact store_of_targets found

/-- Storing documents that have their places leaves everything that is not below the output directory as it was, but for new
directories. -/
theorem store_keepsAt (start : t.get? base = some .directory) (noNull : ∀ d ∈ documents, '\x00' ∉ d.path.toList)
    (inside : ∀ d ∈ documents, ¬ d.Escapes (base.resolve out)) {here : Location}
    (elsewhere : ¬ (base.resolve out <+: here ∧ here ≠ base.resolve out)) :
    t.KeepsAt here (store t base out documents).tree := by
  rw [store_of_inside noNull inside]
  split
  · exact .refl t here
  · have adds := makeDirectories_adds t (if out.isAbsolute then [] else base) out.parts
    split
    · next above fault failed =>
        rw [failed] at adds
        exact adds.keepsAt here
    · next above made =>
        rw [made] at adds
        have root : t.get? (if out.isAbsolute then [] else base) = some .directory := by
          split
          · rfl
          · exact start
        have directory : above.get? (base.resolve out) = some .directory := directory_of_makeDirectories root made
        -- every turn keeps the output directory, so no turn writes a file in its place
        have step : ∀ target ∈ documents.map (Document.entry (base.resolve out)), ∀ reached next done,
            Turn reached target.1 target.2 next done →
            reached.get? (base.resolve out) = some .directory ∧ above.KeepsAt here reached →
            next.get? (base.resolve out) = some .directory ∧ above.KeepsAt here next := by
          intro target listed reached next done turn ⟨directory, keeps⟩
          obtain ⟨d, member, rfl⟩ := List.mem_map.1 listed
          have directory' := turn.keeps_directory directory
          refine ⟨directory', keeps.trans ?_⟩
          by_cases other : here = d.place (base.resolve out)
          · have within : base.resolve out <+: here := other ▸ Document.isPrefix_place (inside d member)
            have same : here = base.resolve out := by
              by_contra apart
              exact elsewhere ⟨within, apart⟩
            rw [same]
            exact .inl (directory'.trans directory.symm)
          · exact turn.keepsAt other
        have kept := storeTargets_keeps step ⟨directory, .refl above here⟩ []
        exact (adds.keepsAt here).trans kept.2

/-- Storing documents that have their places meets no fault with a message. -/
theorem message?_of_store (noNull : ∀ d ∈ documents, '\x00' ∉ d.path.toList)
    (inside : ∀ d ∈ documents, ¬ d.Escapes (base.resolve out)) {fault : FileFault}
    (failed : (store t base out documents).outcome = .error fault) : fault.message? = none := by
  rw [store_of_inside noNull inside] at failed
  split at failed
  · cases failed
    rfl
  · split at failed
    · next above met made =>
        cases failed
        exact message?_of_makeDirectories made
    · next above made =>
        exact message?_of_storeTargets failed

/-- If a path leads out of a directory, there is a first one that does. -/
theorem exists_first_escape {directory : Location} (h : ∃ d ∈ documents, d.Escapes directory) :
    ∃ before d after, documents = before ++ d :: after ∧ (∀ d' ∈ before, ¬ d'.Escapes directory) ∧ d.Escapes directory := by
  have some : (documents.find? fun d => decide (d.Escapes directory)).isSome = true := by
    simpa [List.find?_isSome] using h
  obtain ⟨d, found⟩ := Option.isSome_iff_exists.1 some
  obtain ⟨escapes, before, after, rfl, inside⟩ := List.find?_eq_some_iff_append.1 found
  exact ⟨before, d, after, rfl, fun d' listed => by simpa using inside d' listed, of_decide_eq_true escapes⟩

/-- Storing is refused iff the path of some document leads out of the output directory. Then nothing has changed, and the
message names the first such path. Otherwise, also when something else goes wrong, nothing but new directories has changed
anywhere else than below the output directory. -/
theorem store_confined (start : t.get? base = some .directory) (possible : '\x00' ∉ out.text.toList)
    (noNull : ∀ d ∈ documents, '\x00' ∉ d.path.toList) :
    ((∃ path directory, (store t base out documents).outcome = .error (.escapes path directory)) ↔
      ∃ d ∈ documents, d.Escapes (base.resolve out)) ∧
    (∀ before d after, documents = before ++ d :: after → (∀ d' ∈ before, ¬ d'.Escapes (base.resolve out)) →
      d.Escapes (base.resolve out) → ∃ fault, store t base out documents = { tree := t, outcome := .error fault } ∧
        fault.message? = some ("Module path " ++ Text.quoted d.path ++ " escapes output directory " ++ out.text)) ∧
    ((∀ d ∈ documents, ¬ d.Escapes (base.resolve out)) →
      ∀ here, ¬ (base.resolve out <+: here ∧ here ≠ base.resolve out) →
        t.KeepsAt here (store t base out documents).tree) := by
  refine ⟨⟨?_, ?_⟩, ?_, ?_⟩
  · rintro ⟨path, directory, refused⟩
    by_contra none
    have inside : ∀ d ∈ documents, ¬ d.Escapes (base.resolve out) := fun d listed escapes => none ⟨d, listed, escapes⟩
    have silent := message?_of_store noNull inside refused
    cases silent
  · intro some
    obtain ⟨before, d, after, rfl, inside, escapes⟩ := exists_first_escape some
    rw [store_of_escapes possible noNull inside escapes]
    exact ⟨_, _, rfl⟩
  · rintro before d after rfl inside escapes
    exact ⟨_, store_of_escapes possible noNull inside escapes, rfl⟩
  · intro inside here elsewhere
    exact store_keepsAt start noNull inside elsewhere

end

/-- A document whose path leads through the output directory and down again. -/
def Document.reentrant : Document :=
  { path := "post/../post/./service.py", content := "" }

/-- A document whose path leads out of the output directory. -/
def Document.outside : Document :=
  { path := "../outside.py", content := "" }

/-- A path that leads out of the output directory is refused after one that does not, and the directory is not made. -/
theorem outside_refused :
    FileTree.workshop.get? ["work"] = some .directory ∧ '\x00' ∉ (FilePath.ofString "out").text.toList ∧
    (∀ d ∈ [Document.reentrant, Document.outside], '\x00' ∉ d.path.toList) ∧
    ∃ fault, store .workshop ["work"] (.ofString "out") [Document.reentrant, Document.outside] =
        { tree := .workshop, outcome := .error fault } ∧
      fault.message? = some ("Module path " ++ Text.quoted "../outside.py" ++ " escapes output directory " ++
        (FilePath.ofString "out").text) := by
  have start : FileTree.workshop.get? ["work"] = some .directory := rfl
  have possible : '\x00' ∉ (FilePath.ofString "out").text.toList := by decide
  have noNull : ∀ d ∈ [Document.reentrant, Document.outside], '\x00' ∉ d.path.toList := by decide
  have inside : ¬ Document.reentrant.Escapes ["work", "out"] := by decide
  have escapes : Document.outside.Escapes ["work", "out"] := by decide
  have directory : Location.resolve ["work"] (.ofString "out") = ["work", "out"] := rfl
  obtain ⟨-, first, -⟩ := store_confined start possible noNull
  rw [directory] at first
  exact ⟨start, possible, noNull, first [Document.reentrant] Document.outside [] rfl (by simpa using inside) escapes⟩

end ResourceScaffold
