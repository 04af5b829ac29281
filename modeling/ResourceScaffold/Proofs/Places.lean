import ResourceScaffold.Files.Store
import ResourceScaffold.Proofs.Directories
import ResourceScaffold.Proofs.FileNames
import ResourceScaffold.Proofs.Literals

/-!
# The places of generated modules

A path of file names is read as these names (`FilePath.ofString_join`), so a module is stored at the place that they lead to
from the output directory (`Document.target_join`). The path of each generated module is one of file names
(`exists_modulePath`).
-/

namespace ResourceScaffold

open Code

/-! ## Paths of file names -/

/-- A text without a slash is one segment. -/
theorem splitSlashes_of_not_mem {s : List Char} (h : '/' ∉ s) : splitSlashes s = [s] := by
  induction s with
  | nil => rfl
  | cons c rest ih =>
      rw [List.mem_cons, not_or] at h
      simp only [splitSlashes, ih h.2, if_neg (Ne.symm h.1)]

/-- The first slash ends the first segment. -/
theorem splitSlashes_append_slash {s : List Char} (h : '/' ∉ s) (t : List Char) :
    splitSlashes (s ++ '/' :: t) = s :: splitSlashes t := by
  induction s with
  | nil =>
      have nonempty : splitSlashes t ≠ [] := by
        cases t with
        | nil => simp [splitSlashes]
        | cons c rest =>
            unfold splitSlashes
            split
            · split <;> simp
            · simp
      obtain ⟨part, parts, split⟩ := List.exists_cons_of_ne_nil nonempty
      simp only [List.nil_append, splitSlashes, split, if_pos]
  | cons c rest ih =>
      rw [List.mem_cons, not_or] at h
      simp only [List.cons_append, splitSlashes, ih h.2, if_neg (Ne.symm h.1)]

/-- Names joined by slashes are cut into the names again. -/
theorem splitSlashes_join {names : List String} (nonempty : names ≠ []) (h : ∀ name ∈ names, '/' ∉ name.toList) :
    (splitSlashes (String.intercalate "/" names).toList).map String.ofList = names := by
  induction names with
  | nil => exact absurd rfl nonempty
  | cons first rest ih =>
      rw [List.forall_mem_cons] at h
      cases rest with
      | nil => rw [String.intercalate_singleton, splitSlashes_of_not_mem h.1, List.map_singleton, String.ofList_toList]
      | cons second rest =>
          have chars : (String.intercalate "/" (first :: second :: rest)).toList =
              first.toList ++ '/' :: (String.intercalate "/" (second :: rest)).toList := by
            rw [String.intercalate_cons_cons, String.append_assoc, String.toList_append, String.toList_append]
            rfl
          rw [chars, splitSlashes_append_slash h.1, List.map_cons, String.ofList_toList, ih (List.cons_ne_nil _ _) h.2]

/-- A path of file names is relative and consists of them. -/
theorem FilePath.ofString_join {names : List String} (nonempty : names ≠ []) (h : ∀ name ∈ names, IsFileName name) :
    FilePath.ofString (String.intercalate "/" names) = { slashes := 0, parts := names } := by
  have parts := splitSlashes_join nonempty fun name listed => (h name listed).noSlash
  have leading : (String.intercalate "/" names).toList.takeWhile (· == '/') = [] := by
    cases names with
    | nil => exact absurd rfl nonempty
    | cons first rest =>
        have name := h first List.mem_cons_self
        obtain ⟨c, chars, same⟩ := List.exists_cons_of_ne_nil fun empty => name.nonempty (String.toList_eq_nil_iff.1 empty)
        have other : c ≠ '/' := by
          rintro rfl
          exact name.noSlash (by simp [same])
        have begins : ∃ rest', (String.intercalate "/" (first :: rest)).toList = c :: rest' := by
          cases rest with
          | nil => exact ⟨chars, by rw [String.intercalate_singleton, same]⟩
          | cons second rest =>
              rw [String.intercalate_cons_cons, String.toList_append, String.toList_append, same]
              exact ⟨_, rfl⟩
        obtain ⟨rest', chars'⟩ := begins
        rw [chars', List.takeWhile_cons_of_neg (by simpa using other)]
  have kept : names.filter (fun part => part != "" && part != ".") = names :=
    List.filter_eq_self.2 fun name listed => by simp [(h name listed).nonempty, (h name listed).notDot]
  simp only [FilePath.ofString, leading, parts, kept]
  rfl

/-- No file name leads up. -/
theorem IsFileName.down {names : List String} (h : ∀ name ∈ names, IsFileName name) : ∀ name ∈ names, name ≠ ".." :=
  fun name listed => (h name listed).notDots

/-- A document under a path of file names has its place below the output directory. -/
theorem Document.target_join {d : Document} {names : List String} (path : d.path = String.intercalate "/" names)
    (nonempty : names ≠ []) (h : ∀ name ∈ names, IsFileName name) (out : Location) (outText : String) :
    d.target out outText = .ok (out ++ names) := by
  have noNull : (String.intercalate "/" names).toList.contains '\x00' = false := by
    rw [List.contains_eq_mem, decide_eq_false_iff_not]
    intro null
    rcases mem_intercalate_texts null with between | ⟨name, listed, inName⟩
    · exact absurd between (by decide)
    · exact (h name listed).noNull inName
  have place : out.resolve { slashes := 0, parts := names } = out ++ names := Location.follow_eq_append (IsFileName.down h)
  have within : (out ++ names).isWithin out = true := List.isPrefixOf_iff_prefix.2 (List.prefix_append _ _)
  unfold Document.target
  simp only [path, noNull, FilePath.ofString_join nonempty h, place, within]
  rfl

/-! ## Paths of modules -/

/-- The path of each generated module is that of a module. -/
theorem exists_modulePath {schema : Schema} {modules : List SourceModule}
    (h : (schema.generate ResourceNaming.derive).outcome = .ok modules) {m : SourceModule} (member : m ∈ modules) :
    ∃ names, IsModulePath names ∧ m.path = String.intercalate "/" names := by
  obtain ⟨classes, byName, rs, generated, rfl⟩ := generate_eq_ok h
  obtain ⟨r, inResources, inModules⟩ := List.mem_flatMap.1 ((modules_perm _ rs).subset member)
  obtain ⟨e, listed, of⟩ := generated.owner inResources
  obtain ⟨names, -, modulePath, path⟩ := of.exists_modulePath (generated.prepared.named listed) inModules
  exact ⟨_, modulePath, path⟩

end ResourceScaffold
