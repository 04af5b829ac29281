import ResourceScaffold.Proofs.Confinement

/-!
# Updates of stored documents

A document is stored already if the file at its place reads as its content when the three newline conventions are read as one.
Storing documents at different places writes exactly those that are not stored already, in order, and leaves every other file
as it is, whether or not it holds a text; when storing fails at a document, the files are those that storing the documents
before it leaves (`store_updates`).
-/

namespace ResourceScaffold

open FileTree

section

variable {t after : FileTree} {base : Location} {out : FilePath} {documents : List Document}

/-- The beginning of storing, which makes the output directory, changes no file. It fails or not whatever the documents are; if
it does not, they are stored one after the other. -/
theorem store_begins (t : FileTree) (base : Location) (out : FilePath) :
    ∃ above, (∀ here, above.file? here = t.file? here) ∧
    ((∃ fault, ∀ documents : List Document, (∀ d ∈ documents, '\x00' ∉ d.path.toList) →
        (∀ d ∈ documents, ¬ d.Escapes (base.resolve out)) →
        store t base out documents = { tree := above, outcome := .error fault }) ∨
      ∀ documents : List Document, (∀ d ∈ documents, '\x00' ∉ d.path.toList) →
        (∀ d ∈ documents, ¬ d.Escapes (base.resolve out)) →
        store t base out documents = storeTargets above [] (documents.map (Document.entry (base.resolve out)))) := by
  by_cases null : out.text.toList.contains '\x00' = true
  · refine ⟨t, fun _ => rfl, .inl ⟨.badPath, fun documents noNull inside => ?_⟩⟩
    rw [store_of_inside noNull inside, if_pos null]
  · have adds := makeDirectories_adds t (if out.isAbsolute then [] else base) out.parts
    cases made : t.makeDirectories (if out.isAbsolute then [] else base) out.parts.reverse with
    | mk above failed =>
        rw [made] at adds
        refine ⟨above, fun here => (adds.keepsAt here).file?_eq, ?_⟩
        cases failed with
        | some fault =>
            refine .inl ⟨fault, fun documents noNull inside => ?_⟩
            rw [store_of_inside noNull inside, if_neg null, made]
        | none =>
            refine .inr fun documents noNull inside => ?_
            rw [store_of_inside noNull inside, if_neg null, made]

/-- Storing that returns has made the output directory and has stored the documents one after the other. -/
theorem store_eq_ok {written : List Location} (noNull : ∀ d ∈ documents, '\x00' ∉ d.path.toList)
    (inside : ∀ d ∈ documents, ¬ d.Escapes (base.resolve out))
    (stored : store t base out documents = { tree := after, outcome := .ok written }) :
    ∃ above, (∀ here, above.file? here = t.file? here) ∧
      storeTargets above [] (documents.map (Document.entry (base.resolve out))) =
        { tree := after, outcome := .ok written } := by
  obtain ⟨above, files, ⟨fault, failed⟩ | run⟩ := store_begins t base out
  · rw [failed documents noNull inside] at stored
    cases stored
  · exact ⟨above, files, (run documents noNull inside).symm.trans stored⟩

/-- Storing that returns has changed no file at any other place. -/
theorem store_file?_of_ne {written : List Location} (noNull : ∀ d ∈ documents, '\x00' ∉ d.path.toList)
    (inside : ∀ d ∈ documents, ¬ d.Escapes (base.resolve out))
    (stored : store t base out documents = { tree := after, outcome := .ok written }) {here : Location}
    (other : ∀ d ∈ documents, here ≠ d.place (base.resolve out)) : after.file? here = t.file? here := by
  obtain ⟨above, files, run⟩ := store_eq_ok noNull inside stored
  have apart : ∀ entry ∈ documents.map (Document.entry (base.resolve out)), here ≠ entry.1 := List.forall_mem_map.2 other
  have kept := storeTargets_file?_of_ne apart above []
  rw [run] at kept
  exact kept.trans (files here)

/-- What storing at different places has done when it returns: the outdated documents are written, in order, and the file at
every place of a document is known. -/
theorem store_files {written : List Location} (noNull : ∀ d ∈ documents, '\x00' ∉ d.path.toList)
    (inside : ∀ d ∈ documents, ¬ d.Escapes (base.resolve out))
    (distinct : (documents.map (Document.place (base.resolve out))).Nodup)
    (stored : store t base out documents = { tree := after, outcome := .ok written }) :
    written = (documents.filter fun d =>
        (t.text? (d.place (base.resolve out))).map Text.universalNewlines != some d.content).map
      (Document.place (base.resolve out)) ∧
    ∀ d ∈ documents, after.file? (d.place (base.resolve out)) =
      if (t.text? (d.place (base.resolve out))).map Text.universalNewlines = some d.content
      then t.file? (d.place (base.resolve out)) else some (.text d.content) := by
  obtain ⟨above, files, run⟩ := store_eq_ok noNull inside stored
  have places : (documents.map (Document.entry (base.resolve out))).map Prod.fst =
      documents.map (Document.place (base.resolve out)) := List.map_map
  obtain ⟨same, stored⟩ := storeTargets_eq_ok (places ▸ distinct) run
  -- a document reads as it should in the tree with the output directory iff it did before
  have texts (d : Document) : above.text? (d.entry (base.resolve out)).1 = t.text? (d.place (base.resolve out)) :=
    text?_congr (files _)
  refine ⟨?_, fun d listed => ?_⟩
  · rw [same, List.nil_append, List.filter_map, List.map_map]
    refine congrArg (List.map _) (List.filter_congr fun d _ => ?_)
    rw [Function.comp_apply, texts]
    rfl
  · have file := stored _ (List.mem_map_of_mem listed)
    rw [texts, files] at file
    exact file

/-- Storing that fails has done so before any document, or in the turn of one document. -/
theorem store_eq_error {fault : FileFault} (noNull : ∀ d ∈ documents, '\x00' ∉ d.path.toList)
    (inside : ∀ d ∈ documents, ¬ d.Escapes (base.resolve out))
    (stored : store t base out documents = { tree := after, outcome := .error fault }) :
    (store t base out [] = { tree := after, outcome := .error fault } ∧ ∀ here, after.file? here = t.file? here) ∨
      ∃ before d rest reached written, documents = before ++ d :: rest ∧
        store t base out before = { tree := reached, outcome := .ok written } ∧
        store t base out (before ++ [d]) = { tree := after, outcome := .error fault } ∧
        ∀ here, after.file? here = reached.file? here := by
  obtain ⟨above, files, ⟨met, failed⟩ | run⟩ := store_begins t base out
  · rw [failed documents noNull inside] at stored
    cases stored
    exact .inl ⟨failed [] (by simp) (by simp), files⟩
  · rw [run documents noNull inside] at stored
    obtain ⟨front, target, rest, reached, written, split, returned, failed, turn⟩ := storeTargets_eq_error stored
    obtain ⟨before, others, rfl, rfl, last⟩ := List.map_eq_append_iff.1 split
    obtain ⟨d, rest, rfl, rfl, rfl⟩ := List.map_eq_cons_iff.1 last
    have beforePrefix : before <+: before ++ d :: rest := List.prefix_append _ _
    have throughPrefix : before ++ [d] <+: before ++ d :: rest := by simp
    refine .inr ⟨before, d, rest, reached, written, rfl, ?_, ?_, turn.file?_of_error⟩
    · rw [run before (fun d' listed => noNull d' (beforePrefix.subset listed))
        fun d' listed => inside d' (beforePrefix.subset listed)]
      exact returned
    · rw [run (before ++ [d]) (fun d' listed => noNull d' (throughPrefix.subset listed))
        fun d' listed => inside d' (throughPrefix.subset listed), List.map_append]
      exact failed

/-- Storing documents at different places, when it returns, has written exactly those documents whose place held no file or a
file that reads otherwise, in order; they hold their contents, and every other file is unchanged, whatever it holds. When it
fails in the turn of a document, the files are as after storing the documents before it. -/
theorem store_updates (noNull : ∀ d ∈ documents, '\x00' ∉ d.path.toList)
    (inside : ∀ d ∈ documents, ¬ d.Escapes (base.resolve out))
    (distinct : (documents.map (Document.place (base.resolve out))).Nodup) :
    (∀ after written, store t base out documents = { tree := after, outcome := .ok written } →
      written = (documents.filter fun d =>
          (t.text? (d.place (base.resolve out))).map Text.universalNewlines != some d.content).map
        (Document.place (base.resolve out)) ∧
      (∀ d ∈ documents, d.place (base.resolve out) ∈ written →
        after.file? (d.place (base.resolve out)) = some (.text d.content)) ∧
      ∀ here, here ∉ written → after.file? here = t.file? here) ∧
    (∀ after fault, store t base out documents = { tree := after, outcome := .error fault } →
      (store t base out [] = { tree := after, outcome := .error fault } ∧ ∀ here, after.file? here = t.file? here) ∨
      ∃ before d rest reached written, documents = before ++ d :: rest ∧
        store t base out before = { tree := reached, outcome := .ok written } ∧
        store t base out (before ++ [d]) = { tree := after, outcome := .error fault } ∧
        ∀ here, after.file? here = reached.file? here) := by
  refine ⟨fun after written stored => ?_, fun after fault stored => store_eq_error noNull inside stored⟩
  obtain ⟨exact, files⟩ := store_files noNull inside distinct stored
  refine ⟨exact, fun d listed wrote => ?_, fun here unwritten => ?_⟩
  · rw [exact, List.mem_map] at wrote
    obtain ⟨d', member, place⟩ := wrote
    obtain ⟨listed', outdated⟩ := List.mem_filter.1 member
    obtain rfl : d' = d := List.inj_on_of_nodup_map distinct listed' listed place
    rw [files d' listed', if_neg (bne_iff_ne.1 outdated)]
  · by_cases target : ∃ d ∈ documents, here = d.place (base.resolve out)
    · obtain ⟨d, listed, rfl⟩ := target
      rw [files d listed, if_pos]
      by_contra outdated
      exact unwritten (exact ▸ List.mem_map_of_mem (List.mem_filter.2 ⟨listed, bne_iff_ne.2 outdated⟩))
    · exact store_file?_of_ne noNull inside stored fun d listed same => target ⟨d, listed, same⟩

end

/-- A working directory with notes whose lines end as another system ends them, and with a file that is no text. -/
def FileTree.desk : FileTree :=
  (FileTree.workshop.set ["work", "notes"] (.file "one\r\ntwo")).set ["work", "photo"] (.file (.ofBytes [0xff, 0xd8]))

/-- The notes as they are in the tree, but for the ends of the lines. -/
def Document.notes : Document :=
  { path := "notes", content := "one\ntwo" }

/-- Something to be done, in a directory of its own. -/
def Document.plan : Document :=
  { path := "lists/../plan", content := "three" }

/-- Of the notes and a plan only the plan is written; the notes keep the ends of their lines, and the photo its bytes. -/
theorem plan_written :
    (∀ d ∈ [Document.notes, Document.plan], '\x00' ∉ d.path.toList) ∧
    (∀ d ∈ [Document.notes, Document.plan], ¬ d.Escapes (Location.resolve [] (.ofString "work"))) ∧
    ([Document.notes, Document.plan].map (Document.place (Location.resolve [] (.ofString "work")))).Nodup ∧
    ∃ after, store .desk [] (.ofString "work") [Document.notes, Document.plan] =
        { tree := after, outcome := .ok [["work", "plan"]] } ∧
      after.file? ["work", "plan"] = some (.text "three") ∧ after.file? ["work", "notes"] = some (.text "one\r\ntwo") ∧
      after.file? ["work", "photo"] = some (.ofBytes [0xff, 0xd8]) := by
  have noNull : ∀ d ∈ [Document.notes, Document.plan], '\x00' ∉ d.path.toList := by decide
  have inside : ∀ d ∈ [Document.notes, Document.plan], ¬ d.Escapes (Location.resolve [] (.ofString "work")) := by decide
  have distinct : ([Document.notes, Document.plan].map (Document.place (Location.resolve [] (.ofString "work")))).Nodup := by
    decide
  have run : ∃ after, store .desk [] (.ofString "work") [Document.notes, Document.plan] =
      { tree := after, outcome := .ok [["work", "plan"]] } := ⟨_, rfl⟩
  obtain ⟨after, stored⟩ := run
  obtain ⟨returned, -⟩ := store_updates (t := .desk) noNull inside distinct
  obtain ⟨-, files, others⟩ := returned after _ stored
  exact ⟨noNull, inside, distinct, after, stored, files .plan (by decide) (by decide), others ["work", "notes"] (by decide),
    others ["work", "photo"] (by decide)⟩

end ResourceScaffold
