import ResourceScaffold.Proofs.Messages
import ResourceScaffold.Proofs.Requests

/-!
# Answers to accepted bodies

A body is accepted when the names in it are texts and the properties of its fields are objects, whatever their members are; so
the schema that it is read as is plain (`plain_of_readBody`). The request with an accepted body is answered with the modules of
that schema or with the messages about its defects, unless generation comes to a use that a value does not support or to an
ill-formed message; then it is not answered at all (`respond_ends`).
-/

namespace ResourceScaffold.Http

/-! ## What is accepted -/

section

variable {α : Type} {check : Place → Value → Checked α} {place : Place} {members : Entries} {v : Value} {a : α}

/-- What is accepted for a member stands for a value under one of its names, or is the fallback. -/
theorem exists_of_checkMember {names : List String} {fallback : Option α}
    (h : checkMember check names fallback place members = .valid a) :
    (∃ name v, members.get? name = some v ∧ ∃ place, check place v = .valid a) ∨ fallback = some a := by
  unfold checkMember at h
  split at h
  · next name v found =>
      obtain ⟨name', -, known⟩ := List.exists_of_findSome?_eq_some found
      obtain ⟨v', filed, same⟩ := Option.map_eq_some_iff.1 known
      cases same
      exact .inl ⟨_, _, filed, _, h⟩
  · split at h
    · cases h
      exact .inr rfl
    · cases h

/-- Each element of an accepted list stands for an item. -/
theorem exists_of_checkList {as : List α} (h : checkList check place v = .valid as) (member : a ∈ as) :
    ∃ items, v = .list items ∧ ∃ item ∈ items, ∃ place, check place item = .valid a := by
  unfold checkList at h
  split at h
  · next items =>
      have results := Checked.all_eq_valid.1 h
      obtain ⟨⟨item, i⟩, listed, accepted⟩ := List.mem_map.1 (results ▸ List.mem_map_of_mem member)
      exact ⟨items, rfl, item, (List.mem_zipIdx listed).2.2 ▸ List.getElem_mem _, _, accepted⟩
  · cases h

end

section

variable {place : Place} {v : Value}

/-- What is accepted as a text is one. -/
theorem isText_of_checkText {a : Value} (h : checkText place v = .valid a) : a.IsText := by
  unfold checkText at h
  split at h
  · cases h
    exact .text _
  · cases h
    exact .illFormed _
  · cases h

/-- A member that is accepted as a text is one. -/
theorem isText_of_member {members : Entries} {names : List String} {a : Value}
    (h : checkMember checkText names none place members = .valid a) : a.IsText := by
  rcases exists_of_checkMember h with ⟨_, _, -, _, accepted⟩ | absent
  · exact isText_of_checkText accepted
  · cases absent

/-- Properties that are accepted are the members of a JSON object. -/
theorem isJson_of_checkMapping {entries : Entries} (json : v.IsJson) (h : checkMapping place v = .valid entries) :
    (Value.mapping entries).IsJson := by
  unfold checkMapping at h
  split at h
  · cases h
    exact json
  · cases h

/-- A field that is accepted is plain. -/
theorem plain_of_checkField {f : Field} (json : v.IsJson) (h : checkField place v = .valid f) : f.Plain := by
  unfold checkField at h
  split at h
  · next members =>
      obtain ⟨_, properties, toSearchable, mapped, rfl⟩ := Checked.both_eq_valid.1 h
      obtain ⟨_, searchable, toUnique, -, rfl⟩ := Checked.both_eq_valid.1 toSearchable
      obtain ⟨_, unique, toRequired, -, rfl⟩ := Checked.both_eq_valid.1 toUnique
      obtain ⟨_, required, toType, -, rfl⟩ := Checked.both_eq_valid.1 toRequired
      obtain ⟨_, dataType, toName, -, rfl⟩ := Checked.both_eq_valid.1 toType
      obtain ⟨_, name, same, named, rfl⟩ := Checked.both_eq_valid.1 toName
      cases same
      refine ⟨isText_of_member named, ?_⟩
      rcases exists_of_checkMember mapped with ⟨_, value, found, _, accepted⟩ | empty
      · exact isJson_of_checkMapping (json.of_get? found) accepted
      · cases empty
        exact .mapping .nil (by simp)
  · cases h

/-- An id that is accepted is a text or null. -/
theorem text_or_null_of_checkId {id : Value} (h : checkId place v = .valid id) : id = .null ∨ id.IsText := by
  unfold checkId at h
  split at h
  · cases h
    exact .inl rfl
  · exact .inr (isText_of_checkText h)

/-- An entity that is accepted is plain, and its id is a text or null. -/
theorem plain_of_checkEntity {e : Entity} (json : v.IsJson) (h : checkEntity place v = .valid e) :
    e.Plain ∧ (e.id = .null ∨ e.id.IsText) := by
  unfold checkEntity at h
  split at h
  · next members =>
      obtain ⟨_, fields, toId, listed, rfl⟩ := Checked.both_eq_valid.1 h
      obtain ⟨_, id, toName, identified, rfl⟩ := Checked.both_eq_valid.1 toId
      obtain ⟨_, name, same, named, rfl⟩ := Checked.both_eq_valid.1 toName
      cases same
      refine ⟨⟨isText_of_member named, fun f member => ?_⟩, ?_⟩
      · rcases exists_of_checkMember listed with ⟨_, value, found, _, accepted⟩ | empty
        · obtain ⟨items, rfl, item, listed, _, accepted⟩ := exists_of_checkList accepted member
          exact plain_of_checkField ((json.of_get? found).of_mem listed) accepted
        · cases empty
          cases member
      · rcases exists_of_checkMember identified with ⟨_, value, -, _, accepted⟩ | absent
        · exact text_or_null_of_checkId accepted
        · cases absent
          exact .inl rfl
  · cases h

/-- A lookup of ids that is accepted leads from texts to texts. -/
theorem areTexts_of_checkTexts {ids : Entries} (json : v.IsJson) (h : checkTexts place v = .valid ids) : ids.AreTexts := by
  unfold checkTexts at h
  split at h
  · next entries =>
      intro entry listed
      have results := Checked.all_eq_valid.1 h
      obtain ⟨⟨key, value⟩, member, accepted⟩ := List.mem_map.1 (results ▸ List.mem_map_of_mem listed)
      cases text : checkText (place ++ [.key key.wide]) value with
      | valid name =>
          simp only [text, Checked.map, Checked.valid.injEq] at accepted
          cases accepted
          exact ⟨json.isObject.texts key (List.mem_map_of_mem member), isText_of_checkText text⟩
      | invalid findings =>
          simp only [text, Checked.map] at accepted
          cases accepted
  · cases h

end

/-! ## The schema of a body -/

/-- The lookup of a schema leads from texts to texts, if the ids and names that are filed in it are texts. -/
theorem areTexts_schemaOf {entities : List Entity} {ids : Entries} (names : ∀ e ∈ entities, e.name.IsText)
    (declared : ∀ e ∈ entities, e.id = .null ∨ e.id.IsText) (texts : ids.AreTexts) :
    (schemaOf entities ids).ids.AreTexts := by
  unfold schemaOf
  refine List.foldlRecOn (motive := Entries.AreTexts) ids _ ?_ fun filed before entry listed => ?_
  · refine List.foldlRecOn (motive := Entries.AreTexts) entities _ (by simp [Entries.AreTexts]) fun filed before e listed => ?_
    split
    · exact before
    · next other =>
        have id : e.id.IsText := (declared e listed).resolve_left other
        exact before.insert id (names e listed)
  · exact before.insert (texts entry listed).1 (texts entry listed).2

/-- A body that is accepted is read as a plain schema. -/
theorem plain_of_checkBody {place : Place} {v : Value} {schema : Schema} (json : v.IsJson)
    (h : checkBody place v = .valid schema) : schema.Plain := by
  unfold checkBody at h
  split at h
  · next members =>
      obtain ⟨_, ids, toEntities, mapped, rfl⟩ := Checked.both_eq_valid.1 h
      obtain ⟨_, entities, same, listed, rfl⟩ := Checked.both_eq_valid.1 toEntities
      cases same
      have accepted : ∀ e ∈ entities, e.Plain ∧ (e.id = .null ∨ e.id.IsText) := by
        intro e member
        rcases exists_of_checkMember listed with ⟨_, value, found, _, accepted⟩ | absent
        · obtain ⟨items, rfl, item, listed, _, accepted⟩ := exists_of_checkList accepted member
          exact plain_of_checkEntity ((json.of_get? found).of_mem listed) accepted
        · cases absent
      refine ⟨fun e member => (accepted e member).1, ?_⟩
      refine areTexts_schemaOf (fun e member => (accepted e member).1.name) (fun e member => (accepted e member).2) ?_
      rcases exists_of_checkMember mapped with ⟨_, value, found, _, accepted⟩ | empty
      · exact areTexts_of_checkTexts (json.of_get? found) accepted
      · cases empty
        simp [Entries.AreTexts]
  · cases h

/-- A body that could be read is read as a plain schema. -/
theorem plain_of_readBody {body : String} {schema : Schema} (h : readBody body = .ok schema) : schema.Plain := by
  unfold readBody at h
  split at h
  · cases h
  · split at h
    · cases h
    · cases h
    · cases h
    · next parsed =>
        split at h
        · next accepted =>
            cases h
            exact plain_of_checkBody (Json.isJson_of_read parsed) accepted
        · cases h

/-! ## Answers -/

/-- Answering from a schema ends like its generation, if that is a misuse. -/
theorem outcome_generate_of_misuse {schema : Schema} {m : Misuse}
    (failed : (schema.generate ResourceNaming.derive).outcome = .error (.misuse m)) :
    (generate schema).outcome = .error (.misuse m) := by
  simp only [generate, failed]

/-- If it fails otherwise, the answer to send has the messages about its defects. -/
theorem outcome_generate_of_defects {schema : Schema} {fault : Fault}
    (failed : (schema.generate ResourceNaming.derive).outcome = .error fault) (sound : ∀ m, fault ≠ .misuse m) :
    (generate schema).outcome = (Answer.rejected (defectsOf (schema.generate ResourceNaming.derive).outcome)).send := by
  cases fault with
  | defect d => simp only [generate, failed, defectsOf]
  | batch ds => simp only [generate, failed, defectsOf]
  | misuse m => exact absurd rfl (sound m)

/-- The answer has modules or messages, if generation ends in no misuse and all messages are well-formed. -/
theorem generate_answers {schema : Schema} (sound : ¬ Misuses (schema.generate ResourceNaming.derive).outcome)
    (told : ∀ d ∈ defectsOf (schema.generate ResourceNaming.derive).outcome, d.message.isWellFormed = true) :
    ∃ answer, (generate schema).outcome = .ok answer ∧ (answer.status = 200 ∨ answer.status = 422) := by
  cases ended : (schema.generate ResourceNaming.derive).outcome with
  | ok modules => exact ⟨.generated modules, by simp only [generate, ended, send_generated], .inl rfl⟩
  | error fault =>
      have noMisuse : ∀ m, fault ≠ .misuse m := by
        rintro m rfl
        exact sound ⟨m, ended⟩
      exact ⟨.rejected _, (outcome_generate_of_defects ended noMisuse).trans (send_rejected told), .inr rfl⟩

/-- An ill-formed message keeps the answer from being sent. -/
theorem outcome_generate_of_illFormed {schema : Schema}
    (untold : ∃ d ∈ defectsOf (schema.generate ResourceNaming.derive).outcome, d.message.isWellFormed = false) :
    (generate schema).outcome = .error (.misuse .noEncoding) := by
  obtain ⟨d, found, illFormed⟩ := untold
  cases ended : (schema.generate ResourceNaming.derive).outcome with
  | ok modules =>
      rw [ended] at found
      cases found
  | error fault =>
      have noMisuse : ∀ m, fault ≠ .misuse m := by
        rintro m rfl
        rw [ended] at found
        cases found
      exact (outcome_generate_of_defects ended noMisuse).trans (send_rejected_of_illFormed found illFormed)

/-- The request with an accepted body is answered, with modules or with messages about the schema, iff generation comes neither to
a use that a value does not support nor to an ill-formed message. Such a use ends generation and with it the request; an
ill-formed message leaves generation, and has no encoding. -/
theorem respond_ends {body : String} {schema : Schema} (read : readBody body = .ok schema) :
    ((∃ answer, (respond (generateRequest body)).outcome = .ok answer ∧ (answer.status = 200 ∨ answer.status = 422)) ↔
        ¬ schema.Breaks ResourceNaming.derive ∧ ¬ schema.Untellable ResourceNaming.derive) ∧
      (schema.Breaks ResourceNaming.derive ↔ Misuses (schema.generate ResourceNaming.derive).outcome) ∧
      (∀ m, (schema.generate ResourceNaming.derive).outcome = .error (.misuse m) →
        (respond (generateRequest body)).outcome = .error (.misuse m)) ∧
      (¬ schema.Breaks ResourceNaming.derive → schema.Untellable ResourceNaming.derive →
        (respond (generateRequest body)).outcome = .error (.misuse .noEncoding)) := by
  have plain := plain_of_readBody read
  have misuses : Misuses (schema.generate ResourceNaming.derive).outcome ↔ schema.Breaks ResourceNaming.derive :=
    Schema.generate_misuses_iff plain
  have untold : (∃ d ∈ defectsOf (schema.generate ResourceNaming.derive).outcome, d.message.isWellFormed = false) ↔
      ¬ schema.Breaks ResourceNaming.derive ∧ schema.Untellable ResourceNaming.derive := Schema.generate_untold_iff plain
  have answered : respond (generateRequest body) = generate schema := by rw [respond_generateRequest, read]
  rw [answered]
  refine ⟨⟨?_, ?_⟩, misuses.symm, fun m => outcome_generate_of_misuse, fun sound untellable =>
    outcome_generate_of_illFormed (untold.2 ⟨sound, untellable⟩)⟩
  · rintro ⟨answer, returned, -⟩
    have sound : ¬ schema.Breaks ResourceNaming.derive := by
      rw [← misuses]
      rintro ⟨m, failed⟩
      cases returned.symm.trans (outcome_generate_of_misuse failed)
    refine ⟨sound, fun untellable => ?_⟩
    cases returned.symm.trans (outcome_generate_of_illFormed (untold.2 ⟨sound, untellable⟩))
  · rintro ⟨sound, tellable⟩
    refine generate_answers (misuses.not.2 sound) fun d found => ?_
    rw [← Bool.not_eq_false]
    exact fun illFormed => tellable (untold.1 ⟨d, found, illFormed⟩).2

/-- A body with a relation whose id is a list. -/
def listedIdText : String :=
  "\x7b\"entities\": [\x7b\"name\": \"Post\", \"fields\": [\x7b\"name\": \"author\", \"dataType\": \"Lookup\", " ++
  "\"properties\": \x7b\"relatedEntityId\": [\"user\"]\x7d\x7d]\x7d]\x7d"

/-- The relation. -/
def listedIdField : Field :=
  { name := .text "author", dataType := .lookup, required := false, unique := false, searchable := true
    properties := [(.text "relatedEntityId", .list [.text "user"])] }

/-- The schema that the body is read as. -/
def listedIdSchema : Schema :=
  { entities := [{ name := .text "Post", fields := [listedIdField], id := .null }], ids := [] }

/-- The class of the entity breaks. -/
theorem listedIdSchema_breaks : listedIdSchema.Breaks ResourceNaming.derive := by
  have target : listedIdField.HasCompoundTarget := .inl ⟨[.text "user"], rfl, by simp⟩
  have first : listedIdSchema.entities = [] ++ _ :: [] := rfl
  refine .reading first rfl (by simp [Registry.Free]) ?_
  exact ⟨[], listedIdField, [], rfl, by simp, rfl, rfl, target⟩

/-- The only message about an entity with a field whose name is a surrogate is ill-formed. -/
theorem postsSchema_untellable : postsSchema.Untellable ResourceNaming.derive := by
  have first : postsSchema.entities = [] ++ _ :: [] := rfl
  exact ⟨[], _, [], first, rfl, by simp [Registry.Free], [], _, [], rfl, by simp, loneSurrogate, rfl⟩

/-- The two bodies are accepted, and the requests with them are not answered. -/
theorem listedId_unanswered :
    (readBody listedIdText = .ok listedIdSchema ∧ Misuses (respond (generateRequest listedIdText)).outcome) ∧
    (readBody postsText = .ok postsSchema ∧
      (respond (generateRequest postsText)).outcome = .error (.misuse .noEncoding)) := by
  constructor
  · have parsed : Json.read (dropByteOrderMark listedIdText.toList) = .ok (.mapping [(.text "entities", .list
        [.mapping [(.text "name", .text "Post"), (.text "fields", .list [.mapping
          [(.text "name", .text "author"), (.text "dataType", .text "Lookup"),
           (.text "properties", .mapping [(.text "relatedEntityId", .list [.text "user"])])]])]])]) := by cbv
    have read : readBody listedIdText = .ok listedIdSchema := by
      simp only [readBody, isEmpty_of_read parsed, parsed]
      rfl
    obtain ⟨-, breaks_iff, ends, -⟩ := respond_ends read
    obtain ⟨m, failed⟩ := breaks_iff.1 listedIdSchema_breaks
    exact ⟨read, m, ends m failed⟩
  · have read : readBody postsText = .ok postsSchema := by
      simp only [readBody, isEmpty_of_read read_postsText, read_postsText]
      rfl
    obtain ⟨-, breaks_iff, -, untold⟩ := respond_ends read
    have sound : ¬ postsSchema.Breaks ResourceNaming.derive := by
      rw [breaks_iff]
      rintro ⟨m, failed⟩
      cases failed
    exact ⟨read, untold sound postsSchema_untellable⟩

end ResourceScaffold.Http
