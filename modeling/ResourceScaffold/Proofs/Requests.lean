import Mathlib.Data.Nat.Init
import ResourceScaffold.Http.Endpoint
import ResourceScaffold.Proofs.Objects

/-!
# Requests for modules

A body is checked, a document is only read. A body with the documented members, each of its own type, is accepted as the schema
that a document with the same members means: checking agrees with reading for each member, so it does for fields, for entities
and for the whole body (`checkBody_agrees`). The answer to the request therefore has the modules of that schema, or the messages
about its defects, unless one of them is ill-formed: then the request is not answered (`respond_generates`).
-/

namespace ResourceScaffold.Http

/-! ## Documented members -/

/-- A member that may be left out has a property if it is there. -/
def Optionally (members : Entries) (name : String) (p : Value → Prop) : Prop :=
  ∀ v, members.get? name = some v → p v

/-- The members of a field as they are documented: a name, a known data type, and perhaps flags and properties. -/
structure FieldMembers (members : Entries) : Prop where
  name : ∃ v, members.get? "name" = some v ∧ v.IsText
  dataType : ∃ type : DataType, members.get? "dataType" = some (.text type.name)
  required : Optionally members "required" fun v => ∃ b, v = .bool b
  unique : Optionally members "unique" fun v => ∃ b, v = .bool b
  searchable : Optionally members "searchable" fun v => ∃ b, v = .bool b
  properties : Optionally members "properties" fun v => ∃ entries, v = .mapping entries

/-- The members of an entity as they are documented: a name, and perhaps an id and fields. -/
structure EntityMembers (members : Entries) : Prop where
  name : ∃ v, members.get? "name" = some v ∧ v.IsText
  id : Optionally members "id" fun v => v = .null ∨ v.IsText
  fields : Optionally members "fields" fun v =>
    ∃ items, v = .list items ∧ ∀ item ∈ items, ∃ members, item = .mapping members ∧ FieldMembers members

/-- The members of a body as they are documented: entities, and perhaps a lookup from ids to names, which is not under its
other name alone. -/
structure BodyMembers (members : Entries) : Prop where
  entities : ∃ items, members.get? "entities" = some (.list items) ∧
    ∀ item ∈ items, ∃ members, item = .mapping members ∧ EntityMembers members
  ids : Optionally members "entityIdToName" fun v =>
    ∃ entries, v = .mapping entries ∧ ∀ entry ∈ entries, entry.2.IsText
  documented : members.get? "entityIdToName" = none → members.get? "entity_id_to_name" = none

/-! ## Single members -/

section

variable {α : Type} {members : Entries} {name : String} {names : List String} {v : Value} {place : Place}

/-- The first name of a member counts. -/
theorem checkMember_of_get? (found : members.get? name = some v) (check : Place → Value → Checked α)
    (fallback : Option α) (place : Place) :
    checkMember check (name :: names) fallback place members = check (place ++ [.key name]) v := by
  simp only [checkMember, findMember, List.findSome?_cons, found]
  rfl

/-- The fallback stands for a member that is there under none of its names. -/
theorem checkMember_of_absent (absent : ∀ name ∈ names, members.get? name = none) (check : Place → Value → Checked α)
    (fallback : α) (place : Place) :
    checkMember check names (some fallback) place members = .valid fallback := by
  have none : findMember names members = none :=
    List.findSome?_eq_none_iff.2 fun name listed => by rw [absent name listed]; rfl
  simp only [checkMember, none]

/-- A text is accepted as it is. -/
theorem checkText_of_isText (text : v.IsText) (place : Place) : checkText place v = .valid v := by
  cases text <;> rfl

/-- A flag that is a boolean or absent is accepted as it is read. -/
theorem checkFlag_agrees (flag : Optionally members name fun v => ∃ b, v = .bool b) (default : Bool) (place : Place) :
    checkMember checkFlag [name] (some default) place members = .valid (Field.flag members name default) := by
  cases found : members.get? name with
  | none =>
      rw [checkMember_of_absent (by simpa using found), Field.flag, found]
      rfl
  | some v =>
      obtain ⟨b, rfl⟩ := flag v found
      rw [checkMember_of_get? found, Field.flag, found]
      rfl

/-- An id that is a text, null or absent is accepted as it is read. -/
theorem checkId_agrees (id : Optionally members "id" fun v => v = .null ∨ v.IsText) (place : Place) :
    checkMember checkId ["id"] (some .null) place members = .valid (members.getD "id") := by
  cases found : members.get? "id" with
  | none => rw [checkMember_of_absent (by simpa using found), Entries.getD_of_absent found]
  | some v =>
      rw [checkMember_of_get? found, Entries.getD_of_get? found]
      rcases id v found with rfl | text
      · rfl
      · cases text <;> rfl

/-- Properties that are an object or absent are accepted as they are read. -/
theorem checkMapping_agrees (json : (Value.mapping members).IsJson)
    (properties : Optionally members "properties" fun v => ∃ entries, v = .mapping entries) :
    ∃ entries, (∀ place, checkMember checkMapping ["properties"] (some []) place members = .valid entries) ∧
      (if (members.getD "properties").isTruthy then Entries.update [] (members.getD "properties") else .ok []) =
        .ok entries := by
  cases found : members.get? "properties" with
  | none =>
      refine ⟨[], fun place => checkMember_of_absent (by simpa using found) _ _ _, ?_⟩
      rw [Entries.getD_of_absent found]
      rfl
  | some v =>
      obtain ⟨entries, rfl⟩ := properties v found
      refine ⟨entries, fun place => checkMember_of_get? found _ _ _, ?_⟩
      -- reading files the entries once more, which changes nothing because their names differ
      rw [Entries.getD_of_get? found, (json.of_get? found).isObject.update_nil]
      cases entries <;> rfl

/-- A list is accepted as the list of what its items are accepted as. -/
theorem checkList_of_forall₂ {check : Place → Value → Checked α} {items : List Value} {as : List α}
    (h : List.Forall₂ (fun item a => ∀ place, check place item = .valid a) items as) (place : Place) :
    checkList check place (.list items) = .valid as := by
  have checks (n : Nat) : ((items.zipIdx n).map fun entry => check (place ++ [.position entry.2]) entry.1) =
      as.map .valid := by
    induction h generalizing n with
    | nil => rfl
    | cons accepted _ ih => simp only [List.zipIdx_cons, List.map_cons, ih, accepted]
  exact Checked.all_eq_valid.2 (checks 0)

/-- A lookup whose values are texts is accepted as it is. -/
theorem checkTexts_of_texts {entries : Entries} (texts : ∀ entry ∈ entries, entry.2.IsText) (place : Place) :
    checkTexts place (.mapping entries) = .valid entries := by
  refine Checked.all_eq_valid.2 (List.map_congr_left fun entry listed => ?_)
  obtain ⟨key, value⟩ := entry
  simp only [checkText_of_isText (texts _ listed), Checked.map]

end

/-! ## Fields, entities and the whole body -/

section

variable {members : Entries}

/-- A documented field is accepted as the field that is read. -/
theorem checkField_agrees (json : (Value.mapping members).IsJson) (typed : FieldMembers members) (entity : Value) :
    ∃ f, (∀ place, checkField place (.mapping members) = .valid f) ∧ Field.ofValue entity (.mapping members) = .ok f := by
  obtain ⟨name, hasName, text⟩ := typed.name
  obtain ⟨type, hasType⟩ := typed.dataType
  obtain ⟨entries, accepted, read⟩ := checkMapping_agrees json typed.properties
  have known : DataType.ofValue? (.text type.name) = some type := DataType.ofName?_name type
  refine ⟨{ name, dataType := type, required := Field.flag members "required" false
            unique := Field.flag members "unique" false, searchable := Field.flag members "searchable" true
            properties := entries }, fun place => ?_, ?_⟩
  · simp only [checkField, checkMember_of_get? hasName, checkMember_of_get? hasType, checkFlag_agrees typed.required,
      checkFlag_agrees typed.unique, checkFlag_agrees typed.searchable, accepted, checkText_of_isText text, checkDataType,
      known]
    rfl
  · simp only [Field.ofValue, Value.members, ok_bind, nameMember, hasName, Entries.getD_of_get? hasType, known]
    by_cases given : (members.getD "properties").isTruthy = true
    · rw [if_pos given] at read ⊢
      rw [read]
      rfl
    · rw [if_neg given] at read ⊢
      cases read
      rfl

/-- A documented entity is accepted as the entity that is read. -/
theorem checkEntity_agrees (json : (Value.mapping members).IsJson) (typed : EntityMembers members) :
    ∃ e, ((∀ place, checkEntity place (.mapping members) = .valid e) ∧ Entity.ofValue (.mapping members) = .ok e) ∧
      (e.id = .null ∨ e.id.IsText) := by
  obtain ⟨name, hasName, text⟩ := typed.name
  have fields : ∃ fields, (∀ place, checkMember (checkList checkField) ["fields"] (some []) place members = .valid fields) ∧
      (((members.get? "fields").getD (.list [])).elements >>= fun items => items.mapM (Field.ofValue name)) =
        .ok fields := by
    cases found : members.get? "fields" with
    | none => exact ⟨[], fun place => checkMember_of_absent (by simpa using found) _ _ _, rfl⟩
    | some v =>
        obtain ⟨items, rfl, typed⟩ := typed.fields v found
        have each : ∀ item ∈ items, ∃ f, (∀ place, checkField place item = .valid f) ∧
            Field.ofValue name item = .ok f := by
          intro item listed
          obtain ⟨members, rfl, typed⟩ := typed item listed
          exact checkField_agrees ((json.of_get? found).of_mem listed) typed name
        obtain ⟨fields, all⟩ := exists_forall₂ each
        refine ⟨fields, fun place => ?_, mapM_eq_ok.2 (all.imp fun _ _ both => both.2)⟩
        rw [checkMember_of_get? found]
        exact checkList_of_forall₂ (all.imp fun _ _ both => both.1) _
  obtain ⟨fields, accepted, read⟩ := fields
  refine ⟨{ name, fields, id := members.getD "id" }, ⟨fun place => ?_, ?_⟩, ?_⟩
  · simp only [checkEntity, checkMember_of_get? hasName, checkId_agrees typed.id, accepted, checkText_of_isText text]
    rfl
  · obtain ⟨items, elements, mapped⟩ := bind_eq_ok.1 read
    simp only [Entity.ofValue, Value.members, ok_bind, nameMember, hasName, Option.getD_some, elements, mapped]
    rfl
  · cases found : members.get? "id" with
    | none => exact .inl (Entries.getD_of_absent found)
    | some v => exact Entries.getD_of_get? found ▸ typed.id v found

/-- The ids that entities declare, if all of them are texts or null, are filed in order. -/
theorem declaredIds_eq {entities : List Entity} (ids : ∀ e ∈ entities, e.id = .null ∨ e.id.IsText) :
    Schema.declaredIds entities = .ok (entities.foldl (fun (ids : Entries) e =>
      match e.id with
      | .null => ids
      | id => Table.insert ids id e.name) []) := by
  unfold Schema.declaredIds
  generalize ([] : Entries) = done
  induction entities generalizing done with
  | nil => rfl
  | cons e rest ih =>
      rw [List.forall_mem_cons] at ids
      obtain ⟨null | text, others⟩ := ids
      · rw [List.filter_cons_of_neg (by simp [null]), ih others, List.foldl_cons]
        simp only [null]
      · obtain ⟨name, fields, id⟩ := e
        cases text <;> exact ih others _

/-- A documented body is accepted as the schema that is read. -/
theorem checkBody_agrees (json : (Value.mapping members).IsJson) (typed : BodyMembers members) (place : Place) :
    ∃ schema, checkBody place (.mapping members) = .valid schema ∧ Schema.ofDocument (.mapping members) = .ok schema := by
  obtain ⟨items, hasEntities, documented⟩ := typed.entities
  have each : ∀ item ∈ items, ∃ e, ((∀ place, checkEntity place item = .valid e) ∧ Entity.ofValue item = .ok e) ∧
      (e.id = .null ∨ e.id.IsText) := by
    intro item listed
    obtain ⟨members, rfl, typed⟩ := documented item listed
    exact checkEntity_agrees ((json.of_get? hasEntities).of_mem listed) typed
  obtain ⟨entities, all⟩ := exists_forall₂ each
  have accepted := checkList_of_forall₂ (all.imp fun _ _ both => both.1.1)
  have read : items.mapM Entity.ofValue = .ok entities := mapM_eq_ok.2 (all.imp fun _ _ both => both.1.2)
  have ids : ∀ e ∈ entities, e.id = .null ∨ e.id.IsText := by
    intro e listed
    obtain ⟨item, -, both⟩ := exists_left_of_forall₂ all listed
    exact both.2
  have declared := declaredIds_eq ids
  cases found : members.get? "entityIdToName" with
  | none =>
      refine ⟨schemaOf entities [], ?_, ?_⟩
      · have absent : ∀ name ∈ ["entityIdToName", "entity_id_to_name"], members.get? name = none := by
          simpa using ⟨found, typed.documented found⟩
        simp only [checkBody, checkMember_of_get? hasEntities, checkMember_of_absent absent, accepted]
        rfl
      · simp only [Schema.ofDocument, Value.members, ok_bind, hasEntities, Option.getD_some, Value.elements, read, declared,
          Entries.getD_of_absent found]
        rfl
  | some v =>
      obtain ⟨entries, rfl, texts⟩ := typed.ids v found
      refine ⟨schemaOf entities entries, ?_, ?_⟩
      · simp only [checkBody, checkMember_of_get? hasEntities, checkMember_of_get? found, accepted, checkTexts_of_texts texts]
        rfl
      · simp only [Schema.ofDocument, Value.members, ok_bind, hasEntities, Option.getD_some, Value.elements, read, declared,
          Entries.getD_of_get? found]
        cases entries <;> rfl

end

/-! ## Answers that can be sent -/

section

variable {p : Value → Bool}

@[simp] theorem consistsOf_text (s : String) : consistsOf p (.text s) = p (.text s) := rfl

@[simp] theorem consistsOf_int (i : Int) : consistsOf p (.int i) = p (.int i) := rfl

/-- Of a text that was read only the text itself is asked. -/
theorem consistsOf_ofWide (t : WideText) : consistsOf p (.ofWide t) = p (.ofWide t) := by
  unfold Value.ofWide
  split <;> rfl

/-- A list consists of what its items consist of. -/
theorem consistsOf_list (items : List Value) : consistsOf p (.list items) = items.all (consistsOf p) := by
  have each (items : List Value) : itemsConsistOf p items = items.all (consistsOf p) := by
    induction items with
    | nil => rfl
    | cons item rest ih => rw [itemsConsistOf, ih, List.all_cons]
  rw [consistsOf, each]

/-- The names of the members of an object are texts, so its members count. -/
theorem consistsOf_object (texts : ∀ s, p (.text s) = true) (members : List (String × Value)) :
    consistsOf p (object members) = members.all fun member => consistsOf p member.2 := by
  unfold object
  rw [consistsOf]
  induction members with
  | nil => rfl
  | cons member rest ih =>
      rw [List.map_cons, entriesConsistOf, ih, entryConsistsOf, consistsOf_text, texts, Bool.true_and, List.all_cons]

/-- The answer with generated modules is made of texts and a number. -/
theorem consistsOf_generated (texts : ∀ s, p (.text s) = true) (numbers : ∀ i, p (.int i) = true)
    (modules : List Code.SourceModule) : consistsOf p (Answer.generated modules).body = true := by
  have each (m : Code.SourceModule) : consistsOf p (moduleValue m) = true := by
    simp [moduleValue, consistsOf_object texts, consistsOf_list, texts]
  simp [Answer.body, consistsOf_object texts, consistsOf_list, numbers, each]

/-- The answer about defects is made of texts and the messages. -/
theorem consistsOf_rejected (texts : ∀ s, p (.text s) = true) (ds : List Defect) :
    consistsOf p (Answer.rejected ds).body = ds.all fun d => p (.ofWide d.message) := by
  simp [Answer.body, consistsOf_object texts, consistsOf_list, texts, consistsOf_ofWide, Function.comp_def]

/-- A text holds no number, so it is never refused for one. -/
@[simp] theorem isFinite_ofWide (t : WideText) : isFinite (.ofWide t) = true := by
  unfold Value.ofWide
  split <;> rfl

/-- A text can be encoded where none of its code points is a surrogate. -/
@[simp] theorem isWellFormed_ofWide (t : WideText) : isWellFormed (.ofWide t) = t.isWellFormed := by
  unfold Value.ofWide
  split
  · next illFormed => exact illFormed.symm
  · next wellFormed => exact (eq_true_of_ne_false wellFormed).symm

/-- Modules that are generated can be sent. -/
theorem send_generated (modules : List Code.SourceModule) :
    (Answer.generated modules).send = .ok (.generated modules) := by
  have made {p : Value → Bool} (texts : ∀ s, p (.text s) = true) (numbers : ∀ i, p (.int i) = true) :
      consistsOf p (Answer.generated modules).body = true := consistsOf_generated texts numbers modules
  rw [Answer.send, made (fun _ => rfl) fun _ => rfl, made (fun _ => rfl) fun _ => rfl]
  rfl

/-- Messages can be sent if all of them are well-formed. -/
theorem send_rejected {ds : List Defect} (wellFormed : ∀ d ∈ ds, d.message.isWellFormed = true) :
    (Answer.rejected ds).send = .ok (.rejected ds) := by
  have sent : (ds.all fun d => isWellFormed (.ofWide d.message)) = true := by simpa using wellFormed
  rw [Answer.send, consistsOf_rejected fun _ => rfl, consistsOf_rejected fun _ => rfl, sent]
  simp

/-- Messages cannot be sent if one of them is ill-formed. -/
theorem send_rejected_of_illFormed {ds : List Defect} {d : Defect} (member : d ∈ ds)
    (illFormed : d.message.isWellFormed = false) : (Answer.rejected ds).send = .error (.misuse .noEncoding) := by
  have unsent : (ds.all fun d => isWellFormed (.ofWide d.message)) = false := by
    rw [List.all_eq_false]
    exact ⟨d, member, by simp [illFormed]⟩
  rw [Answer.send, consistsOf_rejected fun _ => rfl, consistsOf_rejected fun _ => rfl, unsent]
  simp

end

/-! ## Answers -/

section

variable {members : Entries} {body : String}

/-- The request for the modules of the schema in a body. -/
def generateRequest (body : String) : Request :=
  { method := "POST", target := "/v1/resources/generate", body }

/-- The request is answered by generating from the schema in its body. -/
theorem respond_generateRequest (body : String) :
    respond (generateRequest body) =
      match readBody body with
      | .error answer => Run.ofExcept answer.send
      | .ok schema => generate schema := by
  have endpoint : (generateRequest body).endpoint? = some .generate := by
    simp only [Request.endpoint?, Request.path, generateRequest]
    decide +kernel
  have method : (generateRequest body).hasMethodOf .generate = true := by
    simp only [Request.hasMethodOf, generateRequest]
    decide +kernel
  simp only [respond, endpoint, method]
  rfl

/-- A body that holds a document is not empty. -/
theorem isEmpty_of_read {v : Value} (parsed : Json.read (dropByteOrderMark body.toList) = .ok v) : body.isEmpty = false := by
  rw [Bool.eq_false_iff, Ne, String.isEmpty_iff]
  rintro rfl
  cases parsed

/-- A documented body is read as the schema that a document with its members means. -/
theorem readBody_eq (parsed : Json.read (dropByteOrderMark body.toList) = .ok (.mapping members))
    (typed : BodyMembers members) :
    ∃ schema, readBody body = .ok schema ∧ Schema.ofDocument (.mapping members) = .ok schema := by
  obtain ⟨schema, accepted, read⟩ := checkBody_agrees (Json.isJson_of_read parsed) typed bodyPlace
  refine ⟨schema, ?_, read⟩
  simp only [readBody, isEmpty_of_read parsed, parsed, accepted]
  rfl

/-- The answer to the request with a documented body is decided by generating from the schema that a document with its members
means: modules that are generated are told in order, with their number; so are the messages about the defects of the schema, if
all of them are well-formed. The request is not answered if one of them is not. -/
theorem respond_generates (parsed : Json.read (dropByteOrderMark body.toList) = .ok (.mapping members))
    (typed : BodyMembers members) :
    ∃ schema, Schema.ofDocument (.mapping members) = .ok schema ∧
      (∀ modules, (schema.generate ResourceNaming.derive).outcome = .ok modules →
        ∃ answer, (respond (generateRequest body)).outcome = .ok answer ∧ answer.status = 200 ∧
          answer.body = object [("total", .int modules.length), ("modules", .list (modules.map fun m => object
            [("path", .text m.path), ("content", .text m.content), ("dependencies", .list (m.dependencies.map .text))]))]) ∧
      ∀ ds, (schema.generate ResourceNaming.derive).outcome = .error (.batch ds) →
        ((∀ d ∈ ds, d.message.isWellFormed = true) →
          ∃ answer, (respond (generateRequest body)).outcome = .ok answer ∧ answer.status = 422 ∧
            answer.body = object [("detail", .text "Resource generation failed"),
              ("errors", .list (ds.map fun d => .text d.message.shown))]) ∧
        ((∃ d ∈ ds, d.message.isWellFormed = false) →
          (respond (generateRequest body)).outcome = .error (.misuse .noEncoding)) := by
  obtain ⟨schema, read, meant⟩ := readBody_eq parsed typed
  have answered : respond (generateRequest body) = generate schema := by rw [respond_generateRequest, read]
  refine ⟨schema, meant, fun modules generated => ?_, fun ds failed => ⟨fun wellFormed => ?_, ?_⟩⟩
  · refine ⟨.generated modules, ?_, rfl, rfl⟩
    rw [answered]
    simp only [generate, generated, send_generated]
  · refine ⟨.rejected ds, ?_, rfl, ?_⟩
    · rw [answered]
      simp only [generate, failed, send_rejected wellFormed]
    · have texts : (ds.map fun d => Value.ofWide d.message) = ds.map fun d => .text d.message.shown :=
        List.map_congr_left fun d member => Value.ofWide_of_isWellFormed (wellFormed d member)
      rw [Answer.body, texts]
  · rintro ⟨d, member, illFormed⟩
    rw [answered]
    simp only [generate, failed, send_rejected_of_illFormed member illFormed]

end

/-- The members of a field with properties and without flags. -/
def statusMembers : Entries :=
  [(.text "name", .text "status"), (.text "dataType", .text "OptionSet"),
   (.text "properties", .mapping [(.text "options", .list [.text "draft"])])]

/-- The members of an entity with that field and without an id. -/
def taskMembers : Entries :=
  [(.text "name", .text "Task"), (.text "fields", .list [.mapping statusMembers])]

/-- The members of a body with that entity and without a lookup of ids. -/
def tasksMembers : Entries :=
  [(.text "entities", .list [.mapping taskMembers])]

/-- The text of that body. -/
def tasksText : String :=
  "\x7b\"entities\": [\x7b\"name\": \"Task\", \"fields\": [\x7b\"name\": \"status\", \"dataType\": \"OptionSet\", " ++
  "\"properties\": \x7b\"options\": [\"draft\"]\x7d\x7d]\x7d]\x7d"

/-- The members that carry the tasks are those of a documented body. -/
theorem tasksMembers_documented : BodyMembers tasksMembers := by
  have status : FieldMembers statusMembers := by
    refine ⟨⟨_, rfl, .text _⟩, ⟨.optionSet, rfl⟩, fun v found => ?_, fun v found => ?_, fun v found => ?_, fun v found => ?_⟩
    · cases found
    · cases found
    · cases found
    · cases found
      exact ⟨_, rfl⟩
  have task : EntityMembers taskMembers := by
    refine ⟨⟨_, rfl, .text _⟩, fun v found => ?_, fun v found => ?_⟩
    · cases found
    · cases found
      exact ⟨_, rfl, by simpa using status⟩
  refine ⟨⟨_, rfl, by simpa using task⟩, fun v found => ?_, fun _ => rfl⟩
  cases found

/-- The first surrogate alone is no well-formed text. -/
theorem isWellFormed_firstSurrogate : WideText.isWellFormed ⟨[.ofNat 0xd800]⟩ = false := rfl

/-- A surrogate as a text. -/
def loneSurrogate : IllFormedText :=
  { text := ⟨[.ofNat 0xd800]⟩, illFormed := isWellFormed_firstSurrogate }

/-- The members of a field whose name is a surrogate. -/
def surrogateMembers : Entries :=
  [(.text "name", .illFormed loneSurrogate), (.text "dataType", .text "SingleLineText")]

/-- The members of a body with an entity that has that field. -/
def postsMembers : Entries :=
  [(.text "entities", .list [.mapping [(.text "name", .text "Post"), (.text "fields", .list [.mapping surrogateMembers])]])]

/-- The text of that body. -/
def postsText : String :=
  "\x7b\"entities\": [\x7b\"name\": \"Post\", \"fields\": [\x7b\"name\": \"\\ud800\", " ++
  "\"dataType\": \"SingleLineText\"\x7d]\x7d]\x7d"

/-- The text is the document with these members. -/
theorem read_postsText : Json.read (dropByteOrderMark postsText.toList) = .ok (.mapping postsMembers) := by
  cbv

/-- The schema that the body is read as. -/
def postsSchema : Schema :=
  { entities := [{
      name := .text "Post"
      fields := [{ name := .illFormed loneSurrogate, dataType := .singleLineText, required := false, unique := false
                   searchable := true, properties := [] }]
      id := .null }]
    ids := [] }

/-- The only defect of that schema. -/
def surrogateDefect : Defect :=
  .field (.text "Post") (.illFormed loneSurrogate) .notIdentifier

/-- The members that carry the posts are those of a documented body. -/
theorem postsMembers_documented : BodyMembers postsMembers := by
  have surrogate : FieldMembers surrogateMembers := by
    refine ⟨⟨_, rfl, .illFormed _⟩, ⟨.singleLineText, rfl⟩, fun v found => ?_, fun v found => ?_, fun v found => ?_,
      fun v found => ?_⟩
    all_goals cases found
  refine ⟨⟨_, rfl, ?_⟩, fun v found => ?_, fun _ => rfl⟩
  · intro item listed
    obtain rfl := List.mem_singleton.1 listed
    refine ⟨_, rfl, ⟨_, rfl, .text _⟩, fun v found => ?_, fun v found => ?_⟩
    · cases found
    · cases found
      exact ⟨_, rfl, by simpa using surrogate⟩
  · cases found

/-- The request with the first of the two bodies is answered with the modules of the task and their number. The request with the
second one is not answered: the only message would have the surrogate. -/
theorem tasks_answered :
    (Json.read (dropByteOrderMark tasksText.toList) = .ok (.mapping tasksMembers) ∧ BodyMembers tasksMembers ∧
      ∃ schema modules answer, Schema.ofDocument (.mapping tasksMembers) = .ok schema ∧
        (schema.generate ResourceNaming.derive).outcome = .ok modules ∧ modules.length = 10 ∧
        (respond (generateRequest tasksText)).outcome = .ok answer ∧ answer.status = 200 ∧
        answer.body = object [("total", .int modules.length), ("modules", .list (modules.map fun m => object
          [("path", .text m.path), ("content", .text m.content), ("dependencies", .list (m.dependencies.map .text))]))]) ∧
    (Json.read (dropByteOrderMark postsText.toList) = .ok (.mapping postsMembers) ∧ BodyMembers postsMembers ∧
      Schema.ofDocument (.mapping postsMembers) = .ok postsSchema ∧
      (postsSchema.generate ResourceNaming.derive).outcome = .error (.batch [surrogateDefect]) ∧
      surrogateDefect.message.isWellFormed = false ∧
      (respond (generateRequest postsText)).outcome = .error (.misuse .noEncoding)) := by
  constructor
  · have parsed : Json.read (dropByteOrderMark tasksText.toList) = .ok (.mapping tasksMembers) := by cbv
    obtain ⟨schema, meant, answered, -⟩ := respond_generates parsed tasksMembers_documented
    have counted : (Schema.ofDocument (.mapping tasksMembers)).toOption.bind (fun schema =>
        (schema.generate ResourceNaming.derive).outcome.toOption.map List.length) = some 10 := by decide +kernel
    rw [meant] at counted
    obtain ⟨modules, returned, length⟩ := Option.map_eq_some_iff.1 counted
    have generated := eq_ok_of_toOption returned
    obtain ⟨answer, outcome, status, told⟩ := answered modules generated
    exact ⟨parsed, tasksMembers_documented, schema, modules, answer, meant, generated, length, outcome, status, told⟩
  · obtain ⟨schema, meant, -, rejected⟩ := respond_generates read_postsText postsMembers_documented
    have read : Schema.ofDocument (.mapping postsMembers) = .ok postsSchema := rfl
    have failed : (postsSchema.generate ResourceNaming.derive).outcome = .error (.batch [surrogateDefect]) := rfl
    have illFormed : surrogateDefect.message.isWellFormed = false := by decide +kernel
    obtain rfl := Except.ok.inj (read.symm.trans meant)
    exact ⟨read_postsText, postsMembers_documented, read, failed, illFormed,
      (rejected _ failed).2 ⟨_, List.mem_singleton_self _, illFormed⟩⟩

end ResourceScaffold.Http
