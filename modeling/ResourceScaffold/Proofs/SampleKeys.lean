import ResourceScaffold.Proofs.RelatedRoutes

/-!
# The names in sample payloads and records

A payload has a sample for each required field that clients may set, in order (`payload_samples`), and a record has a value
for each field that the server sets and for each required field other than relations (`record_names`). So the payload has
names of the class that creates an entity, and the record names of the class that is read, in order and with all that these
classes require (`Descriptor.FilledBy`). The tests add the value of the key field to the record, where it is not read back
(`sample_names`).
-/

namespace ResourceScaffold

open Code

/-- Entries under names of a class, in order, among them all that it requires. -/
structure Descriptor.FilledBy (d : Descriptor) (entries : Entries) : Prop where
  order : (entries.map Prod.fst).Sublist d.propertyNames
  required : d.CoveredBy (entries.map Prod.fst)

/-- The entry is the sample of a field under its name. -/
def IsSample (e : Entity) (ids : Entries) (f : Field) (entry : Value × Value) : Prop :=
  entry.1 = f.name ∧ Sample.value e f ids = .ok entry.2

/-- The field has a value in the record that is read back after a create. -/
def Field.isReadBack (f : Field) : Bool :=
  f.dataType.isServerManaged || (f.required && !f.isRelation)

section

variable {e : Entity} {ids payload record before after : Entries} {f : Field} {d : Descriptor}

/-! ## Payloads -/

/-- Filing a sample under a new text appends it. -/
theorem insertSample_appends (text : ∃ s, f.name = .text s) (absent : f.name ∉ before.map Prod.fst)
    (step : Sample.insertSample e ids before f = .ok after) : ∃ entry, IsSample e ids f entry ∧ after = before ++ [entry] := by
  obtain ⟨v, sampled, rest⟩ := bind_eq_ok.1 step
  obtain ⟨key, -, rest⟩ := bind_eq_ok.1 rest
  cases rest
  obtain ⟨s, name⟩ := text
  refine ⟨(f.name, v), ⟨rfl, sampled⟩, ?_⟩
  rw [name] at absent ⊢
  exact Table.insert_of_not_mem (.text _) absent v

/-- Samples of fields with different names are appended one after the other. -/
theorem insertSamples_append {fields : List Field} (texts : ∀ f ∈ fields, ∃ s, f.name = .text s)
    (distinct : (before.map Prod.fst ++ fields.map Field.name).Nodup)
    (run : fields.foldlM (Sample.insertSample e ids) before = .ok after) :
    ∃ samples, List.Forall₂ (IsSample e ids) fields samples ∧ after = before ++ samples := by
  induction fields generalizing before with
  | nil =>
      cases run
      exact ⟨[], .nil, (List.append_nil _).symm⟩
  | cons f fields ih =>
      rw [List.foldlM_cons] at run
      obtain ⟨next, step, rest⟩ := bind_eq_ok.1 run
      have absent : f.name ∉ before.map Prod.fst := fun listed =>
        (List.nodup_append.1 distinct).2.2 _ listed _ List.mem_cons_self rfl
      obtain ⟨entry, sample, rfl⟩ := insertSample_appends (texts f List.mem_cons_self) absent step
      have others : ((before ++ [entry]).map Prod.fst ++ fields.map Field.name).Nodup := by
        rw [List.map_append, List.map_singleton, sample.1, List.append_assoc]
        exact distinct
      obtain ⟨samples, each, rfl⟩ := ih (fun f listed => texts f (List.mem_cons_of_mem _ listed)) others rest
      exact ⟨entry :: samples, .cons sample each, by rw [List.append_assoc, List.singleton_append]⟩

/-- A payload has the samples of the required fields that clients may set, in order. -/
theorem payload_samples (made : entityDescriptor e ids = .ok d) (paid : Sample.payload e ids = .ok payload) :
    List.Forall₂ (IsSample e ids) (e.fields.filter fun f => f.isEditable && f.required) payload := by
  have texts : ∀ f ∈ e.fields.filter fun f => f.isEditable && f.required, ∃ s, f.name = .text s := fun f listed =>
    exists_text_of_field made (List.mem_filter.1 listed).1
  have distinct : (([] : Entries).map Prod.fst ++
      (e.fields.filter fun f => f.isEditable && f.required).map Field.name).Nodup :=
    (List.filter_sublist.map Field.name).nodup (fieldNames_nodup made)
  obtain ⟨samples, each, rfl⟩ := insertSamples_append texts distinct paid
  exact each

/-- The payload names the required fields that can be edited, in order. -/
theorem payload_names (made : entityDescriptor e ids = .ok d) (paid : Sample.payload e ids = .ok payload) :
    payload.map Prod.fst = (e.fields.filter fun f => f.isEditable && f.required).map Field.name :=
  (map_eq_map_of_forall₂ (payload_samples made paid) fun _ _ sample => sample.1.symm).symm

/-- A payload has a value under the name of a field iff the field is required and clients may set it. -/
theorem mem_payload_names_iff (made : entityDescriptor e ids = .ok d) (paid : Sample.payload e ids = .ok payload)
    (member : f ∈ e.fields) : f.name ∈ payload.map Prod.fst ↔ f.isEditable = true ∧ f.required = true := by
  rw [payload_names made paid, ← Bool.and_eq_true]
  constructor
  · intro listed
    obtain ⟨g, inFilter, same⟩ := List.mem_map.1 listed
    obtain ⟨member', test⟩ := List.mem_filter.1 inFilter
    rwa [List.inj_on_of_nodup_map (fieldNames_nodup made) member' member same] at test
  · intro test
    exact List.mem_map_of_mem (List.mem_filter.2 ⟨member, test⟩)

/-- A property of a class that is written is required only if its field is. -/
theorem writeProperty_required {allOptional : Bool} {p : Property} (step : writeProperty e ids allOptional f = .ok p)
    (required : p.optional = false) : f.required = true := by
  have flag : (allOptional || !f.required) = false := by
    cases writeProperty_gives step with
    | scalar | enumeration => exact required
    | filter _ filters => cases filters
    | relation => exact (Bool.or_eq_false_iff.1 required).1
  simpa using (Bool.or_eq_false_iff.1 flag).2

/-- A payload fills the class that creates an entity. -/
theorem payload_fills (made : entityDescriptor e ids = .ok d) (paid : Sample.payload e ids = .ok payload)
    {create : Descriptor} (written : createDescriptor e ids = .ok create) : create.FilledBy payload := by
  obtain ⟨properties, steps, rest⟩ := bind_eq_ok.1 written
  cases rest
  constructor
  · have names : properties.map Property.name = (e.fields.filter Field.isEditable).map Field.name :=
      (map_eq_map_of_forall₂ (mapM_eq_ok.1 steps) fun _ _ step => (writeProperty_gives step).ofField.name.symm).symm
    rw [payload_names made paid, Descriptor.propertyNames, names]
    apply List.Sublist.map
    exact List.monotone_filter_right e.fields fun f test => (Bool.and_eq_true_iff.1 test).1
  · intro p inClass required
    obtain ⟨f, listed, step⟩ := exists_mem_of_mapM_eq_ok steps inClass
    obtain ⟨member, editable⟩ := List.mem_filter.1 listed
    rw [(writeProperty_gives step).ofField.name, mem_payload_names_iff made paid member]
    exact ⟨editable, writeProperty_required step required⟩

/-! ## Records -/

/-- Reading a field back adds its name, or nothing. -/
theorem insertRead_names (text : ∃ s, f.name = .text s) (absent : f.name ∉ before.map Prod.fst)
    (paid : f.name ∈ payload.map Prod.fst ↔ f.isEditable = true ∧ f.required = true)
    (step : Sample.insertRead payload before f = .ok after) :
    after.map Prod.fst = before.map Prod.fst ++ if f.isReadBack then [f.name] else [] := by
  obtain ⟨s, name⟩ := text
  rw [name] at absent paid
  have appends (v : Value) : (Table.insert before f.name v).map Prod.fst = before.map Prod.fst ++ [f.name] := by
    rw [name, Table.insert_of_not_mem (.text _) absent, List.map_append, List.map_singleton]
  unfold Sample.insertRead at step
  unfold Field.isReadBack
  unfold Field.isEditable at paid
  cases managed : f.dataType.isServerManaged with
  | true =>
      rw [managed, if_pos rfl] at step
      obtain ⟨key, -, rest⟩ := bind_eq_ok.1 step
      cases rest
      exact appends _
  | false =>
      rw [managed, if_neg Bool.false_ne_true] at step
      obtain ⟨key, known, rest⟩ := bind_eq_ok.1 step
      rw [name, asKey_eq_ok, Value.key?_text] at known
      cases known
      rw [managed, Bool.not_false, eq_self, true_and] at paid
      rw [Bool.false_or]
      cases found : Table.find? payload (.text s) with
      | none =>
          rw [found] at rest
          cases rest
          rw [Table.find?_text_eq_none_iff, paid, Bool.not_eq_true] at found
          rw [found, Bool.false_and, if_neg Bool.false_ne_true, List.append_nil]
      | some v =>
          have listed : Value.text s ∈ payload.map Prod.fst := by
            by_contra absent
            rw [Table.find?_text_eq_none_iff.2 absent] at found
            cases found
          simp only [found] at rest
          rw [paid.1 listed, Bool.true_and]
          cases relates : f.isRelation with
          | true =>
              rw [relates, if_pos rfl] at rest
              cases rest
              exact (List.append_nil _).symm
          | false =>
              rw [relates, if_neg Bool.false_ne_true] at rest
              cases rest
              exact appends v

/-- Fields with different names that are read back add their names one after the other. -/
theorem insertReads_names {fields : List Field} (texts : ∀ f ∈ fields, ∃ s, f.name = .text s)
    (distinct : (before.map Prod.fst ++ fields.map Field.name).Nodup)
    (paid : ∀ f ∈ fields, f.name ∈ payload.map Prod.fst ↔ f.isEditable = true ∧ f.required = true)
    (run : fields.foldlM (Sample.insertRead payload) before = .ok after) :
    after.map Prod.fst = before.map Prod.fst ++ (fields.filter Field.isReadBack).map Field.name := by
  induction fields generalizing before with
  | nil =>
      cases run
      exact (List.append_nil _).symm
  | cons f fields ih =>
      rw [List.foldlM_cons] at run
      obtain ⟨next, step, rest⟩ := bind_eq_ok.1 run
      have absent : f.name ∉ before.map Prod.fst := fun listed =>
        (List.nodup_append.1 distinct).2.2 _ listed _ List.mem_cons_self rfl
      have names := insertRead_names (texts f List.mem_cons_self) absent (paid f List.mem_cons_self) step
      have others : (next.map Prod.fst ++ fields.map Field.name).Nodup := by
        refine List.Sublist.nodup ?_ distinct
        rw [names, List.append_assoc, List.map_cons]
        apply (List.Sublist.refl _).append
        cases f.isReadBack with
        | true => exact .refl _
        | false => exact List.sublist_cons_self _ _
      rw [ih (fun f listed => texts f (List.mem_cons_of_mem _ listed)) others
        (fun f listed => paid f (List.mem_cons_of_mem _ listed)) rest, names, List.append_assoc, List.filter_cons]
      cases f.isReadBack with
      | true => rfl
      | false => rfl

/-- A record has values of the fields that the server sets and of the required fields other than relations, in order. -/
theorem record_names (made : entityDescriptor e ids = .ok d) (recorded : Sample.record e ids = .ok record) :
    record.map Prod.fst = (e.fields.filter Field.isReadBack).map Field.name := by
  obtain ⟨payload, paid, run⟩ := bind_eq_ok.1 recorded
  have distinct : (([] : Entries).map Prod.fst ++ e.fields.map Field.name).Nodup := fieldNames_nodup made
  exact insertReads_names (fun f member => exists_text_of_field made member) distinct
    (fun f member => mem_payload_names_iff made paid member) run

/-- A record fills the class that is read. -/
theorem record_fills (made : entityDescriptor e ids = .ok d) (recorded : Sample.record e ids = .ok record) :
    d.FilledBy record := by
  constructor
  · rw [record_names made recorded, propertyNames_of_entityDescriptor made]
    exact List.filter_sublist.map Field.name
  · intro p inClass required
    obtain ⟨properties, steps, rest⟩ := bind_eq_ok.1 made
    rw [← Except.ok.inj rest] at inClass
    obtain ⟨f, member, step⟩ := exists_mem_of_mapM_eq_ok steps inClass
    obtain ⟨name, optional, -⟩ := readProperty_traits step
    rw [optional, Bool.or_eq_false_iff, Bool.not_eq_false'] at required
    rw [record_names made recorded, name]
    refine List.mem_map_of_mem (List.mem_filter.2 ⟨member, ?_⟩)
    rw [Field.isReadBack, required.1, required.2, Bool.not_false, Bool.and_self, Bool.or_true]

/-! ## Tests -/

/-- The record with a value under a name is the record itself, if it has the name, or else has one more entry. -/
theorem withKey_cases {s : String} (keyed : TestPlan.withKey e ids before (.text s) = .ok after) :
    (.text s ∈ before.map Prod.fst ∧ after = before) ∨
      (.text s ∉ before.map Prod.fst ∧ after.map Prod.fst = before.map Prod.fst ++ [.text s]) := by
  obtain ⟨key, known, rest⟩ := bind_eq_ok.1 keyed
  rw [asKey_eq_ok, Value.key?_text] at known
  cases known
  cases found : Table.find? before (.text s) with
  | some v =>
      simp only [found] at rest
      cases rest
      refine .inl ⟨?_, rfl⟩
      by_contra absent
      rw [Table.find?_text_eq_none_iff.2 absent] at found
      cases found
  | none =>
      simp only [found] at rest
      have absent := Table.find?_text_eq_none_iff.1 found
      split at rest
      · obtain ⟨v, -, rest⟩ := bind_eq_ok.1 rest
        cases rest
        refine .inr ⟨absent, ?_⟩
        rw [Table.insert_of_not_mem (.text _) absent, List.map_append, List.map_singleton]
      · cases rest

/-- The names of the record of the tests are those of the record that is read back and that of the key. -/
theorem TestPlan.names (made : entityDescriptor e ids = .ok d) {plan : TestPlan} (planned : ofEntity e ids = .ok plan)
    {unique : Descriptor} (identified : whereUniqueDescriptor e = .ok unique) :
    ∃ record, Sample.payload e ids = .ok plan.payload ∧ Sample.record e ids = .ok record ∧
      (plan.record.map Prod.fst).Nodup ∧
      ∀ name, name ∈ plan.record.map Prod.fst ↔
        name ∈ record.map Prod.fst ∨ ∃ p, unique.keyProperty? = some p ∧ name = p.name := by
  obtain ⟨payload, paid, rest⟩ := bind_eq_ok.1 planned
  obtain ⟨record, recorded, rest⟩ := bind_eq_ok.1 rest
  obtain ⟨unique', identified', rest⟩ := bind_eq_ok.1 rest
  rw [identified] at identified'
  cases identified'
  have distinct : (record.map Prod.fst).Nodup := (record_fills made recorded).order.nodup (propertyNames_nodup made)
  cases keyed : unique.keyProperty? with
  | none =>
      simp only [keyed] at rest
      cases rest
      exact ⟨record, paid, recorded, distinct, by simp⟩
  | some p =>
      simp only [keyed] at rest
      obtain ⟨record', withKey, rest⟩ := bind_eq_ok.1 rest
      obtain ⟨v, -, rest⟩ := bind_eq_ok.1 rest
      cases rest
      obtain ⟨f, member, -, same⟩ := exists_field_of_keyProperty? identified keyed
      obtain ⟨s, text⟩ := exists_text_of_field made member
      rw [same, text] at withKey
      rcases withKey_cases withKey with ⟨listed, rfl⟩ | ⟨absent, names⟩
      · refine ⟨record', paid, recorded, distinct, fun name => ?_⟩
        simp only [Option.some.injEq, exists_eq_left', same, text]
        exact ⟨.inl, fun either => either.elim id fun key => key ▸ listed⟩
      · refine ⟨record, paid, recorded, ?_, fun name => ?_⟩
        · rw [names, List.nodup_append_comm]
          exact List.nodup_cons.2 ⟨absent, distinct⟩
        · simp only [names, List.mem_append, List.mem_singleton, Option.some.injEq, exists_eq_left', same, text]

/-- Of an entity whose class that is read can be made, a payload fills the class that creates it, and the record that is read
back the class that is read. The record of its tests has names of that class too, each once, among them all that the class
requires and that of the key. -/
theorem sample_names (made : entityDescriptor e ids = .ok d) (paid : Sample.payload e ids = .ok payload) :
    ∃ create unique record plan, createDescriptor e ids = .ok create ∧ whereUniqueDescriptor e = .ok unique ∧
      Sample.record e ids = .ok record ∧ TestPlan.ofEntity e ids = .ok plan ∧
      create.FilledBy payload ∧ d.FilledBy record ∧
      plan.payload = payload ∧ (plan.record.map Prod.fst).Subperm d.propertyNames ∧
      d.CoveredBy (plan.record.map Prod.fst) ∧
      (∀ p, unique.keyProperty? = some p → p.name ∈ plan.record.map Prod.fst) ∧
      ∀ resource entityName service wiring, ∃ m, testModule resource entityName service wiring e ids = .ok m ∧
        .assign "CREATE_INPUT" (Value.mapping payload).layout ∈ m.body ∧
        .assign "RESULT" (Value.mapping plan.record).layout ∈ m.body := by
  obtain ⟨inputs, operations⟩ := inputDescriptors_returns made
  obtain ⟨written, -, -, identified⟩ := inputDescriptors_eq_ok.1 operations
  obtain ⟨m, tested⟩ := testModule_returns made ⟨payload, paid⟩ "" "" "" ""
  obtain ⟨plan, planned, -⟩ := testModule_eq_ok.1 tested
  obtain ⟨record, paid', recorded, distinct, names⟩ := TestPlan.names made planned identified
  rw [paid] at paid'
  obtain rfl := Except.ok.inj paid'
  have fills := record_fills made recorded
  refine ⟨inputs.createInput, inputs.whereUniqueInput, record, plan, written, identified, recorded, planned,
    payload_fills made paid written, fills, rfl, ?_, ?_, ?_, ?_⟩
  · apply List.subperm_of_subset distinct
    intro name listed
    rcases (names name).1 listed with readBack | ⟨p, keyed, rfl⟩
    · exact fills.order.subset readBack
    · obtain ⟨f, member, -, same⟩ := exists_field_of_keyProperty? identified keyed
      rw [same, propertyNames_of_entityDescriptor made]
      exact List.mem_map_of_mem member
  · intro p inClass required
    exact (names p.name).2 (.inl (fills.required p inClass required))
  · intro p keyed
    exact (names p.name).2 (.inr ⟨p, keyed, rfl⟩)
  · intro resource entityName service wiring
    refine ⟨_, testModule_eq_ok.2 ⟨plan, planned, rfl⟩, ?_, ?_⟩ <;> simp [TestPlan.moduleWith]

end

/-- Products may have a code, by which they are addressed. -/
def Entity.product : Entity :=
  { name := .text "Product"
    id := .null
    fields :=
      [{ name := .text "code", dataType := .singleLineText, required := false, unique := true, searchable := true
         properties := [] },
       { name := .text "title", dataType := .singleLineText, required := true, unique := false, searchable := true
         properties := [] },
       { name := .text "createdAt", dataType := .createdAt, required := true, unique := false, searchable := true
         properties := [] }] }

/-- The code of a product is in no payload, so the tests add it at the end of the record. -/
theorem Entity.product_names : ∃ d payload create unique record plan, entityDescriptor product [] = .ok d ∧
    Sample.payload product [] = .ok payload ∧ createDescriptor product [] = .ok create ∧
    whereUniqueDescriptor product = .ok unique ∧ Sample.record product [] = .ok record ∧
    TestPlan.ofEntity product [] = .ok plan ∧ create.FilledBy payload ∧ d.FilledBy record ∧
    plan.payload = payload ∧ (plan.record.map Prod.fst).Subperm d.propertyNames ∧
    d.CoveredBy (plan.record.map Prod.fst) ∧
    (∀ p, unique.keyProperty? = some p → p.name ∈ plan.record.map Prod.fst) ∧
    (∀ resource entityName service wiring, ∃ m, testModule resource entityName service wiring product [] = .ok m ∧
      .assign "CREATE_INPUT" (Value.mapping payload).layout ∈ m.body ∧
      .assign "RESULT" (Value.mapping plan.record).layout ∈ m.body) ∧
    payload.map Prod.fst = [.text "title"] ∧ record.map Prod.fst = [.text "title", .text "createdAt"] ∧
    plan.record.map Prod.fst = [.text "title", .text "createdAt", .text "code"] := by
  obtain ⟨d, made⟩ := isOk_iff.1 (show (entityDescriptor product []).isOk = true from rfl)
  obtain ⟨payload, paid⟩ := isOk_iff.1 (show (Sample.payload product []).isOk = true from rfl)
  obtain ⟨create, unique, record, plan, created, identified, recorded, planned, fills, reads, same, subperm, covered, keyed,
    tests⟩ := sample_names made paid
  have payloadNames : (Sample.payload product []).map (List.map Prod.fst) = .ok [.text "title"] := rfl
  have recordNames : (Sample.record product []).map (List.map Prod.fst) = .ok [.text "title", .text "createdAt"] := rfl
  have planNames : (TestPlan.ofEntity product []).map (fun plan => plan.record.map Prod.fst) =
      .ok [.text "title", .text "createdAt", .text "code"] := rfl
  rw [paid] at payloadNames
  rw [recorded] at recordNames
  rw [planned] at planNames
  exact ⟨d, payload, create, unique, record, plan, made, paid, created, identified, recorded, planned, fills, reads, same,
    subperm, covered, keyed, tests, Except.ok.inj payloadNames, Except.ok.inj recordNames, Except.ok.inj planNames⟩

end ResourceScaffold
