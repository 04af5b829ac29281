import ResourceScaffold.Proofs.Builders
import ResourceScaffold.Proofs.Literals
import ResourceScaffold.Proofs.References
import ResourceScaffold.Proofs.Spelling
import ResourceScaffold.Proofs.Tables

/-!
# Sample records

The payload and the record of the tests hold samples of fields under their names (`record_areSamples`), and so does the record
with the value of the key. As no two fields share a name, the value by which the tests address the record is the sample of
the scalar field that identifies it (`TestPlan.exists_key_field`).
-/

namespace ResourceScaffold

/-- Every value of the entries is the sample of a field and filed under its name. -/
def AreSamples (e : Entity) (ids entries : Entries) : Prop :=
  ∀ key v, Table.find? entries key = some v → ∃ f ∈ e.fields, f.name.key? = some key ∧ Sample.value e f ids = .ok v

variable {e : Entity} {ids entries : Entries} {f : Field}

/-- Where there is no entry, all of them are samples. -/
theorem areSamples_nil (e : Entity) (ids : Entries) : AreSamples e ids [] := by
  intro key v found
  cases found

/-- The sample of one more field keeps the entries samples. -/
theorem AreSamples.insert (h : AreSamples e ids entries) {name v : Value} (member : f ∈ e.fields) {key : Key}
    (named : name.key? = some key) (own : f.name.key? = some key) (sampled : Sample.value e f ids = .ok v) :
    AreSamples e ids (Table.insert entries name v) := by
  intro key' v' found
  by_cases same : key' = key
  · subst same
    rw [Table.find?_insert_self entries v named] at found
    cases found
    exact ⟨f, member, own, sampled⟩
  · rw [Table.find?_insert_of_ne entries v (by rw [named]; simpa using Ne.symm same)] at found
    exact h key' v' found

/-- The payload consists of samples of the entity's fields. -/
theorem payload_areSamples (h : Sample.payload e ids = .ok entries) : AreSamples e ids entries := by
  refine foldlM_keeps (p := AreSamples e ids) (fun before f listed after holds step => ?_) (areSamples_nil e ids) h
  obtain ⟨v, sampled, rest⟩ := bind_eq_ok.1 step
  obtain ⟨key, named, rest⟩ := bind_eq_ok.1 rest
  cases rest
  exact holds.insert (List.mem_filter.1 listed).1 (asKey_eq_ok.1 named) (asKey_eq_ok.1 named) sampled

/-- What the server sets is a scalar. -/
theorem value_of_isServerManaged (h : f.dataType.isServerManaged = true) :
    Sample.value e f ids = .ok (Sample.ofDataType f.dataType) := by
  have scalar : ∃ t, f.kind = .scalar t := by
    unfold Field.kind
    cases type : f.dataType with
    | id | createdAt | updatedAt => exact ⟨_, rfl⟩
    | _ =>
        rw [type] at h
        cases h
  obtain ⟨t, kind⟩ := scalar
  rw [Sample.value, kind]

/-- The record consists of samples of the entity's fields. -/
theorem record_areSamples (h : Sample.record e ids = .ok entries) : AreSamples e ids entries := by
  obtain ⟨created, paid, run⟩ := bind_eq_ok.1 h
  have payload := payload_areSamples paid
  refine foldlM_keeps (p := AreSamples e ids) (fun before f listed after holds step => ?_) (areSamples_nil e ids) run
  unfold Sample.insertRead at step
  split at step
  · next managed =>
      obtain ⟨key, named, rest⟩ := bind_eq_ok.1 step
      cases rest
      exact holds.insert listed (asKey_eq_ok.1 named) (asKey_eq_ok.1 named) (value_of_isServerManaged managed)
  · obtain ⟨key, named, rest⟩ := bind_eq_ok.1 step
    have own := asKey_eq_ok.1 named
    split at rest
    · next v found =>
        split at rest
        · cases rest
          exact holds
        · cases rest
          obtain ⟨g, member, same, sampled⟩ := payload key v found
          exact holds.insert member own same sampled
    · cases rest
      exact holds

/-- Adding the key keeps the entries samples. -/
theorem withKey_areSamples {record : Entries} {name : Value} (h : AreSamples e ids record)
    (made : TestPlan.withKey e ids record name = .ok entries) : AreSamples e ids entries := by
  obtain ⟨key, named, rest⟩ := bind_eq_ok.1 made
  have own := asKey_eq_ok.1 named
  split at rest
  · cases rest
    exact h
  · split at rest
    · next f found =>
        obtain ⟨v, sampled, rest⟩ := bind_eq_ok.1 rest
        cases rest
        have same : f.name.key? = some key := by
          have agree := List.find?_some found
          rw [Value.sameKey, Bool.and_eq_true, beq_iff_eq] at agree
          rw [agree.2, own]
        exact h.insert (List.mem_of_find?_eq_some found) own same sampled
    · cases rest

/-- Fields of an entity with one name are one field. -/
theorem field_unique {f g : Field} (hf : f ∈ e.fields) (hg : g ∈ e.fields) (checked : checkFieldName e f = .ok ())
    (same : g.name.key? = f.name.key?) : g = f := by
  obtain ⟨s, text, -, once⟩ := checkFieldName_eq_ok checked
  have other : g.name = .text s := Value.eq_text_of_key? (by rw [same, text, Value.key?_text])
  have inFilter {g : Field} (member : g ∈ e.fields) (name : g.name = .text s) :
      g ∈ e.fields.filter fun g => g.name.isText s := List.mem_filter.2 ⟨member, by simp [name]⟩
  obtain ⟨i, hi, atG⟩ := List.getElem_of_mem (inFilter hg other)
  obtain ⟨j, hj, atF⟩ := List.getElem_of_mem (inFilter hf text)
  have indices : i = j := by omega
  subst indices
  rw [← atG, ← atF]

/-- The tests address the record by the sample of a scalar field. -/
theorem TestPlan.exists_key_field {read : Descriptor} (made : entityDescriptor e ids = .ok read) {plan : TestPlan}
    (planned : TestPlan.ofEntity e ids = .ok plan) {key : TestKey} (hk : plan.key = some key) :
    ∃ f ∈ e.fields, ∃ t, f.kind = .scalar t ∧ key.name = f.name ∧ key.value = Sample.ofDataType f.dataType := by
  obtain ⟨payload, -, rest⟩ := bind_eq_ok.1 planned
  obtain ⟨record, recorded, rest⟩ := bind_eq_ok.1 rest
  obtain ⟨unique, identified, rest⟩ := bind_eq_ok.1 rest
  split at rest
  · cases rest
    cases hk
  · next p keyed =>
      obtain ⟨record', withKey, rest⟩ := bind_eq_ok.1 rest
      obtain ⟨v, found, rest⟩ := bind_eq_ok.1 rest
      cases rest
      cases hk
      -- the property is that of a scalar field, and the value the sample of a field with the same name
      obtain ⟨properties, steps, rest⟩ := bind_eq_ok.1 identified
      cases rest
      obtain ⟨f, listed, step⟩ := exists_mem_of_mapM_eq_ok steps (Descriptor.mem_of_keyProperty? keyed)
      have member := (List.mem_filter.1 listed).1
      obtain ⟨⟨t, kind, same⟩, -⟩ := whereUniqueProperty_ofField step
      obtain ⟨k, named, rest⟩ := bind_eq_ok.1 found
      have filed : Table.find? record' k = some v := by
        cases hfind : Table.find? record' k <;> rw [hfind] at rest <;> cases rest
        rfl
      obtain ⟨g, inFields, own, sampled⟩ := withKey_areSamples (record_areSamples recorded) withKey k v filed
      have name : p.name = f.name := by rw [same]; rfl
      have agree : g.name.key? = f.name.key? := by rw [own, ← name, asKey_eq_ok.1 named]
      rw [field_unique member inFields (checkFieldName_of_entityDescriptor made member) agree, Sample.value, kind] at sampled
      exact ⟨f, member, t, kind, name, (Except.ok.inj sampled).symm⟩

/-- The address of the sample record holds no control character. -/
theorem TestPlan.isVisible_segment {read : Descriptor} (made : entityDescriptor e ids = .ok read) {plan : TestPlan}
    (planned : TestPlan.ofEntity e ids = .ok plan) {key : TestKey} (hk : plan.key = some key) : IsVisible key.segment := by
  obtain ⟨f, -, t, -, -, value⟩ := exists_key_field made planned hk
  rw [TestKey.segment, value]
  cases f.dataType <;> decide

end ResourceScaffold
