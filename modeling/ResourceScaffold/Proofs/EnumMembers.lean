import ResourceScaffold.Proofs.SampleTypes

/-!
# The members of enumerations

The class of an enumeration is built by a loop over the options that keeps the members it has made. Each round adds the
member of one option under a name that no member has (`EnumDescriptor.Enumerates.step`), so in the end the members are those
of the options, one for each and in order, and their names differ (`EnumDescriptor.Enumerates.run`).

The sample of the field reads the first option again. It finds the value of the first member, before that is written as a text
(`ofField_enumerates_sample`): the two agree on what an option offers (`Value.Offers`), for objects and for other options.
-/

namespace ResourceScaffold

/-! ## Options -/

/-- What an option offers: the value of its member, and the label that the name of the member is made from. -/
inductive Value.Offers (option : Value) : Value → Value → Prop where
  /-- Anything but an object is its own value and its own label. -/
  | plain (atomic : ∀ members, option.unmarked ≠ .mapping members) : Offers option option option
  | labelled {members : Entries} (object : option.unmarked = .mapping members)
      (label : (members.getD "label").isTruthy = true) : Offers option (members.getD "value") (members.getD "label")
  /-- In an object without a label the value stands for it. -/
  | unlabelled {members : Entries} (object : option.unmarked = .mapping members)
      (none : (members.getD "label").isTruthy = false) : Offers option (members.getD "value") (members.getD "value")

/-- What an option offers is what the loop reads of it. -/
theorem Value.Offers.ofValue_eq {option value label : Value} (h : option.Offers value label) :
    EnumOption.ofValue option = { value, label } := by
  unfold EnumOption.ofValue
  cases h with
  | labelled object label => simp [object, label]
  | unlabelled object none => simp [object, none]
  | plain atomic =>
      split
      · next members object => exact absurd object (atomic members)
      · rfl

/-- The value and the label an option is read as are among those it offers. -/
theorem EnumOption.offers_ofValue (v : Value) : v.Offers (EnumOption.ofValue v).value (EnumOption.ofValue v).label := by
  have offers {value label : Value} (h : v.Offers value label) :
      v.Offers (EnumOption.ofValue v).value (EnumOption.ofValue v).label := by
    rw [h.ofValue_eq]
    exact h
  by_cases object : ∃ members, v.unmarked = .mapping members
  · obtain ⟨members, object⟩ := object
    by_cases label : (Entries.getD members "label").isTruthy = true
    · exact offers (.labelled object label)
    · exact offers (.unlabelled object (eq_false_of_ne_true label))
  · apply offers
    apply Value.Offers.plain
    simpa using object

/-- An option has a value iff that is neither null nor the empty text. -/
theorem EnumOption.hasValue_iff {o : EnumOption} : o.hasValue = true ↔ o.value ≠ .null ∧ o.value ≠ .text "" := by
  unfold EnumOption.hasValue
  cases o.value <;> simp

/-! ## Members -/

/-- The member is that of the option: it has the text of the value, which is there, and the constant name of the label. -/
def EnumMember.IsOf (m : EnumMember) (option : Value) : Prop :=
  ∃ value label, option.Offers value label ∧ value ≠ .null ∧ value ≠ .text "" ∧
    m.name = Text.constantName label.display ∧ m.value = value.wide

/-- The members are those of the options, one for each and in order, and no two have one name. -/
structure Enumerates (members : List EnumMember) (options : List Value) : Prop where
  each : List.Forall₂ EnumMember.IsOf members options
  distinct : (members.map EnumMember.name).Nodup

section

variable {e : Entity} {f : Field} {ids : Entries} {d : EnumDescriptor} {before after : List EnumMember}
  {options done : List Value} {v : Value}

/-- A member made from an option with a value is a member of this option. -/
theorem EnumOption.member_isOf (valued : (EnumOption.ofValue v).hasValue = true) : (EnumOption.ofValue v).member.IsOf v := by
  obtain ⟨notNull, notEmpty⟩ := EnumOption.hasValue_iff.1 valued
  exact ⟨_, _, EnumOption.offers_ofValue v, notNull, notEmpty, rfl, rfl⟩

/-- One round adds the member of its option under a name that is new. -/
theorem Enumerates.step (h : Enumerates before done) (added : addMember e f before v = .ok after) :
    Enumerates after (done ++ [v]) := by
  obtain ⟨valued, free, rfl⟩ := addMember_eq_ok.1 added
  constructor
  · exact List.rel_append h.each (.cons (EnumOption.member_isOf valued) .nil)
  · rw [List.map_append, List.nodup_append]
    refine ⟨h.distinct, List.nodup_singleton _, ?_⟩
    intro name listed name' single same
    apply free
    rw [same, List.mem_singleton.1 single] at listed
    exact listed

/-- By induction on the options that are left, all rounds enumerate them after those that are done. -/
theorem Enumerates.run (h : Enumerates before done) (added : options.foldlM (addMember e f) before = .ok after) :
    Enumerates after (done ++ options) := by
  induction options generalizing before done with
  | nil =>
      cases added
      rwa [List.append_nil]
  | cons v options ih =>
      rw [List.foldlM_cons] at added
      obtain ⟨next, first, rest⟩ := bind_eq_ok.1 added
      have later := ih (h.step first) rest
      rwa [List.append_assoc, List.singleton_append] at later

/-- Of a list of options that an enumeration is built from, none is left out, and there is one. -/
theorem EnumDescriptor.enumerates (listed : (f.properties.getD "options").unmarked = .list options)
    (made : ofField e f = .ok d) : options ≠ [] ∧ Enumerates d.members options := by
  obtain ⟨values, items, steps⟩ := ofField_eq_ok.1 made
  obtain ⟨truthy, rfl⟩ := enumOptions_eq_ok.1 steps.known
  have parts := steps.parts
  rw [← Value.elements_unmarked, listed] at parts
  cases parts
  constructor
  · rintro rfl
    rw [← Value.isTruthy_unmarked, listed] at truthy
    cases truthy
  · have none : Enumerates [] [] := ⟨.nil, List.nodup_nil⟩
    exact none.run steps.added

/-! ## The sample -/

/-- The sample of an enumeration is what its first option offers, in a list if there can be many. -/
theorem Sample.value_of_offers {first value label : Value} {rest : List Value} (enumerates : f.isEnumeration = true)
    (listed : (f.properties.getD "options").unmarked = .list (first :: rest)) (offers : first.Offers value label) :
    Sample.value e f ids = .ok (if f.dataType = .multiSelectOptionSet then .list [value] else value) := by
  have known : enumOptions e f = .ok (f.properties.getD "options") := by
    refine enumOptions_eq_ok.2 ⟨?_, rfl⟩
    rw [← Value.isTruthy_unmarked, listed]
    rfl
  have taken : firstOption (f.properties.getD "options") = .ok first := by
    rw [firstOption, listed]
  have read : optionValue first = value := by
    rw [optionValue_eq, offers.ofValue_eq]
  unfold Sample.value Field.kind
  unfold Field.isEnumeration Field.kind at enumerates
  cases type : f.dataType with
  | optionSet | multiSelectOptionSet => simp [DataType.kind, known, taken, read]
  | _ =>
      rw [type] at enumerates
      cases enumerates

/-- Let an enumeration be built from a list of options. It has one member for each option, in order and under different
names; and the field has a sample, whose text is the value of the first member. So a sample that is a text is the value of a
member itself. -/
theorem ofField_enumerates_sample (ids : Entries) (enumerates : f.isEnumeration = true)
    (listed : (f.properties.getD "options").unmarked = .list options) (made : EnumDescriptor.ofField e f = .ok d) :
    Enumerates d.members options ∧
      ∃ v, Sample.value e f ids = .ok (if f.dataType = .multiSelectOptionSet then .list [v] else v) ∧
        d.members.head?.map EnumMember.value = some v.wide ∧
        ∀ s : WideText, v = .ofWide s → s ∈ d.members.map EnumMember.value := by
  obtain ⟨nonempty, all⟩ := EnumDescriptor.enumerates listed made
  refine ⟨all, ?_⟩
  obtain ⟨first, rest, rfl⟩ := List.exists_cons_of_ne_nil nonempty
  -- the first member was made from what the first option offers
  obtain ⟨member, members, isOf, -, same⟩ := List.forall₂_cons_right_iff.1 all.each
  obtain ⟨value, label, offers, -, -, -, written⟩ := isOf
  refine ⟨value, Sample.value_of_offers enumerates listed offers, ?_, ?_⟩
  · rw [same, List.head?_cons, Option.map_some, written]
  · rintro s rfl
    rw [same, List.map_cons, written, Value.wide_ofWide]
    exact List.mem_cons_self

end

/-- How severe something is: two options with names, and others that are their own names. -/
def Field.severity : Field :=
  { name := .text "severity"
    dataType := .multiSelectOptionSet
    required := true
    unique := false
    searchable := false
    properties :=
      [(.text "options",
        .list
          [.mapping [(.text "value", .int 1), (.text "label", .text "Very low")], .mapping [(.text "value", .text "low")],
           .int 3, .text "urgent"])] }

/-- An incident has a severity. -/
def Entity.incident : Entity :=
  { name := .text "Incident", id := .null, fields := [.severity] }

/-- The severities of an incident have their members and a sample. -/
theorem Field.severity_enumerated :
    ∃ options d, (severity.properties.getD "options").unmarked = .list options ∧
      EnumDescriptor.ofField Entity.incident severity = .ok d ∧ Enumerates d.members options ∧
      ∃ v, Sample.value Entity.incident severity [] = .ok (.list [v]) ∧
        d.members.head?.map EnumMember.value = some v.wide := by
  have returns : (EnumDescriptor.ofField Entity.incident severity).isOk = true := rfl
  obtain ⟨d, made⟩ := isOk_iff.1 returns
  obtain ⟨all, v, sample, first, -⟩ := ofField_enumerates_sample [] rfl rfl made
  exact ⟨_, d, rfl, made, all, v, sample, first⟩

end ResourceScaffold
