import ResourceScaffold.Proofs.KeyFields

/-!
# What identifies an entity also filters it

The class that identifies an entity and the class that filters it are built side by side, each from its own choice of fields
and its own table of types. They fit together field by field:

* `Field.Matches f unique filtering` says that the two properties of the field `f` fit: what identifies is a required single
  value of a scalar type, and what filters refers to a filter of values of that type which offers equality;
* `exists_matching_filters`: the class that identifies can always be built, and once the class that filters is built too, the
  properties of the first are matched in order by properties of the second. No entity makes either builder look for a filter
  that is not there.
-/

namespace ResourceScaffold

/-! ## Two computations along one list -/

section

variable {α β γ : Type} {R : α → β → Prop} {S : α → γ → Prop} {T : β → γ → Prop} {xs : List α} {ys : List β} {zs : List γ}

/-- What is made from some elements of a list is related, in order, to part of what is made from all of them. -/
theorem sublistForall₂_of_filter {p : α → Bool} (some : List.Forall₂ R (xs.filter p) ys) (all : List.Forall₂ S xs zs)
    (related : ∀ x y z, x ∈ xs.filter p → R x y → S x z → T y z) : List.SublistForall₂ T ys zs := by
  induction all generalizing ys with
  | nil =>
      cases some
      exact .nil
  | @cons x z xs zs made _ ih =>
      by_cases kept : p x = true
      · rw [List.filter_cons_of_pos kept] at some related
        cases some with
        | cons first others =>
            refine .cons (related _ _ _ List.mem_cons_self first made) (ih others ?_)
            intro x' y' z' member
            exact related x' y' z' (List.mem_cons_of_mem _ member)
      · rw [List.filter_cons_of_neg kept] at some related
        exact .cons_right (ih some related)

end

variable {e : Entity} {f : Field} {ids : Entries} {d unique : Descriptor} {p q : Property}

/-! ## The two properties of a field -/

/-- What identifies by a field is compared by a filter of the same field: the first property is a required single value of a
scalar type without a reference, the second may be left out and refers to a filter of values of that type, known under its
name, which can compare with one value for equality. -/
structure Field.Matches (f : Field) (unique filtering : Property) : Prop where
  uniqueName : unique.name = f.name
  required : unique.optional = false
  single : unique.isList = false
  plain : unique.reference = none
  filteringName : filtering.name = f.name
  optional : filtering.optional = true
  compared : ∃ (t : ScalarType) (filter : Filter),
    f.kind = .scalar t ∧ unique.type = .text t.typeName ∧ t.typeName ∈ ["str", "int", "float", "datetime", "bool"] ∧
    filtering.type = .text filter.name ∧
    filtering.reference = some { name := .text filter.name, kind := .filter, entity := .null } ∧
    Filter.ofName? filter.name = some filter ∧ filter.valueType = t ∧
    ∃ o ∈ filter.operators, o.name = "equals" ∧ o.isList = false

/-- The type of values that a filter compares is no document. -/
theorem Filter.typeName_valueType (filter : Filter) :
    filter.valueType.typeName ∈ ["str", "int", "float", "datetime", "bool"] := by
  cases filter <;> decide

/-- Each filter compares with one value for equality. -/
theorem Filter.equals_mem_operators (filter : Filter) : equals ∈ filter.operators := by
  cases filter <;> exact List.mem_cons_self

/-- A field that identifies a record can be filtered. -/
theorem Field.isFilterable_of_mem_identifyingFields (h : f ∈ e.identifyingFields) : f.isFilterable = true := by
  have passes := (List.mem_filter.1 h).2
  exact (Bool.and_eq_true_iff.1 passes).1

/-- The identifying fields are those of the filterable fields that identify. -/
theorem Entity.identifyingFields_eq (e : Entity) :
    e.identifyingFields = (e.fields.filter Field.isFilterable).filter Field.isIdentifying := by
  rw [identifyingFields, List.filter_filter]
  exact List.filter_congr fun f _ => Bool.and_comm _ _

/-- The two properties of an identifying field match. -/
theorem Field.matches_of_made (filterable : f.isFilterable = true) (identify : whereUniqueProperty f = .ok p)
    (filtering : whereProperty e ids f = .ok q) : f.Matches p q := by
  obtain ⟨⟨t, kind, rfl⟩, -⟩ := whereUniqueProperty_ofField identify
  obtain ⟨filter, found⟩ := exists_filter_of_isFilterable kind filterable
  have compares : filter.valueType = t := ScalarType.valueType_of_filter? found
  -- a scalar is filtered by the filter of its type
  simp only [whereProperty, kind, found] at filtering
  cases filtering
  refine ⟨rfl, rfl, rfl, rfl, rfl, rfl, t, filter, kind, rfl, ?_, rfl, rfl, filter.ofName?_name, compares, ?_⟩
  · rw [← compares]
    exact filter.typeName_valueType
  · exact ⟨Filter.equals, filter.equals_mem_operators, rfl, rfl⟩

/-! ## Lookups in the tables of types -/

/-- The name of an enumeration is not looked up. -/
theorem enumName_ne_absentKey : enumName e f ≠ .error (.misuse .absentKey) := by
  intro fails
  unfold enumName at fails
  dsimp only at fails
  split_ifs at fails
  · cases fails
  · unfold defaultEnumName at fails
    split at fails <;> cases fails

/-- A relation to an entity that is not known is a defect of the schema. -/
theorem relatedName_ne_absentKey : relatedName e f ids ≠ .error (.misuse .absentKey) := by
  intro fails
  unfold relatedName at fails
  dsimp only at fails
  split_ifs at fails
  · cases fails
  · rcases bind_eq_error.1 fails with noKey | ⟨key, -, absent⟩
    · unfold Value.asKey at noKey
      split at noKey <;> cases noKey
    · split at absent <;> cases absent

/-- A filterable field has a filter wherever one is looked up. -/
theorem whereProperty_ne_absentKey (filterable : f.isFilterable = true) :
    whereProperty e ids f ≠ .error (.misuse .absentKey) := by
  intro fails
  unfold whereProperty at fails
  cases kind : f.kind with
  | scalar t =>
      obtain ⟨filter, found⟩ := exists_filter_of_isFilterable kind filterable
      simp only [kind, found] at fails
      cases fails
  | enumeration many =>
      simp only [kind] at fails
      rcases bind_eq_error.1 fails with unnamed | ⟨name, -, made⟩
      · exact enumName_ne_absentKey unnamed
      · cases made
  | relation =>
      simp only [kind] at fails
      rcases bind_eq_error.1 fails with unknown | ⟨target, -, made⟩
      · exact relatedName_ne_absentKey unknown
      · cases made

/-- The filter class looks nothing up, so it misses no key. -/
theorem whereDescriptor_ne_absentKey (e : Entity) (ids : Entries) :
    whereDescriptor e ids ≠ .error (.misuse .absentKey) := by
  intro fails
  rcases bind_eq_error.1 fails with step | ⟨properties, -, made⟩
  · obtain ⟨front, f, rest, fields, -, absent⟩ := exists_of_mapM_eq_error step
    have member : f ∈ e.fields.filter Field.isFilterable := by simp [fields]
    exact whereProperty_ne_absentKey (List.mem_filter.1 member).2 absent
  · cases made

/-! ## The two classes -/

/-- The properties of the class that identifies are matched, in order, by properties of the class that filters. -/
theorem matches_of_whereDescriptor (identify : whereUniqueDescriptor e = .ok unique) (filter : whereDescriptor e ids = .ok d) :
    List.SublistForall₂ (fun p q => ∃ f ∈ e.identifyingFields, f.Matches p q) unique.properties d.properties := by
  obtain ⟨identifying, uniqueSteps, rest⟩ := bind_eq_ok.1 identify
  cases rest
  obtain ⟨filtering, steps, rest⟩ := bind_eq_ok.1 filter
  cases rest
  have made := mapM_eq_ok.1 uniqueSteps
  rw [← Entity.identifyingFields, Entity.identifyingFields_eq] at made
  refine sublistForall₂_of_filter made (mapM_eq_ok.1 steps) fun f p q member identified filtered => ?_
  rw [← Entity.identifyingFields_eq] at member
  exact ⟨f, member, Field.matches_of_made (Field.isFilterable_of_mem_identifyingFields member) identified filtered⟩

/-- The class that identifies an entity can always be built. Once the class that filters is built, the properties of the first
are matched in order by properties of the second, so their names are a subsequence of the names there. And whether or not it
can be built, the class that filters is never refused because a table of types lacks an entry. -/
theorem exists_matching_filters (e : Entity) (ids : Entries) :
    ∃ unique, whereUniqueDescriptor e = .ok unique ∧ whereDescriptor e ids ≠ .error (.misuse .absentKey) ∧
      ∀ d, whereDescriptor e ids = .ok d →
        unique.propertyNames.Sublist d.propertyNames ∧
        List.SublistForall₂ (fun p q => ∃ f ∈ e.identifyingFields, f.Matches p q) unique.properties d.properties := by
  obtain ⟨unique, identify⟩ := whereUniqueDescriptor_returns e
  refine ⟨unique, identify, whereDescriptor_ne_absentKey e ids, fun d filter => ?_⟩
  have matched := matches_of_whereDescriptor identify filter
  refine ⟨?_, matched⟩
  obtain ⟨part, related, sub⟩ := List.sublistForall₂_iff.1 matched
  have names : unique.properties.map Property.name = part.map Property.name := by
    apply map_eq_map_of_forall₂ related
    rintro p q ⟨f, -, fits⟩
    rw [fits.uniqueName, fits.filteringName]
  rw [Descriptor.propertyNames, names]
  exact sub.map Property.name

/-- An invoice has an id and a number by which it is not searched for, and a unique document, which identifies nothing. -/
def Entity.invoice : Entity :=
  { name := .text "Invoice"
    id := .null
    fields :=
      [{ name := .text "scan", dataType := .json, required := false, unique := true, searchable := true, properties := [] },
       { name := .text "number", dataType := .wholeNumber, required := true, unique := true, searchable := false
         properties := [] },
       { name := .text "note", dataType := .multiLineText, required := false, unique := false, searchable := true
         properties := [] },
       { name := .text "id", dataType := .id, required := false, unique := false, searchable := false
         properties := [] }] }

/-- Invoices are identified by their numbers and ids, and filtered by these and their notes. -/
theorem Entity.invoice_filters : ∃ unique d, whereUniqueDescriptor invoice = .ok unique ∧
    whereDescriptor invoice [] = .ok d ∧
    unique.propertyNames = [.text "number", .text "id"] ∧
    d.propertyNames = [.text "number", .text "note", .text "id"] ∧ unique.propertyNames.Sublist d.propertyNames ∧
    List.SublistForall₂ (fun p q => ∃ f ∈ invoice.identifyingFields, f.Matches p q) unique.properties d.properties := by
  obtain ⟨d, filter⟩ := isOk_iff.1 (show (whereDescriptor invoice []).isOk = true from rfl)
  obtain ⟨unique, identify, -, fits⟩ := exists_matching_filters invoice []
  obtain ⟨sub, matched⟩ := fits d filter
  have identified : (whereUniqueDescriptor invoice).map Descriptor.propertyNames = .ok [.text "number", .text "id"] := rfl
  have filtered : (whereDescriptor invoice []).map Descriptor.propertyNames
      = .ok [.text "number", .text "note", .text "id"] := rfl
  rw [identify] at identified
  rw [filter] at filtered
  exact ⟨unique, d, identify, filter, Except.ok.inj identified, Except.ok.inj filtered, sub, matched⟩

end ResourceScaffold
