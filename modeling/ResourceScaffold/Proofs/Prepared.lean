import ResourceScaffold.Proofs.Registry

/-!
# Batches whose classes are made

The classes of all entities are made iff all names are good, each class can be made, and no identifier is used twice
(`entityClasses_returns_iff`).

`Schema.Prepared` collects what holds once the classes of all entities of a schema are made: the names of its entities are
different texts, the class that is read of every entity is filed under its name (`Prepared.lookup_eq_ok`), and an entity is
found by its name (`Prepared.find?_eq_some`). So a relation is resolved iff it leads to an entity of the schema
(`Prepared.relationOf_eq_ok`).
-/

namespace ResourceScaffold

/-- An entity with a good name whose class can be made can always be added. -/
theorem Registry.add_returns_of_made {ids : Entries} {e : Entity} (naming : NamingStrategy) (r : Registry)
    (named : checkEntityName e.name = .ok ()) (made : ∃ c, entityDescriptor e ids = .ok c) :
    ∃ r', r.add ids naming e = .ok r' := by
  obtain ⟨s, name⟩ := exists_text_of_checkEntityName named
  obtain ⟨c, made⟩ := made
  rw [add, named]
  simp only [name, addNamed]
  split
  · exact ⟨_, rfl⟩
  · split
    · exact ⟨_, rfl⟩
    · exact ⟨_, by simp only [record, made]; rfl⟩

/-- The classes of all entities are made iff all names are good, each class can be made, and no identifier is used twice. -/
theorem entityClasses_returns_iff {entities : List Entity} {ids : Entries} {naming : NamingStrategy} :
    (∃ classes, entityClasses entities ids naming = .ok classes) ↔
      (∀ e ∈ entities, checkEntityName e.name = .ok () ∧ ∃ d, entityDescriptor e ids = .ok d) ∧
        (entities.map (Entity.identifier naming)).Nodup := by
  constructor
  · rintro ⟨classes, made⟩
    obtain ⟨good, distinct, -⟩ := (registered_of_entityClasses made).defects_eq_nil_iff.1 rfl
    exact ⟨good, distinct⟩
  · rintro ⟨good, distinct⟩
    have steps : ∀ r, ∀ e ∈ entities, ∃ r', Registry.add ids naming r e = .ok r' := fun r e member =>
      Registry.add_returns_of_made naming r (good e member).1 (good e member).2
    obtain ⟨r, run⟩ := exists_foldlM_eq_ok steps {}
    obtain ⟨classes, defects, registered, -, defectsEq⟩ := Registry.addAll_registered Registry.tracks_empty run
    have none : defects = [] := registered.defects_eq_nil_iff.2 ⟨good, distinct, by simp [Registry.Free]⟩
    refine ⟨r.classes, ?_⟩
    rw [entityClasses, run, ok_bind, defectsEq, none]
    rfl

/-- The tables of entities with different texts as names list them in order. -/
theorem entitiesByName_eq_ok {entities : List Entity} (texts : ∀ e ∈ entities, ∃ s, e.name = .text s)
    (distinct : (entities.map fun e => e.name.key?).Nodup) :
    entitiesByName entities = .ok (entities.map fun e => (e.name, e)) := by
  -- the induction runs over the entities still to come, those before them being filed
  suffices general : ∀ (later : List Entity) (filed : Table Entity), (∀ e ∈ later, ∃ s, e.name = .text s) →
      (filed.map (fun entry => entry.1.key?) ++ later.map fun e => e.name.key?).Nodup →
      later.foldlM (fun (table : Table Entity) e => do
        let _ ← e.name.asKey
        return table.insert e.name e) filed = .ok (filed ++ later.map fun e => (e.name, e)) by
    exact general entities [] texts (by simpa using distinct)
  intro later
  induction later with
  | nil => simp
  | cons e rest ih =>
      intro filed texts distinct
      obtain ⟨s, name⟩ := texts e List.mem_cons_self
      have key : e.name.key? = some (.text s) := by rw [name, Value.key?_text]
      have absent : filed.find? (.text s) = none := by
        rw [Table.find?_eq_none_iff]
        intro entry member same
        refine (List.nodup_append.1 distinct).2.2 _ (List.mem_map.2 ⟨entry, member, rfl⟩) _ List.mem_cons_self ?_
        exact same.trans key.symm
      rw [List.foldlM_cons, Value.asKey, key, ok_bind, pure_eq_ok, ok_bind,
        Table.insert_of_find?_eq_none key absent,
        ih (filed ++ [(e.name, e)]) (fun e member => texts e (List.mem_cons_of_mem _ member)) (by simpa using distinct)]
      simp

/-- The classes of a batch are made, and its entities are filed under their names. -/
structure Schema.Prepared (schema : Schema) (naming : NamingStrategy) (classes : Table Descriptor)
    (byName : Table Entity) : Prop where
  registered : Registered schema.ids naming [] schema.entities classes []
  entities : entitiesByName schema.entities = .ok byName

namespace Schema.Prepared

variable {schema : Schema} {naming : NamingStrategy} {classes : Table Descriptor} {byName : Table Entity} {e : Entity}

/-- The names of the prepared entities have passed their check. -/
theorem named (h : schema.Prepared naming classes byName) (member : e ∈ schema.entities) :
    checkEntityName e.name = .ok () :=
  ((h.registered.defects_eq_nil_iff.1 rfl).1 e member).1

/-- The names of the prepared entities are texts of characters. -/
theorem text (h : schema.Prepared naming classes byName) (member : e ∈ schema.entities) : ∃ s, e.name = .text s :=
  exists_text_of_checkEntityName (h.named member)

/-- The names of the prepared entities are texts. -/
theorem isText (h : schema.Prepared naming classes byName) (member : e ∈ schema.entities) : e.name.IsText := by
  obtain ⟨s, text⟩ := h.text member
  rw [text]
  exact .text s

/-- The class that is read of each entity can be made. -/
theorem described (h : schema.Prepared naming classes byName) (member : e ∈ schema.entities) :
    ∃ d, entityDescriptor e schema.ids = .ok d :=
  ((h.registered.defects_eq_nil_iff.1 rfl).1 e member).2

/-- The prepared entities have distinct identifiers. -/
theorem identifiers_nodup (h : schema.Prepared naming classes byName) :
    (schema.entities.map (Entity.identifier naming)).Nodup :=
  (h.registered.defects_eq_nil_iff.1 rfl).2.1

/-- The identifier that a naming strategy derives from a name, as a key. -/
def identifierOf (naming : NamingStrategy) : Option Key → String
  | some (.text s) => (naming s).entityName
  | _ => ""

/-- Entities with different identifiers have different names. -/
theorem keys_nodup (h : schema.Prepared naming classes byName) :
    (schema.entities.map fun e => e.name.key?).Nodup := by
  have factored : schema.entities.map (Entity.identifier naming) =
      (schema.entities.map fun e => e.name.key?).map (identifierOf naming) := by
    rw [List.map_map]
    refine List.map_congr_left fun e member => ?_
    obtain ⟨s, name⟩ := h.text member
    simp [Entity.identifier, name, identifierOf]
  exact (factored ▸ h.identifiers_nodup).of_map _

/-- Entities with one name are the same. -/
theorem eq_of_name_eq (h : schema.Prepared naming classes byName) {t : Entity} (he : e ∈ schema.entities)
    (ht : t ∈ schema.entities) (same : e.name = t.name) : e = t :=
  List.inj_on_of_nodup_map h.keys_nodup he ht (by rw [same])

/-- The classes are those that are made. -/
theorem classes_eq (h : schema.Prepared naming classes byName) :
    entityClasses schema.entities schema.ids naming = .ok classes := by
  obtain ⟨good, distinct, -⟩ := h.registered.defects_eq_nil_iff.1 rfl
  obtain ⟨classes', made⟩ := entityClasses_returns_iff.2 ⟨good, distinct⟩
  have filed := h.registered.classes_of_no_defects
  have filed' := (registered_of_entityClasses made).classes_of_no_defects
  have same : List.Forall₂ (· = ·) classes' classes := by
    refine (forall₂_comp filed'.flip filed).imp ?_
    rintro ⟨name', d'⟩ ⟨name, d⟩ ⟨e, ⟨rfl, described'⟩, ⟨rfl, described⟩⟩
    rw [described'] at described
    cases described
    rfl
  rw [List.forall₂_eq_eq_eq] at same
  rw [made, same]

/-- A batch in another order is prepared too. -/
theorem perm (h : schema.Prepared naming classes byName) {entities : List Entity} (perm : entities.Perm schema.entities) :
    ∃ classes' byName', Schema.Prepared { schema with entities } naming classes' byName' := by
  have good : ∀ e ∈ entities, checkEntityName e.name = .ok () ∧ ∃ d, entityDescriptor e schema.ids = .ok d :=
    fun e member => ⟨h.named (perm.subset member), h.described (perm.subset member)⟩
  have identifiers := (perm.map (Entity.identifier naming)).nodup_iff.2 h.identifiers_nodup
  have keys := (perm.map fun e => e.name.key?).nodup_iff.2 h.keys_nodup
  obtain ⟨classes', made⟩ := entityClasses_returns_iff.2 ⟨good, identifiers⟩
  have tabled := entitiesByName_eq_ok (fun e member => h.text (perm.subset member)) keys
  exact ⟨classes', _, registered_of_entityClasses made, tabled⟩

/-- The class that is read of an entity is what is filed under its name. -/
theorem lookup_eq_ok (h : schema.Prepared naming classes byName) {name : Value} {d : Descriptor} :
    classes.lookup name = .ok d ↔ ∃ e ∈ schema.entities, e.name = name ∧ entityDescriptor e schema.ids = .ok d := by
  have filed := h.registered.classes_of_no_defects
  have keys : (schema.entities.map fun e => e.name.key?) = classes.map fun entry => entry.1.key? :=
    map_eq_map_of_forall₂ filed fun e entry same => by rw [same.1]
  constructor
  · intro found
    obtain ⟨key, known, rest⟩ := bind_eq_ok.1 found
    have same : name.key? = some key := asKey_eq_ok.1 known
    obtain ⟨name', member, key⟩ := Table.mem_of_find? ((Table.lookup_eq_ok same).1 found)
    obtain ⟨e, listed, rfl, made⟩ := exists_left_of_forall₂ filed member
    obtain ⟨s, text⟩ := h.text listed
    refine ⟨e, listed, ?_, made⟩
    rw [text, Value.key?_text] at key
    cases key
    rw [text, Value.eq_text_of_key? same]
  · rintro ⟨e, member, rfl, made⟩
    obtain ⟨s, text⟩ := h.text member
    obtain ⟨⟨name, c⟩, listed, same, made'⟩ := exists_right_of_forall₂ filed member
    have key : e.name.key? = some (.text s) := by rw [text, Value.key?_text]
    rw [Table.lookup_eq_ok key]
    rw [made] at made'
    cases made'
    cases same
    exact Table.find?_eq_some_of_mem (keys ▸ h.keys_nodup) listed key

/-- The entities are filed in order. -/
theorem byName_eq (h : schema.Prepared naming classes byName) : byName = schema.entities.map fun e => (e.name, e) := by
  have table := entitiesByName_eq_ok (fun e => h.text) h.keys_nodup
  rw [h.entities] at table
  exact Except.ok.inj table

/-- An entity is found by its name. -/
theorem find?_eq_some (h : schema.Prepared naming classes byName) {s : String} {t : Entity} :
    byName.find? (.text s) = some t ↔ t ∈ schema.entities ∧ t.name = .text s := by
  rw [h.byName_eq]
  constructor
  · intro found
    obtain ⟨name, member, key⟩ := Table.mem_of_find? found
    obtain ⟨e, listed, same⟩ := List.mem_map.1 member
    cases same
    exact ⟨listed, Value.eq_text_of_key? key⟩
  · rintro ⟨member, name⟩
    refine Table.find?_eq_some_of_mem ?_ (List.mem_map.2 ⟨t, member, rfl⟩) (by rw [name, Value.key?_text])
    rw [List.map_map]
    exact h.keys_nodup

/-- Entities are only filed under texts. -/
theorem text_of_find? (h : schema.Prepared naming classes byName) {key : Key} {t : Entity}
    (found : byName.find? key = some t) : ∃ s, key = .text s := by
  obtain ⟨name, member, same⟩ := Table.mem_of_find? found
  rw [h.byName_eq] at member
  obtain ⟨e, listed, filed⟩ := List.mem_map.1 member
  cases filed
  obtain ⟨s, text⟩ := h.text listed
  rw [text, Value.key?_text] at same
  exact ⟨s, (Option.some.inj same).symm⟩

/-- A relation is resolved iff the name that its id is mapped to is that of an entity of the schema. -/
theorem relatedEntity_eq_ok (h : schema.Prepared naming classes byName) {f : Field} {t : Entity} :
    relatedEntity e f schema.ids byName = .ok t ↔
      t ∈ schema.entities ∧ relatedName e f schema.ids = .ok t.name := by
  constructor
  · intro resolved
    obtain ⟨name, found, rest⟩ := bind_eq_ok.1 resolved
    obtain ⟨key, known, rest⟩ := bind_eq_ok.1 rest
    have same : name.key? = some key := asKey_eq_ok.1 known
    cases filed : Table.find? byName key with
    | none =>
        rw [filed] at rest
        cases rest
    | some t' =>
        rw [filed] at rest
        cases rest
        obtain ⟨s, rfl⟩ := h.text_of_find? filed
        obtain ⟨member, text⟩ := h.find?_eq_some.1 filed
        rw [Value.eq_text_of_key? same] at found
        exact ⟨member, text ▸ found⟩
  · rintro ⟨member, found⟩
    obtain ⟨s, text⟩ := h.text member
    rw [relatedEntity, found, ok_bind, Value.asKey, text, Value.key?_text, ok_bind,
      h.find?_eq_some.2 ⟨member, text⟩]
    rfl

/-- The relation of a field is made from the entity that the field leads to and the class that is read of it. -/
theorem relationOf_eq_ok (h : schema.Prepared naming classes byName) {f : Field} {r : Relation} :
    Controller.relationOf e schema.ids classes byName f = .ok r ↔
      r.field = f ∧ ∃ t ∈ schema.entities, relatedName e f schema.ids = .ok t.name ∧ t.name = .text r.entity ∧
        entityDescriptor t schema.ids = .ok r.target := by
  constructor
  · intro made
    obtain ⟨t, resolved, rest⟩ := bind_eq_ok.1 made
    obtain ⟨target, filed, rest⟩ := bind_eq_ok.1 rest
    obtain ⟨entity, text, rest⟩ := bind_eq_ok.1 rest
    cases rest
    obtain ⟨member, found⟩ := h.relatedEntity_eq_ok.1 resolved
    obtain ⟨s, name⟩ := h.text member
    rw [name] at text
    cases text
    obtain ⟨t', member', same, read⟩ := h.lookup_eq_ok.1 filed
    rw [h.eq_of_name_eq member' member same] at read
    exact ⟨rfl, t, member, found, name, read⟩
  · rintro ⟨rfl, t, member, found, name, read⟩
    rw [Controller.relationOf, h.relatedEntity_eq_ok.2 ⟨member, found⟩, ok_bind,
      h.lookup_eq_ok.2 ⟨t, member, rfl, read⟩, ok_bind, name]
    rfl

end Schema.Prepared

end ResourceScaffold
