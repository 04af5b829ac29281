import ResourceScaffold.Proofs.Builders
import ResourceScaffold.Proofs.Tables

/-!
# The classes of all entities, one entity after the other

`Registry.Refuses ids naming seen e d` says that the entity `e` is refused with the defect `d` after the entities `seen`:
its name is bad, an earlier entity with a good name has its identifier, or the class that is read cannot be made. The first
entity with a good name and an identifier owns the identifier (`Registry.owner?`), also when its class cannot be made.
`Registered` follows a list of entities: each refused one leaves its defect, and each other one its class.

Whenever the registry returns, it has done just that, whatever the naming is (`Registry.addAll_registered`); for well-typed
entities it always returns (`Registry.addAll_returns`). The invariant is `Registry.Tracks`: an identifier is filed with the
name of its owner, and the names of classes are those of owners whose class could be made.
-/

namespace ResourceScaffold

/-- The identifier of an entity. -/
def Entity.identifier (naming : NamingStrategy) (e : Entity) : String :=
  (naming e.name.display).entityName

/-- Whether an entity has a good name and the given identifier. -/
def Entity.hasIdentifier (naming : NamingStrategy) (identifier : String) (e : Entity) : Bool :=
  match checkEntityName e.name with
  | .ok () => e.identifier naming == identifier
  | .error _ => false

/-- The first entity with a good name and the given identifier. -/
def Registry.owner? (naming : NamingStrategy) (seen : List Entity) (identifier : String) : Option Entity :=
  seen.find? (Entity.hasIdentifier naming identifier)

/-- No earlier entity with a good name has the identifier of the entity. -/
def Registry.Free (naming : NamingStrategy) (seen : List Entity) (e : Entity) : Prop :=
  ∀ earlier ∈ seen, checkEntityName earlier.name = .ok () → earlier.identifier naming ≠ e.identifier naming

/-- The entity is refused after those seen before. -/
inductive Registry.Refuses (ids : Entries) (naming : NamingStrategy) (seen : List Entity) (e : Entity) :
    Defect → Prop where
  | badName {d : Defect} (bad : checkEntityName e.name = .error (.defect d)) : Refuses ids naming seen e d
  | repeated {owner : Entity} (named : checkEntityName e.name = .ok ())
      (owned : Registry.owner? naming seen (e.identifier naming) = some owner) (same : owner.name = e.name)
      (made : ∃ c, entityDescriptor owner ids = .ok c) : Refuses ids naming seen e (.entityName e.name .repeated)
  | shared {owner : Entity} (named : checkEntityName e.name = .ok ())
      (owned : Registry.owner? naming seen (e.identifier naming) = some owner)
      (other : ¬ (owner.name = e.name ∧ ∃ c, entityDescriptor owner ids = .ok c)) :
      Refuses ids naming seen e (.entityName e.name (.sharedIdentifier (e.identifier naming) owner.name))
  | unmade {d : Defect} (named : checkEntityName e.name = .ok ()) (free : Registry.Free naming seen e)
      (failed : entityDescriptor e ids = .error (.defect d)) : Refuses ids naming seen e d

/-- After the entities `seen`, further ones leave these classes and these defects. -/
inductive Registered (ids : Entries) (naming : NamingStrategy) :
    List Entity → List Entity → Table Descriptor → List Defect → Prop where
  | nil {seen : List Entity} : Registered ids naming seen [] [] []
  | refused {seen rest : List Entity} {e : Entity} {d : Defect} {classes : Table Descriptor} {defects : List Defect}
      (refuses : Registry.Refuses ids naming seen e d)
      (others : Registered ids naming (seen ++ [e]) rest classes defects) :
      Registered ids naming seen (e :: rest) classes (d :: defects)
  | filed {seen rest : List Entity} {e : Entity} {c : Descriptor} {classes : Table Descriptor} {defects : List Defect}
      (named : checkEntityName e.name = .ok ()) (free : Registry.Free naming seen e)
      (made : entityDescriptor e ids = .ok c) (others : Registered ids naming (seen ++ [e]) rest classes defects) :
      Registered ids naming seen (e :: rest) ((e.name, c) :: classes) defects

/-- What a registry knows of the entities seen so far. -/
structure Registry.Tracks (ids : Entries) (naming : NamingStrategy) (seen : List Entity) (r : Registry) : Prop where
  owners : ∀ i, r.owners.lookup i = (Registry.owner? naming seen i).map Entity.name
  classes : ∀ s, (r.classes.find? (.text s)).isSome = true ↔
    ∃ owner, Registry.owner? naming seen (naming s).entityName = some owner ∧ owner.name = .text s ∧
      ∃ c, entityDescriptor owner ids = .ok c

namespace Registry

variable {ids : Entries} {naming : NamingStrategy} {seen : List Entity} {r r' : Registry} {e owner : Entity}

/-! ## Owners of identifiers -/

/-- An entity has an identifier exactly where its name is accepted and derives it. -/
theorem hasIdentifier_iff {i : String} :
    e.hasIdentifier naming i = true ↔ checkEntityName e.name = .ok () ∧ e.identifier naming = i := by
  unfold Entity.hasIdentifier
  split
  · next named => simp [named]
  · next fault bad => simp [bad]

/-- An entity lacks an identifier where its name is refused or derives another one. -/
theorem hasIdentifier_eq_false_iff {i : String} :
    e.hasIdentifier naming i = false ↔ (checkEntityName e.name = .ok () → e.identifier naming ≠ i) := by
  rw [← Bool.not_eq_true, hasIdentifier_iff, not_and]

/-- The owner of an identifier is an earlier entity with a good name. -/
theorem of_owner? {i : String} (owned : owner? naming seen i = some owner) :
    owner ∈ seen ∧ checkEntityName owner.name = .ok () ∧ owner.identifier naming = i :=
  ⟨List.mem_of_find?_eq_some owned, hasIdentifier_iff.1 (List.find?_some owned)⟩

/-- An identifier is free exactly where no entity seen before owns it. -/
theorem free_iff : Free naming seen e ↔ owner? naming seen (e.identifier naming) = none := by
  simp only [Free, owner?, List.find?_eq_none, Bool.not_eq_true, hasIdentifier_eq_false_iff]

/-- An entity with a bad name owns nothing. -/
theorem owner?_append_of_bad (bad : checkEntityName e.name ≠ .ok ()) (i : String) :
    owner? naming (seen ++ [e]) i = owner? naming seen i := by
  have none : e.hasIdentifier naming i = false := hasIdentifier_eq_false_iff.2 fun named => absurd named bad
  simp [owner?, List.find?_append, none]

/-- An identifier keeps its owner. -/
theorem owner?_append_of_owned (owned : owner? naming seen (e.identifier naming) = some owner) (i : String) :
    owner? naming (seen ++ [e]) i = owner? naming seen i := by
  unfold owner? at owned ⊢
  by_cases same : e.identifier naming = i
  · rw [List.find?_append, ← same, owned, Option.some_or]
  · have none : e.hasIdentifier naming i = false := hasIdentifier_eq_false_iff.2 fun _ => same
    simp [List.find?_append, none]

/-- An entity with a good name owns its identifier if nothing before it does. -/
theorem owner?_append_of_free (named : checkEntityName e.name = .ok ()) (free : Free naming seen e) (i : String) :
    owner? naming (seen ++ [e]) i = if e.identifier naming = i then some e else owner? naming seen i := by
  have unowned := free_iff.1 free
  unfold owner? at unowned ⊢
  split
  · next same =>
      have found : e.hasIdentifier naming i = true := hasIdentifier_iff.2 ⟨named, same⟩
      rw [List.find?_append, ← same, unowned, Option.none_or, same, List.find?_cons_of_pos found]
  · next other =>
      have none : e.hasIdentifier naming i = false := hasIdentifier_eq_false_iff.2 fun _ => other
      simp [List.find?_append, none]

/-! ## The invariant -/

/-- Before the first entity nothing is tracked. -/
theorem tracks_empty : Tracks ids naming [] {} :=
  ⟨fun i => rfl, fun s => by simp [Table.find?, owner?]⟩

/-- An entity that owns nothing leaves the registry as it is. -/
theorem Tracks.keep (h : Tracks ids naming seen r) (same : ∀ i, owner? naming (seen ++ [e]) i = owner? naming seen i) :
    Tracks ids naming (seen ++ [e]) r :=
  ⟨fun i => by rw [h.owners, same], fun s => by rw [h.classes, same]⟩

/-- A defect changes nothing else. -/
theorem Tracks.withDefect (h : Tracks ids naming seen r) (d : Defect) : Tracks ids naming seen (r.withDefect d) :=
  ⟨h.owners, h.classes⟩

/-- An entity with a good name owns its identifier from then on, and its name is filed if its class can be made. -/
theorem Tracks.own (h : Tracks ids naming seen r) (named : checkEntityName e.name = .ok ()) (free : Free naming seen e)
    {classes : Table Descriptor} (filed : ∀ s, (classes.find? (.text s)).isSome = true ↔
      (r.classes.find? (.text s)).isSome = true ∨ e.name = .text s ∧ ∃ c, entityDescriptor e ids = .ok c) :
    Tracks ids naming (seen ++ [e]) { r with classes, owners := r.owners ++ [(e.identifier naming, e.name)] } := by
  constructor
  · intro i
    rw [owner?_append_of_free named free, List.lookup_append, h.owners, List.lookup_cons, List.lookup_nil]
    by_cases same : e.identifier naming = i
    · rw [if_pos same, ← same, free_iff.1 free, beq_self_eq_true]
      rfl
    · rw [if_neg same, beq_false_of_ne (Ne.symm same), Option.or_none]
  · intro s
    rw [filed, h.classes, owner?_append_of_free named free]
    split
    · next same =>
        -- nothing was filed under a name with this identifier before
        rw [← same, free_iff.1 free]
        simp
    · next other =>
        have unnamed : e.name ≠ .text s := by
          intro name
          rw [Entity.identifier, name, Value.display_text] at other
          exact other rfl
        simp [unnamed]

/-- What adding an entity does to the classes and the defects of a registry: a defect is noted or a class is filed. -/
def Adds (ids : Entries) (naming : NamingStrategy) (seen : List Entity) (e : Entity) (r r' : Registry) : Prop :=
  (∃ d, Refuses ids naming seen e d ∧ r'.classes = r.classes ∧ r'.defects = r.defects ++ [d]) ∨
    (checkEntityName e.name = .ok () ∧ Free naming seen e ∧
      ∃ c, entityDescriptor e ids = .ok c ∧ r'.classes = r.classes ++ [(e.name, c)] ∧ r'.defects = r.defects)

/-- The class of an entity with a good name and a free identifier is filed, if it can be made. -/
theorem record_eq_ok (h : Tracks ids naming seen r) (named : checkEntityName e.name = .ok ()) (free : Free naming seen e)
    {s : String} (name : e.name = .text s) (unfiled : r.classes.find? (.text s) = none)
    (recorded : record { r with owners := r.owners ++ [(e.identifier naming, e.name)] } (entityDescriptor e ids)
      (fun c => { r with
        classes := r.classes.insert e.name c, owners := r.owners ++ [(e.identifier naming, e.name)] }) = .ok r') :
    Tracks ids naming (seen ++ [e]) r' ∧ Adds ids naming seen e r r' := by
  unfold record at recorded
  split at recorded
  · next c made =>
      have appended : r.classes.insert e.name c = r.classes ++ [(e.name, c)] :=
        Table.insert_of_find?_eq_none (by rw [name, Value.key?_text]) unfiled c
      cases recorded
      refine ⟨h.own named free fun t => ?_, .inr ⟨named, free, c, made, appended, rfl⟩⟩
      rw [appended, Table.find?_append, Option.isSome_or, Bool.or_eq_true]
      simp [Table.find?, name, made]
  · next d failed =>
      cases recorded
      exact ⟨(h.own named free fun t => by simp [failed]).withDefect d, .inl ⟨d, .unmade named free failed, rfl, rfl⟩⟩
  · cases recorded

/-- An entity with a good name is refused if its name or its identifier is taken. -/
theorem addNamed_eq_ok (h : Tracks ids naming seen r) (named : checkEntityName e.name = .ok ()) {s : String}
    (name : e.name = .text s) (added : r.addNamed ids naming e s = .ok r') :
    Tracks ids naming (seen ++ [e]) r' ∧ Adds ids naming seen e r r' := by
  have identifier : (naming s).entityName = e.identifier naming := by simp [Entity.identifier, name]
  rw [addNamed, identifier] at added
  have filedName := h.classes s
  rw [identifier] at filedName
  split at added
  · next filed =>
      obtain ⟨owner, owned, same, made⟩ := filedName.1 filed
      cases added
      exact ⟨(h.keep (owner?_append_of_owned owned)).withDefect _,
        .inl ⟨_, .repeated named owned (same.trans name.symm) made, rfl, rfl⟩⟩
  · next unfiled =>
      have ownerName := h.owners (e.identifier naming)
      split at added
      · next first found =>
          rw [found] at ownerName
          obtain ⟨owner, owned, rfl⟩ := Option.map_eq_some_iff.1 ownerName.symm
          cases added
          refine ⟨(h.keep (owner?_append_of_owned owned)).withDefect _, .inl ⟨_, .shared named owned ?_, rfl, rfl⟩⟩
          rintro ⟨same, made⟩
          exact unfiled (filedName.2 ⟨owner, owned, same.trans name, made⟩)
      · next unowned =>
          rw [unowned] at ownerName
          have free : Free naming seen e := free_iff.2 (Option.map_eq_none_iff.1 ownerName.symm)
          exact record_eq_ok h named free name (by simpa using unfiled) added

/-- What adding an entity does to a registry, if it returns. -/
theorem add_eq_ok (h : Tracks ids naming seen r) (added : r.add ids naming e = .ok r') :
    Tracks ids naming (seen ++ [e]) r' ∧ Adds ids naming seen e r r' := by
  unfold add at added
  split at added
  · next d bad =>
      cases added
      exact ⟨(h.keep (owner?_append_of_bad (by simp [bad]))).withDefect d, .inl ⟨d, .badName bad, rfl, rfl⟩⟩
  · cases added
  · next named =>
      split at added
      · next s name => exact addNamed_eq_ok h named name added
      · cases added

/-- A well-typed entity can always be added. -/
theorem add_returns (ids : Entries) (naming : NamingStrategy) (r : Registry) (typed : e.WellTyped) :
    ∃ r', r.add ids naming e = .ok r' := by
  rcases (decides_checkEntityName typed.name).cases with ⟨named, -⟩ | ⟨-, d, -, bad⟩
  · obtain ⟨s, name⟩ := exists_text_of_checkEntityName named
    rw [add, named]
    simp only [name, addNamed]
    split
    · exact ⟨_, rfl⟩
    · split
      · exact ⟨_, rfl⟩
      · rcases (decides_entityDescriptor ids typed).cases with ⟨-, c, made⟩ | ⟨-, d, -, failed⟩
        · exact ⟨_, by simp only [record, made]; rfl⟩
        · exact ⟨_, by simp only [record, failed]; rfl⟩
  · exact ⟨_, by rw [add, bad]⟩

/-- Adding entities one after the other follows `Registered`. -/
theorem addAll_registered {entities : List Entity} (h : Tracks ids naming seen r)
    (run : entities.foldlM (add ids naming) r = .ok r') :
    ∃ classes defects, Registered ids naming seen entities classes defects ∧
      r'.classes = r.classes ++ classes ∧ r'.defects = r.defects ++ defects := by
  induction entities generalizing seen r with
  | nil =>
      cases run
      exact ⟨[], [], .nil, by simp, by simp⟩
  | cons e rest ih =>
      rw [List.foldlM_cons] at run
      obtain ⟨r₁, added, later⟩ := bind_eq_ok.1 run
      obtain ⟨tracks, step⟩ := add_eq_ok h added
      obtain ⟨classes, defects, others, classes₂, defects₂⟩ := ih tracks later
      rcases step with ⟨d, refuses, classes₁, defects₁⟩ | ⟨named, free, c, made, classes₁, defects₁⟩
      · exact ⟨classes, d :: defects, .refused refuses others, by rw [classes₂, classes₁],
          by rw [defects₂, defects₁, List.append_assoc, List.singleton_append]⟩
      · exact ⟨(e.name, c) :: classes, defects, .filed named free made others,
          by rw [classes₂, classes₁, List.append_assoc, List.singleton_append], by rw [defects₂, defects₁]⟩

/-- Well-typed entities can always be added. -/
theorem addAll_returns (ids : Entries) (naming : NamingStrategy) {entities : List Entity}
    (typed : ∀ e ∈ entities, e.WellTyped) (r : Registry) : ∃ r', entities.foldlM (add ids naming) r = .ok r' :=
  exists_foldlM_eq_ok (fun r e member => add_returns ids naming r (typed e member)) r

end Registry

/-! ## What is registered -/

variable {ids : Entries} {naming : NamingStrategy} {seen entities : List Entity} {classes : Table Descriptor}
  {defects : List Defect}

/-- The classes of all well-typed entities, or all their defects. -/
theorem entityClasses_registered (ids : Entries) (naming : NamingStrategy) (typed : ∀ e ∈ entities, e.WellTyped) :
    ∃ classes defects, Registered ids naming [] entities classes defects ∧
      entityClasses entities ids naming = if defects.isEmpty then .ok classes else .error (.batch defects) := by
  obtain ⟨r, run⟩ := Registry.addAll_returns ids naming typed {}
  obtain ⟨classes, defects, registered, classesEq, defectsEq⟩ := Registry.addAll_registered Registry.tracks_empty run
  refine ⟨classes, defects, registered, ?_⟩
  rw [entityClasses, run, ok_bind, classesEq, defectsEq, List.nil_append, List.nil_append]
  rfl

/-- The classes of all entities are returned only when no entity is refused. -/
theorem registered_of_entityClasses (h : entityClasses entities ids naming = .ok classes) :
    Registered ids naming [] entities classes [] := by
  obtain ⟨r, run, rest⟩ := bind_eq_ok.1 h
  obtain ⟨classes', defects, registered, classesEq, defectsEq⟩ := Registry.addAll_registered Registry.tracks_empty run
  split at rest
  · next none =>
      cases rest
      rw [List.nil_append] at classesEq defectsEq
      rw [defectsEq, List.isEmpty_iff] at none
      rwa [classesEq, ← none]
  · cases rest

/-- No entity is refused iff all names are good, no identifier is used twice and all classes can be made. -/
theorem Registered.defects_eq_nil_iff (h : Registered ids naming seen entities classes defects) :
    defects = [] ↔
      (∀ e ∈ entities, checkEntityName e.name = .ok () ∧ ∃ d, entityDescriptor e ids = .ok d) ∧
      (entities.map (Entity.identifier naming)).Nodup ∧ ∀ e ∈ entities, Registry.Free naming seen e := by
  induction h with
  | nil => simp
  | refused refuses others ih =>
      refine iff_of_false (by simp) ?_
      rintro ⟨good, -, free⟩
      obtain ⟨named, c, made⟩ := good _ List.mem_cons_self
      cases refuses with
      | badName bad => simp [named] at bad
      | repeated _ owned | shared _ owned =>
          obtain ⟨before, good, same⟩ := Registry.of_owner? owned
          exact free _ List.mem_cons_self _ before good same
      | unmade _ _ failed => simp [made] at failed
  | @filed seen rest e c classes defects named free made others ih =>
      rw [ih, List.forall_mem_cons, List.map_cons, List.nodup_cons, List.forall_mem_cons]
      constructor
      · rintro ⟨all, nodup, others⟩
        refine ⟨⟨⟨named, c, made⟩, all⟩, ⟨?_, nodup⟩, free, ?_⟩
        · intro found
          obtain ⟨e', member, same⟩ := List.mem_map.1 found
          exact others e' member e (by simp) named same.symm
        · exact fun e' member earlier before => others e' member earlier (List.mem_append_left _ before)
      · rintro ⟨⟨-, all⟩, ⟨fresh, nodup⟩, -, others⟩
        refine ⟨all, nodup, fun e' member earlier before good => ?_⟩
        rcases List.mem_append.1 before with old | last
        · exact others e' member earlier old good
        · rw [List.mem_singleton.1 last]
          exact fun same => fresh (List.mem_map.2 ⟨e', member, same.symm⟩)

/-- Without defects, the classes are those of all entities, in order and under their names. -/
theorem Registered.classes_of_no_defects (h : Registered ids naming seen entities classes []) :
    List.Forall₂ (fun e entry => entry.1 = e.name ∧ entityDescriptor e ids = .ok entry.2) entities classes := by
  generalize none : ([] : List Defect) = defects at h
  induction h with
  | nil => exact .nil
  | refused => cases none
  | filed _ _ made _ ih => exact .cons ⟨rfl, made⟩ (ih none)

end ResourceScaffold
