import ResourceScaffold.Proofs.Paths
import ResourceScaffold.Proofs.Plurals

/-!
# The segments of entities in URLs

The router of an entity answers under a segment that is formed from the identifier of the entity: the identifier is cut into
words again, and the last word gets its plural. Entities of a batch have different identifiers, but no one compares their
segments. Two entities share a segment iff the words of their identifiers agree but for the last one and the last words have
one plural (`generate_hasRouters`). This happens, as with `Post` and `Posts` (`Schema.posts_share_segment`).
-/

namespace ResourceScaffold

namespace Text

/-! ## Hyphenated words -/

/-- The words, each with a hyphen after it. -/
def hyphenated (words : List (List Char)) : List Char :=
  words.flatMap fun word => word ++ ['-']

/-- The first word comes with its hyphen. -/
theorem hyphenated_cons (word : List Char) (rest : List (List Char)) :
    hyphenated (word :: rest) = word ++ '-' :: hyphenated rest := by
  simp [hyphenated]

/-- Words without a hyphen are determined by the text in which each has a hyphen after it. -/
theorem hyphenated_inj {words words' : List (List Char)} (plain : ∀ w ∈ words, '-' ∉ w) (plain' : ∀ w ∈ words', '-' ∉ w)
    (same : hyphenated words = hyphenated words') : words = words' := by
  induction words generalizing words' with
  | nil =>
      cases words' with
      | nil => rfl
      | cons w' rest' => simp [hyphenated] at same
  | cons w rest ih =>
      cases words' with
      | nil => simp [hyphenated] at same
      | cons w' rest' =>
          rw [List.forall_mem_cons] at plain plain'
          rw [hyphenated_cons, hyphenated_cons] at same
          obtain ⟨rfl, later⟩ := eq_and_eq_of_append_cons plain.1 plain'.1 same
          rw [ih plain.2 plain'.2 later]

/-- Words joined by hyphens are all but the last with a hyphen after them, and the last. -/
theorem intercalate_hyphen (words : List (List Char)) :
    List.intercalate ['-'] words = hyphenated words.dropLast ++ words.getLastD [] := by
  induction words with
  | nil => rfl
  | cons first rest ih =>
      cases rest with
      | nil => simp [hyphenated]
      | cons second rest =>
          rw [List.intercalate_cons_cons, ih, List.dropLast_cons_cons, hyphenated_cons]
          simp

/-- Without a hyphen the whole text is the last word. -/
theorem splitLastHyphen_of_not_mem {s : List Char} (plain : '-' ∉ s) : splitLastHyphen s = ([], s) := by
  induction s with
  | nil => rfl
  | cons c rest ih =>
      rw [List.mem_cons, not_or] at plain
      rw [splitLastHyphen, ih plain.2]
      simp [Ne.symm plain.1]

/-- What stands before a hyphen stands before the last one. -/
theorem splitLastHyphen_append_hyphen (s t : List Char) :
    splitLastHyphen (s ++ '-' :: t) = (s ++ '-' :: (splitLastHyphen t).1, (splitLastHyphen t).2) := by
  induction s with
  | nil => simp [splitLastHyphen]
  | cons c rest ih =>
      rw [List.cons_append, splitLastHyphen, ih]
      simp

/-- The last word is split off the words before it. -/
theorem splitLastHyphen_hyphenated_append (words : List (List Char)) {last : List Char} (plain : '-' ∉ last) :
    splitLastHyphen (hyphenated words ++ last) = (hyphenated words, last) := by
  induction words with
  | nil => exact splitLastHyphen_of_not_mem plain
  | cons word rest ih => rw [hyphenated_cons, List.append_assoc, List.cons_append, splitLastHyphen_append_hyphen, ih]

/-! ## Plurals of identifiers -/

/-- The words of two identifiers agree but for the last one, and the last words have one plural. -/
def SharePlural (a b : String) : Prop :=
  (wordsOf a.toList).dropLast = (wordsOf b.toList).dropLast ∧
    pluralChars ((wordsOf a.toList).getLastD []) = pluralChars ((wordsOf b.toList).getLastD [])

/-- No word carries a hyphen. -/
theorem hyphen_not_mem_of_mem_wordsOf {s word : List Char} (listed : word ∈ wordsOf s) : '-' ∉ word := by
  intro hyphen
  exact absurd (not_isSeparator_of_mem_wordsOf listed hyphen) (by decide)

/-- The last word of a text is one of its words, or there is none. -/
theorem getLastD_wordsOf (s : List Char) : (wordsOf s).getLastD [] = [] ∨ (wordsOf s).getLastD [] ∈ wordsOf s :=
  List.mem_cons.1 List.getLastD_mem_cons

/-- The plural of an identifier in URLs is that of its last word, after the other words. -/
theorem toList_pluralize_kebabCase (s : String) :
    (pluralize (kebabCase s)).toList =
      hyphenated (wordsOf s.toList).dropLast ++ pluralChars ((wordsOf s.toList).getLastD []) := by
  have last : '-' ∉ (wordsOf s.toList).getLastD [] := by
    rcases getLastD_wordsOf s.toList with none | listed
    · rw [none]
      exact List.not_mem_nil
    · exact hyphen_not_mem_of_mem_wordsOf listed
  simp only [pluralize, kebabCase, String.toList_ofList, intercalate_hyphen, splitLastHyphen_hyphenated_append _ last]

/-- The plural of the last word of a name has no hyphen. -/
theorem hyphen_not_mem_pluralChars {s : List Char} (name : ∀ c ∈ s, isNameChar c = true) :
    '-' ∉ pluralChars ((wordsOf s).getLastD []) := by
  intro hyphen
  have letters : ∀ c ∈ (wordsOf s).getLastD [], c.isAlphanum = true := by
    intro c member
    rcases getLastD_wordsOf s with none | listed
    · rw [none] at member
      cases member
    · exact isAlphanum_of_mem_wordsOf name listed member
  exact absurd (caseClass_isAlphanum.mem_pluralChars letters _ hyphen) (by decide)

/-- Two names have one plural segment exactly where they share the plural. -/
theorem pluralize_kebabCase_eq_iff {a b : String} (nameA : ∀ c ∈ a.toList, isNameChar c = true)
    (nameB : ∀ c ∈ b.toList, isNameChar c = true) :
    pluralize (kebabCase a) = pluralize (kebabCase b) ↔ SharePlural a b := by
  rw [← String.toList_inj, toList_pluralize_kebabCase, toList_pluralize_kebabCase]
  constructor
  · intro same
    -- the plurals have no hyphen, so the last one stands right before them
    have parts := congrArg splitLastHyphen same
    rw [splitLastHyphen_hyphenated_append _ (hyphen_not_mem_pluralChars nameA),
      splitLastHyphen_hyphenated_append _ (hyphen_not_mem_pluralChars nameB), Prod.mk.injEq] at parts
    have plain (s : String) : ∀ w ∈ (wordsOf s.toList).dropLast, '-' ∉ w :=
      fun w listed => hyphen_not_mem_of_mem_wordsOf (List.dropLast_subset _ listed)
    exact ⟨hyphenated_inj (plain a) (plain b) parts.1, parts.2⟩
  · rintro ⟨front, last⟩
    rw [front, last]

end Text

open Code

/-! ## Segments -/

/-- The segment of an entity in URLs. -/
def Entity.resource (naming : NamingStrategy) (e : Entity) : String :=
  (naming e.name.display).resource

/-- The expression that makes a router for a segment. -/
def routerExpression (resource : String) : String :=
  "APIRouter(prefix=\"/" ++ resource ++ "\", tags=[\"" ++ resource ++ "\"])"

variable {schema : Schema} {naming : NamingStrategy} {classes : Table Descriptor} {byName : Table Entity}
  {rs : List Resource} {e e' : Entity} {r : Resource} {modules : List SourceModule}

/-- The controller of an entity makes a router for its segment. -/
theorem Schema.Generated.router (h : schema.Generated naming classes byName rs) (member : e ∈ schema.entities)
    (of : Resource.Of schema naming classes byName e r) :
    r.controllerModule.path = controllerPath (e.identifier naming) ∧
      .assign "router" (routerExpression (e.resource naming)) ∈ r.controllerModule.body := by
  obtain ⟨-, -, -, -, entityName, resource⟩ := h.controller_eq member of
  obtain ⟨endpoints, -, rendered⟩ := Controller.toModule_eq_ok.1 of.controllerModule
  have segment : e.resource naming = r.controller.resource := by
    rw [Entity.resource, of.name, Value.display_text, resource]
  rw [rendered, of.identifier_eq, ← entityName, segment]
  refine ⟨rfl, List.mem_append_left _ (List.mem_append_right _ ?_)⟩
  exact List.mem_cons_of_mem _ (List.mem_cons_of_mem _ List.mem_cons_self)

/-- Accepted entities share a segment iff the last words of their identifiers have one plural and the others agree. -/
theorem resource_eq_iff (named : checkEntityName e.name = .ok ()) (named' : checkEntityName e'.name = .ok ()) :
    e.resource ResourceNaming.derive = e'.resource ResourceNaming.derive ↔
      Text.SharePlural (e.identifier ResourceNaming.derive) (e'.identifier ResourceNaming.derive) := by
  have letters {e : Entity} (named : checkEntityName e.name = .ok ()) :
      ∀ c ∈ (e.identifier ResourceNaming.derive).toList, Text.isNameChar c = true := by
    intro c member
    obtain ⟨s, text⟩ := exists_text_of_checkEntityName named
    rw [Entity.identifier, text, Value.display_text] at member
    rw [text] at named
    exact Text.isNameChar_of_isAlphanum (isAlphanum_of_mem_identifier named member)
  exact Text.pluralize_kebabCase_eq_iff (letters named) (letters named')

/-- The modules hold a router for the segment of each entity. Two entities have different identifiers, and they share a
segment iff the words of these agree but for the last one and the last words have one plural. -/
structure Schema.HasRouters (schema : Schema) (modules : List SourceModule) : Prop where
  routers : ∀ e ∈ schema.entities, ∃ m ∈ modules, m.path = controllerPath (e.identifier ResourceNaming.derive) ∧
    .assign "router" (routerExpression (e.resource ResourceNaming.derive)) ∈ m.body
  identifiers : ∀ e ∈ schema.entities, ∀ e' ∈ schema.entities, e ≠ e' →
    e.identifier ResourceNaming.derive ≠ e'.identifier ResourceNaming.derive
  segments : ∀ e ∈ schema.entities, ∀ e' ∈ schema.entities, e ≠ e' →
    (e.resource ResourceNaming.derive = e'.resource ResourceNaming.derive ↔
      Text.SharePlural (e.identifier ResourceNaming.derive) (e'.identifier ResourceNaming.derive))

/-- Every generation has its routers. -/
theorem generate_hasRouters (h : (schema.generate ResourceNaming.derive).outcome = .ok modules) :
    schema.HasRouters modules := by
  obtain ⟨classes, byName, rs, generated, rfl⟩ := generate_eq_ok h
  constructor
  · intro e member
    obtain ⟨r, listed, of⟩ := generated.resource member
    refine ⟨r.controllerModule, ?_, generated.router member of⟩
    exact List.mem_append_left _ (List.mem_flatMap.2 ⟨r, listed, by simp [Resource.block]⟩)
  · intro e member e' member' differ same
    exact differ (List.inj_on_of_nodup_map generated.prepared.identifiers_nodup member member' same)
  · intro e member e' member' _
    exact resource_eq_iff (generated.prepared.named member) (generated.prepared.named member')

/-- Three entities without fields, two of which share a segment. -/
def Schema.posts : Schema :=
  { entities :=
      [{ name := .text "Post", id := .null, fields := [] },
       { name := .text "Posts", id := .null, fields := [] },
       { name := .text "Author", id := .null, fields := [] }]
    ids := [] }

/-- The schema is generated, and two of its entities answer under the same segment. -/
theorem Schema.posts_share_segment : ∃ modules, (posts.generate ResourceNaming.derive).outcome = .ok modules ∧
    ∃ e ∈ posts.entities, ∃ e' ∈ posts.entities, e ≠ e' ∧
      e.resource ResourceNaming.derive = e'.resource ResourceNaming.derive := by
  have returns : (posts.generate ResourceNaming.derive).outcome.isOk = true := rfl
  obtain ⟨modules, generated⟩ := isOk_iff.1 returns
  refine ⟨modules, generated, _, List.mem_cons_self, _, List.mem_cons_of_mem _ List.mem_cons_self, ?_, ?_⟩
  · simp
  · decide +kernel

/-- The posts are generated, each entity with a router of its own. -/
theorem Schema.posts_hasRouters : ∃ modules, (posts.generate ResourceNaming.derive).outcome = .ok modules ∧
    posts.HasRouters modules := by
  have returns : (posts.generate ResourceNaming.derive).outcome.isOk = true := rfl
  obtain ⟨modules, generated⟩ := isOk_iff.1 returns
  exact ⟨modules, generated, generate_hasRouters generated⟩

end ResourceScaffold
