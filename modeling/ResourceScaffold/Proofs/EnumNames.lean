import ResourceScaffold.Proofs.EntityNames
import ResourceScaffold.Proofs.Linking
import ResourceScaffold.Proofs.Spelling

/-!
# Names of enumerations

The class of an enumeration is named by its field, or it has a name that is made of the names of the entity and the field. A
made name begins with a word that no keyword begins with, and its first letter from the field is in upper case: the upper case
of a character that begins an identifier can stand in one (`Text.isIdentifierContinue_of_mem_upperChar`), for which the tables
are compared. A declared name has to be an identifier, and nothing else is asked of it.

So the enumerations of a generation have names that can be given to classes, but for declared names that are keywords or
reserved, and for made names of entities that end in a line feed (`generate_enum_names`).
-/

namespace ResourceScaffold

namespace Text

/-! ## Ranges of code points -/

/-- Whether the code points from `low` to `high` lie in one of the ranges. -/
def covers : List (Nat × Nat) → Nat → Nat → Bool
  | [], _, _ => false
  | (first, last) :: rest, low, high => first.ble low && (high.ble last || covers rest low high)

/-- What lies in covered bounds lies in one of the ranges. -/
theorem inRanges_of_covers {ranges : List (Nat × Nat)} {low high n : Nat} (h : covers ranges low high = true) (above : low ≤ n)
    (below : n ≤ high) : inRanges ranges n = true := by
  induction ranges with
  | nil => cases h
  | cons range rest ih =>
      rw [covers, Bool.and_eq_true, Bool.or_eq_true, Nat.ble_eq, Nat.ble_eq] at h
      obtain ⟨first, last | later⟩ := h
      · simp only [inRanges, Bool.and_eq_true, Bool.or_eq_true, decide_eq_true_eq]
        exact ⟨by omega, .inl (by omega)⟩
      · simp only [inRanges, Bool.and_eq_true, Bool.or_eq_true, decide_eq_true_eq]
        exact ⟨by omega, .inr (ih later)⟩

/-- A number in the ranges lies in one of them. -/
theorem exists_of_inRanges {ranges : List (Nat × Nat)} {n : Nat} (h : inRanges ranges n = true) :
    ∃ range ∈ ranges, range.1 ≤ n ∧ n ≤ range.2 := by
  induction ranges with
  | nil => cases h
  | cons range rest ih =>
      simp only [inRanges, Bool.and_eq_true, Bool.or_eq_true, decide_eq_true_eq] at h
      obtain ⟨first, last | later⟩ := h
      · exact ⟨range, List.mem_cons_self, first, last⟩
      · obtain ⟨found, listed, within⟩ := ih later
        exact ⟨found, List.mem_cons_of_mem _ listed, within⟩

/-- In ranges that are in order each range is found. -/
theorem inRanges_of_mem {ranges : List (Nat × Nat)} (sorted : ranges.Pairwise fun range later => range.1 ≤ later.1)
    {range : Nat × Nat} (listed : range ∈ ranges) {n : Nat} (above : range.1 ≤ n) (below : n ≤ range.2) :
    inRanges ranges n = true := by
  induction ranges with
  | nil => cases listed
  | cons first rest ih =>
      obtain ⟨before, sorted⟩ := List.pairwise_cons.1 sorted
      simp only [inRanges, Bool.and_eq_true, Bool.or_eq_true, decide_eq_true_eq]
      rcases List.mem_cons.1 listed with rfl | later
      · exact ⟨above, .inl below⟩
      · have order := before range later
        exact ⟨by omega, .inr (ih sorted later)⟩

/-- Whether each range of the second list lies in one of the first, if both are in order. -/
def containsRanges : List (Nat × Nat) → List (Nat × Nat) → Bool
  | [], inner => inner.isEmpty
  | (first, last) :: rest, inner =>
      containsRanges rest (inner.dropWhile fun range => first.ble range.1 && range.2.ble last)

/-- Each of the inner ranges lies in one of the outer ones. -/
theorem exists_of_containsRanges {outer inner : List (Nat × Nat)} (h : containsRanges outer inner = true)
    {range : Nat × Nat} (listed : range ∈ inner) : ∃ wide ∈ outer, wide.1 ≤ range.1 ∧ range.2 ≤ wide.2 := by
  induction outer generalizing inner with
  | nil =>
      rw [containsRanges, List.isEmpty_iff] at h
      rw [h] at listed
      cases listed
  | cons wide rest ih =>
      let fits : Nat × Nat → Bool := fun range => wide.1.ble range.1 && range.2.ble wide.2
      have parts : range ∈ inner.takeWhile fits ++ inner.dropWhile fits := by
        rwa [List.takeWhile_append_dropWhile]
      rcases List.mem_append.1 parts with fitting | later
      · have bounds := List.all_eq_true.1 List.all_takeWhile range fitting
        rw [Bool.and_eq_true, Nat.ble_eq, Nat.ble_eq] at bounds
        exact ⟨wide, List.mem_cons_self, bounds⟩
      · obtain ⟨found, member, bounds⟩ := ih h later
        exact ⟨found, List.mem_cons_of_mem _ member, bounds⟩

/-! ## Identifiers in upper case -/

/-- What may begin an identifier may also follow in one. -/
theorem isIdentifierContinue_of_isIdentifierStart {c : Char} (h : isIdentifierStart c = true) :
    isIdentifierContinue c = true := by
  by_cases ascii : isAscii c = true
  · exact forall_ascii (p := fun c => isIdentifierStart c = true → isIdentifierContinue c = true) (by decide) ascii h
  · rw [isIdentifierStart, if_neg ascii] at h
    rw [isIdentifierContinue, if_neg ascii]
    obtain ⟨range, listed, above, below⟩ := exists_of_inRanges h
    have contained : containsRanges identifierContinueRanges identifierStartRanges = true := by decide +kernel
    obtain ⟨wide, member, first, last⟩ := exists_of_containsRanges contained listed
    have chain : identifierContinueRanges.IsChain fun range later => range.1 ≤ later.1 := by decide +kernel
    have trans : IsTrans (Nat × Nat) fun range later => range.1 ≤ later.1 := ⟨fun _ _ _ => Nat.le_trans⟩
    exact inRanges_of_mem (List.isChain_iff_pairwise.1 chain) member (by omega) (by omega)

/-- A run of capital letters leads from the beginning of an identifier to characters of identifiers. -/
theorem isIdentifierContinue_of_lookupRun {c : Char} {image : Nat} (beyond : isAscii c = false)
    (start : isIdentifierStart c = true) (found : lookupRun upperRuns c.toNat = some image) :
    isIdentifierContinue (Char.ofNat image) = true := by
  obtain ⟨code, -⟩ := hasLetterRuns_upperRuns.toNat_of_lookupRun found
  obtain ⟨run, listed, first, last, stepped, image_eq⟩ := exists_of_lookupRun found
  -- the images lie together in a range, or each is a character of identifiers, or the run is one of circled letters
  have all : ∀ run ∈ upperRuns,
      128 ≤ run.2.2.2 ∧ covers identifierContinueRanges run.2.2.2 (run.2.2.2 + (run.2.1 - run.1)) = true ∨
      (∀ k ≤ run.2.1 - run.1, k % run.2.2.1 = 0 → isIdentifierContinue (Char.ofNat (run.2.2.2 + k)) = true) ∨
      ∀ range ∈ identifierStartRanges, range.2 < run.1 ∨ run.2.1 < range.1 := by decide +kernel
  rcases all run listed with ⟨high, covered⟩ | each | apart
  · have beyond' : ¬ isAscii (Char.ofNat image) = true := by
      rw [isAscii, code, decide_eq_true_eq]
      omega
    rw [isIdentifierContinue, if_neg beyond', code]
    exact inRanges_of_covers covered (by omega) (by omega)
  · rw [image_eq]
    exact each _ (by omega) stepped
  · rw [isIdentifierStart, beyond] at start
    obtain ⟨range, member, above, below⟩ := exists_of_inRanges start
    have outside := apart range member
    omega

/-- The upper case of a character that may begin an identifier may follow in one. -/
theorem isIdentifierContinue_of_mem_upperChar {c d : Char} (start : isIdentifierStart c = true) (member : d ∈ upperChar c) :
    isIdentifierContinue d = true := by
  unfold upperChar at member
  split at member
  · next ascii =>
      rw [List.mem_singleton.1 member]
      exact forall_ascii (p := fun c => isIdentifierStart c = true → isIdentifierContinue c.toUpper = true) (by decide) ascii
        start
  · next beyond =>
      split at member
      · next image found =>
          obtain ⟨entry, listed, rfl⟩ := exists_of_lookupExpansion found
          obtain ⟨n, inImage, rfl⟩ := List.mem_map.1 member
          have all : ∀ entry ∈ upperExpansions, ∀ n ∈ entry.2, isIdentifierContinue (Char.ofNat n) = true := by
            decide +kernel
          exact all entry listed n inImage
      · rw [List.mem_singleton.1 member]
        cases found : lookupRun upperRuns c.toNat with
        | none => exact isIdentifierContinue_of_isIdentifierStart start
        | some image => exact isIdentifierContinue_of_lookupRun (eq_false_of_ne_true beyond) start found

/-- An identifier with its first letter in upper case has only characters of identifiers. -/
theorem isIdentifierContinue_of_mem_raiseFirst {s : String} (usable : isIdentifier s = true) {c : Char}
    (member : c ∈ (raiseFirst s).toList) : isIdentifierContinue c = true := by
  obtain ⟨first, rest, chars, start, continues⟩ := isIdentifier_iff.1 usable
  rw [raiseFirst, String.toList_ofList, chars, List.mem_append] at member
  rcases member with raised | others
  · obtain ⟨d, taken, upper⟩ := List.mem_flatMap.1 raised
    rw [List.mem_singleton.1 taken] at upper
    exact isIdentifierContinue_of_mem_upperChar start upper
  · exact continues c others

end Text

open Code

/-! ## Names of enumerations -/

/-- A name that can be given to a class and its module: an identifier that is no keyword and is not reserved. -/
structure IsClassName (s : String) : Prop where
  identifier : Text.isIdentifier s = true
  noKeyword : s ∉ Text.keywords
  notReserved : s ∉ reservedNames

/-- The name of the enumeration of the field cannot be given to a class. -/
inductive Field.MisnamesEnum (e : Entity) (f : Field) : Prop where
  /-- It is declared, and is a keyword or reserved. -/
  | taken {s : String} (declared : f.properties.getD "enumName" = .text s)
      (taken : s ∈ Text.keywords ∨ s ∈ reservedNames)
  /-- It is made from the name of an entity that ends in a line feed. -/
  | lineFeed {w : String} (undeclared : (f.properties.getD "enumName").isTruthy = false) (entity : e.name = .text (w ++ "\n"))

section

variable {schema : Schema} {naming : NamingStrategy} {e : Entity} {f : Field} {s field : String} {name : Value}
  {modules : List SourceModule}

/-- Made names are longer than all keywords and reserved names that begin like them. -/
theorem madeName_free (s rest : String) (nonempty : s.toList ≠ []) :
    "Enum" ++ s ++ rest ∉ Text.keywords ∧ "Enum" ++ s ++ rest ∉ reservedNames := by
  have short : ∀ entry ∈ Text.keywords ++ reservedNames, "Enum".toList <+: entry.toList → entry.toList.length ≤ 4 := by decide
  have none : "Enum" ++ s ++ rest ∉ Text.keywords ++ reservedNames := by
    intro listed
    have begins : "Enum".toList <+: ("Enum" ++ s ++ rest).toList := by
      rw [String.toList_append, String.toList_append, List.append_assoc]
      exact List.prefix_append _ _
    have length := short _ listed begins
    have longer := List.length_pos_iff.2 nonempty
    have enum : "Enum".toList.length = 4 := rfl
    rw [String.toList_append, String.toList_append, List.length_append, List.length_append, enum] at length
    omega
  rwa [List.mem_append, not_or] at none

/-- A name that is made from a plain name of an entity can be given to a class. -/
theorem isClassName_made (plain : IsPlainName s.toList) (usable : Text.isIdentifier field = true) :
    IsClassName ("Enum" ++ s ++ raiseFirst field) := by
  have continues : ∀ c ∈ "num".toList ++ s.toList ++ (raiseFirst field).toList, Text.isIdentifierContinue c = true := by
    intro c member
    rw [List.mem_append, List.mem_append] at member
    rcases member with (fixed | inEntity) | inField
    · exact List.all_eq_true.1 (by decide : "num".toList.all Text.isIdentifierContinue = true) c fixed
    · rcases plain.letters c inEntity with alphanum | rfl
      · rw [Text.isIdentifierContinue, if_pos (Text.isAscii_of_isAlphanum alphanum), alphanum, Bool.true_or]
      · decide
    · exact Text.isIdentifierContinue_of_mem_raiseFirst usable inField
  obtain ⟨noKeyword, notReserved⟩ := madeName_free s (raiseFirst field) plain.ne_nil
  refine ⟨?_, noKeyword, notReserved⟩
  have written : ("Enum" ++ s ++ raiseFirst field).toList =
      'E' :: ("num".toList ++ s.toList ++ (raiseFirst field).toList) := by
    rw [String.toList_append, String.toList_append]
    rfl
  exact Text.isIdentifier_iff.2 ⟨_, _, written, by decide, continues⟩

/-- A made name can be given to a class unless the name of the entity ends in a line feed. -/
theorem madeName_isClassName_iff (entity : e.name = .text s) (named : checkEntityName e.name = .ok ())
    (usable : Text.isIdentifier field = true) (undeclared : (f.properties.getD "enumName").isTruthy = false) :
    IsClassName ("Enum" ++ s ++ raiseFirst field) ↔ ¬ f.MisnamesEnum e := by
  rw [entity] at named
  rcases isEntityWord_iff.1 ((checkEntityName_text s).1.1 named).1 with plain | ⟨w, chars, -⟩
  · refine iff_of_true (isClassName_made plain usable) ?_
    intro misnames
    cases misnames with
    | @taken declaredName declared taken =>
        rw [declared, Value.isTruthy_text] at undeclared
        have empty : declaredName = "" := by simpa using undeclared
        rw [empty] at taken
        exact absurd taken (by decide)
    | lineFeed _ ends =>
        rw [entity] at ends
        apply plain.noFeed
        rw [Value.text.inj ends]
        simp
  · have ends : s = String.ofList w ++ "\n" := by
      apply String.toList_injective
      rw [chars, String.toList_append, String.toList_ofList]
      rfl
    refine iff_of_false ?_ ?_
    · intro isName
      have feed : '\n' ∈ ("Enum" ++ s ++ raiseFirst field).toList := by
        rw [ends]
        simp
      exact Text.IsMark.not_mem_identifier (by decide) isName.identifier feed
    · intro fine
      apply fine
      exact .lineFeed undeclared (by rw [entity, ends])

/-- A declared name that is an identifier can be given to a class unless it is a keyword or reserved. -/
theorem declaredName_isClassName_iff (declared : f.properties.getD "enumName" = .text s) (nonempty : s ≠ "")
    (identifier : Text.isIdentifier s = true) : IsClassName s ↔ ¬ f.MisnamesEnum e := by
  constructor
  · intro isName misnames
    cases misnames with
    | taken declared' taken =>
        rw [declared] at declared'
        cases declared'
        exact taken.elim isName.noKeyword isName.notReserved
    | lineFeed undeclared _ =>
        rw [declared, Value.isTruthy_text] at undeclared
        exact nonempty (by simpa using undeclared)
  · intro fine
    refine ⟨identifier, ?_, ?_⟩
    · intro keyword
      exact fine (.taken declared (.inl keyword))
    · intro reserved
      exact fine (.taken declared (.inr reserved))

/-- The name of an enumeration can be given to a class unless the field misnames it. -/
theorem enumName_isClassName_iff (named : checkEntityName e.name = .ok ()) (own : f.name = .text field)
    (usable : Text.isIdentifier field = true) (texts : (f.properties.getD "enumName").IsOptionalText)
    (made : enumName e f = .ok name) : ∃ s, name = .text s ∧ (IsClassName s ↔ ¬ f.MisnamesEnum e) := by
  unfold enumName at made
  rcases texts.cases with ⟨undeclared, -⟩ | ⟨truthy, text, nonempty⟩
  · obtain ⟨s, entity⟩ := exists_text_of_checkEntityName named
    have unnamed : ¬ (f.properties.getD "enumName").isTruthy = true := by
      rw [undeclared]
      exact Bool.false_ne_true
    rw [if_neg unnamed, defaultEnumName, own, entity, Value.display_text] at made
    cases made
    exact ⟨_, rfl, madeName_isClassName_iff entity named usable undeclared⟩
  · rw [if_pos truthy] at made
    split at made
    · next identifier =>
        cases made
        cases declared : f.properties.getD "enumName" with
        | text s =>
            rw [declared] at identifier nonempty
            exact ⟨s, rfl, declaredName_isClassName_iff declared (by simpa using nonempty) identifier⟩
        | illFormed t =>
            rw [declared, Value.display, Text.isIdentifier_shown] at identifier
            cases identifier
        | _ =>
            rw [declared] at text
            cases text
    · cases made

/-- In a generation whose declared names of enumerations are texts, every enumeration has a module. Its name can be given to a
class, unless it is declared and a keyword or reserved, or made from the name of an entity that ends in a line feed. -/
theorem generate_enum_names (h : (schema.generate naming).outcome = .ok modules)
    (texts : ∀ e ∈ schema.entities, ∀ f ∈ e.enumFields, (f.properties.getD "enumName").IsOptionalText) :
    ∀ e ∈ schema.entities, ∀ f ∈ e.enumFields, ∃ d s, EnumDescriptor.ofField e f = .ok d ∧ d.name = .text s ∧
      d.toModule (e.identifier naming) ∈ modules ∧ (IsClassName s ↔ ¬ f.MisnamesEnum e) := by
  obtain ⟨classes, byName, rs, generated, rfl⟩ := generate_eq_ok h
  intro e inBatch f field
  obtain ⟨r, member, of⟩ := generated.resource inBatch
  obtain ⟨d, listed, made⟩ := mem_results_of_mapM_eq_ok of.enumerations field
  obtain ⟨own, text, usable, -⟩ :=
    checkFieldName_eq_ok (checkFieldName_of_entityDescriptor of.read (List.mem_filter.1 field).1)
  obtain ⟨s, name, usableName⟩ := enumName_isClassName_iff (generated.prepared.named inBatch) text usable
    (texts e inBatch f field) (enumName_of_ofField made)
  refine ⟨d, s, made, name, ?_, usableName⟩
  rw [of.identifier_eq]
  exact generated.mem_modules.2 ⟨r, member, _, .enumeration listed⟩

end

/-- Lessons have a group, with an enumeration named `class`, and a level, with a made name for its enumeration. -/
def Schema.lessons : Schema :=
  { entities :=
      [{ name := .text "Lesson"
         id := .null
         fields :=
           [{ name := .text "group", dataType := .optionSet, required := true, unique := false, searchable := false
              properties := [(.text "enumName", .text "class"), (.text "options", .list [.text "5a", .text "5b"])] },
            { name := .text "level", dataType := .optionSet, required := true, unique := false, searchable := false
              properties := [(.text "options", .list [.text "easy"])] }] }]
    ids := [] }

/-- The enumeration of the groups of a lesson is a class named `class`. -/
theorem Schema.lessons_misname : ∃ modules, (lessons.generate ResourceNaming.derive).outcome = .ok modules ∧
    ∃ e ∈ lessons.entities, ∃ f ∈ e.enumFields, ∃ d s, EnumDescriptor.ofField e f = .ok d ∧ d.name = .text s ∧
      d.toModule (e.identifier ResourceNaming.derive) ∈ modules ∧ ¬ IsClassName s := by
  have returns : (lessons.generate ResourceNaming.derive).outcome.isOk = true := rfl
  obtain ⟨modules, made⟩ := isOk_iff.1 returns
  have texts : ∀ e ∈ lessons.entities, ∀ f ∈ e.enumFields, (f.properties.getD "enumName").IsOptionalText := by
    have all : ∀ e ∈ lessons.entities, ∀ f ∈ e.fields, (f.properties.getD "enumName").IsOptionalText := by
      simp only [lessons, List.forall_mem_cons]
      exact ⟨⟨.inr (.text "class"), .inl rfl, by simp⟩, by simp⟩
    exact fun e inBatch f field => all e inBatch f (List.mem_filter.1 field).1
  have field : lessons.entities[0].fields[0] ∈ lessons.entities[0].enumFields :=
    List.mem_filter.2 ⟨List.getElem_mem _, rfl⟩
  obtain ⟨d, s, built, name, inModules, usable⟩ := generate_enum_names made texts _ (List.getElem_mem _) _ field
  refine ⟨modules, made, _, List.getElem_mem _, _, field, d, s, built, name, inModules, ?_⟩
  rw [usable, not_not]
  exact .taken (s := "class") rfl (.inl (by decide))

end ResourceScaffold
