import ResourceScaffold.Proofs.Literals
import ResourceScaffold.Proofs.Spelling

/-!
# Line breaks of statements

A text without carriage returns is the same when the three newline conventions are read as one
(`NoReturn.universalNewlines`). Writing a statement adds no carriage return to its names and texts
(`Code.Statement.NoReturns.lines`), so the text of a module holds one only if a statement of it does
(`Code.SourceModule.noReturn_content`).
-/

namespace ResourceScaffold

open Code

/-! ## Texts without carriage returns -/

/-- A text without carriage returns. -/
def NoReturn (s : String) : Prop :=
  '\r' ∉ s.toList

/-- The characters of a literal are compared without decoding it. -/
theorem noReturn_of_chars {s : String} {chars : List Char} (h : s = String.ofList chars) (absent : '\r' ∉ chars) :
    NoReturn s := by
  rwa [h, NoReturn, String.toList_ofList]

/-- Two texts one after the other have no carriage return iff neither has one. -/
@[simp] theorem noReturn_append {s t : String} : NoReturn (s ++ t) ↔ NoReturn s ∧ NoReturn t := by
  rw [NoReturn, String.toList_append, List.mem_append, not_or]
  exact Iff.rfl

/-- Texts joined by a separator have none if neither they nor the separator have one. -/
theorem NoReturn.intercalate {separator : String} {texts : List String} (h : NoReturn separator)
    (each : ∀ t ∈ texts, NoReturn t) : NoReturn (separator.intercalate texts) := by
  intro member
  rcases mem_intercalate_texts member with between | ⟨t, listed, inText⟩
  · exact h between
  · exact each t listed inText

/-- A visible text has no carriage return. -/
theorem IsVisible.noReturn {s : String} (h : IsVisible s) : NoReturn s :=
  h.not_mem (by decide)

/-- The name of a constant has none. -/
theorem noReturn_of_isConstantChar {s : String} (h : ∀ c ∈ s.toList, isConstantChar c = true) : NoReturn s :=
  fun member => absurd (h _ member) (by decide)

/-- A module is imported under the characters of its path. -/
theorem NoReturn.importPath {path : String} (h : NoReturn path) : NoReturn (importPath path) := by
  intro member
  rw [ResourceScaffold.importPath, String.toList_ofList] at member
  obtain ⟨c, kept, same⟩ := List.mem_map.1 member
  have inPath : c ∈ path.toList := by
    unfold dropSuffix at kept
    split at kept
    · exact List.mem_of_mem_take kept
    · exact kept
  split at same
  · cases same
  · exact h (same ▸ inPath)

/-- The layout of a value has none: texts in it are quoted. -/
theorem Value.noReturn_layout (v : Value) : NoReturn v.layout := by
  refine v.layout_keeps
    { literal := fun v => v.isVisible_literal.noReturn, mark := ?_, newline := fun n => ?_
      empty := noReturn_of_chars rfl (by decide), append := fun hs ht => noReturn_append.2 ⟨hs, ht⟩ }
  · simp only [List.forall_mem_cons, List.not_mem_nil, false_imp_iff, implies_true, and_true]
    and_intros <;> exact noReturn_of_chars rfl (by decide)
  · refine noReturn_append.2 ⟨noReturn_of_chars rfl (by decide), noReturn_of_chars rfl fun member => ?_⟩
    exact absurd (List.eq_of_mem_replicate member) (by decide)

namespace Text

/-- Reading the newline conventions as one changes carriage returns only. -/
theorem universalNewlinesChars_eq {s : List Char} (h : '\r' ∉ s) : universalNewlinesChars s = s := by
  induction s with
  | nil => rfl
  | cons c rest ih =>
      rw [List.mem_cons, not_or] at h
      unfold universalNewlinesChars
      split
      · next same => cases same
      · next same =>
          cases same
          exact absurd rfl h.1
      · next same =>
          cases same
          rw [if_neg (Ne.symm h.1), ih h.2]

end Text

/-- A text without carriage returns is read as it is written. -/
theorem NoReturn.universalNewlines {s : String} (h : NoReturn s) : Text.universalNewlines s = s := by
  rw [Text.universalNewlines, Text.universalNewlinesChars_eq h, String.ofList_toList]

/-! ## Statements -/

namespace Code

/-- The names of an import hold no carriage return. -/
def Import.NoReturns (i : Import) : Prop :=
  NoReturn i.origin.dotted ∧ ∀ name ∈ i.names, NoReturn name

/-- The texts of a member of a class hold no carriage return. -/
def Member.NoReturns : Member → Prop
  | documentation text => NoReturn text
  | field name type requestName => NoReturn name ∧ NoReturn type.name ∧ ∀ request ∈ requestName, NoReturn request
  | constant name value => NoReturn name ∧ NoReturn value
  | method lines => ∀ t ∈ lines, NoReturn t
  | blank | modelConfig | pass => True

/-- The texts of a class hold no carriage return. -/
def ClassDefinition.NoReturns (c : ClassDefinition) : Prop :=
  NoReturn c.name ∧ (∀ base ∈ c.bases, NoReturn base) ∧ ∀ m ∈ c.members, m.NoReturns

/-- The texts of a parameter hold no carriage return. -/
def Parameter.NoReturns (p : Parameter) : Prop :=
  NoReturn p.name ∧ NoReturn p.type.name ∧ ∀ value ∈ p.default, NoReturn value

/-- The texts of an endpoint hold no carriage return. -/
structure Endpoint.NoReturns (e : Endpoint) : Prop where
  path : NoReturn e.path
  response : ∀ type ∈ e.response, NoReturn type.name
  name : NoReturn e.name
  parameters : ∀ p ∈ e.parameters, p.NoReturns
  body : ∀ t ∈ e.body, NoReturn t

/-- The texts of a statement hold no carriage return. -/
def Statement.NoReturns : Statement → Prop
  | blank => True
  | importModule name => NoReturn name
  | importNames i | importLate i => i.NoReturns
  | importForTypes imports => ∀ i ∈ imports, i.NoReturns
  | assign name value => NoReturn name ∧ NoReturn value
  | define c => c.NoReturns
  | function _ lines => ∀ t ∈ lines, NoReturn t
  | endpoint e => e.NoReturns

/-- The line of an import has no carriage return if the import has none. -/
theorem Import.NoReturns.line {i : Import} (h : i.NoReturns) : NoReturn i.line := by
  have names := NoReturn.intercalate (noReturn_of_chars (s := ", ") rfl (by decide)) h.2
  simp only [Import.line, noReturn_append]
  exact ⟨⟨⟨noReturn_of_chars rfl (by decide), h.1⟩, noReturn_of_chars rfl (by decide)⟩, names⟩

/-- Neither has the text of a type whose name has none. -/
theorem TypeExpr.noReturn_text {a : TypeExpr} (h : NoReturn a.name) : NoReturn a.text := by
  have base : NoReturn (if a.isList then "List[" ++ a.name ++ "]" else a.name) := by
    split
    · simp only [noReturn_append]
      exact ⟨⟨noReturn_of_chars rfl (by decide), h⟩, noReturn_of_chars rfl (by decide)⟩
    · exact h
  unfold TypeExpr.text
  simp only
  split
  · simp only [noReturn_append]
    exact ⟨⟨noReturn_of_chars rfl (by decide), base⟩, noReturn_of_chars rfl (by decide)⟩
  · exact base

/-- Neither has the default of a field, if the name in requests has none. -/
theorem noReturn_fieldDefault {a : TypeExpr} {requestName : Option String}
    (h : ∀ request ∈ requestName, NoReturn request) : NoReturn (fieldDefault a requestName) := by
  unfold fieldDefault
  split
  · split
    · next request =>
        simp only [noReturn_append]
        exact ⟨⟨noReturn_of_chars rfl (by decide), h request rfl⟩, noReturn_of_chars rfl (by decide)⟩
    · exact noReturn_of_chars rfl (by decide)
  · exact noReturn_of_chars rfl (by decide)

/-- Neither have the lines of a member without one. -/
theorem Member.NoReturns.lines {m : Member} (h : m.NoReturns) : ∀ t ∈ m.lines, NoReturn t := by
  have indent : NoReturn "    " := noReturn_of_chars rfl (by decide)
  cases m with
  | blank | modelConfig | pass => exact List.forall_mem_singleton.2 (noReturn_of_chars rfl (by decide))
  | documentation text =>
      simp only [Member.lines, List.forall_mem_singleton, noReturn_append]
      exact ⟨⟨noReturn_of_chars rfl (by decide), h⟩, noReturn_of_chars rfl (by decide)⟩
  | field name type requestName =>
      simp only [Member.lines, List.forall_mem_singleton, noReturn_append]
      exact ⟨⟨⟨⟨indent, h.1⟩, noReturn_of_chars rfl (by decide)⟩, TypeExpr.noReturn_text h.2.1⟩,
        noReturn_fieldDefault h.2.2⟩
  | constant name value =>
      simp only [Member.lines, List.forall_mem_singleton, noReturn_append]
      exact ⟨⟨⟨indent, h.1⟩, noReturn_of_chars rfl (by decide)⟩, h.2⟩
  | method lines =>
      intro t member
      obtain ⟨line, listed, rfl⟩ := List.mem_map.1 member
      split
      · exact noReturn_of_chars rfl (by decide)
      · exact noReturn_append.2 ⟨indent, h line listed⟩

/-- Neither have the lines of a class without one. -/
theorem ClassDefinition.NoReturns.lines {c : ClassDefinition} (h : c.NoReturns) : ∀ t ∈ c.lines, NoReturn t := by
  obtain ⟨name, bases, members⟩ := h
  refine List.forall_mem_cons.2 ⟨?_, fun t member => ?_⟩
  · have joined := NoReturn.intercalate (noReturn_of_chars (s := ", ") rfl (by decide)) bases
    simp only [heading, noReturn_append]
    refine ⟨⟨⟨noReturn_of_chars rfl (by decide), name⟩, ?_⟩, noReturn_of_chars rfl (by decide)⟩
    split
    · exact noReturn_of_chars rfl (by decide)
    · simp only [noReturn_append]
      exact ⟨⟨noReturn_of_chars rfl (by decide), joined⟩, noReturn_of_chars rfl (by decide)⟩
  · obtain ⟨m, listed, inLines⟩ := List.mem_flatMap.1 member
    exact (members m listed).lines t inLines

/-- Neither has the text of a parameter without one. -/
theorem Parameter.NoReturns.text {p : Parameter} (h : p.NoReturns) : NoReturn p.text := by
  obtain ⟨name, type, default⟩ := h
  simp only [Parameter.text, noReturn_append]
  refine ⟨⟨⟨name, noReturn_of_chars rfl (by decide)⟩, TypeExpr.noReturn_text type⟩, ?_⟩
  split
  · next value given => exact noReturn_append.2 ⟨noReturn_of_chars rfl (by decide), default value given⟩
  · exact noReturn_of_chars rfl (by decide)

/-- Neither has the decorator of a route without one. -/
theorem Endpoint.NoReturns.decorator {e : Endpoint} (h : e.NoReturns) : NoReturn e.decorator := by
  have method : NoReturn e.method.name := by cases e.method <;> exact noReturn_of_chars rfl (by decide)
  simp only [Endpoint.decorator, noReturn_append]
  refine ⟨⟨⟨⟨⟨⟨⟨?_, method⟩, ?_⟩, h.path⟩, ?_⟩, ?_⟩, ?_⟩, ?_⟩
  · exact noReturn_of_chars rfl (by decide)
  · exact noReturn_of_chars rfl (by decide)
  · exact noReturn_of_chars rfl (by decide)
  · split
    · next model given =>
        exact noReturn_append.2 ⟨noReturn_of_chars rfl (by decide), TypeExpr.noReturn_text (h.response model given)⟩
    · exact noReturn_of_chars rfl (by decide)
  · split
    · exact noReturn_append.2 ⟨noReturn_of_chars rfl (by decide), (isNumber_intText _).isVisible.noReturn⟩
    · exact noReturn_of_chars rfl (by decide)
  · exact noReturn_of_chars rfl (by decide)

/-- Neither have the lines of its signature. -/
theorem Endpoint.NoReturns.signature {e : Endpoint} (h : e.NoReturns) : ∀ t ∈ e.signature, NoReturn t := by
  have texts : ∀ t ∈ e.parameters.map Parameter.text, NoReturn t := by
    intro t member
    obtain ⟨p, listed, rfl⟩ := List.mem_map.1 member
    exact (h.parameters p listed).text
  have joined := NoReturn.intercalate (noReturn_of_chars (s := ", ") rfl (by decide)) texts
  have start : NoReturn ("async def " ++ e.name ++ "(") := by
    simp only [noReturn_append]
    exact ⟨⟨noReturn_of_chars rfl (by decide), h.name⟩, noReturn_of_chars rfl (by decide)⟩
  have indent : NoReturn "    " := noReturn_of_chars rfl (by decide)
  have close : NoReturn "):" := noReturn_of_chars rfl (by decide)
  unfold Endpoint.signature
  cases e.layout with
  | inline => exact List.forall_mem_singleton.2 (noReturn_append.2 ⟨noReturn_append.2 ⟨start, joined⟩, close⟩)
  | joined =>
      simp only [List.forall_mem_cons, List.not_mem_nil, false_imp_iff, implies_true, and_true]
      exact ⟨start, noReturn_append.2 ⟨indent, joined⟩, close⟩
  | stacked =>
      intro t member
      simp only [List.cons_append, List.mem_cons, List.mem_append, List.mem_map, List.not_mem_nil, or_false] at member
      rcases member with rfl | ⟨text, listed, rfl⟩ | rfl
      · exact start
      · simp only [noReturn_append]
        exact ⟨⟨indent, texts text (List.mem_map.2 listed)⟩, noReturn_of_chars rfl (by decide)⟩
      · exact close

/-- Neither have all its lines. -/
theorem Endpoint.NoReturns.lines {e : Endpoint} (h : e.NoReturns) : ∀ t ∈ e.lines, NoReturn t := by
  intro t member
  rw [Endpoint.lines, List.cons_append, List.mem_cons, List.mem_append] at member
  rcases member with rfl | inSignature | inBody
  · exact h.decorator
  · exact h.signature t inSignature
  · obtain ⟨line, listed, rfl⟩ := List.mem_map.1 inBody
    exact noReturn_append.2 ⟨noReturn_of_chars rfl (by decide), h.body line listed⟩

/-- Writing a statement adds no carriage return. -/
theorem Statement.NoReturns.lines {s : Statement} (h : s.NoReturns) : ∀ t ∈ s.lines, NoReturn t := by
  cases s with
  | blank => exact List.forall_mem_singleton.2 (noReturn_of_chars rfl (by decide))
  | importModule name =>
      exact List.forall_mem_singleton.2 (noReturn_append.2 ⟨noReturn_of_chars rfl (by decide), h⟩)
  | importNames i => exact List.forall_mem_singleton.2 (Import.NoReturns.line h)
  | importForTypes imports =>
      refine List.forall_mem_cons.2 ⟨noReturn_of_chars rfl (by decide), fun t member => ?_⟩
      obtain ⟨i, listed, rfl⟩ := List.mem_map.1 member
      exact noReturn_append.2 ⟨noReturn_of_chars rfl (by decide), (h i listed).line⟩
  | importLate i =>
      have line : NoReturn i.line := Import.NoReturns.line h
      exact List.forall_mem_singleton.2 (noReturn_append.2 ⟨line, noReturn_of_chars rfl (by decide)⟩)
  | assign name value =>
      simp only [Statement.lines, List.forall_mem_singleton, noReturn_append]
      exact ⟨⟨h.1, noReturn_of_chars rfl (by decide)⟩, h.2⟩
  | define c => exact ClassDefinition.NoReturns.lines h
  | function name lines => exact h
  | endpoint e => exact Endpoint.NoReturns.lines h

/-- A module whose statements hold no carriage return holds none. -/
theorem SourceModule.noReturn_content {m : SourceModule} (h : ∀ s ∈ m.body, s.NoReturns) : NoReturn m.content := by
  refine noReturn_append.2 ⟨.intercalate (noReturn_of_chars rfl (by decide)) fun t member => ?_,
    noReturn_of_chars rfl (by decide)⟩
  obtain ⟨s, listed, inLines⟩ := List.mem_flatMap.1 member
  exact (h s listed).lines t inLines

end Code

end ResourceScaffold
