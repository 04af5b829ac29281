import ResourceScaffold.Naming

/-!
# Generated modules as data

A generated module is a path, the statements of its body and the paths of the generated modules it imports. Statements
keep what matters about generated code as data: which names are imported from where, which classes have which
attributes, which routes have which parameters. `Code.Text` writes them.
-/

namespace ResourceScaffold.Code

/-- Where imported names come from: a library, or the generated module at a path. -/
inductive Origin where
  | library (name : String)
  | generated (path : String)
  deriving DecidableEq, Repr

/-- An import of names. -/
structure Import where
  origin : Origin
  names : List String
  deriving DecidableEq, Repr

/-- The type of an attribute or parameter: one value or a list of values of a named type, perhaps optional. -/
structure TypeExpr where
  name : String
  isList : Bool := false
  optional : Bool := false
  deriving DecidableEq, Repr

/-- A member of a class body. -/
inductive Member where
  | blank
  /-- A line of documentation. -/
  | documentation (text : String)
  /-- The configuration of a model class. -/
  | modelConfig
  /-- The statement of an empty body. -/
  | pass
  /-- An attribute; one that is optional defaults to none, under another name in requests if one is given. -/
  | field (name : String) (type : TypeExpr) (requestName : Option String)
  /-- A name bound to an expression. -/
  | constant (name value : String)
  /-- A method, given by the lines of its text. -/
  | method (lines : List String)
  deriving DecidableEq, Repr

/-- A class. -/
structure ClassDefinition where
  name : String
  bases : List String
  members : List Member
  deriving DecidableEq, Repr

/-- A method of requests. -/
inductive Method where
  | get
  | post
  | patch
  | delete
  deriving DecidableEq, Repr

/-- A parameter of a route function. -/
structure Parameter where
  name : String
  type : TypeExpr
  default : Option String := none
  deriving DecidableEq, Repr

/-- How the parameters of a function are laid out: on the line of its name, together on a line of their own, or each on
a line of its own. -/
inductive ParameterLayout where
  | inline
  | joined
  | stacked
  deriving DecidableEq, Repr

/-- A function that answers the requests of one method to one path. -/
structure Endpoint where
  method : Method
  path : String
  response : Option TypeExpr := none
  status : Option Nat := none
  name : String
  layout : ParameterLayout
  parameters : List Parameter
  /-- The lines of the body, without their common indentation. -/
  body : List String
  deriving DecidableEq, Repr

/-- A statement at the top level of a module. -/
inductive Statement where
  | blank
  | importModule (name : String)
  | importNames (i : Import)
  /-- Imports for type checkers only. -/
  | importForTypes (imports : List Import)
  /-- An import after the class that refers to it. -/
  | importLate (i : Import)
  /-- A name bound to an expression. -/
  | assign (name value : String)
  | define (c : ClassDefinition)
  /-- A function, given by the lines of its text. -/
  | function (name : String) (lines : List String)
  | endpoint (e : Endpoint)
  deriving DecidableEq, Repr

/-- A generated module. -/
structure SourceModule where
  path : String
  body : List Statement
  /-- The paths of the generated modules that this one imports. -/
  dependencies : List String := []
  deriving DecidableEq, Repr, Inhabited

/-- The import of a class from its own module. -/
def Import.ofClass (entityName className : String) : Import :=
  { origin := .generated (classPath entityName className), names := [className] }

/-- The path of the generated module that an import reads, if it reads one. -/
def Import.generatedPath? (i : Import) : Option String :=
  match i.origin with
  | .generated path => some path
  | .library _ => none

/-- The elements of a list without those that agree under `f` with an earlier one. -/
def distinctBy {α β : Type} [DecidableEq β] (f : α → β) : List α → List α
  | [] => []
  | a :: rest => a :: (distinctBy f rest).filter fun b => decide (f b ≠ f a)

/-- What is kept was there before. -/
theorem mem_of_mem_distinctBy {α β : Type} [DecidableEq β] {f : α → β} {as : List α} {a : α}
    (h : a ∈ distinctBy f as) : a ∈ as := by
  induction as with
  | nil => exact h
  | cons first rest ih =>
      rcases List.mem_cons.1 h with same | later
      · exact same ▸ List.mem_cons_self
      · exact List.mem_cons_of_mem _ (ih (List.mem_filter.1 later).1)

/-- Every element has one that is kept and agrees with it under the function. -/
theorem exists_mem_distinctBy {α β : Type} [DecidableEq β] (f : α → β) {as : List α} {a : α} (h : a ∈ as) :
    ∃ b ∈ distinctBy f as, f b = f a := by
  induction as with
  | nil => cases h
  | cons first rest ih =>
      by_cases same : f a = f first
      · exact ⟨first, List.mem_cons_self, same.symm⟩
      · have later : a ∈ rest := by
          rcases List.mem_cons.1 h with found | later
          · exact absurd (congrArg f found) same
          · exact later
        obtain ⟨b, hb, agree⟩ := ih later
        refine ⟨b, List.mem_cons_of_mem _ (List.mem_filter.2 ⟨hb, ?_⟩), agree⟩
        exact decide_eq_true fun found => same (agree.symm.trans found)

/-- The kept elements differ under the function. -/
theorem nodup_map_distinctBy {α β : Type} [DecidableEq β] (f : α → β) (as : List α) :
    ((distinctBy f as).map f).Nodup := by
  induction as with
  | nil => exact List.nodup_nil
  | cons first rest ih =>
      rw [distinctBy, List.map_cons, List.nodup_cons]
      constructor
      · intro found
        obtain ⟨b, hb, same⟩ := List.mem_map.1 found
        exact of_decide_eq_true (List.mem_filter.1 hb).2 same
      · exact ih.sublist (List.filter_sublist.map f)

end ResourceScaffold.Code
