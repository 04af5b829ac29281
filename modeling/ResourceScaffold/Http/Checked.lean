import ResourceScaffold.Value.Key

/-!
# Checking a document

A check of a value gives what the value stands for or every complaint about it. A complaint says what is wrong, where, by the
names and positions that lead to the place, and with which value.
-/

namespace ResourceScaffold.Http

/-- A step into a document. -/
inductive Step where
  | key (name : WideText)
  | position (i : Nat)
  deriving DecidableEq, Repr

/-- The steps that lead to a place in a document. -/
abbrev Place := List Step

/-- What is wrong with a value. -/
inductive Complaint where
  | missing
  | notJson
  | notAnObject
  | notAText
  | notAList
  | notAMapping
  /-- The value is none of the names that are allowed. -/
  | notAllowed
  | notABoolean
  /-- The value is a text or number that means no boolean. -/
  | unreadBoolean
  deriving DecidableEq, Repr

/-- The name of a complaint. -/
def Complaint.name : Complaint → String
  | missing => "missing"
  | notJson => "json_invalid"
  | notAnObject => "model_attributes_type"
  | notAText => "string_type"
  | notAList => "list_type"
  | notAMapping => "dict_type"
  | notAllowed => "literal_error"
  | notABoolean => "bool_type"
  | unreadBoolean => "bool_parsing"

/-- A complaint about the value at a place. -/
structure Finding where
  complaint : Complaint
  place : Place
  value : Value
  deriving Repr

/-- What a value stands for, or what is found wrong with it. -/
inductive Checked (α : Type) where
  | valid (a : α)
  | invalid (findings : List Finding)
  deriving Repr

namespace Checked

variable {α β : Type}

/-- A single complaint. -/
def complain (complaint : Complaint) (place : Place) (value : Value) : Checked α :=
  .invalid [{ complaint, place, value }]

/-- A function of what a value stands for. -/
def map (f : α → β) : Checked α → Checked β
  | valid a => valid (f a)
  | invalid findings => invalid findings

/-- A function and its argument, checked one after the other; what is found in both is kept. -/
def both (f : Checked (α → β)) (x : Checked α) : Checked β :=
  match f, x with
  | valid f, valid a => valid (f a)
  | valid _, invalid findings => invalid findings
  | invalid findings, valid _ => invalid findings
  | invalid findings, invalid others => invalid (findings ++ others)

/-- Several checks one after the other; what is found in all of them is kept. -/
def all : List (Checked α) → Checked (List α)
  | [] => valid []
  | x :: rest => (x.map (· :: ·)).both (all rest)

/-- Two parts are valid together where each is valid by itself. -/
theorem both_eq_valid {f : Checked (α → β)} {x : Checked α} {b : β} :
    f.both x = valid b ↔ ∃ g a, f = valid g ∧ x = valid a ∧ g a = b := by
  cases f <;> cases x <;> simp [both]

/-- The parts of a list are valid where the first is and the others are. -/
theorem all_cons_eq_valid {x : Checked α} {rest : List (Checked α)} {as : List α} :
    all (x :: rest) = valid as ↔ ∃ a tail, x = valid a ∧ all rest = valid tail ∧ a :: tail = as := by
  cases x <;> simp [all, map, both_eq_valid]

/-- The parts of a list are valid where each one holds its value. -/
theorem all_eq_valid {xs : List (Checked α)} {as : List α} : all xs = valid as ↔ xs = as.map valid := by
  induction xs generalizing as with
  | nil => cases as <;> simp [all]
  | cons x rest ih =>
      rw [all_cons_eq_valid]
      cases as with
      | nil => simp
      | cons a as => simp [ih]

end Checked

end ResourceScaffold.Http
