import ResourceScaffold.Fault
import ResourceScaffold.Value.Key

/-!
# Access to values of a document

A document is not checked before it is read, so every access says what happens on a value of another type.
-/

namespace ResourceScaffold

namespace Value

/-- The members of an object. -/
def members : Value → Except Fault Entries
  | mapping entries => .ok entries
  | marked _ v => v.members
  | _ => .error (.misuse .missingOperation)

/-- What a value consists of: the items of a list or set, the keys of a mapping, the code points of a text, the numbers of
bytes. -/
def elements : Value → Except Fault (List Value)
  | list items => .ok items
  | pair first second => .ok [first, second]
  | set items => .ok items
  | mapping entries => .ok (entries.map Prod.fst)
  | text s => .ok (s.toList.map fun c => text c.toString)
  | illFormed t => .ok (t.text.points.map fun p => ofWide ⟨[p]⟩)
  | bytes data => .ok (data.map fun b => int b.toNat)
  | marked _ v => v.elements
  | _ => .error (.misuse .wrongOperand)

/-- The key a value stands for. -/
def asKey (v : Value) : Except Fault Key :=
  match v.key? with
  | some key => .ok key
  | none => .error (.misuse .wrongOperand)

/-- The text a value is, for a name that has passed its check and so has no surrogates. -/
def asText : Value → Except Fault String
  | text s => .ok s
  | _ => .error (.misuse .wrongOperand)

/-- The text a value is, as it is shown, for an operation that accepts nothing else. -/
def asShownText : Value → Except Fault String
  | text s => .ok s
  | illFormed t => .ok t.text.shown
  | _ => .error (.misuse .wrongOperand)

@[simp] theorem asText_text (s : String) : (text s).asText = .ok s := rfl

@[simp] theorem asShownText_text (s : String) : (text s).asShownText = .ok s := rfl

end Value

namespace Table

variable {α : Type}

/-- What is filed under a name that has to be there. -/
def lookup (table : Table α) (name : Value) : Except Fault α := do
  let key ← name.asKey
  match table.find? key with
  | some a => .ok a
  | none => .error (.misuse .absentKey)

end Table

namespace Entries

/-- The entries with one more pair, given as a value that consists of a key and a value. -/
def insertPair (entries : Entries) (pair : Value) : Except Fault Entries := do
  match ← pair.elements with
  | [name, value] =>
      let _ ← name.asKey
      return entries.insert name value
  | _ => .error (.misuse .notAPair)

/-- The entries updated by those of a mapping or by a sequence of pairs. -/
def update (entries : Entries) : Value → Except Fault Entries
  | .mapping news => .ok (news.foldl (fun acc (name, value) => acc.insert name value) entries)
  | .marked _ news => entries.update news
  | pairs => do (← pairs.elements).foldlM insertPair entries

end Entries

end ResourceScaffold
