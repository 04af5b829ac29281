import ResourceScaffold.Value.Basic

/-!
# Keys of mappings

Two values are the same key when they are equal as numbers, texts and so on: `1`, `1.0` and `true` are one key. Lists,
sets and mappings are no keys, and a pair is one if both its parts are. An update keeps the place and the spelling of a
key that is already there.
-/

namespace ResourceScaffold

/-- A key in normal form: booleans and integral floating-point numbers are integers. -/
inductive Key where
  | null
  | int (i : Int)
  | float (x : Binary64)
  | text (s : String)
  | illFormed (t : IllFormedText)
  | moment (m : Moment)
  | bytes (data : List UInt8)
  | pair (first second : Key)
  deriving DecidableEq, Repr, Inhabited

/-- The key a value stands for; lists, sets and mappings stand for none. -/
def Value.key? : Value → Option Key
  | .null => some .null
  | .bool b => some (.int (if b then 1 else 0))
  | .int i => some (.int i)
  | .float x => some (match x.toInt? with
      | some i => .int i
      | none => .float x)
  | .text s => some (.text s)
  | .illFormed t => some (.illFormed t)
  | .moment m => some (.moment m)
  | .bytes data => some (.bytes data)
  | .pair a b => a.key?.bind fun first => b.key?.map fun second => .pair first second
  | .list _ => none
  | .set _ => none
  | .mapping _ => none
  | .marked _ _ => none

/-- Whether two values are the same key. -/
def Value.sameKey (a b : Value) : Bool :=
  a.key?.isSome && a.key? == b.key?

@[simp] theorem Value.key?_text (s : String) : (Value.text s).key? = some (.text s) := rfl

namespace Table

variable {α : Type}

/-- What is filed under a key. -/
def find? : Table α → Key → Option α
  | [], _ => none
  | (name, a) :: rest, key => if name.key? = some key then some a else find? rest key

/-- The table with `a` filed under a name: in place if the key is there, at the end if it is not. -/
def insert : Table α → Value → α → Table α
  | [], name, a => [(name, a)]
  | (first, old) :: rest, name, a =>
      if first.key? = name.key? then (first, a) :: rest else (first, old) :: insert rest name a

/-- The value inserted under a key is found there. -/
theorem find?_insert_self (t : Table α) {name : Value} {key : Key} (a : α) (h : name.key? = some key) :
    (t.insert name a).find? key = some a := by
  induction t with
  | nil => simp [insert, find?, h]
  | cons entry rest ih =>
      obtain ⟨first, old⟩ := entry
      rw [insert]
      split
      · next same => rw [find?, if_pos (same.trans h)]
      · next other => rw [find?, if_neg (fun same => other (same.trans h.symm)), ih]

/-- What stands under another key is left alone. -/
theorem find?_insert_of_ne (t : Table α) {name : Value} {key : Key} (a : α) (h : name.key? ≠ some key) :
    (t.insert name a).find? key = t.find? key := by
  induction t with
  | nil => simp [insert, find?, h]
  | cons entry rest ih =>
      obtain ⟨first, old⟩ := entry
      rw [insert]
      split
      · next same =>
          have other : first.key? ≠ some key := fun found => h (same.symm.trans found)
          rw [find?, if_neg other, find?, if_neg other]
      · next other => rw [find?, find?, ih]

end Table

end ResourceScaffold
