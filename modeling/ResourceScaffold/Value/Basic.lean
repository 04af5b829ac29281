import ResourceScaffold.Number.Binary64
import ResourceScaffold.Text.CodePoint

/-!
# Values of a schema document

What a document can hold: the JSON values, integers and floating-point numbers apart, and the dates, bytes, sets and
pairs of YAML. A text is a string, unless it has a surrogate: then it is an ill-formed text. A mapping keeps its entries
in the order in which they were written, and its keys may be any values that can serve as keys.

A YAML document can hold collections that hold themselves. Such a collection is written out to a depth that no reader
of a document reaches, and every collection of the document is marked, so that the ones that are the same can be told.
-/

namespace ResourceScaffold

/-- A time of day, with the distance from universal time in minutes if it is given. -/
structure TimeOfDay where
  hour : Nat
  minute : Nat
  second : Nat
  microsecond : Nat
  offset : Option Int
  deriving DecidableEq, Repr, Inhabited

/-- A date, possibly with a time of day. -/
structure Moment where
  year : Nat
  month : Nat
  day : Nat
  time : Option TimeOfDay
  deriving DecidableEq, Repr, Inhabited

/-- A value of a schema document. -/
inductive Value where
  | null
  | bool (b : Bool)
  | int (i : Int)
  | float (x : Binary64)
  | text (s : String)
  /-- A text that has a surrogate. -/
  | illFormed (t : IllFormedText)
  | moment (m : Moment)
  | bytes (data : List UInt8)
  | list (items : List Value)
  /-- One of a list of pairs. -/
  | pair (first second : Value)
  /-- A set of keys, in order. -/
  | set (items : List Value)
  | mapping (entries : List (Value × Value))
  /-- A collection of a document in which collections hold themselves, with its mark. -/
  | marked (mark : Nat) (collection : Value)
  deriving Repr, Inhabited

/-- Things filed under values, in order. -/
abbrev Table (α : Type) := List (Value × α)

/-- The entries of a mapping, in order. -/
abbrev Entries := Table Value

namespace Value

/-- Whether a value counts as true: not null, false, zero or empty. -/
def isTruthy : Value → Bool
  | null => false
  | bool b => b
  | int i => i != 0
  | float x => !x.isZero
  | text s => s != ""
  | illFormed _ => true
  | moment _ => true
  | bytes data => !data.isEmpty
  | list items => !items.isEmpty
  | pair _ _ => true
  | set items => !items.isEmpty
  | mapping entries => !entries.isEmpty
  | marked _ v => v.isTruthy

/-- A value without its mark. -/
def unmarked : Value → Value
  | marked _ v => v.unmarked
  | v => v

/-- The value that a text of code points is. -/
def ofWide (t : WideText) : Value :=
  if h : t.isWellFormed = false then illFormed ⟨t, h⟩ else text t.shown

/-- Whether a value is the given text. -/
def isText (v : Value) (s : String) : Bool :=
  match v with
  | text t => t == s
  | _ => false

/-- The string a value is, if it is one. -/
def text? : Value → Option String
  | text s => some s
  | _ => none

@[simp] theorem isTruthy_text (s : String) : (text s).isTruthy = (s != "") := rfl

@[simp] theorem isTruthy_bool (b : Bool) : (bool b).isTruthy = b := rfl

@[simp] theorem isText_text (s t : String) : (text s).isText t = (s == t) := rfl

/-- A text, well-formed or not. -/
inductive IsText : Value → Prop where
  | text (s : String) : IsText (text s)
  | illFormed (t : IllFormedText) : IsText (illFormed t)

attribute [simp] IsText.text IsText.illFormed

/-- Whatever was read from a literal is a text. -/
theorem isText_ofWide (t : WideText) : (ofWide t).IsText := by
  unfold ofWide
  split
  · exact .illFormed _
  · exact .text _

/-- A text of code points that are characters is the text of these. -/
theorem ofWide_of_isWellFormed {t : WideText} (h : t.isWellFormed = true) : ofWide t = text t.shown := by
  rw [ofWide, dif_neg (by simp [h])]

/-- A text of characters alone is an ordinary text. -/
@[simp] theorem ofWide_ofString (s : String) : ofWide (.ofString s) = text s := by
  simp [ofWide]

/-- A text that is not well formed stays what it is. -/
@[simp] theorem ofWide_text (t : IllFormedText) : ofWide t.text = illFormed t := by
  simp [ofWide, t.illFormed]

end Value

namespace Entries

/-- The value under a text key. -/
def get? : Entries → String → Option Value
  | [], _ => none
  | (key, value) :: rest, name => if key.isText name then some value else get? rest name

/-- The value under a text key, null if there is none. -/
def getD (entries : Entries) (name : String) : Value :=
  (get? entries name).getD .null

end Entries

end ResourceScaffold
