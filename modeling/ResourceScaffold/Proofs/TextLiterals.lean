import Mathlib.Algebra.Ring.Nat
import ResourceScaffold.Proofs.Outcome
import ResourceScaffold.Resource.DataModule

/-!
# What the values of enumerations stand for

The value of a member is written as a JSON string, and generated code reads it as a literal of its own. `literalPoints?` is that
reader: a machine that goes over the characters once and knows all escapes of literals but those of characters by name. Every
escape of JSON is also one of literals, but one of JSON stands for a unit of UTF-16 and one of literals for a code point. So a
literal stands for the units of the text (`literalPoints?_string`), and these are its code points iff none lies beyond the basic
plane (`units_eq_points_iff`): a pair of surrogates is read as two code points.
-/

namespace ResourceScaffold

namespace Code

/-! ## Literals of texts -/

/-- Where the reader of a literal stands, once it is past the opening quotation mark. -/
inductive LiteralState where
  | text
  /-- After a backslash. -/
  | escape
  /-- In an octal escape, with the number so far and how many more digits there may be. -/
  | octal (left number : Nat)
  /-- In a hexadecimal escape, with the number so far and how many digits there have to be after the next one. -/
  | hexadecimal (left number : Nat)
  /-- After the closing quotation mark. -/
  | closed
  deriving DecidableEq, Repr

/-- Characters that do not stand in the line of a literal. -/
def endsLine (c : Char) : Bool :=
  c == '\n' || c == '\r' || c == '\x00'

/-- The value of an octal digit. -/
def octalValue? (c : Char) : Option Nat :=
  if 48 ≤ c.toNat ∧ c.toNat ≤ 55 then some (c.toNat - 48) else none

/-- The code point that a letter or mark stands for after a backslash. -/
def escapedPoint? : Char → Option Nat
  | '\\' => some 92
  | '\'' => some 39
  | '"' => some 34
  | 'a' => some 7
  | 'b' => some 8
  | 't' => some 9
  | 'n' => some 10
  | 'v' => some 11
  | 'f' => some 12
  | 'r' => some 13
  | _ => none

/-- How many digits a hexadecimal escape has after its first one. -/
def furtherDigits? : Char → Option Nat
  | 'x' => some 1
  | 'u' => some 3
  | 'U' => some 7
  | _ => none

/-- The code points beyond the last one. -/
def pointLimit : Nat := 0x110000

/-- A character that belongs to no escape: where the reader stands after it, and which code points it has read. -/
def readPlain (quote c : Char) : Option (LiteralState × List Nat) :=
  if c = quote then some (.closed, [])
  else if c = '\\' then some (.escape, [])
  else if endsLine c then none
  else some (.text, [c.toNat])

/-- A character after a backslash. A line feed is left out with the backslash; where no escape begins, both are kept. -/
def readEscaped (c : Char) : Option (LiteralState × List Nat) :=
  match escapedPoint? c, octalValue? c, furtherDigits? c with
  | some point, _, _ => some (.text, [point])
  | none, some digit, _ => some (.octal 2 digit, [])
  | none, none, some left => some (.hexadecimal left 0, [])
  | none, none, none =>
      if c = '\n' then some (.text, [])
      else if c = 'N' || endsLine c then none
      else some (.text, [92, c.toNat])

/-- One character of a literal. -/
def readStep (quote : Char) : LiteralState → Char → Option (LiteralState × List Nat)
  | .text, c => readPlain quote c
  | .escape, c => readEscaped c
  | .octal left number, c =>
      match left, octalValue? c with
      | left + 1, some digit => some (.octal left (8 * number + digit), [])
      | _, _ => (readPlain quote c).map fun read => (read.1, number :: read.2)
  | .hexadecimal (left + 1) number, c => (Text.hexValue? c).map fun digit => (.hexadecimal left (16 * number + digit), [])
  | .hexadecimal 0 number, c =>
      (Text.hexValue? c).bind fun digit =>
        if 16 * number + digit < pointLimit then some (.text, [16 * number + digit]) else none
  | .closed, _ => none

/-- The code points of the rest of a literal, which ends with its closing quotation mark. -/
def readFrom (quote : Char) : LiteralState → List Char → Option (List Nat)
  | .closed, [] => some []
  | _, [] => none
  | state, c :: rest =>
      (readStep quote state c).bind fun read => (readFrom quote read.1 rest).map (read.2 ++ ·)

/-- The code points of the text that a literal between single quotation marks or double ones stands for. -/
def literalPoints? (s : String) : Option (List Nat) :=
  match s.toList with
  | quote :: rest => if quote = '"' ∨ quote = '\'' then readFrom quote .text rest else none
  | [] => none

/-- A literal is read one character at a time. -/
theorem readFrom_cons {quote : Char} {state : LiteralState} {c : Char} {rest : List Char} :
    readFrom quote state (c :: rest) =
      (readStep quote state c).bind fun read => (readFrom quote read.1 rest).map (read.2 ++ ·) := by
  cases state <;> rfl

/-- A character that only moves the reader on. -/
theorem readFrom_of_silent {quote : Char} {state next : LiteralState} {c : Char} {rest : List Char}
    (h : readStep quote state c = some (next, [])) : readFrom quote state (c :: rest) = readFrom quote next rest := by
  rw [readFrom_cons, h]
  simp

/-- A character with which a code point has been read. -/
theorem readFrom_of_point {quote : Char} {state next : LiteralState} {c : Char} {rest : List Char} {point : Nat}
    (h : readStep quote state c = some (next, [point])) :
    readFrom quote state (c :: rest) = (readFrom quote next rest).map (point :: ·) := by
  rw [readFrom_cons, h]
  rfl

end Code

namespace Text

/-! ## Hexadecimal numbers -/

/-- A hexadecimal digit stands for its own value. -/
theorem hexValue?_digitChar {digit : Nat} (h : digit < 16) : hexValue? (Nat.digitChar digit) = some digit := by
  have each : ∀ d < 16, hexValue? (Nat.digitChar d) = some d := by decide
  exact each digit h

/-- One digit is enough below sixteen. -/
theorem hexPadded_one {n : Nat} (h : n < 16) : hexPadded 1 n = [Nat.digitChar n] := by
  simp [hexPadded, Nat.toDigits_of_lt_base h]

/-- The last digit of a padded number is that of the remainder, and the others are those of the quotient. -/
theorem hexPadded_succ (width n : Nat) :
    hexPadded (width + 2) n = hexPadded (width + 1) (n / 16) ++ [Nat.digitChar (n % 16)] := by
  unfold hexPadded
  by_cases small : n < 16
  · have quotient : n / 16 = 0 := Nat.div_eq_of_lt small
    rw [Nat.toDigits_of_lt_base small, quotient, Nat.toDigits_zero, Nat.mod_eq_of_lt small]
    simp [List.replicate_succ']
  · have large : 16 ≤ n := Nat.le_of_not_lt small
    rw [Nat.toDigits_of_base_le (by decide) large]
    simp

end Text

open Code

/-! ## Escapes -/

section

variable {quote : Char} {rest : List Char}

/-- Padded digits are read as their number, after the number that the escape has so far: by induction on how many there are,
which takes the last digit away. -/
theorem readFrom_hexPadded (width left number : Nat) {n : Nat} (h : n < 16 ^ (width + 1)) :
    readFrom quote (.hexadecimal (left + (width + 1)) number) (Text.hexPadded (width + 1) n ++ rest) =
      readFrom quote (.hexadecimal left (16 ^ (width + 1) * number + n)) rest := by
  induction width generalizing left n rest with
  | zero =>
      have small : n < 16 := by simpa using h
      have read : readStep quote (.hexadecimal (left + 1) number) (Nat.digitChar n) =
          some (.hexadecimal left (16 ^ 1 * number + n), []) := by
        rw [readStep, Text.hexValue?_digitChar small, Option.map_some, Nat.pow_one]
      rw [Text.hexPadded_one small, List.singleton_append]
      exact readFrom_of_silent read
  | succ width ih =>
      have quotient : n / 16 < 16 ^ (width + 1) := by
        rw [Nat.div_lt_iff_lt_mul (by decide), ← Nat.pow_succ]
        exact h
      have remainder : n % 16 < 16 := Nat.mod_lt _ (by decide)
      have sum : 16 * (16 ^ (width + 1) * number + n / 16) + n % 16 = 16 ^ (width + 2) * number + n := by
        rw [Nat.pow_succ 16 (width + 1), Nat.mul_add, ← Nat.mul_assoc, Nat.mul_comm 16 (16 ^ (width + 1))]
        omega
      have read : readStep quote (.hexadecimal (left + 1) (16 ^ (width + 1) * number + n / 16)) (Nat.digitChar (n % 16)) =
          some (.hexadecimal left (16 ^ (width + 2) * number + n), []) := by
        rw [readStep, Text.hexValue?_digitChar remainder, Option.map_some, sum]
      have count : left + (width + 1 + 1) = left + 1 + (width + 1) := by omega
      rw [Text.hexPadded_succ, List.append_assoc, List.singleton_append, count, ih (left + 1) quotient]
      exact readFrom_of_silent read

/-- The escape of a unit is read as the code point with its number. -/
theorem readFrom_unitEscape {unit : Nat} (h : unit < 0x10000) :
    readFrom '"' .text (Json.unitEscape unit ++ rest) = (readFrom '"' .text rest).map (unit :: ·) := by
  have quotient : unit / 16 < 16 ^ 3 := by omega
  have remainder : unit % 16 < 16 := Nat.mod_lt _ (by decide)
  have sum : 16 * (16 ^ 3 * 0 + unit / 16) + unit % 16 = unit := by omega
  have last : readStep '"' (.hexadecimal 0 (16 ^ 3 * 0 + unit / 16)) (Nat.digitChar (unit % 16)) = some (.text, [unit]) := by
    have limit : unit < pointLimit := by
      rw [pointLimit]
      omega
    rw [readStep, Text.hexValue?_digitChar remainder, Option.bind_some, sum, if_pos limit]
  have opened : readStep '"' .text '\\' = some (.escape, []) := rfl
  have begun : readStep '"' .escape 'u' = some (.hexadecimal 3 0, []) := rfl
  rw [Json.unitEscape, List.cons_append, List.cons_append, readFrom_of_silent opened, readFrom_of_silent begun,
    Text.hexPadded_succ, List.append_assoc, List.singleton_append]
  exact (readFrom_hexPadded 2 0 0 quotient).trans (readFrom_of_point last)

/-- An escape of a backslash and one character is read as the code point that the character stands for. -/
theorem readFrom_escape {c : Char} {point : Nat} (h : escapedPoint? c = some point) :
    readFrom '"' .text ('\\' :: c :: rest) = (readFrom '"' .text rest).map (point :: ·) := by
  have opened : readStep '"' .text '\\' = some (.escape, []) := rfl
  have read : readStep '"' .escape c = some (.text, [point]) := by
    rw [readStep, readEscaped, h]
  rw [readFrom_of_silent opened, readFrom_of_point read]

end

/-! ## Units -/

/-- The units of a code point in UTF-16: one in the basic plane, and a pair of surrogates beyond it. -/
def units (p : CodePoint) : List Nat :=
  if p.toNat < 0x10000 then [p.toNat]
  else [0xd800 + (p.toNat - 0x10000) / 0x400, 0xdc00 + (p.toNat - 0x10000) % 0x400]

/-- Surrogates lie in the basic plane. -/
theorem CodePoint.surrogate_lt (n : Fin 0x800) : (surrogate n).toNat < 0x10000 := by
  have bound := n.isLt
  rw [toNat]
  omega

/-- A code point lies below the limit of the code space. -/
theorem CodePoint.toNat_lt_pointLimit (p : CodePoint) : p.toNat < pointLimit := by
  cases p with
  | char c =>
      have valid := c.valid
      simp only [UInt32.isValidChar, Nat.isValidChar] at valid
      show c.val.toNat < 0x110000
      omega
  | surrogate n => exact Nat.lt_trans (surrogate_lt n) (by decide)

/-- How a character is written inside a JSON string. -/
inductive Json.Writes (c : Char) : List Char → Prop where
  | escape {d : Char} (point : escapedPoint? d = some c.toNat) (basic : c.toNat < 0x10000) : Writes c ['\\', d]
  | plain (visible : 0x20 ≤ c.toNat ∧ c.toNat < 0x7f) (quotation : c ≠ '"') (backslash : c ≠ '\\') : Writes c [c]
  | unit (basic : c.toNat < 0x10000) : Writes c (unitEscape c.toNat)
  | pair (beyond : ¬ c.toNat < 0x10000) :
      Writes c (unitEscape (0xd800 + (c.toNat - 0x10000) / 0x400) ++ unitEscape (0xdc00 + (c.toNat - 0x10000) % 0x400))

/-- What is written for a character is read as that character. -/
theorem Json.escapeChar_writes (c : Char) : Writes c (escapeChar c) := by
  have escape {d : Char} {n : Nat} (same : c = Char.ofNat n) (point : escapedPoint? d = some (Char.ofNat n).toNat)
      (basic : (Char.ofNat n).toNat < 0x10000) : Writes c ['\\', d] := by
    subst same
    exact .escape point basic
  unfold escapeChar
  split_ifs with quotation backslash feed carriage tab page back visible basic
  · exact escape quotation rfl (by decide)
  · exact escape backslash rfl (by decide)
  · exact escape feed rfl (by decide)
  · exact escape carriage rfl (by decide)
  · exact escape tab rfl (by decide)
  · exact escape page rfl (by decide)
  · exact escape back rfl (by decide)
  · exact .plain visible quotation backslash
  · exact .unit basic
  · exact .pair basic

/-- A character is read back as its units. -/
theorem readFrom_escapeChar (c : Char) (rest : List Char) :
    readFrom '"' .text (Json.escapeChar c ++ rest) = (readFrom '"' .text rest).map (units (.char c) ++ ·) := by
  have number : (CodePoint.char c).toNat = c.toNat := rfl
  generalize written : Json.escapeChar c = chars
  have writes := Json.escapeChar_writes c
  rw [written] at writes
  cases writes with
  | escape point basic =>
      rw [units, number, if_pos basic]
      exact readFrom_escape point
  | plain visible quotation backslash =>
      have basic : c.toNat < 0x10000 := by omega
      have apart : ∀ d : Char, d.toNat < 0x20 → c ≠ d := by
        rintro d control rfl
        omega
      have inLine : endsLine c = false := by
        simp [endsLine, apart '\n' (by decide), apart '\r' (by decide), apart '\x00' (by decide)]
      have read : readStep '"' .text c = some (.text, [c.toNat]) := by
        simp [readStep, readPlain, quotation, backslash, inLine]
      rw [units, number, if_pos basic]
      exact readFrom_of_point read
  | unit basic =>
      rw [units, number, if_pos basic]
      exact readFrom_unitEscape basic
  | pair beyond =>
      have limit := (CodePoint.char c).toNat_lt_pointLimit
      rw [number, pointLimit] at limit
      have high : 0xd800 + (c.toNat - 0x10000) / 0x400 < 0x10000 := by omega
      have low : 0xdc00 + (c.toNat - 0x10000) % 0x400 < 0x10000 := by omega
      rw [List.append_assoc, readFrom_unitEscape high, readFrom_unitEscape low, units, number, if_neg beyond, Option.map_map]
      rfl

/-- A code point is read back as its units; a surrogate is a unit of its own. -/
theorem readFrom_escapePoint (p : CodePoint) (rest : List Char) :
    readFrom '"' .text (Json.escapePoint p ++ rest) = (readFrom '"' .text rest).map (units p ++ ·) := by
  cases p with
  | char c => exact readFrom_escapeChar c rest
  | surrogate n =>
      rw [units, if_pos (CodePoint.surrogate_lt n)]
      exact readFrom_unitEscape (CodePoint.surrogate_lt n)

/-- The rest of a text up to its closing quotation mark is read back as its units, by induction on the text. -/
theorem readFrom_flatMap_escapePoint (s : List CodePoint) :
    readFrom '"' .text (s.flatMap Json.escapePoint ++ ['"']) = some (s.flatMap units) := by
  induction s with
  | nil => rfl
  | cons p s ih =>
      rw [List.flatMap_cons, List.append_assoc, readFrom_escapePoint, ih, List.flatMap_cons]
      rfl

/-- A text that is written as a JSON string is read as its units in UTF-16. -/
theorem literalPoints?_string (t : WideText) : literalPoints? (Json.string t) = some (t.points.flatMap units) := by
  rw [literalPoints?, Json.string, String.toList_ofList, Json.stringChars]
  exact readFrom_flatMap_escapePoint t.points

/-- A character beyond the basic plane is read as a pair of surrogates. -/
example : literalPoints? (Json.string "😀") = some [0xd83d, 0xde00] := by decide

/-- The units of a text are its code points iff all of them lie in the basic plane. -/
theorem units_eq_points_iff (s : List CodePoint) :
    s.flatMap units = s.map CodePoint.toNat ↔ ∀ p ∈ s, p.toNat < 0x10000 := by
  induction s with
  | nil => simp
  | cons p s ih =>
      rw [List.flatMap_cons, List.map_cons, List.forall_mem_cons, ← ih]
      have limit := p.toNat_lt_pointLimit
      rw [pointLimit] at limit
      by_cases basic : p.toNat < 0x10000
      · rw [units, if_pos basic]
        simp [basic]
      · -- the first unit is a surrogate, which is in the basic plane
        rw [units, if_neg basic]
        refine iff_of_false ?_ fun h => basic h.1
        intro same
        have first := (List.cons.inj same).1
        omega

/-! ## Modules of enumerations -/

/-- The literal of the value of a member. -/
def EnumMember.literal (m : EnumMember) : String :=
  Json.string m.value

/-- The line of a member in the class of an enumeration. -/
def EnumMember.line (m : EnumMember) : String :=
  "    " ++ m.name ++ " = " ++ m.literal

/-- The module of an enumeration has a line for each member. -/
theorem EnumDescriptor.lines_toModule (d : EnumDescriptor) (entityName : String) :
    (d.toModule entityName).lines =
      ["from enum import Enum", "", "", "class " ++ d.name.display ++ "(str, Enum):"] ++ d.members.map EnumMember.line := by
  have members : (d.members.map fun m => Member.constant m.name (Json.string m.value)).flatMap Member.lines =
      d.members.map EnumMember.line := by
    rw [List.flatMap_map]
    exact List.flatMap_pure_eq_map EnumMember.line d.members
  have heading : ∀ constants, ClassDefinition.heading { name := d.name.display, bases := ["str", "Enum"], members := constants } =
      "class " ++ d.name.display ++ "(str, Enum):" := by
    intro constants
    have ending : "(str, Enum):" = "(str, Enum)" ++ ":" := rfl
    rw [ending, ← String.append_assoc]
    rfl
  rw [toModule, SourceModule.lines]
  simp only [List.flatMap_cons, List.flatMap_nil, Statement.lines, ClassDefinition.lines, members, heading, List.append_nil]
  rfl

/-- In the line of each member of an enumeration stands a literal of the units of its value. This is a literal of the value
itself iff all code points of the value lie in the basic plane. -/
theorem EnumDescriptor.literals_denote (d : EnumDescriptor) (entityName : String) :
    (d.toModule entityName).lines =
        ["from enum import Enum", "", "", "class " ++ d.name.display ++ "(str, Enum):"] ++ d.members.map EnumMember.line ∧
      ∀ m ∈ d.members,
        literalPoints? m.literal = some (m.value.points.flatMap units) ∧
        (literalPoints? m.literal = some (m.value.points.map CodePoint.toNat) ↔
          ∀ p ∈ m.value.points, p.toNat < 0x10000) := by
  refine ⟨d.lines_toModule entityName, ?_⟩
  intro m _
  have read := literalPoints?_string m.value
  refine ⟨read, ?_⟩
  rw [EnumMember.literal, read, Option.some.injEq]
  exact units_eq_points_iff m.value.points

end ResourceScaffold
