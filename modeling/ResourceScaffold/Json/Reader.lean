import ResourceScaffold.Value.Key
import ResourceScaffold.Number.Text
import ResourceScaffold.Text.Hexadecimal

/-!
# Reading JSON

JSON text to values. The names `NaN`, `Infinity` and `-Infinity` are numbers; control characters in strings and anything
after the value but white space are refused. Of members with equal names the last value counts, at the place of the
first. A `\u` escape of a surrogate is kept as that code point, except that the escapes of a high and a low one after each
other are one character. Integers are unbounded up to 4300 digits, and nesting is up to a depth of 990.

The readers are mutually recursive on fuel. At most two calls in a row consume no character of the text, so twice its
length is enough: `read` supplies it.
-/

namespace ResourceScaffold.Json

/-- Why a text is not read. -/
inductive ReadError where
  /-- The text is not JSON. -/
  | malformed
  /-- An integer has more digits than are converted. -/
  | tooManyDigits
  /-- Lists and objects are nested too deeply. -/
  | tooDeep
  deriving DecidableEq, Repr

/-- The most digits of an integer. -/
def maximalDigits : Nat := 4300

/-- The greatest depth of nested lists and objects. -/
def greatestDepth : Nat := 990

/-- The text after leading white space. -/
def skipBlanks (s : List Char) : List Char :=
  s.dropWhile fun c => c == ' ' || c == '\t' || c == '\n' || c == '\r'

/-- The character that an escape letter stands for. -/
def escapeLetter? (c : Char) : Option Char :=
  [('"', '"'), ('\\', '\\'), ('/', '/'), ('b', '\x08'), ('f', '\x0c'), ('n', '\n'), ('r', '\r'), ('t', '\t')].lookup c

/-- The code points read so far, last first, after a `\u` escape of a UTF-16 unit. A low surrogate after a high one completes a
character; only an escape can have put the high one there. -/
def acceptUnit (done : List CodePoint) (unit : Nat) : List CodePoint :=
  match done with
  | .surrogate high :: before =>
      if high < 0x400 ∧ 0xdc00 ≤ unit ∧ unit < 0xe000 then
        .char (Char.ofNat (0x10000 + high * 0x400 + (unit - 0xdc00))) :: before
      else .ofNat unit :: done
  | _ => .ofNat unit :: done

/-- The rest of a string after its opening quote; `done` holds the code points read so far, last first. -/
def readString? (done : List CodePoint) : List Char → Option (WideText × List Char)
  | [] => none
  | '"' :: rest => some (⟨done.reverse⟩, rest)
  | '\\' :: 'u' :: a :: b :: c :: d :: rest =>
      match Text.hexNumber? [a, b, c, d] with
      | some unit => readString? (acceptUnit done unit) rest
      | none => none
  | '\\' :: letter :: rest =>
      match escapeLetter? letter with
      | some c => readString? (.char c :: done) rest
      | none => none
  | c :: rest =>
      if c.toNat < 0x20 ∨ c = '\\' then none else readString? (.char c :: done) rest

/-- The digits of a fraction, if a point and a digit follow. -/
def readFraction : List Char → List Char × List Char
  | '.' :: d :: rest =>
      if d.isDigit then ((d :: rest).takeWhile Char.isDigit, (d :: rest).dropWhile Char.isDigit) else ([], '.' :: d :: rest)
  | s => ([], s)

/-- The exponent of a number, if a letter, perhaps a sign, and a digit follow. -/
def readExponent (s : List Char) : Option Int × List Char :=
  match s with
  | e :: after =>
      if e = 'e' ∨ e = 'E' then
        let (negative, digits) := match after with
          | '-' :: rest => (true, rest)
          | '+' :: rest => (false, rest)
          | rest => (false, rest)
        match digits.takeWhile Char.isDigit with
        | [] => (none, s)
        | ds =>
            let n : Int := digitsValue ds
            (some (if negative then -n else n), digits.dropWhile Char.isDigit)
      else (none, s)
  | [] => (none, s)

/-- A number after its sign. A fraction or an exponent makes it a floating-point number. -/
def readNumber (negative : Bool) (s : List Char) : Except ReadError (Value × List Char) :=
  let digits := match s with
    | '0' :: _ => ['0']
    | _ => s.takeWhile Char.isDigit
  if digits.isEmpty then .error .malformed
  else
    let rest := s.drop digits.length
    let (fraction, rest) := readFraction rest
    let (exponent, rest) := readExponent rest
    if fraction.isEmpty && exponent.isNone then
      if maximalDigits < digits.length then .error .tooManyDigits
      else
        let n : Int := digitsValue digits
        .ok (.int (if negative then -n else n), rest)
    else
      .ok (.float (Binary64.ofDecimal negative (digitsValue (digits ++ fraction))
        (exponent.getD 0 - fraction.length)), rest)

/-- The text after a literal word, if it begins with it. -/
def afterWord? (word : String) (s : List Char) : Option (List Char) :=
  if word.toList.isPrefixOf s then some (s.drop word.length) else none

/-- The literal words and what they denote. -/
def literalWords : List (String × Value) :=
  [("null", .null), ("true", .bool true), ("false", .bool false), ("NaN", .float .nan),
   ("Infinity", .float (.infinite false)), ("-Infinity", .float (.infinite true))]

/-- A literal word or a number. -/
def readScalar (s : List Char) : Except ReadError (Value × List Char) :=
  match literalWords.findSome? fun (word, value) => (afterWord? word s).map (value, ·) with
  | some found => .ok found
  | none =>
      match s with
      | '-' :: rest => readNumber true rest
      | _ => readNumber false s

mutual

/-- A value that may nest to the given depth, and the text after it. -/
def readValue (depth : Nat) : Nat → List Char → Except ReadError (Value × List Char)
  | 0, _ => .error .malformed
  | fuel + 1, s =>
      match s with
      | '"' :: rest =>
          match readString? [] rest with
          | some (text, rest) => .ok (.ofWide text, rest)
          | none => .error .malformed
      | '[' :: rest =>
          if depth = 0 then .error .tooDeep
          else match skipBlanks rest with
            | ']' :: after => .ok (.list [], after)
            | items => readItems (depth - 1) fuel [] items
      | '\x7b' :: rest =>
          if depth = 0 then .error .tooDeep
          else match skipBlanks rest with
            | '\x7d' :: after => .ok (.mapping [], after)
            | members => readMembers (depth - 1) fuel [] members
      | _ => readScalar s

/-- The items of a list from the next one on; `done` holds those before, last first. -/
def readItems (depth : Nat) : Nat → List Value → List Char → Except ReadError (Value × List Char)
  | 0, _, _ => .error .malformed
  | fuel + 1, done, s =>
      match readValue depth fuel s with
      | .error e => .error e
      | .ok (item, rest) =>
          match skipBlanks rest with
          | ',' :: after => readItems depth fuel (item :: done) (skipBlanks after)
          | ']' :: after => .ok (.list (item :: done).reverse, after)
          | _ => .error .malformed

/-- The members of an object from the next one on, after the given entries. -/
def readMembers (depth : Nat) : Nat → Entries → List Char → Except ReadError (Value × List Char)
  | 0, _, _ => .error .malformed
  | fuel + 1, entries, s =>
      match s with
      | '"' :: rest =>
          match readString? [] rest with
          | none => .error .malformed
          | some (name, rest) =>
              match skipBlanks rest with
              | ':' :: rest =>
                  match readValue depth fuel (skipBlanks rest) with
                  | .error e => .error e
                  | .ok (value, rest) =>
                      let entries := entries.insert (.ofWide name) value
                      match skipBlanks rest with
                      | ',' :: after => readMembers depth fuel entries (skipBlanks after)
                      | '\x7d' :: after => .ok (.mapping entries, after)
                      | _ => .error .malformed
              | _ => .error .malformed
      | _ => .error .malformed

end

/-- The value written by a JSON text. -/
def read (s : List Char) : Except ReadError Value :=
  match readValue greatestDepth (2 * s.length + 2) (skipBlanks s) with
  | .error e => .error e
  | .ok (value, rest) => if (skipBlanks rest).isEmpty then .ok value else .error .malformed

end ResourceScaffold.Json
