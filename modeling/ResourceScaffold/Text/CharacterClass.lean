import ResourceScaffold.Text.Ranges
import ResourceScaffold.Text.AlphanumericTable
import ResourceScaffold.Text.DigitTable
import ResourceScaffold.Text.IdentifierTable
import ResourceScaffold.Text.PrintableTable

/-!
# Classes of characters

White space, line breaks, letters and numbers, decimal digits, identifier characters and printable characters. Each
class is given by a rule on ASCII and by a table from code point 128 on, so that statements about ASCII text never meet a
table.
-/

namespace ResourceScaffold.Text

/-- Code points below 128. -/
def isAscii (c : Char) : Bool :=
  decide (c.toNat < 128)

/-- White space: the ASCII blanks and separators, the next-line and no-break characters, and the Unicode spaces. -/
def isBlank (c : Char) : Bool :=
  let n := c.toNat
  (9 ≤ n && n ≤ 13) || (28 ≤ n && n ≤ 32) || n == 0x85 || n == 0xa0 || n == 0x1680 ||
    (0x2000 ≤ n && n ≤ 0x200a) || n == 0x2028 || n == 0x2029 || n == 0x202f || n == 0x205f || n == 0x3000

/-- The characters at which a text is cut into lines. -/
def isLineBreak (c : Char) : Bool :=
  let n := c.toNat
  (10 ≤ n && n ≤ 13) || (28 ≤ n && n ≤ 30) || n == 0x85 || n == 0x2028 || n == 0x2029

/-- The value of a decimal digit of any script. -/
def decimalDigit? (c : Char) : Option Nat :=
  if isAscii c then if c.isDigit then some (c.toNat - 48) else none
  else (decimalZeros.find? fun z => z ≤ c.toNat && c.toNat < z + 10).map fun z => c.toNat - z

/-- Decimal digits of any script. -/
def isDecimalDigit (c : Char) : Bool :=
  (decimalDigit? c).isSome

/-- Letters and numbers. -/
def isAlphanumeric (c : Char) : Bool :=
  if isAscii c then c.isAlphanum else inRanges alphanumericRanges c.toNat

/-- Letters, numbers and the underscore. -/
def isWordChar (c : Char) : Bool :=
  isAlphanumeric c || c == '_'

/-- Characters that may begin an identifier. -/
def isIdentifierStart (c : Char) : Bool :=
  if isAscii c then c.isAlpha || c == '_' else inRanges identifierStartRanges c.toNat

/-- Characters that may follow in an identifier. -/
def isIdentifierContinue (c : Char) : Bool :=
  if isAscii c then c.isAlphanum || c == '_' else inRanges identifierContinueRanges c.toNat

/-- Characters that stand for themselves in a quoted literal. -/
def isPrintable (c : Char) : Bool :=
  if isAscii c then decide (32 ≤ c.toNat) && c != '\x7f' else inRanges printableRanges c.toNat

end ResourceScaffold.Text
