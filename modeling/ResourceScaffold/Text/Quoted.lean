import ResourceScaffold.Text.CharacterClass
import ResourceScaffold.Text.CodePoint
import ResourceScaffold.Text.Hexadecimal

/-!
# Quoted literals

The literal of a text in generated code and in messages: single quotes unless the text holds a single quote and no
double one; line feed, carriage return and tab by letter, other characters that are not printable, and surrogates, by
number. The literal of bytes is that of the ASCII characters they stand for, with a mark in front and all other bytes by
number.
-/

namespace ResourceScaffold.Text

/-- The quotation mark chosen for a text. -/
def quoteFor (s : List CodePoint) : Char :=
  if s.contains (.char '\'') && !s.contains (.char '"') then '"' else '\''

/-- One character inside a literal delimited by `quote`. -/
def quoteChar (quote c : Char) : List Char :=
  if c = quote ∨ c = '\\' then ['\\', c]
  else if c = '\n' then ['\\', 'n']
  else if c = '\r' then ['\\', 'r']
  else if c = '\t' then ['\\', 't']
  else if isPrintable c then [c]
  else if c.toNat ≤ 0xff then '\\' :: 'x' :: hexPadded 2 c.toNat
  else if c.toNat ≤ 0xffff then '\\' :: 'u' :: hexPadded 4 c.toNat
  else '\\' :: 'U' :: hexPadded 8 c.toNat

/-- One code point inside a literal delimited by `quote`. -/
def quotePoint (quote : Char) : CodePoint → List Char
  | .char c => quoteChar quote c
  | .surrogate n => '\\' :: 'u' :: hexPadded 4 (0xd800 + n)

/-- The literal of a text, as characters. -/
def quotedChars (s : List CodePoint) : List Char :=
  quoteFor s :: (s.flatMap (quotePoint (quoteFor s)) ++ [quoteFor s])

/-- The literal of a text. -/
def quoted (t : WideText) : String :=
  String.ofList (quotedChars t.points)

/-- One byte inside a literal delimited by `quote`. -/
def quoteByte (quote : Char) (b : UInt8) : List Char :=
  if b.toNat < 128 then quoteChar quote (Char.ofNat b.toNat) else '\\' :: 'x' :: hexPadded 2 b.toNat

/-- The literal of bytes. -/
def quotedBytes (data : List UInt8) : String :=
  let quote := quoteFor (data.map fun b => .char (Char.ofNat b.toNat))
  String.ofList ('b' :: quote :: (data.flatMap (quoteByte quote) ++ [quote]))

end ResourceScaffold.Text
