/-!
# Base 64

Bytes written by the letters, digits, `+` and `/` of base 64, each of which stands for six bits. Other characters are
passed over. Equals signs fill up the last group of four characters, and nothing after them is read.
-/

namespace ResourceScaffold.Text

/-- The six bits that a character stands for. -/
def base64Value? (c : Char) : Option Nat :=
  if c.isUpper then some (c.toNat - 65)
  else if c.isLower then some (c.toNat - 71)
  else if c.isDigit then some (c.toNat + 4)
  else if c = '+' then some 62
  else if c = '/' then some 63
  else none

/-- The bytes from a character on: `place` is its place in a group of four, `left` holds the bits before it that have
filled no byte yet, and `fill` counts the equals signs before it. -/
def base64From (place left fill : Nat) : List Char → Option (List UInt8)
  | [] => if place = 0 then some [] else none
  | c :: rest =>
      if c = '=' then
        if place < 2 then base64From place left fill rest
        else if 4 ≤ place + fill + 1 then some []
        else base64From place left (fill + 1) rest
      else match base64Value? c with
        | none => base64From place left fill rest
        | some bits =>
            let byte (n : Nat) (bytes : Option (List UInt8)) : Option (List UInt8) := bytes.map (n.toUInt8 :: ·)
            match place with
            | 0 => base64From 1 bits 0 rest
            | 1 => byte (left * 4 + bits / 16) (base64From 2 (bits % 16) 0 rest)
            | 2 => byte (left * 16 + bits / 4) (base64From 3 (bits % 4) 0 rest)
            | _ => byte (left * 64 + bits) (base64From 0 0 0 rest)

/-- The bytes that a text in base 64 writes; none if its last group is not filled up. -/
def base64Bytes? (s : List Char) : Option (List UInt8) :=
  base64From 0 0 0 s

end ResourceScaffold.Text
