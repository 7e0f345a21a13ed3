/-!
# Text/Base64 — bytes written with sixty-four characters

Four characters write three bytes. What is none of the sixty-four is passed over, and an equals sign
where the last bytes are complete ends the text.
-/

namespace QuerySieve.Text.Base64

/-- The value of one of the sixty-four characters. -/
def digit? (c : Char) : Option Nat :=
  if c.isUpper then some (c.toNat - 0x41)
  else if c.isLower then some (c.toNat - 0x61 + 26)
  else if c.isDigit then some (c.toNat - 0x30 + 52)
  else if c = '+' then some 62
  else if c = '/' then some 63
  else none

/-- The bytes that the rest of a text writes, after `place` characters of the current four that leave
`left` over, and after `pads` equals signs. -/
def decodeFrom (place left pads : Nat) : List Char → Option (List UInt8)
  | [] => if place = 0 then some [] else none
  | c :: cs =>
    if c = '=' then
      if place < 2 then decodeFrom place left pads cs
      else if 4 ≤ place + pads + 1 then some []
      else decodeFrom place left (pads + 1) cs
    else
      match digit? c, place with
      | none, _ => decodeFrom place left pads cs
      | some d, 0 => decodeFrom 1 d 0 cs
      | some d, 1 => (decodeFrom 2 (d % 16) 0 cs).map ((left * 4 + d / 16).toUInt8 :: ·)
      | some d, 2 => (decodeFrom 3 (d % 4) 0 cs).map ((left * 16 + d / 4).toUInt8 :: ·)
      | some d, _ => (decodeFrom 0 0 0 cs).map ((left * 64 + d).toUInt8 :: ·)

/-- **The bytes that a text writes**; nothing if they are not complete. -/
def decode? (cs : List Char) : Option (List UInt8) := decodeFrom 0 0 0 cs

end QuerySieve.Text.Base64
