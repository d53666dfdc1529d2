import DurableJobs.Text.Hex
import DurableJobs.Text.Utf8

/-!
# Percent encoding

A byte that may not stand for itself is written as `%` and two upper-case digits. Which ASCII characters
may not depends on the part of the URL; characters beyond ASCII never may, and are encoded byte by byte
in UTF-8. `%` itself is in none of the sets, so what has been encoded is not encoded again.
-/

set_option autoImplicit false

namespace DurableJobs.Url

open DurableJobs.Text

/-- The ASCII characters that a part of a URL may not hold. -/
abbrev EncodeSet := Char → Bool

def controls : EncodeSet := fun c => c.toNat < 0x20 || c.toNat == 0x7F

def fragmentSet : EncodeSet := fun c => controls c || [' ', '"', '<', '>', '\x60'].contains c

def querySet : EncodeSet := fun c => controls c || [' ', '"', '#', '<', '>'].contains c

def specialQuerySet : EncodeSet := fun c => querySet c || c == '\''

def pathSet : EncodeSet := fun c =>
  fragmentSet c || ['#', '?', '^', '\x7b', '\x7d'].contains c

def userinfoSet : EncodeSet := fun c =>
  pathSet c || ['/', ':', ';', '=', '@', '[', '\\', ']', '|'].contains c

def upperHex (n : Nat) : Char := (hexDigit n).toUpper

def percentByte (b : UInt8) : List Char :=
  ['%', upperHex (b.toNat / 16), upperHex (b.toNat % 16)]

def percentChar (set : EncodeSet) (c : Char) : List Char :=
  if c.toNat < 0x80 ∧ !set c then [c] else (String.utf8EncodeChar c).flatMap percentByte

def percentEncode (set : EncodeSet) (cs : List Char) : List Char := cs.flatMap (percentChar set)

/-- Replace every `%` that two digits follow by the byte they write. -/
def percentDecode : List UInt8 → List UInt8
  | [] => []
  | [b] => [b]
  | [b, c] => [b, c]
  | b :: c :: d :: rest =>
      if b = 0x25 then
        match hexValue? (Char.ofNat c.toNat), hexValue? (Char.ofNat d.toNat) with
        | some high, some low => UInt8.ofNat (high * 16 + low) :: percentDecode rest
        | _, _ => b :: percentDecode (c :: d :: rest)
      else b :: percentDecode (c :: d :: rest)

end DurableJobs.Url
