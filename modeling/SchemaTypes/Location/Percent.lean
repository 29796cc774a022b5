import SchemaTypes.Text.Utf8

/-!
Percent encoding in URLs: which characters each part of a URL writes as bytes, and reading such
bytes back. Characters beyond ASCII are always encoded.
-/
namespace SchemaTypes.Percent

def hexDigit (n : Nat) : Char := (Nat.toDigits 16 n).headD '0' |>.toUpper

def encodeByte (b : UInt8) : List Char := ['%', hexDigit (b.toNat / 16), hexDigit (b.toNat % 16)]

def encodeChar (encoded : Char → Bool) (c : Char) : List Char :=
  if encoded c then (Utf8.encode (String.singleton c)).flatMap encodeByte else [c]

def encode (encoded : Char → Bool) (text : List Char) : List Char :=
  text.flatMap (encodeChar encoded)

/-! ## What each part encodes -/

def control (c : Char) : Bool := c.toNat < 0x20 || 0x7E < c.toNat

def fragment (c : Char) : Bool := control c || [' ', '"', '<', '>', '`'].contains c

def query (c : Char) : Bool := control c || [' ', '"', '#', '<', '>'].contains c

def specialQuery (c : Char) : Bool := query c || c.toNat == 0x27

def path (c : Char) : Bool := fragment c || ['#', '?', '\x7b', '\x7d'].contains c

def userinfo (c : Char) : Bool :=
  path c || ['/', ':', ';', '=', '@', '[', '\\', ']', '^', '|'].contains c

/-! ## Decoding -/

def hexValue? (b : UInt8) : Option Nat :=
  if 0x30 ≤ b && b ≤ 0x39 then some (b.toNat - 0x30)
  else if 0x61 ≤ b && b ≤ 0x66 then some (b.toNat - 0x61 + 10)
  else if 0x41 ≤ b && b ≤ 0x46 then some (b.toNat - 0x41 + 10)
  else none

/-- Replaces each percent sign with two hexadecimal digits by the byte they name. -/
def decode : List UInt8 → List UInt8
  | 0x25 :: a :: b :: rest =>
    match hexValue? a, hexValue? b with
    | some high, some low => UInt8.ofNat (high * 16 + low) :: decode rest
    | _, _ => 0x25 :: decode (a :: b :: rest)
  | b :: rest => b :: decode rest
  | [] => []

end SchemaTypes.Percent
