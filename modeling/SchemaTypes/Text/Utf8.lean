/-!
UTF-8, one character at a time. A byte sequence that is overlong, truncated, a surrogate or beyond
the last code point is no character.
-/
namespace SchemaTypes.Utf8

def isTail (b : UInt8) : Bool := 0x80 ≤ b && b ≤ 0xBF

/-- The six payload bits of a tail byte. -/
def payload (b : UInt8) : Nat := b.toNat - 0x80

/-- Takes one character off the front. -/
def next? : List UInt8 → Option (Char × List UInt8)
  | [] => none
  | a :: rest =>
    if a ≤ 0x7F then some (Char.ofNat a.toNat, rest)
    else if 0xC2 ≤ a && a ≤ 0xDF then
      match rest with
      | b :: rest =>
        if isTail b then some (Char.ofNat ((a.toNat - 0xC0) * 64 + payload b), rest) else none
      | _ => none
    else if 0xE0 ≤ a && a ≤ 0xEF then
      match rest with
      | b :: c :: rest =>
        let low := if a == 0xE0 then 0xA0 else 0x80
        let high := if a == 0xED then 0x9F else 0xBF
        if low ≤ b && b ≤ high && isTail c then
          some (Char.ofNat (((a.toNat - 0xE0) * 64 + payload b) * 64 + payload c), rest)
        else none
      | _ => none
    else if 0xF0 ≤ a && a ≤ 0xF4 then
      match rest with
      | b :: c :: d :: rest =>
        let low := if a == 0xF0 then 0x90 else 0x80
        let high := if a == 0xF4 then 0x8F else 0xBF
        if low ≤ b && b ≤ high && isTail c && isTail d then
          some (Char.ofNat ((((a.toNat - 0xF0) * 64 + payload b) * 64 + payload c) * 64
            + payload d), rest)
        else none
      | _ => none
    else none

def encode (s : String) : List UInt8 := s.toUTF8.toList

end SchemaTypes.Utf8
