import LanguageClient.Text.Basic
namespace LanguageClient

/-!
# UTF-8

Bytes are numbers below 256. `Utf8.encode` writes a text, `Utf8.decode?` reads only what `encode`
writes, and `Utf8.decodeLossy` puts U+FFFD in place of every piece that cannot be continued to a
character.
-/

abbrev Bytes := List UInt8

namespace Utf8

def encodeChar (c : Char) : Bytes :=
  let n := c.toNat
  if n < 0x80 then [n.toUInt8]
  else if n < 0x800 then [(0xC0 + n / 64).toUInt8, (0x80 + n % 64).toUInt8]
  else if n < 0x10000 then
    [(0xE0 + n / 4096).toUInt8, (0x80 + n / 64 % 64).toUInt8, (0x80 + n % 64).toUInt8]
  else
    [(0xF0 + n / 262144).toUInt8, (0x80 + n / 4096 % 64).toUInt8, (0x80 + n / 64 % 64).toUInt8,
      (0x80 + n % 64).toUInt8]

def encode (t : Text) : Bytes := t.flatMap encodeChar

/-- The number of bytes of a character by its first byte, and the range of its second byte. -/
def lead (b : UInt8) : Option (Nat × UInt8 × UInt8) :=
  if 0xC2 ≤ b ∧ b ≤ 0xDF then some (2, 0x80, 0xBF)
  else if b = 0xE0 then some (3, 0xA0, 0xBF)
  else if b = 0xED then some (3, 0x80, 0x9F)
  else if 0xE1 ≤ b ∧ b ≤ 0xEF then some (3, 0x80, 0xBF)
  else if b = 0xF0 then some (4, 0x90, 0xBF)
  else if 0xF1 ≤ b ∧ b ≤ 0xF3 then some (4, 0x80, 0xBF)
  else if b = 0xF4 then some (4, 0x80, 0x8F)
  else none

def isContinuation (b : UInt8) : Bool := 0x80 ≤ b && b ≤ 0xBF

/-- The first character and the number of its bytes; without one, the number of bytes that no
character can begin with. -/
def first? : Bytes → Option Char × Nat
  | [] => (none, 0)
  | a :: r =>
    if a < 0x80 then (some (Char.ofNat a.toNat), 1)
    else
      match lead a with
      | none => (none, 1)
      | some (count, low, high) =>
        match r with
        | [] => (none, 1)
        | b :: r =>
          if b < low ∨ high < b then (none, 1)
          else if count = 2 then
            (some (Char.ofNat ((a.toNat - 0xC0) * 64 + (b.toNat - 0x80))), 2)
          else
            match r with
            | [] => (none, 2)
            | c :: r =>
              if !isContinuation c then (none, 2)
              else if count = 3 then
                (some (Char.ofNat
                  (((a.toNat - 0xE0) * 64 + (b.toNat - 0x80)) * 64 + (c.toNat - 0x80))), 3)
              else
                match r with
                | [] => (none, 3)
                | d :: _ =>
                  if !isContinuation d then (none, 3)
                  else
                    (some (Char.ofNat
                      ((((a.toNat - 0xF0) * 64 + (b.toNat - 0x80)) * 64 + (c.toNat - 0x80)) * 64 +
                        (d.toNat - 0x80))), 4)

/-- Reads `fuel` characters or faulty pieces. -/
def decodeWith (fault : Option Char) : Nat → Bytes → Option Text
  | 0, _ => some []
  | _ + 1, [] => some []
  | fuel + 1, bs =>
    match first? bs with
    | (some c, n) => (decodeWith fault fuel (bs.drop n)).map (c :: ·)
    | (none, n) =>
      match fault with
      | none => none
      | some c => (decodeWith fault fuel (bs.drop (max n 1))).map (c :: ·)

/-- The text of exactly these bytes. -/
def decode? (bs : Bytes) : Option Text := decodeWith none bs.length bs

/-- The text of these bytes, with U+FFFD for every faulty piece. -/
def decodeLossy (bs : Bytes) : Text := (decodeWith (some '\uFFFD') bs.length bs).getD []

end Utf8

end LanguageClient
