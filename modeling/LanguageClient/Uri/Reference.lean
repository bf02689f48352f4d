import LanguageClient.Text.Blank
import LanguageClient.Text.Utf8
namespace LanguageClient

/-!
# URI references

The grammar of RFC 3986: a URI or a relative reference, with IPv6 as the only address in brackets.
`Uri.firstFault?` is the byte offset where a text stops following it; `Uri.isReference` holds of
the texts without such a place.
-/

namespace Uri

def isAlpha (c : Char) : Bool := c.isAlpha

def isHex (c : Char) : Bool :=
  c.isDigit || ('a' ≤ c && c ≤ 'f') || ('A' ≤ c && c ≤ 'F')

def isUnreserved (c : Char) : Bool :=
  c.isAlphanum || c == '-' || c == '.' || c == '_' || c == '~'

def isSubDelim (c : Char) : Bool := ['!', '$', '&', '\'', '(', ')', '*', '+', ',', ';', '='].elem c

def isRegName (c : Char) : Bool := isUnreserved c || isSubDelim c

def isPathChar (c : Char) : Bool := isRegName c || c == ':' || c == '@' || c == '/'

def isQueryChar (c : Char) : Bool := isPathChar c || c == '?'

def isSchemeChar (c : Char) : Bool := c.isAlphanum || c == '+' || c == '-' || c == '.'

/-- What is left after characters of a class and percent-encoded bytes. -/
def skipClass (ok : Char → Bool) : Text → Text
  | [] => []
  | '%' :: a :: b :: r => if isHex a && isHex b then skipClass ok r else '%' :: a :: b :: r
  | c :: r => if ok c && c != '%' then skipClass ok r else c :: r

/-- Whether a text consists of characters of a class and percent-encoded bytes. -/
def allClass (ok : Char → Bool) (t : Text) : Bool := (skipClass ok t).isEmpty

/-- The scheme and what follows its colon. -/
def scheme? (t : Text) : Option (Text × Text) :=
  match t with
  | c :: _ =>
    if isAlpha c then
      match t.dropWhile isSchemeChar with
      | ':' :: r => some (t.takeWhile isSchemeChar, r)
      | _ => none
    else none
  | [] => none

/-- Four numbers below 256 without leading zeros. -/
def isIpv4 (t : Text) : Bool :=
  let parts := Text.splitOnChar '.' t
  parts.length == 4 && parts.all fun p =>
    p.length ≤ 3 && !p.isEmpty && p.all Char.isDigit &&
      (p.length == 1 || p.head? != some '0') &&
      p.foldl (fun n c => n * 10 + (c.toNat - 48)) 0 < 256

/-- The number of 16-bit groups of a colon-separated list, the last possibly an IPv4 address. -/
def groups? (t : Text) : Option Nat :=
  if t.isEmpty then some 0
  else
    let parts := Text.splitOnChar ':' t
    let isGroup (p : Text) : Bool := !p.isEmpty && p.length ≤ 4 && p.all isHex
    match parts.getLast? with
    | none => none
    | some last =>
      if !parts.dropLast.all isGroup then none
      else if isGroup last then some parts.length
      else if isIpv4 last then some (parts.length + 1)
      else none

/-- The texts before and after the first double colon. -/
def cutDoubleColon : Text → Option (Text × Text)
  | ':' :: ':' :: r => some ([], r)
  | c :: r => (cutDoubleColon r).map fun p => (c :: p.1, p.2)
  | [] => none

def isIpv6 (t : Text) : Bool :=
  match cutDoubleColon t with
  | none => groups? t == some 8
  | some (a, b) =>
    (a.isEmpty || !a.elem '.') &&
      match groups? a, groups? b with
      | some m, some n => m + n ≤ 7
      | _, _ => false

/-- A host and, after a colon, digits. -/
def isHost (t : Text) : Bool :=
  match t with
  | '[' :: r =>
    match Text.cut? ']' r with
    | none => false
    | some (address, rest) =>
      isIpv6 address &&
        match rest with
        | [] => true
        | ':' :: digits => digits.all Char.isDigit
        | _ => false
  | _ =>
    match Text.cut? ':' t with
    | none => allClass isRegName t
    | some (host, digits) => allClass isRegName host && digits.all Char.isDigit

/-- Optional user information before an at sign, then the host with its digits. -/
def isAuthority (t : Text) : Bool :=
  match Text.cut? '@' t with
  | some (user, rest) => allClass (fun c => isRegName c || c == ':') user && isHost rest
  | none => isHost t

def endsAuthority (c : Char) : Bool := c == '/' || c == '?' || c == '#'

/-- What is left after a path, a query and a fragment. -/
def skipTail (t : Text) : Text :=
  let r := skipClass isPathChar t
  let r := match r with
    | '?' :: q => skipClass isQueryChar q
    | _ => r
  match r with
  | '#' :: f => skipClass isQueryChar f
  | _ => r

/-- What a reference does not cover of a text that follows the scheme. -/
def skipHierarchy (t : Text) : Text :=
  match t with
  | '/' :: '/' :: r =>
    if isAuthority (r.takeWhile fun c => !endsAuthority c) then
      skipTail (r.dropWhile fun c => !endsAuthority c)
    else r
  | _ => skipTail t

/-- A reference without a scheme has no colon in its first segment. -/
def skipReference (t : Text) : Text :=
  match scheme? t with
  | some (_, r) => skipHierarchy r
  | none =>
    match (t.takeWhile fun c => !endsAuthority c).dropWhile (· ≠ ':') with
    | [] => skipHierarchy t
    | _ => t.dropWhile (· ≠ ':')

/-- The byte offset where a text stops being a URI reference. -/
def firstFault? (t : Text) : Option Nat :=
  match skipReference t with
  | [] => none
  | r => some (Text.byteLength t - Text.byteLength r)

def isReference (t : Text) : Bool := (skipReference t).isEmpty

end Uri

/-!
## Percent-encoding

A byte that may not stand in a part of a URI is written as a percent sign and two hexadecimal
digits.
-/

namespace Uri

def upperHex (n : Nat) : Char := if n < 10 then Char.ofNat (48 + n) else Char.ofNat (55 + n)

/-- A byte, percent-encoded if it is of the given set. -/
def encodeByte (isEncoded : UInt8 → Bool) (b : UInt8) : Text :=
  if isEncoded b then ['%', upperHex (b.toNat / 16), upperHex (b.toNat % 16)]
  else [Char.ofNat b.toNat]

def hexValue (c : Char) : Nat :=
  if c.isDigit then c.toNat - 48 else if 'a' ≤ c then c.toNat - 87 else c.toNat - 55

/-- The bytes of a text with its percent-encoded bytes decoded. -/
def decodeBytes : Text → Bytes
  | [] => []
  | '%' :: a :: b :: r =>
    if isHex a && isHex b then (hexValue a * 16 + hexValue b).toUInt8 :: decodeBytes r
    else Utf8.encodeChar '%' ++ decodeBytes (a :: b :: r)
  | c :: r => Utf8.encodeChar c ++ decodeBytes r

end Uri

end LanguageClient
