import LanguageClient.Uri.Domain
import LanguageClient.Uri.Reference
namespace LanguageClient

/-!
# Hosts

What the authority of a URI names: nothing, a name, or a numeric address. The schemes of files and
of the web have internet names as hosts, which are percent-decoded and brought to one form; other
schemes keep the text as it is.
-/

namespace Uri

inductive Host where
  | absent
  | name (text : Text)
  | address
deriving DecidableEq, Repr

namespace Host

/-- Whether a URI with this host names something on this machine. -/
def isHere : Host → Bool
  | absent => true
  | name t => t == "localhost".toList
  | address => false

/-- A number in digits of a base. -/
def digits? (base : Nat) (t : Text) : Option Nat :=
  t.foldlM
    (fun n c =>
      if isHex c && decide (hexValue c < base) then some (n * base + hexValue c) else none)
    0

/-- A part of an IPv4 address: decimal, octal after a zero, or hexadecimal after `0x`. -/
def addressPart? : Text → Option Nat
  | [] => none
  | '0' :: c :: r => if c = 'x' ∨ c = 'X' then digits? 16 r else digits? 8 (c :: r)
  | t => digits? 10 t

/-- A full stop may end a name. -/
def withoutFinalDot (labels : List Text) : List Text :=
  if 2 ≤ labels.length && labels.getLast? == some [] then labels.dropLast else labels

/-- Whether a name ends as an IPv4 address does; it is then no other name. -/
def endsInNumber (labels : List Text) : Bool :=
  match (withoutFinalDot labels).getLast? with
  | none => false
  | some last => (!last.isEmpty && last.all Char.isDigit) || (addressPart? last).isSome

/-- One to four numbers; the last one fills what the others leave of 32 bits. -/
def isIpv4Number (labels : List Text) : Bool :=
  let parts := withoutFinalDot labels
  match parts.mapM addressPart? with
  | none => false
  | some numbers =>
    numbers.length ≤ 4 &&
      match numbers.reverse with
      | [] => false
      | last :: others =>
        others.all (· < 256) && decide (last < Nat.pow 256 (4 - others.length))

/-- The address in brackets, if the text starts with one. -/
def bracketed? : Text → Option (Option Host)
  | '[' :: r =>
    some (if r.getLast? == some ']' && isIpv6 r.dropLast then some address else none)
  | _ => none

/-- The host of a scheme with internet names. -/
def ofInternetName? (t : Text) : Option Host :=
  match bracketed? t with
  | some host => host
  | none => do
    let labels ← Domain.labels? (Utf8.decodeLossy (decodeBytes t))
    if labels.all List.isEmpty && labels.length ≤ 1 then none
    else if endsInNumber labels then if isIpv4Number labels then some address else none
    else some (name (Text.joinWith ['.'] labels))

/-- The host of any other scheme. -/
def ofPlainName? (t : Text) : Option Host :=
  match bracketed? t with
  | some host => host
  | none =>
    if t.any fun c => ['\x00', ' ', '<', '>', '@', '[', ']', '^', '|', '\\'].elem c then none
    else if t.isEmpty then some absent
    else some (name t)

end Host

end Uri

end LanguageClient
