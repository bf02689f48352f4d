import LanguageClient.ClientError
import LanguageClient.Path
import LanguageClient.Uri.Location
namespace LanguageClient

/-!
# File URIs

A file path becomes a URI by percent-encoding its components. A URI leads back to a path when it
names no host but this one: percent-encoded bytes of its path are decoded.
-/

namespace Uri

/-- Whether a byte of a path component is percent-encoded. -/
def isEncoded (b : UInt8) : Bool :=
  b < 0x21 || 0x7F ≤ b ||
    [0x22, 0x23, 0x25, 0x2F, 0x3C, 0x3E, 0x3F, 0x5C, 0x60, 0x7B, 0x7D].elem b

def encodeComponent (t : Text) : Text := (Utf8.encode t).flatMap (encodeByte isEncoded)

/-- The URI text of an absolute path. -/
def ofAbsolutePath (p : Path) : Text :=
  match (Path.components p).drop 1 with
  | [] => "file:///".toList
  | cs => "file://".toList ++ cs.flatMap fun c => '/' :: encodeComponent c.text

/-- The path that percent-encoded text stands for; one that ends as a drive does gets a slash. -/
def decodePath (t : Text) : Path :=
  let bytes := decodeBytes t
  let bytes := match bytes.reverse with
    | c :: b :: _ :: _ =>
      if (c == 0x3A || c == 0x7C) && (Char.ofNat b.toNat).isAlpha then bytes ++ [0x2F] else bytes
    | _ => bytes
  Utf8.decodeLossy bytes

/-- The path that a URI stands for on this machine. -/
def toPath? (uri : Text) : Option Path := do
  let location ← Location.parse? uri
  if location.host.isHere then some (decodePath location.path) else none

/-- The URI of a path, which is taken from a directory if it is relative. -/
def ofPath (directory p : Path) : Except ClientError Text :=
  let p := Path.join directory p
  let uri := ofAbsolutePath p
  match firstFault? uri with
  | none => .ok uri
  | some n =>
    .error (.invalidUri
      (String.ofList p ++ ": ParseError \x7b index: " ++ toString n ++
        ", kind: UnexpectedChar \x7d"))

end Uri

end LanguageClient
