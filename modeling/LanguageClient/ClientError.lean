import LanguageClient.Text.Basic
namespace LanguageClient

/-!
# Errors

Everything that can go wrong between the client and a server. Details that come from a reader of a
foreign format stand in the field after the wording.
-/

inductive ClientError where
  | unknownServer (id : String)
  | disconnected (reason : String)
  | launch (reason : String)
  | protocol (reason : String)
  | request (reason : String)
  | rpc (code : Int) (reason : String)
  | transfer (reason : String)
  | json (reason : String)
  | timeout
  | handshake (reason : String)
  | invalidUri (reason : String)
  | badDefinition (reason : String)
deriving DecidableEq, Repr, Inhabited

namespace ClientError

def message : ClientError → String
  | unknownServer id => s!"No connection for server {id}"
  | disconnected r => s!"Server connection lost: {r}"
  | launch r => s!"Could not launch server: {r}"
  | protocol r => s!"Malformed message: {r}"
  | request r => s!"Request failed: {r}"
  | rpc code r => s!"Server error {code}: {r}"
  | transfer r => s!"I/O: {r}"
  | json r => s!"Invalid JSON: {r}"
  | timeout => "Timed out waiting for the server"
  | handshake r => s!"initialize failed: {r}"
  | invalidUri r => s!"Not a file uri: {r}"
  | badDefinition r => s!"Bad server definition: {r}"

/-- The code of a request that the server gave up by itself. -/
def requestCancelled : Int := -32800

/-- The code of an answer made stale by a change of the document. -/
def contentModified : Int := -32801

/-- Whether the error is an expected answer and no broken connection. -/
def isBenign : ClientError → Bool
  | rpc code _ => code == requestCancelled || code == contentModified
  | _ => false

end ClientError

end LanguageClient
