import LanguageClient.ClientError
import LanguageClient.Json.Basic
namespace LanguageClient

/-!
# Errors in reports

An error is reported by its name and its text. What follows certain phrases is as the reader of
some foreign format or the system worded it; a report leaves that out.
-/

namespace Report

/-- The text up to and with the first occurrence of a phrase, and what follows it. -/
def cutAfter? (phrase : Text) : Text → Option (Text × Text)
  | [] => none
  | c :: r =>
    if phrase.isPrefixOf (c :: r) then some (phrase, (c :: r).drop phrase.length)
    else (cutAfter? phrase r).map fun p => (c :: p.1, p.2)

/-- The phrases that are looked for, in this order. -/
def phrases : List String :=
  ["Invalid message: ", "Invalid UTF-8: ", "Bad initialization options: ", "initialize failed: ",
    "Failed to start server: ", "I/O: ", "Invalid JSON: "]

/-- Leaves out the rest of the line after the first phrase that a text has. -/
def withoutDetails (s : String) : String :=
  match phrases.findSome? fun phrase => cutAfter? phrase.toList s.toList with
  | none => s
  | some (kept, rest) => String.ofList (kept ++ rest.dropWhile (· ≠ '\n'))

end Report

namespace ClientError

def name : ClientError → String
  | unknownServer _ => "UnknownServer"
  | disconnected _ => "Disconnected"
  | launch _ => "Launch"
  | protocol _ => "Protocol"
  | request _ => "Request"
  | rpc _ _ => "Rpc"
  | transfer _ => "Io"
  | json _ => "Json"
  | timeout => "Timeout"
  | handshake _ => "Initialize"
  | invalidUri _ => "InvalidUri"
  | badDefinition _ => "BadDefinition"

def report (e : ClientError) : Json :=
  Json.object [("error", .str e.name), ("message", .str (Report.withoutDetails e.message))]

end ClientError

end LanguageClient
