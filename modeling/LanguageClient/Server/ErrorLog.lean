import LanguageClient.Client.Basic
import LanguageClient.Text.Blank
import LanguageClient.Transport.Exchange
namespace LanguageClient

/-!
# Error logs

The error output of a server goes into the journal line by line, blank lines left out. Output that
is no UTF-8 ends the log.
-/

namespace ErrorLog

/-- A line without its line end. -/
def content (line : Text) : Text :=
  let line := if line.getLast? = some '\n' then line.dropLast else line
  if line.getLast? = some '\r' then line.dropLast else line

/-- The first line of some bytes, whose line end may be missing at the end of all. -/
def cut? (bytes : Bytes) (ended : Bool) : Option (Bytes × Bytes) :=
  match Frame.cutLine? bytes with
  | some cut => some cut
  | none => if ended && !bytes.isEmpty then some (bytes, []) else none

variable {E K : Type}

/-- Logs a line, or gives up. -/
def logLine (server : String) (line : Bytes) : Prog E K Bool := do
  match Utf8.decode? line with
  | none => return false
  | some text =>
    let text := if line.getLast? = some 0x0A then content text else text
    if Text.trim text ≠ [] then Program.modify fun c => c.log (.output server text)
    return true

def step (server : String) (pipe : PipeId) (inbox : Link.Inbox) :
    Prog E K (Link.Inbox ⊕ Unit) := do
  match cut? inbox.bytes inbox.ended with
  | some (line, rest) =>
    if ← logLine server line then return .inl ⟨rest, inbox.ended⟩ else return .inr ()
  | none =>
    if inbox.ended then return .inr ()
    match ← Program.receive pipe with
    | some bytes => return .inl ⟨inbox.bytes ++ bytes, false⟩
    | none => return .inl ⟨inbox.bytes, true⟩

/-- Copies the output of a server to the journal until it ends. -/
def run (server : String) (pipe : PipeId) : Prog E K Unit :=
  Program.iterate (Link.Inbox.mk [] false) (step server pipe)

end ErrorLog

end LanguageClient
