import LanguageClient.Path
import LanguageClient.Text.Basic
namespace LanguageClient

/-!
# Buffers

The text of a document in the editor. A replacement past the end stops at the end, and one that
would split a character is ignored.
-/

structure Buffer where
  text : Text
  /-- How often the buffer was saved. -/
  saves : Nat
deriving DecidableEq, Repr

namespace Buffer

def new (text : Text) : Buffer := ⟨text, 0⟩

instance : Inhabited Buffer := ⟨new []⟩

/-- Puts `text` in place of the bytes from `start` to `stop`. -/
def replace (b : Buffer) (start stop : Nat) (text : Text) : Buffer :=
  let stop := min stop b.text.byteLength
  let start := min start stop
  if b.text.IsBoundary start ∧ b.text.IsBoundary stop then
    { b with text := b.text.splice start stop text }
  else b

def setText (b : Buffer) (text : Text) : Buffer := { b with text }

def save (b : Buffer) : Buffer := { b with saves := b.saves + 1 }

@[simp] theorem saves_replace (b : Buffer) (start stop : Nat) (text : Text) :
    (b.replace start stop text).saves = b.saves := by
  simp only [replace]
  split <;> rfl

end Buffer

abbrev BufferId := Nat

/-- A document that is open in the editor. -/
structure OpenDocument where
  uri : String
  path : Path
  /-- The root of the project that the document belongs to. -/
  root : Path
  buffer : BufferId
deriving DecidableEq, Repr

namespace OpenDocument

def extension (d : OpenDocument) : Text := Path.extension d.path

end OpenDocument

end LanguageClient
