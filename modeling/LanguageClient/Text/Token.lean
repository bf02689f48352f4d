import LanguageClient.Text.Alphanumeric
import LanguageClient.Text.Basic
namespace LanguageClient

/-!
# Tokens

A token is a maximal run of letters, digits and underscores. `tokenAround` gives the one that
touches an offset, which is empty where no such character is next to it.
-/

namespace Text

def isTokenChar (c : Char) : Bool := isAlphanumeric c || c == '_'

/-- The token characters that end the text. -/
def tokenSuffix (t : Text) : Text := (t.reverse.takeWhile isTokenChar).reverse

/-- The token characters that start the text. -/
def tokenStart (t : Text) : Text := t.takeWhile isTokenChar

/-- The byte offsets of the token around an offset. -/
def tokenAround (t : Text) (offset : Nat) : Nat × Nat :=
  let here := clampOffset t offset
  (here - byteLength (tokenSuffix (takeBytes t offset)),
    here + byteLength (tokenStart (dropBytes t offset)))

/-- A span of at least one character is kept; an empty one grows to the token around it. -/
def visibleSpan (t : Text) (span : Nat × Nat) : Nat × Nat :=
  if span.1 = span.2 then tokenAround t span.1 else span

end Text

end LanguageClient
