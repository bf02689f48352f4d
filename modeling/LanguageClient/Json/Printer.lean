import LanguageClient.Json.Basic
namespace LanguageClient

/-!
# Printing JSON

The compact text of a value: no white space, members in the order they stand in. In a string only
quotes, backslashes and control characters are escaped, those with a short escape by it and the
others as `u00` and two lowercase hexadecimal digits.
-/

namespace Json

namespace Printer

def hexDigit (n : Nat) : Char := if n < 10 then Char.ofNat (48 + n) else Char.ofNat (87 + n)

/-- A character as it stands in a string. -/
def escaped (c : Char) : Text :=
  if c = '"' then ['\\', '"']
  else if c = '\\' then ['\\', '\\']
  else if c = '\x08' then ['\\', 'b']
  else if c = '\t' then ['\\', 't']
  else if c = '\n' then ['\\', 'n']
  else if c = '\x0c' then ['\\', 'f']
  else if c = '\r' then ['\\', 'r']
  else if c.val < 0x20 then
    ['\\', 'u', '0', '0', hexDigit (c.toNat / 16), hexDigit (c.toNat % 16)]
  else [c]

/-- A string in quotes. -/
def quoted (s : Text) : Text := '"' :: (s.flatMap escaped ++ ['"'])

def natural (n : Nat) : Text := Nat.toDigits 10 n

def integer : Int → Text
  | .ofNat n => natural n
  | .negSucc n => '-' :: natural (n + 1)

end Printer

mutual

/-- The compact text of a value. -/
def print : Json → Text
  | null => ['n', 'u', 'l', 'l']
  | bool true => ['t', 'r', 'u', 'e']
  | bool false => ['f', 'a', 'l', 's', 'e']
  | int n => Printer.integer n
  | real s => s.toList
  | str s => Printer.quoted s.toList
  | arr items => '[' :: printItems items
  | obj members => '\x7b' :: printMembers members

/-- The items and the closing bracket. -/
def printItems : List Json → Text
  | [] => [']']
  | [v] => print v ++ [']']
  | v :: r => print v ++ ',' :: printItems r

/-- The members and the closing brace. -/
def printMembers : List (String × Json) → Text
  | [] => ['\x7d']
  | [(k, v)] => Printer.quoted k.toList ++ ':' :: print v ++ ['\x7d']
  | (k, v) :: r => Printer.quoted k.toList ++ ':' :: print v ++ ',' :: printMembers r

end

end Json

end LanguageClient
