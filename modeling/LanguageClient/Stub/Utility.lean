import LanguageClient.Path
import LanguageClient.Text.Blank
namespace LanguageClient

/-!
# Stub programs

A handful of small programs to try local processes on. A program is given its arguments and its
input, and ends with what it wrote, what it left of the input and a status. Characters stand for
bytes.
-/

/-- What a program did. -/
structure StubRun where
  output : Text
  errors : Text
  /-- The input that it left. -/
  input : Text
  status : Nat

namespace StubUtility

def success (output input : Text) : StubRun := ⟨output, [], input, 0⟩

def failure (program reason : String) (input : Text) : StubRun :=
  ⟨[], s!"{program}: {reason}\n".toList, input, 1⟩

def number (t : Text) : Nat := (String.ofList t).toNat?.getD 0

/-- The value of the option, which stands in the argument after it. -/
def optionValue? (option : String) : List Text → Option Text
  | o :: v :: r => if o = option.toList then some v else optionValue? option (v :: r)
  | _ => none

/-- The value of the operand that is given after its name and an equals sign. -/
def operand? (name : String) (args : List Text) : Option Text :=
  (args.filterMap (Text.cut? '=')).lookup name.toList

/-- Cuts a list into pieces of a size; the last one may be shorter. -/
def pieces {α : Type} (size : Nat) : (fuel : Nat) → List α → List (List α)
  | 0, _ => []
  | _ + 1, [] => []
  | fuel + 1, xs => xs.take size :: pieces size fuel (xs.drop size)

def hexByte (b : Nat) : Text := [Nat.digitChar (b / 16), Nat.digitChar (b % 16)]

/-- Fills a text up to a width. -/
def pad (width : Nat) (filling : Char) (t : Text) : Text :=
  List.replicate (width - t.length) filling ++ t

/-! ## Printing -/

/-- Reads what follows a backslash. -/
def unescape : Text → Text × Text
  | 'n' :: r => (['\n'], r)
  | 't' :: r => (['\t'], r)
  | '\\' :: r => (['\\'], r)
  | a :: b :: c :: r =>
    if [a, b, c].all fun d => '0' ≤ d && d ≤ '7' then
      ([Char.ofNat ([a, b, c].foldl (fun n d => n * 8 + (d.toNat - 48)) 0)], r)
    else (['\\'], a :: b :: c :: r)
  | r => (['\\'], r)

/-- Prints one argument by what follows a percent sign. -/
def directive (t arg : Text) : Text × Text :=
  let left := t.head? = some '-'
  let zeros := t.head? = some '0'
  let (width, rest) := (if left then t.drop 1 else t).span Char.isDigit
  let filled (body : Text) : Text :=
    if left then body ++ List.replicate (number width - body.length) ' '
    else pad (number width) (if zeros then '0' else ' ') body
  match rest with
  | 's' :: r => (filled arg, r)
  | 'd' :: r => (filled (toString (number arg)).toList, r)
  | r => ('%' :: t.take (t.length - r.length), r)

/-- Prints a format once; what is left of the arguments comes with it. -/
def formatOnce : (fuel : Nat) → Text → List Text → Text × List Text
  | 0, _, args => ([], args)
  | _ + 1, [], args => ([], args)
  | fuel + 1, '\\' :: r, args =>
    let (c, r) := unescape r
    let (out, args) := formatOnce fuel r args
    (c ++ out, args)
  | fuel + 1, '%' :: '%' :: r, args =>
    let (out, args) := formatOnce fuel r args
    ('%' :: out, args)
  | fuel + 1, '%' :: r, args =>
    let (shown, r) := directive r (args.headD [])
    let (out, args) := formatOnce fuel r (args.drop 1)
    (shown ++ out, args)
  | fuel + 1, c :: r, args =>
    let (out, args) := formatOnce fuel r args
    (c :: out, args)

/-- Prints a format again for as long as it uses up arguments. -/
def formatAll (format : Text) : (fuel : Nat) → List Text → Text
  | 0, _ => []
  | fuel + 1, args =>
    let (out, left) := formatOnce (format.length + 1) format args
    if left.isEmpty ∨ left.length = args.length then out else out ++ formatAll format fuel left

def printf (args : List Text) (input : Text) : StubRun :=
  match args with
  | [] => failure "printf" "missing operand" input
  | format :: args => success (formatAll format (args.length + 1) args) input

/-! ## Copying -/

def cat (args : List Text) (input : Text) : StubRun :=
  match args.find? (· ≠ ['-']) with
  | none => success input []
  | some file => failure "cat" s!"{String.ofList file}: No such file or directory" input

/-- The characters of a set, whose ranges are written out. -/
def charsOf : Text → Text
  | a :: '-' :: b :: r =>
    ((List.range (b.toNat + 1)).drop a.toNat).map Char.ofNat ++ charsOf r
  | c :: r => c :: charsOf r
  | [] => []

def translate (args : List Text) (input : Text) : StubRun :=
  match args with
  | [source, target] =>
    let table := (charsOf source).zip (charsOf target)
    success (input.map fun c => (table.lookup c).getD c) []
  | _ => failure "tr" "missing operand" input

/-- Copies so many blocks. -/
def copyBlocks (args : List Text) (input : Text) : StubRun :=
  let size := ((operand? "bs" args).map number).getD 512
  match operand? "count" args with
  | none => success input []
  | some count => success (input.take (size * number count)) (input.drop (size * number count))

/-- Puts tabs for the blanks before a tab stop, for two of them at least. -/
def tabs (width : Nat) : (column blanks : Nat) → Text → Text
  | _, blanks, [] => List.replicate blanks ' '
  | column, blanks, c :: r =>
    if c = ' ' then
      if (column + 1) % width = 0 ∧ (0 < blanks ∨ width = 1) then '\t' :: tabs width (column + 1) 0 r
      else tabs width (column + 1) (blanks + 1) r
    else
      List.replicate blanks ' ' ++ c :: tabs width (if c = '\n' then 0 else column + 1) 0 r

def unexpand (args : List Text) (input : Text) : StubRun :=
  success (tabs (((optionValue? "-t" args).map number).getD 8) 0 0 input) []

/-! ## Encodings and digests -/

def base64Digits : Text :=
  let upper := charsOf "A-Z".toList
  upper ++ upper.map Char.toLower ++ "0123456789+/".toList

def numberOf (base : Nat) (digits : List Nat) : Nat := digits.foldl (fun n d => n * base + d) 0

/-- Three bytes as four digits; missing bytes as equals signs. -/
def encodeGroup (group : Text) : Text :=
  let n := numberOf 256 ((group.map Char.toNat ++ [0, 0]).take 3)
  let digits := [n / 262144, n / 4096 % 64, n / 64 % 64, n % 64].map (base64Digits.getD · '=')
  digits.take (group.length + 1) ++ List.replicate (3 - group.length) '='

def decodeGroup (group : List Nat) : Text :=
  let n := numberOf 64 ((group ++ [0, 0, 0]).take 4)
  ([n / 65536, n / 256 % 256, n % 256].map Char.ofNat).take (group.length - 1)

def base64 (args : List Text) (input : Text) : StubRun :=
  let groups {α : Type} (size : Nat) (xs : List α) := pieces size (xs.length + 1) xs
  if args.elem "-d".toList then
    success ((groups 4 (input.filterMap fun c => base64Digits.idxOf? c)).flatMap decodeGroup) []
  else
    let width := ((optionValue? "-w" args).map number).getD 76
    let digits := (groups 3 input).flatMap encodeGroup
    success ((groups width digits).flatMap fun l => l ++ ['\n']) []

/-- The bytes in hexadecimal digits, sixteen on a line. -/
def dump (args : List Text) (input : Text) : StubRun :=
  if args = ["-An".toList, "-tx1".toList] then
    success ((pieces 16 (input.length + 1) input).flatMap fun l =>
      (l.flatMap fun c => ' ' :: hexByte c.toNat) ++ ['\n']) []
  else failure "od" "unknown output format" input

/-- One byte of a cyclic redundancy check. -/
def checkByte (crc : UInt32) (byte : Nat) : UInt32 :=
  (List.range 8).foldl
    (fun crc _ => if crc >>> 31 = 1 then crc <<< 1 ^^^ 0x04C11DB7 else crc <<< 1)
    (crc ^^^ UInt32.ofNat byte <<< 24)

/-- The bytes of a number, the least first and without zeros at the end. -/
def lengthBytes : (fuel : Nat) → Nat → List Nat
  | 0, _ => []
  | fuel + 1, n => if n = 0 then [] else n % 256 :: lengthBytes fuel (n / 256)

def checksum (input : Text) : StubRun :=
  let bytes := input.map Char.toNat ++ lengthBytes input.length input.length
  success s!"{(~~~ (bytes.foldl checkByte 0)).toNat} {input.length}\n".toList []

/-- The greatest number whose power is no greater than `n`, if it has at most so many bits. -/
def root (power n : Nat) : (bits : Nat) → Nat
  | 0 => 0
  | bits + 1 =>
    let r := root power (n >>> power) bits * 2
    if (r + 1) ^ power ≤ n then r + 1 else r

/-- The first bits of the fraction of the root of each of the first primes. -/
def rootFractions (power count : Nat) : List UInt32 :=
  let isPrime (n : Nat) : Bool := 2 ≤ n && (List.range n).all fun d => d < 2 || n % d != 0
  (((List.range 312).filter isPrime).take count).map fun p =>
    UInt32.ofNat (root power (p <<< (power * 32)) 40)

def turn (n k : UInt32) : UInt32 := n >>> k ||| n <<< (32 - k)

/-- One word for each round of SHA-256. -/
def schedule (block : List UInt32) : List UInt32 :=
  ((List.range 48).foldl
    (fun (w : Array UInt32) _ =>
      let back (k : Nat) : UInt32 := w.getD (w.size - k) 0
      let low := turn (back 15) 7 ^^^ turn (back 15) 18 ^^^ back 15 >>> 3
      let high := turn (back 2) 17 ^^^ turn (back 2) 19 ^^^ back 2 >>> 10
      w.push (high + back 7 + low + back 16))
    block.toArray).toList

def round (state : List UInt32) (k : UInt32 × UInt32) : List UInt32 :=
  match state with
  | [a, b, c, d, e, f, g, h] =>
    let choice := e &&& f ^^^ ~~~e &&& g
    let majority := a &&& b ^^^ a &&& c ^^^ b &&& c
    let first := h + (turn e 6 ^^^ turn e 11 ^^^ turn e 25) + choice + k.1 + k.2
    let second := (turn a 2 ^^^ turn a 13 ^^^ turn a 22) + majority
    [first + second, a, b, c, d + first, e, f, g]
  | _ => state

def sha256 (input : Text) : List Nat :=
  let bytesOf (size n : Nat) := (List.range size).reverse.map fun i => n >>> (8 * i) % 256
  let zeros := (119 - input.length % 64) % 64
  let bytes := input.map Char.toNat ++ 128 :: List.replicate zeros 0 ++ bytesOf 8 (8 * input.length)
  let state := (pieces 64 bytes.length bytes).foldl
    (fun state block =>
      let words := (pieces 4 64 block).map fun w => UInt32.ofNat (numberOf 256 w)
      let after := ((rootFractions 3 64).zip (schedule words)).foldl round state
      List.zipWith (· + ·) state after)
    (rootFractions 2 8)
  state.flatMap fun w => bytesOf 4 w.toNat

/-! ## Dates -/

/-- The date of a day after the first of January 1970: its year, month and day. Years are counted
from March, so that a leap day is the last one. -/
def dateOf (day : Nat) : Nat × Nat × Nat :=
  let n := day + 719468
  let rest := n % 146097
  let year := (rest - rest / 1460 + rest / 36524 - rest / 146096) / 365
  let ofYear := rest - (365 * year + year / 4 - year / 100)
  let month := (5 * ofYear + 2) / 153
  let isNext := decide (10 ≤ month)
  (n / 146097 * 400 + year + isNext.toNat, if isNext then month - 9 else month + 3,
    ofYear - (153 * month + 2) / 5 + 1)

def showTime (seconds : Nat) (letter : Char) : Text :=
  let (year, month, day) := dateOf (seconds / 86400)
  let two (n : Nat) : Text := pad 2 '0' (toString n).toList
  let joined (sep : Char) (ts : List Text) : Text := Text.joinWith [sep] ts
  match letter with
  | 'F' => joined '-' [pad 4 '0' (toString year).toList, two month, two day]
  | 'T' => joined ':' [two (seconds / 3600 % 24), two (seconds / 60 % 60), two (seconds % 60)]
  | 's' => (toString seconds).toList
  | c => ['%', c]

def formatTime (seconds : Nat) : Text → Text
  | '%' :: c :: r => showTime seconds c ++ formatTime seconds r
  | c :: r => c :: formatTime seconds r
  | [] => []

/-- Shows a time that is given in seconds after an at sign. -/
def date (args : List Text) (input : Text) : StubRun :=
  match optionValue? "-d" args, args.getLast? with
  | some ('@' :: seconds), some ('+' :: format) =>
    success (formatTime (number seconds) format ++ ['\n']) input
  | _, _ => failure "date" "invalid date" input

/-! ## All of them -/

/-- The programs by their names, in a directory. -/
def all (directory : Path) : List (String × (List Text → Text → StubRun)) :=
  [("base64", base64), ("cat", cat), ("cksum", fun _ input => checksum input), ("date", date),
    ("dd", copyBlocks), ("od", dump), ("printf", printf),
    ("pwd", fun _ input => success (directory ++ ['\n']) input),
    ("sha256sum", fun _ input =>
      success ((sha256 input).flatMap hexByte ++ "  -\n".toList) []),
    ("sleep", fun _ input => success [] input), ("tr", translate), ("unexpand", unexpand)]

end StubUtility

end LanguageClient
