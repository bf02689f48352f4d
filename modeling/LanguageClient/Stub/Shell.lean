import LanguageClient.Definition.Basic
import LanguageClient.Stub.Utility
import LanguageClient.Text.Utf8
namespace LanguageClient

/-!
# A stub shell

A small shell on top of the stub programs: commands one after the other, choices by the status of a
command, variables, sums and texts that stand in the script. It is what local processes run.
-/

namespace StubShell

/-! ## Scripts -/

/-- A part of a word. -/
inductive Piece where
  | char (c : Char)
  | variable (name : Text)
  /-- A sum, in double parentheses. -/
  | sum (terms : Text)

inductive Token where
  | word (pieces : List Piece)
  /-- The end of a command. -/
  | stop
  /-- The input of a command, which stands in the lines below up to this one. -/
  | document (last : Text)

inductive Command where
  | simple (words : List (List Piece)) (document : Option Text)
  | choice (condition yes no : List Command)

def isName (c : Char) : Bool := c.isAlphanum || c == '_'

/-- Reads the pieces of a word, which may be in quotes. -/
def readPieces : (fuel : Nat) → (quote : Option Char) → Text → List Piece × Text
  | 0, _, r => ([], r)
  | _ + 1, _, [] => ([], [])
  | fuel + 1, none, '$' :: '(' :: '(' :: r =>
    let (terms, rest) := r.span (· ≠ ')')
    let (pieces, rest) := readPieces fuel none (rest.drop 2)
    (.sum terms :: pieces, rest)
  | fuel + 1, quote, c :: r =>
    if quote = some c then readPieces fuel none r
    else if quote = none ∧ [' ', ';', '<'].elem c then ([], c :: r)
    else if quote = none ∧ ['\'', '"'].elem c then readPieces fuel (some c) r
    else if c = '$' ∧ quote ≠ some '\'' then
      let (name, rest) := r.span isName
      let (pieces, rest) := readPieces fuel quote rest
      (.variable name :: pieces, rest)
    else
      let (pieces, rest) := readPieces fuel quote r
      (.char c :: pieces, rest)

def readLine : (fuel : Nat) → Text → List Token
  | 0, _ => []
  | _ + 1, [] => [.stop]
  | fuel + 1, c :: r =>
    if c = ' ' then readLine fuel r
    else if c = ';' then .stop :: readLine fuel r
    else if c = '<' then
      let (last, rest) := (r.drop 1).span fun c => c ≠ ' ' ∧ c ≠ ';'
      .document last :: readLine fuel rest
    else
      let (pieces, rest) := readPieces (r.length + 2) none (c :: r)
      .word pieces :: readLine fuel rest

/-- Puts the lines below in the place of the line that ends them. -/
def takeDocuments : List Token → (below : List Text) → List Token × List Text
  | [], below => ([], below)
  | .document last :: ts, below =>
    let lines := below.takeWhile (· ≠ last)
    let (ts, below) := takeDocuments ts (below.drop (lines.length + 1))
    (.document (lines.flatMap (· ++ ['\n'])) :: ts, below)
  | t :: ts, below =>
    let (ts, below) := takeDocuments ts below
    (t :: ts, below)

def readLines : (fuel : Nat) → List Text → List Token
  | 0, _ => []
  | _ + 1, [] => []
  | fuel + 1, l :: below =>
    let (ts, below) := takeDocuments (readLine (l.length + 1) l) below
    ts ++ readLines fuel below

def Piece.char? : Piece → Option Char
  | .char c => some c
  | _ => none

/-- The word, if nothing in it is to be filled in. -/
def plain? (pieces : List Piece) : Option String := (pieces.mapM Piece.char?).map String.ofList

def isWord (name : String) : Token → Bool
  | .word pieces => plain? pieces == some name
  | _ => false

/-- Reads commands up to a word that ends them. -/
def readCommands : (fuel : Nat) → List Token → List Command × List Token
  | 0, ts => ([], ts)
  | _ + 1, [] => ([], [])
  | fuel + 1, t :: ts =>
    match t with
    | .stop => readCommands fuel ts
    | .document _ => readCommands fuel ts
    | .word pieces =>
      if ["then", "else", "fi"].any (isWord · t) then ([], t :: ts)
      else if isWord "if" t then
        let (condition, ts) := readCommands fuel ts
        let (yes, ts) := readCommands fuel (ts.drop 1)
        let (no, ts) :=
          if (ts.head?.map (isWord "else")).getD false then readCommands fuel (ts.drop 1)
          else ([], ts)
        let (commands, ts) := readCommands fuel (ts.drop 1)
        (.choice condition yes no :: commands, ts)
      else
        let (own, rest) := ts.span fun
          | .stop => false
          | _ => true
        let words := own.filterMap fun
          | .word pieces => some pieces
          | _ => none
        let document := own.findSome? fun
          | .document text => some text
          | _ => none
        let (commands, rest) := readCommands fuel rest
        (.simple (pieces :: words) document :: commands, rest)

def parse (script : Text) : List Command :=
  let lines := Text.splitOnChar '\n' script
  let tokens := readLines (lines.length + 1) lines
  (readCommands (tokens.length + 1) tokens).1

/-! ## Running -/

structure State where
  directory : Path
  values : List (Text × Text)
  output : Text
  errors : Text
  input : Text
  status : Nat
  /-- Whether the shell was left. -/
  isOver : Bool

/-- A product of numbers. -/
def product (t : Text) : Nat :=
  (Text.splitOnChar '*' t).foldl (fun p n => p * StubUtility.number (Text.trim n)) 1

/-- A sum of products. -/
def sumOf (t : Text) : Nat := (Text.splitOnChar '+' t).foldl (fun n p => n + product p) 0

namespace State

def fill (s : State) : Piece → Text
  | .char c => [c]
  | .variable name => (s.values.lookup name).getD []
  | .sum terms => (toString (sumOf terms)).toList

/-- Adds what a program did. -/
def add (s : State) (r : StubRun) : State :=
  { s with output := s.output ++ r.output, errors := s.errors ++ r.errors, status := r.status }

/-- Reads a line of the input into a variable. -/
def readInto (s : State) (name : Text) : State :=
  let line := s.input.takeWhile (· ≠ '\n')
  { s with
    values := (name, Text.trim line) :: s.values
    input := s.input.drop (line.length + 1)
    status := if line.length < s.input.length then 0 else 1 }

/-- Runs a command on some input. -/
def call (s : State) (name : Text) (args : List Text) (input : Text) : State × Text :=
  match String.ofList name, (StubUtility.all s.directory).lookup (String.ofList name) with
  | "echo", _ => (s.add (.mk (Text.joinWith [' '] args ++ ['\n']) [] [] 0), input)
  | "exit", _ => ({ s with isOver := true, status := StubUtility.number (args.headD []) }, input)
  | _, some program =>
    let r := program args input
    (s.add r, r.input)
  | name, none => (s.add ⟨[], s!"sh: 1: {name}: not found\n".toList, [], 127⟩, input)

def runSimple (s : State) (words : List Text) (document : Option Text) : State :=
  match words, document with
  | [], _ => s
  | ['r', 'e', 'a', 'd'] :: args, _ => s.readInto (args.headD [])
  | name :: args, some text => (s.call name args text).1
  | name :: args, none =>
    let (s, input) := s.call name args s.input
    { s with input }

end State

mutual

def run (s : State) : Command → State
  | .simple words document => s.runSimple (words.map fun w => w.flatMap s.fill) document
  | .choice condition yes no =>
    let s := runAll s condition
    if s.isOver then s else if s.status = 0 then runAll s yes else runAll s no

def runAll (s : State) : List Command → State
  | [] => s
  | c :: cs =>
    let s := run s c
    if s.isOver then s else runAll s cs

end

end StubShell

namespace StubSystem

def toBytes (t : Text) : Text := (Utf8.encode t).map fun b => Char.ofNat b.toNat

def ofBytes (t : Text) : Text := Utf8.decodeLossy (t.map fun c => c.toNat.toUInt8)

def hasDirectory (p : Path) : Bool := ["/", "/usr", "/tmp"].any fun d => Path.same d.toList p

/-- Runs a process on some input to its end: its output and its errors. -/
def process (environment : List (Text × Text)) (c : LaunchCommand) (input : Text) :
    Except ClientError (Text × Text) :=
  let args := c.args.map toBytes
  let program? :=
    if c.program = "sh".toList then
      some fun script input =>
        let values := environment.map fun v => (toBytes v.1, toBytes v.2)
        let start : StubShell.State := ⟨c.directory, values, [], [], input, 0, false⟩
        let s := StubShell.runAll start (StubShell.parse ((script.drop 1).headD []))
        StubRun.mk s.output s.errors s.input s.status
    else (StubUtility.all c.directory).lookup (String.ofList c.program)
  match program? with
  | some program =>
    if hasDirectory c.directory then
      let r := program args (toBytes input)
      .ok (ofBytes r.output, ofBytes r.errors)
    else .error (.launch "Failed to start server: No such file or directory")
  | none => .error (.launch "Failed to start server: No such file or directory")

end StubSystem

end LanguageClient
