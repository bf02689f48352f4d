import LanguageClient.ClientError
import LanguageClient.Text.Blank
import LanguageClient.Text.Utf8
namespace LanguageClient

/-!
# Frames

A message travels as header lines, an empty line and its body, whose number of bytes the header
`Content-Length` gives. `Frame.next` looks at the bytes that have arrived and takes the first frame
off them, waits, or says why there will be none.
-/

namespace Frame

/-- The largest body that is accepted. -/
def maxLength : Nat := 64 * 1024 * 1024

/-- A body with its header. -/
def encode (body : Text) : Text :=
  "Content-Length: ".toList ++ Nat.toDigits 10 (Text.byteLength body) ++
    '\r' :: '\n' :: '\r' :: '\n' :: body

inductive Next where
  /-- More bytes are needed. -/
  | incomplete
  /-- The stream ended between frames. -/
  | ended
  | failed (error : ClientError)
  | frame (body : Text) (rest : Bytes)

/-- The bytes of the first line with its line feed, and the others; nothing without one. -/
def cutLine? : Bytes → Option (Bytes × Bytes)
  | [] => none
  | b :: r => if b = 0x0A then some ([b], r) else (cutLine? r).map fun p => (b :: p.1, p.2)

theorem cutLine?_append {bytes line rest : Bytes} (h : cutLine? bytes = some (line, rest)) :
    line ++ rest = bytes := by
  induction bytes generalizing line rest with
  | nil => simp [cutLine?] at h
  | cons b r ih =>
    by_cases hb : b = 0x0A
    · simp [cutLine?, hb] at h
      obtain ⟨rfl, rfl⟩ := h
      simp [hb]
    · simp only [cutLine?, hb, if_false, Option.map_eq_some_iff] at h
      obtain ⟨p, hp, hr⟩ := h
      cases hr
      simp [ih hp]

/-- A number of 64 bits, possibly after a plus sign. -/
def length? (t : Text) : Option Nat :=
  let digits := match t with
    | '+' :: r => r
    | r => r
  if digits ≠ [] ∧ digits.all Char.isDigit then
    let n := digits.foldl (fun n c => n * 10 + (c.toNat - 48)) 0
    if n < UInt64.size then some n else none
  else none

/-- The length that a header line announces, after what earlier lines did. -/
def headerLength (line : Text) (length : Option Nat) : Except ClientError (Option Nat) :=
  match Text.cut? ':' line with
  | none => .ok length
  | some (name, value) =>
    if Text.lowerAscii (Text.trim name) = "content-length".toList then
      match length? (Text.trim value) with
      | some n => .ok (some n)
      | none => .error (.protocol "Invalid Content-Length")
    else .ok length

/-- Takes a body of the announced length. -/
def body (ended : Bool) (length : Option Nat) (bytes : Bytes) : Next :=
  match length with
  | none => .failed (.protocol "Missing Content-Length header")
  | some n =>
    if n > maxLength then .failed (.protocol s!"Content-Length {n} exceeds {maxLength}")
    else
      let content := bytes.take n
      if content.length < n then if ended then .failed (.transfer "early eof") else .incomplete
      else
        match Utf8.decode? content with
        | some t => .frame t (bytes.drop n)
        | none => .failed (.protocol "Invalid UTF-8: ")

/-- Reads header lines; `saw` tells that there was one. -/
def headers (ended : Bool) : Nat → (saw : Bool) → (length : Option Nat) → Bytes → Next
  | 0, _, _, _ => .incomplete
  | fuel + 1, saw, length, bytes =>
    let cut := match cutLine? bytes with
      | some c => some c
      | none => if ended then some (bytes, []) else none
    match cut with
    | none => .incomplete
    | some ([], _) =>
      if saw then .failed (.disconnected "Stream closed mid-message") else .ended
    | some (line, rest) =>
      match Utf8.decode? line with
      | none => .failed (.transfer "stream did not contain valid UTF-8")
      | some line =>
        match Text.trim line with
        | [] => if saw then body ended length rest else headers ended fuel false length rest
        | line =>
          match headerLength line length with
          | .ok length => headers ended fuel true length rest
          | .error e => .failed e

/-- The first frame of the bytes that have arrived, `ended` telling that no more will. -/
def next (bytes : Bytes) (ended : Bool) : Next := headers ended (bytes.length + 2) false none bytes

/-- The complete frames at the start of some bytes, at most so many, and the number of bytes that
they take. -/
def completeWithin : Nat → Bytes → List Text × Nat
  | 0, _ => ([], 0)
  | fuel + 1, bytes =>
    match next bytes false with
    | .frame body rest =>
      let others := completeWithin fuel rest
      (body :: others.1, bytes.length - rest.length + others.2)
    | _ => ([], 0)

/-- The complete frames at the start of some bytes. -/
def complete (bytes : Bytes) : List Text × Nat := completeWithin bytes.length bytes

end Frame

end LanguageClient
