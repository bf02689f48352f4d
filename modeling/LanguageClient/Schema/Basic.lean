import LanguageClient.Json.Basic
namespace LanguageClient

/-!
# Shapes of protocol values

A shape reads a JSON value of one protocol type and gives its normal form: members that the type
does not know are left out, as are absent ones that need not be written. A record is read from an
object by name, or from an array by position.
-/

abbrev Shape := Json → Option Json

namespace Shape

/-- What happens where a field is absent. -/
inductive Presence where
  /-- The record is refused. -/
  | required
  /-- It is left out; null counts as absent. In an array it must still have its place. -/
  | optional
  /-- It is left out, in an array too. -/
  | omittable
  /-- It is written as null. -/
  | nullable
  /-- It has this value. -/
  | standard (value : Json)

structure Field where
  name : String
  shape : Shape
  presence : Presence

def any : Shape := fun j => some j.canonical

def bool : Shape
  | .bool b => some (.bool b)
  | _ => none

def string : Shape
  | .str s => some (.str s)
  | _ => none

/-- An integer between two bounds. -/
def integer (low high : Int) : Shape
  | .int n => if low ≤ n ∧ n ≤ high then some (.int n) else none
  | _ => none

def u8 : Shape := integer 0 255
def u32 : Shape := integer 0 4294967295
def u64 : Shape := integer 0 18446744073709551615
def i32 : Shape := integer (-2147483648) 2147483647
def i64 : Shape := integer (-9223372036854775808) 9223372036854775807

/-- One of some words, alone or as the only key of an object with the value null. -/
def word (words : List String) : Shape
  | .str s => if s ∈ words then some (.str s) else none
  | .obj [(s, .null)] => if s ∈ words then some (.str s) else none
  | _ => none

def list (s : Shape) : Shape
  | .arr items => (items.mapM s).map .arr
  | _ => none

/-- An object whose keys are all of one kind and whose values are all of one shape. -/
def mapOf (isKey : String → Bool) (s : Shape) : Shape
  | .obj ms =>
    if ms.all fun m => isKey m.1 then
      (ms.mapM fun m => (s m.2).map fun v => (m.1, v)).map Json.object
    else none
  | _ => none

def map (s : Shape) : Shape := mapOf (fun _ => true) s

def orNull (s : Shape) : Shape
  | .null => some .null
  | j => s j

/-- The first of several shapes that reads the value. -/
def oneOf (shapes : List Shape) : Shape := fun j => shapes.findSome? fun s => s j

/-- The place of a field in a value. -/
inductive Slot where
  | missing
  | ended
  | given (value : Json)

/-- Finds the field of a name, which must not be repeated. -/
def slot? (members : List (String × Json)) (name : String) : Option Slot :=
  match members.filter fun m => m.1 == name with
  | [] => some .missing
  | [m] => some (.given m.2)
  | _ => none

/-- What a field contributes to the normal form. -/
def Field.read (f : Field) : Slot → Option (List (String × Json))
  | .given v =>
    match f.presence, v with
    | .optional, .null => some []
    | .omittable, .null => some []
    | .nullable, .null => some [(f.name, .null)]
    | _, v => (f.shape v).map fun w => [(f.name, w)]
  | .missing =>
    match f.presence with
    | .required => none
    | .optional => some []
    | .omittable => some []
    | .nullable => some [(f.name, .null)]
    | .standard v => some [(f.name, v)]
  | .ended =>
    match f.presence with
    | .omittable => some []
    | .standard v => some [(f.name, v)]
    | _ => none

def readMembers (fields : List Field) (members : List (String × Json)) :
    Option (List (String × Json)) := do
  let parts ← fields.mapM fun f => (slot? members f.name).bind f.read
  return parts.flatten

def readItems : List Field → List Json → Option (List (String × Json))
  | [], [] => some []
  | [], _ :: _ => none
  | f :: fs, [] => do
    let part ← f.read .ended
    let rest ← readItems fs []
    return part ++ rest
  | f :: fs, v :: vs => do
    let part ← f.read (.given v)
    let rest ← readItems fs vs
    return part ++ rest

/-- A record with its own fields only. -/
def record (fields : List Field) : Shape
  | .obj members => (readMembers fields members).map Json.object
  | .arr items => (readItems fields items).map Json.object
  | _ => none

/-- A record made of several others, which is read by name only. -/
def merged (fields : List Field) : Shape
  | .obj members => (readMembers fields members).map Json.object
  | _ => none

/-- A merged record that takes the members it does not know as values of one shape. -/
def extended (fields : List Field) (others : Shape) : Shape
  | .obj members => do
    let own ← readMembers fields members
    let rest ← (members.filter fun m => !fields.any fun f => f.name == m.1).mapM fun m =>
      (others m.2).map fun v => (m.1, v)
    return Json.object (own ++ rest)
  | _ => none

/-- The variant that a tag names, by its name or by its place in the list. -/
def variant? (variants : List (String × List Field)) : Json → Option (String × List Field)
  | .str name => variants.find? fun v => v.1 == name
  | .int (.ofNat place) => variants[place]?
  | _ => none

/--
A record of one of several variants. The tag that tells which is a member of the object, or the
first item of the array; it is written with the name of the variant.
-/
def tagged (tag : String) (variants : List (String × List Field)) : Shape := fun j => do
  let (kind, rest) ← match j with
    | .obj members =>
      match slot? members tag with
      | some (.given kind) => some (kind, Json.obj (members.filter fun m => m.1 != tag))
      | _ => none
    | .arr (kind :: items) => some (kind, Json.arr items)
    | _ => none
  let (name, fields) ← variant? variants kind
  let value ← record fields rest
  return Json.object ((tag, .str name) :: value.members)

def required (name : String) (s : Shape) : Field := ⟨name, s, .required⟩
def optional (name : String) (s : Shape) : Field := ⟨name, s, .optional⟩
def omittable (name : String) (s : Shape) : Field := ⟨name, s, .omittable⟩
def nullable (name : String) (s : Shape) : Field := ⟨name, s, .nullable⟩
def standard (name : String) (s : Shape) (value : Json) : Field := ⟨name, s, .standard value⟩

end Shape

end LanguageClient
