import LanguageClient.ClientError
import LanguageClient.Json.Reader
import LanguageClient.Text.Blank
namespace LanguageClient

/-!
# Server settings

A settings document is kept as flat attributes with dotted keys, in scopes: a key in angle brackets
holds the attributes for the documents whose URI starts with what it encloses, all other keys are
global. Scoped attributes override global ones. A section is the attributes under a key, nested
again.
-/

/-- Attributes by their dotted keys, sorted. -/
abbrev Attributes := List (String × Json)

structure ServerSettings where
  /-- The scopes by name, the global one first. -/
  scopes : List (String × Attributes)
deriving DecidableEq

namespace Settings

mutual

/-- Adds a value under a dotted key, an object by its members. -/
def flatten (key : String) : Json → Attributes → Attributes
  | .obj members, out => flattenMembers key members out
  | value, out => Json.putMember key value out

def flattenMembers (key : String) : List (String × Json) → Attributes → Attributes
  | [], out => out
  | (k, v) :: r, out =>
    flattenMembers key r (flatten (if key = "" then k else key ++ "." ++ k) v out)

end

/-- The keys of a dotted key. -/
def pathOf (key : String) : List String := (Text.splitOnChar '.' key.toList).map String.ofList

/-- Puts a value where a list of keys leads; what is in the way and no object gives way. -/
def insertAt : List String → Json → List (String × Json) → List (String × Json)
  | [], _, ms => ms
  | [key], value, ms => Json.putMember key value ms
  | key :: rest, value, ms =>
    Json.putMember key (.obj (insertAt rest value ((Json.lookup key ms).getD .null).members)) ms

/-- Nests attributes again. -/
def nest (attributes : Attributes) : Json :=
  .obj (attributes.foldl (fun ms a => insertAt (pathOf a.1) a.2 ms) [])

/-- A key under a section, without it. -/
def underSection? (section_ : String) (key : String) : Option String :=
  if section_ = "" then some key
  else
    match key.toList.take section_.length == section_.toList, key.toList.drop section_.length with
    | true, [] => some ""
    | true, '.' :: r => some (String.ofList (r.dropWhile (· == '.')))
    | _, _ => none

end Settings

namespace ServerSettings

/-- The name of the scope of all documents. -/
def globalScope : String := "global"

/-- No settings at all, not even a global scope. -/
def none : ServerSettings := ⟨[]⟩

def scope? (s : ServerSettings) (name : String) : Option Attributes := s.scopes.lookup name

/-- Changes a scope, adding it where it is missing. -/
def updateScope (name : String) (f : Attributes → Attributes) :
    List (String × Attributes) → List (String × Attributes)
  | [] => [(name, f [])]
  | (n, a) :: r => if n = name then (n, f a) :: r else (n, a) :: updateScope name f r

/-- The text between the angle brackets of a scope name. -/
def bracketed? (key : String) : Option Text :=
  match key.toList with
  | '<' :: r => if r.getLast? = some '>' then some r.dropLast else .none
  | _ => .none

def isScopeKey (key : String) : Bool :=
  key.toList.head? == some '<' && key.toList.getLast? == some '>'

def addMember (scopes : List (String × Attributes)) (m : String × Json) :
    Except ClientError (List (String × Attributes)) :=
  if isScopeKey m.1 then
    match m.2 with
    | .obj ms => .ok (updateScope m.1 (Settings.flattenMembers "" ms) scopes)
    | _ => .error (.protocol s!"Scope {m.1} must hold an object")
  else .ok (updateScope globalScope (Settings.flatten m.1 m.2) scopes)

/-- Reads a settings document. -/
def ofJson : Json → Except ClientError ServerSettings
  | .obj ms => do return ⟨← ms.foldlM addMember [(globalScope, [])]⟩
  | _ => .error (.protocol "Settings must be a JSON object")

/-- Reads a settings file; a blank one holds no settings. -/
def ofText (t : Text) : Except ClientError ServerSettings :=
  if Text.trim t = [] then .ok none
  else
    match Json.read? t with
    | some j => ofJson j
    | .none => .error (.json "")

def startsWith : Text → Text → Bool
  | [], _ => true
  | _ :: _, [] => false
  | a :: p, b :: t => a == b && startsWith p t

/-- The scope with the longest text that a URI starts with, or else the global one. -/
def scopeForUri (s : ServerSettings) (uri : String) : String :=
  if uri = "" then globalScope
  else
    let fits := s.scopes.filter fun e =>
      match bracketed? e.1 with
      | some p => startsWith p uri.toList
      | .none => false
    fits.foldl
      (fun best e =>
        if best = globalScope ∨ best.utf8ByteSize ≤ e.1.utf8ByteSize then e.1 else best)
      globalScope

def isEmpty (s : ServerSettings) : Bool := s.scopes.all fun e => e.2.isEmpty

/-- The attributes under a section, without it; those of the scope override the global ones. -/
def attributes? (s : ServerSettings) (section_ scope : String) : Option Attributes := do
  let own ← s.scope? scope
  let base := if scope = globalScope then [] else (s.scope? globalScope).getD []
  let layer (out : Attributes) (a : Attributes) : Attributes :=
    a.foldl
      (fun out e =>
        match Settings.underSection? section_ e.1 with
        | some key => Json.putMember key e.2 out
        | .none => out)
      out
  some (layer (layer [] base) own)

/-- The value of a section, null when it has no attributes. -/
def section_ (s : ServerSettings) (name scope : String) : Json :=
  match s.attributes? name scope with
  | .none => .null
  | some [] => .null
  | some attributes =>
    match Json.lookup "" attributes with
    | some value => value
    | .none => Settings.nest attributes

/-- The global settings. -/
def toJson (s : ServerSettings) : Json := s.section_ "" globalScope

end ServerSettings

end LanguageClient
