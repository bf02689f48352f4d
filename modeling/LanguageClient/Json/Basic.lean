import LanguageClient.Text.Basic
namespace LanguageClient

/-!
# JSON values

The free values of the protocol. Integers are exact; a number with a fraction or an exponent, or
one beyond 64 bits, keeps its spelling. A reader lists the members of an object as they come;
`canonical` sorts them by key and keeps the last of each. Equality is decided by structure.
-/

inductive Json where
  | null
  | bool (value : Bool)
  | int (value : Int)
  | real (spelling : String)
  | str (value : String)
  | arr (items : List Json)
  | obj (members : List (String × Json))
deriving Inhabited

namespace Json

mutual

def same : Json → Json → Bool
  | null, null => true
  | bool a, bool b => a == b
  | int a, int b => a == b
  | real a, real b => a == b
  | str a, str b => a == b
  | arr a, arr b => sameItems a b
  | obj a, obj b => sameMembers a b
  | _, _ => false

def sameItems : List Json → List Json → Bool
  | [], [] => true
  | a :: as, b :: bs => same a b && sameItems as bs
  | _, _ => false

def sameMembers : List (String × Json) → List (String × Json) → Bool
  | [], [] => true
  | (k, a) :: as, (l, b) :: bs => k == l && same a b && sameMembers as bs
  | _, _ => false

end

mutual

theorem same_iff (a b : Json) : same a b = true ↔ a = b := by
  cases a with
  | null => cases b <;> simp [same]
  | bool a => cases b <;> simp [same]
  | int a => cases b <;> simp [same]
  | real a => cases b <;> simp [same]
  | str a => cases b <;> simp [same]
  | arr as => cases b <;> simp [same, sameItems_iff as]
  | obj as => cases b <;> simp [same, sameMembers_iff as]

theorem sameItems_iff (as bs : List Json) : sameItems as bs = true ↔ as = bs := by
  cases as with
  | nil => cases bs <;> simp [sameItems]
  | cons a as => cases bs <;> simp [sameItems, same_iff a, sameItems_iff as]

theorem sameMembers_iff (as bs : List (String × Json)) : sameMembers as bs = true ↔ as = bs := by
  cases as with
  | nil => cases bs <;> simp [sameMembers]
  | cons a as =>
    obtain ⟨k, a⟩ := a
    cases bs with
    | nil => simp [sameMembers]
    | cons b bs =>
      obtain ⟨l, b⟩ := b
      simp [sameMembers, same_iff a, sameMembers_iff as, and_assoc]

end

instance : DecidableEq Json := fun a b => decidable_of_iff _ (same_iff a b)

/-- Puts a member where its key belongs; one of the same key gives way. -/
def putMember (key : String) (value : Json) : List (String × Json) → List (String × Json)
  | [] => [(key, value)]
  | (k, v) :: r =>
    if key = k then (key, value) :: r
    else if key < k then (key, value) :: (k, v) :: r
    else (k, v) :: putMember key value r

/-- The object of the given members: by key, the last of each. -/
def object (members : List (String × Json)) : Json :=
  obj (members.foldl (fun acc m => putMember m.1 m.2 acc) [])

mutual

/-- Sorts the members of every object by key and keeps the last of each. -/
def canonical : Json → Json
  | null => null
  | bool b => bool b
  | int n => int n
  | real s => real s
  | str s => str s
  | arr items => arr (canonicalItems items)
  | obj members => object (canonicalMembers members)

def canonicalItems : List Json → List Json
  | [] => []
  | v :: r => canonical v :: canonicalItems r

def canonicalMembers : List (String × Json) → List (String × Json)
  | [] => []
  | (k, v) :: r => (k, canonical v) :: canonicalMembers r

end

/-- The members of an object, or none. -/
def members : Json → List (String × Json)
  | obj ms => ms
  | _ => []

def lookup (key : String) : List (String × Json) → Option Json
  | [] => none
  | (k, v) :: r => if k = key then some v else lookup key r

/-- The value of a member, if this is an object that has it. -/
def get? (j : Json) (key : String) : Option Json := lookup key j.members

/-- The value of a member that is there and is not null. -/
def getSome? (j : Json) (key : String) : Option Json :=
  match j.get? key with
  | some null => none
  | other => other

/-- The value of a member, or null. -/
def get (j : Json) (key : String) : Json := (j.get? key).getD null

def str? : Json → Option String
  | str s => some s
  | _ => none

def int? : Json → Option Int
  | int n => some n
  | _ => none

def nat? : Json → Option Nat
  | int (.ofNat n) => some n
  | _ => none

def bool? : Json → Option Bool
  | bool b => some b
  | _ => none

def arr? : Json → Option (List Json)
  | arr items => some items
  | _ => none

def isNull : Json → Bool
  | null => true
  | _ => false

/-- A list of strings. -/
def strings? (j : Json) : Option (List String) := j.arr?.bind fun items => items.mapM str?

def ofNat (n : Nat) : Json := int n

def ofText (t : Text) : Json := str (String.ofList t)

/-- An absent value is null. -/
def ofOption (f : α → Json) : Option α → Json
  | none => null
  | some a => f a

def ofStrings (items : List String) : Json := arr (items.map str)

/-- The object of those members that are present. -/
def record (members : List (String × Option Json)) : Json :=
  object (members.filterMap fun m => m.2.map fun v => (m.1, v))

@[simp] theorem lookup_nil (key : String) : lookup key [] = none := rfl

theorem lookup_putMember (key : String) (value : Json) (ms : List (String × Json))
    (other : String) :
    lookup other (putMember key value ms) =
      if key = other then some value else lookup other ms := by
  induction ms with
  | nil => simp [putMember, lookup]
  | cons m ms ih =>
    obtain ⟨k, v⟩ := m
    simp only [putMember]
    split
    · next h => subst h; by_cases h : key = other <;> simp [lookup, h]
    · next h =>
      split
      · simp [lookup]
      · simp only [lookup, ih]
        by_cases h1 : k = other
        · subst h1; simp [h]
        · simp [h1]

end Json

end LanguageClient
