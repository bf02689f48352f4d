import LanguageClient.Text.Blank
namespace LanguageClient

/-!
# Paths

Paths are texts; their components name what they stand for. Repeated and trailing slashes and
single dots count for nothing, except for a dot that starts a relative path.
-/

abbrev Path := Text

namespace Path

inductive Component where
  | root
  | here
  | up
  | name (text : Text)
deriving DecidableEq, Repr

def isAbsolute (p : Path) : Bool := p.head? == some '/'

/-- What one piece between slashes stands for. -/
def Component.ofPiece : Text → Option Component
  | [] => none
  | ['.'] => none
  | ['.', '.'] => some .up
  | t => some (.name t)

def components (p : Path) : List Component :=
  let pieces := Text.splitOnChar '/' p
  let start : List Component :=
    if isAbsolute p then [.root] else if pieces.head? = some ['.'] then [.here] else []
  start ++ pieces.filterMap Component.ofPiece

def Component.text : Component → Text
  | root => ['/']
  | here => ['.']
  | up => ['.', '.']
  | name t => t

/-- The plain text of a list of components. -/
def ofComponents : List Component → Path
  | .root :: cs => '/' :: Text.joinWith ['/'] (cs.map Component.text)
  | cs => Text.joinWith ['/'] (cs.map Component.text)

/-- Two paths are the same when their components are. -/
def same (p q : Path) : Bool := components p == components q

/-- The place of a component in the order of paths: the root, a dot, two dots, then names by their
characters. -/
def Component.key : Component → List Nat
  | root => [0]
  | here => [1]
  | up => [2]
  | name t => 3 :: t.map (·.toNat)

/-- Whether a path comes before another one, or is the same. -/
def comesBefore (p q : Path) : Bool :=
  !List.lex ((components q).map Component.key) ((components p).map Component.key)
    fun k l => List.lex k l fun m n => decide (m < n)

/-- An absolute path replaces what it is joined to. -/
def join (p q : Path) : Path :=
  if isAbsolute q then q
  else if p = [] ∨ p.getLast? = some '/' then p ++ q
  else p ++ '/' :: q

/-- The components without the last one; the root and the empty path have no parent. -/
def parentComponents? (cs : List Component) : Option (List Component) :=
  match cs.getLast? with
  | none | some .root => none
  | some _ => some cs.dropLast

/-- The directory that holds a path. -/
def parent? (p : Path) : Option Path := (parentComponents? (components p)).map ofComponents

/-- A relative path without the pieces at its ends that name nothing. -/
def relative (pieces : List Text) : Path :=
  let isNothing (t : Text) : Bool := (Component.ofPiece t).isNone
  Text.joinWith ['/'] (((pieces.dropWhile isNothing).reverse.dropWhile isNothing).reverse)

/-- A relative path and all those above it, innermost first, each as it is spelled there. -/
def relativeAncestors (p : Path) : List Path :=
  let pieces := Text.splitOnChar '/' p
  let lengths := (List.range (pieces.length + 1)).reverse
  ((lengths.map pieces.take).filter fun ps =>
    ps.getLast?.all fun t => (Component.ofPiece t).isSome).map relative

/-- The name at the end of a path. -/
def fileName? (p : Path) : Option Text :=
  match (components p).getLast? with
  | some (.name t) => some t
  | _ => none

/-- What follows the last dot of the file name; a dot at its start begins no extension. -/
def extension? (p : Path) : Option Text := do
  let name ← fileName? p
  let pieces := Text.splitOnChar '.' name
  match pieces with
  | [] | [_] | [[], _] => none
  | _ => pieces.getLast?

/-- The extension, empty when there is none. -/
def extension (p : Path) : Text := (extension? p).getD []

/-- One step of resolving dots without looking at files: two dots take back a name. -/
def resolveStep (done : List Component) : Component → List Component
  | .here => done
  | .up => (parentComponents? done).getD done
  | .root => [.root]
  | .name t => done ++ [.name t]

/-- Resolves single and double dots without looking at files. -/
def normalize (p : Path) : Path := ofComponents ((components p).foldl resolveStep [])

end Path

end LanguageClient
