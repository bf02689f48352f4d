import LanguageClient.Path
namespace LanguageClient

/-!
# File trees

Files with their content and directories, by the names that lead to them from the top. Two dots
lead back to the directory above, if what they stand behind is a directory; nothing is known of
what lies above the top. The project root of a path is the closest directory above it that holds
one of the root markers.
-/

inductive FileEntry where
  | directory
  | file (content : Text)
deriving DecidableEq, Repr

structure FileTree where
  entries : List (List Text × FileEntry)
deriving Repr

namespace FileTree

def empty : FileTree := ⟨[]⟩

def find? (tree : FileTree) (names : List Text) : Option FileEntry :=
  if names.isEmpty then some .directory
  else (tree.entries.find? fun e => e.1 == names).map (·.2)

/-- Adds the directories that lead to an entry, outermost first. -/
def makeParents (tree : FileTree) (names : List Text) : FileTree :=
  (List.range names.length).foldl
    (fun t n =>
      let dir := names.take n
      if (t.find? dir).isSome then t else ⟨t.entries ++ [(dir, .directory)]⟩)
    tree

def add (tree : FileTree) (names : List Text) (entry : FileEntry) : FileTree :=
  let tree := tree.makeParents names
  ⟨(tree.entries.filter fun e => e.1 != names) ++ [(names, entry)]⟩

/-- Follows components from a directory; every one passed through must be a directory. -/
def resolve? (tree : FileTree) : List Path.Component → (at_ : List Text) → Option (List Text)
  | [], at_ => some at_
  | c :: cs, at_ =>
    if tree.find? at_ = some .directory then
      match c with
      | .root => none
      | .here => tree.resolve? cs at_
      | .up => if at_.isEmpty then none else tree.resolve? cs at_.dropLast
      | .name n => tree.resolve? cs (at_ ++ [n])
    else none

def lookup? (tree : FileTree) (cs : List Path.Component) : Option FileEntry :=
  (tree.resolve? cs []).bind tree.find?

def exists? (tree : FileTree) (cs : List Path.Component) : Bool := (tree.lookup? cs).isSome

end FileTree

namespace Project

/-- The directory of a project that holds its server settings. -/
def settingsDirectory : Text := ".lsp".toList

/-- What marks a directory as a project root. -/
def rootMarkers : List Text :=
  [settingsDirectory, ".git".toList, "Cargo.toml".toList, "package.json".toList,
    "pyproject.toml".toList, "go.mod".toList]

/-- Whether a directory holds a root marker. -/
def isRoot (tree : FileTree) (dir : Path) : Bool :=
  rootMarkers.any fun m => tree.exists? (Path.components dir ++ [.name m])

/-- The closest directory from `start` upwards that holds a root marker, seen from the top of the
tree as `start` is. -/
def findRoot? (tree : FileTree) (start : Path) : Option Path :=
  if Path.isAbsolute start then none else (Path.relativeAncestors start).find? (isRoot tree)

/-- The settings file of one server in a project. -/
def settingsFile (root : Path) (server : Text) : Path :=
  Path.join (Path.join root settingsDirectory) (server ++ ".json".toList)

/-- The root of the project that a normalised file path belongs to: the closest marked directory
above it, or else its own directory. -/
def rootOfFile (tree : FileTree) (path : Path) : Path :=
  let parent := (Path.parent? path).getD []
  (findRoot? tree parent).getD parent

end Project

end LanguageClient
