import LanguageClient.Config
import LanguageClient.Editor.Buffer
import LanguageClient.Session.Basic
namespace LanguageClient

/-!
# Routes

Which definition a document is served by: the one it is pinned to, or else that of its extension.
And the servers that are in use.
-/

structure Routes where
  /-- Definitions by extension key. -/
  definitions : List (Text × ServerDefinition)
  /-- The documents pinned to a definition, by URI. -/
  forced : List (String × ForcedAssociation)
  servers : List ServerId

namespace Routes

def empty : Routes := ⟨[], [], []⟩

instance : Inhabited Routes := ⟨empty⟩

/-- Every key of every definition; the first definition of a key wins. -/
def flatten (definitions : List ServerDefinition) : List (Text × ServerDefinition) :=
  definitions.foldl
    (fun table d =>
      d.extensions.foldl
        (fun table ext => if table.any fun e => e.1 == ext then table else table ++ [(ext, d)])
        table)
    []

/-- The definition that an association names. -/
def pinned? (f : ForcedAssociation) : Option ServerDefinition :=
  (ServerDefinition.ofArray (f.definition.map String.toList)).toOption

/-- Pins a document, in place of an older pin. -/
def force (r : Routes) (f : ForcedAssociation) : Routes :=
  { r with forced := (r.forced.filter fun e => e.1 != f.uri) ++ [(f.uri, f)] }

/-- The routes of a configuration; pins to definitions that cannot be read are skipped. -/
def ofConfig (c : Config) : Routes :=
  (c.forced.filter fun f => (pinned? f).isSome).foldl force
    { empty with definitions := flatten c.definitions }

/-- All pins, sorted by URI. -/
def associations (r : Routes) : List ForcedAssociation :=
  (r.forced.map (·.2)).mergeSort fun f g => f.uri ≤ g.uri

def isSupported (r : Routes) (ext : Text) : Bool := r.definitions.any fun e => e.1 == ext

/-- The definition that a document is served by. -/
def definitionFor (r : Routes) (d : OpenDocument) : Option ServerDefinition :=
  ((r.forced.lookup d.uri).bind pinned?).or (r.definitions.lookup d.extension)

/-- The keys of a table whose definition is another one in the other table, or none. -/
def keysChanged (table other : List (Text × ServerDefinition)) : List Text :=
  (table.filter fun e => other.lookup e.1 != some e.2).map (·.1)

/-- The pins to definitions that are in no table. -/
def stale (r : Routes) : List String :=
  (r.forced.filter fun e =>
    match pinned? e.2 with
    | some d => !r.definitions.any fun f => f.2 == d
    | none => true).map (·.1)

/-- Takes pins out. -/
def release (r : Routes) (uris : List String) : Routes :=
  { r with forced := r.forced.filter fun e => !uris.contains e.1 }

end Routes

end LanguageClient
