import LanguageClient.Edit
namespace LanguageClient

/-!
# Parameters

The parameters of what a server is told and asked about a document.
-/

namespace Params

/-- Parameters about a document. -/
def about (uri : String) (members : List (String × Json)) : Json :=
  Json.object (("textDocument", Json.object [("uri", .str uri)]) :: members)

/-- Parameters about a position in a document. -/
def at_ (uri : String) (position : Position) (members : List (String × Json)) : Json :=
  about uri (("position", position.toJson) :: members)

def didOpen (uri : String) (languageId : Text) (version : Nat) (text : Text) : Json :=
  Json.object
    [("textDocument",
      Json.object
        [("uri", .str uri), ("languageId", .ofText languageId), ("version", .ofNat version),
          ("text", .ofText text)])]

def didChange (uri : String) (version : Nat) (changes : List ContentChange) : Json :=
  Json.object
    [("textDocument", Json.object [("uri", .str uri), ("version", .ofNat version)]),
      ("contentChanges", .arr (changes.map ContentChange.toJson))]

/-- The text goes along where the server wants it. -/
def didSave (uri : String) (text : Option Text) : Json :=
  about uri ((text.map fun t => ("text", .ofText t)).toList)

def willSave (uri : String) (reason : Int) : Json := about uri [("reason", .int reason)]

def references (uri : String) (position : Position) : Json :=
  at_ uri position [("context", Json.object [("includeDeclaration", .bool true)])]

def codeAction (uri : String) (range : Range) (diagnostics : List Json) : Json :=
  about uri
    [("range", range.toJson), ("context", Json.object [("diagnostics", .arr diagnostics)])]

/-- The parameters that execute a command in normal form. -/
def execute (command : Json) : Json :=
  Json.object
    [("command", command.get "command"), ("arguments", (command.get? "arguments").getD (.arr []))]

/-- The options of formatting while typing. -/
def typingOptions : Json := Json.object [("tabSize", .int 4), ("insertSpaces", .bool true)]

def watchedFile (uri : String) (change : Int) : Json :=
  Json.object
    [("changes", .arr [Json.object [("uri", .str uri), ("type", .int change)]])]

end Params

end LanguageClient
