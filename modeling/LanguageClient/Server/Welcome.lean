import LanguageClient.Json.Basic
import LanguageClient.Server.Basic
import LanguageClient.Uri.FilePath
namespace LanguageClient

/-!
# Initialize parameters

What a client tells a server about itself and the project when it initializes it.
-/

namespace Server

def dynamic : String × Json := ("dynamicRegistration", .bool true)

/-- What the client can do. -/
def clientCapabilities : Json :=
  let on (name : String) : String × Json := (name, .bool true)
  Json.object
    [("workspace", Json.object
      [on "applyEdit", ("workspaceEdit", Json.object [on "documentChanges"]),
        ("didChangeConfiguration", Json.object [dynamic]),
        ("didChangeWatchedFiles", Json.object [dynamic, on "relativePatternSupport"]),
        ("executeCommand", Json.object [dynamic]), on "configuration"]),
      ("textDocument", Json.object
        [("synchronization", Json.object
          [dynamic, on "willSave", on "willSaveWaitUntil", on "didSave"]),
          ("completion", Json.object
            [dynamic, ("completionItem", Json.object [on "snippetSupport"])]),
          ("hover", Json.object
            [dynamic, ("contentFormat", .arr [.str "markdown", .str "plaintext"])]),
          ("signatureHelp", Json.object [dynamic]),
          ("rename", Json.object [dynamic, on "prepareSupport"]),
          ("publishDiagnostics", Json.object [on "relatedInformation"])])]

/-- The name that a project is shown under. -/
def projectName (root : Path) : Text := (Path.fileName? root).getD "workspace".toList

/-- The parameters of `initialize`, given the number and the directory of the client's process. -/
def initializeParams (s : Server) (process : Nat) (directory : Path) : Except ClientError Json := do
  let uri ← Uri.ofPath directory s.root
  return Json.object
    ([("processId", .ofNat process), ("rootUri", .null), ("capabilities", clientCapabilities),
      ("workspaceFolders", .arr
        [Json.object [("uri", .ofText uri), ("name", .ofText (projectName s.root))]])] ++
      (s.definition.options.map fun o => ("initializationOptions", o)).toList)

end Server

end LanguageClient
