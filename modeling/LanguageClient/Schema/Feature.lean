import LanguageClient.Schema.Document
namespace LanguageClient

/-!
# Shapes of requests and answers

The parameters and results of the language features, and of the requests a server makes.
-/

namespace Shape

def progressToken : Shape := oneOf [i32, string]

def workDone : Field := optional "workDoneToken" progressToken

def partialResult : Field := optional "partialResultToken" progressToken

/-- A document and a position in it, with further fields. -/
def at_ (fields : List Field) : Shape :=
  merged ([required "textDocument" documentId, required "position" position] ++ fields)

def documentPosition : Shape :=
  record [required "textDocument" documentId, required "position" position]

/-- A document, with further fields. -/
def of_ (fields : List Field) : Shape := merged (required "textDocument" documentId :: fields)

def markedString : Shape :=
  oneOf [string, record [required "language" string, required "value" string]]

def hoverContents : Shape := oneOf [markedString, list markedString, markupContent]

def hover : Shape := record [required "contents" hoverContents, optional "range" range]

def hoverParams : Shape := at_ [workDone]

def insertReplaceEdit : Shape :=
  record [required "newText" string, required "insert" range, required "replace" range]

def completionItem : Shape :=
  record
    [required "label" string,
      optional "labelDetails" (record [optional "detail" string, optional "description" string]),
      optional "kind" i32, optional "detail" string, optional "documentation" documentation,
      optional "deprecated" bool, optional "preselect" bool, optional "sortText" string,
      optional "filterText" string, optional "insertText" string,
      optional "insertTextFormat" i32, optional "insertTextMode" i32,
      optional "textEdit" (oneOf [textEdit, insertReplaceEdit]),
      optional "additionalTextEdits" (list textEdit), optional "command" command,
      optional "commitCharacters" (list string), optional "data" any,
      optional "tags" (list i32)]

def completionResponse : Shape :=
  oneOf
    [list completionItem,
      record [required "isIncomplete" bool, required "items" (list completionItem)]]

def completionParams : Shape :=
  at_
    [workDone, partialResult,
      optional "context"
        (record [required "triggerKind" i32, optional "triggerCharacter" string])]

def parameterInformation : Shape :=
  record
    [required "label"
      (oneOf [string, fun j => match j with
        | .arr [a, b] => do
          let a ← u32 a
          let b ← u32 b
          some (.arr [a, b])
        | _ => none]),
      optional "documentation" documentation]

def signatureInformation : Shape :=
  record
    [required "label" string, optional "documentation" documentation,
      optional "parameters" (list parameterInformation), optional "activeParameter" u32]

def signatureHelp : Shape :=
  record
    [required "signatures" (list signatureInformation), optional "activeSignature" u32,
      optional "activeParameter" u32]

def signatureHelpParams : Shape :=
  merged
    [optional "context"
      (record
        [required "triggerKind" i32, optional "triggerCharacter" string,
          required "isRetrigger" bool, optional "activeSignatureHelp" signatureHelp]),
      required "textDocument" documentId, required "position" position, workDone]

def referenceParams : Shape :=
  at_ [workDone, partialResult,
    required "context" (record [required "includeDeclaration" bool])]

def documentHighlight : Shape := record [required "range" range, optional "kind" i32]

def symbolInformation : Shape :=
  record
    [required "name" string, required "kind" i32, optional "tags" (list i32),
      optional "deprecated" bool, required "location" location,
      optional "containerName" string]

def documentSymbolFields (children : Shape) : List Field :=
  [required "name" string, optional "detail" string, required "kind" i32,
    optional "tags" (list i32), optional "deprecated" bool, required "range" range,
    required "selectionRange" range, optional "children" (list children)]

/-- A symbol with its children, nested at most so many levels deep. -/
def documentSymbol : Nat → Shape
  | 0 => fun _ => none
  | depth + 1 => record (documentSymbolFields (documentSymbol depth))

def documentSymbolResponse : Shape :=
  oneOf [list symbolInformation, list (documentSymbol 64)]

def workspaceSymbol : Shape :=
  record
    [required "name" string, required "kind" i32, optional "tags" (list i32),
      optional "containerName" string,
      required "location" (oneOf [location, record [required "uri" uri]]), optional "data" any]

def workspaceSymbolResponse : Shape := oneOf [list symbolInformation, list workspaceSymbol]

def workspaceSymbolParams : Shape :=
  merged [partialResult, workDone, required "query" string]

def executeCommandParams : Shape :=
  merged [required "command" string, standard "arguments" (list any) (.arr []), workDone]

def formattingOptions : Shape :=
  extended
    [required "tabSize" u32, required "insertSpaces" bool,
      optional "trimTrailingWhitespace" bool, optional "insertFinalNewline" bool,
      optional "trimFinalNewlines" bool]
    (oneOf [bool, i32, string])

def formattingParams : Shape := of_ [required "options" formattingOptions, workDone]

def rangeFormattingParams : Shape :=
  of_ [required "range" range, required "options" formattingOptions, workDone]

def onTypeFormattingParams : Shape :=
  at_ [required "ch" string, required "options" formattingOptions]

def codeActionContext : Shape :=
  record
    [required "diagnostics" (list diagnostic), optional "only" (list string),
      optional "triggerKind" i32]

def codeActionParams : Shape :=
  of_ [required "range" range, required "context" codeActionContext, workDone, partialResult]

def codeAction : Shape :=
  record
    [required "title" string, optional "kind" string, optional "diagnostics" (list diagnostic),
      optional "edit" workspaceEdit, optional "command" command, optional "isPreferred" bool,
      optional "disabled" (record [required "reason" string]), optional "data" any]

def codeActionResponse : Shape := list (oneOf [command, codeAction])

def codeLens : Shape :=
  record [required "range" range, optional "command" command, optional "data" any]

def documentLink : Shape :=
  record
    [required "range" range, optional "target" uri, optional "tooltip" string,
      optional "data" any]

def renameParams : Shape := at_ [required "newName" string, workDone]

def prepareRenameResponse : Shape :=
  oneOf
    [range, merged [required "range" range, required "placeholder" string],
      merged [required "defaultBehavior" bool]]

def fileEvent : Shape := record [required "uri" uri, required "type" i32]

def didOpenParams : Shape := record [required "textDocument" documentItem]

def didCloseParams : Shape := record [required "textDocument" documentId]

def didChangeParams : Shape :=
  record
    [required "textDocument" versionedDocumentId, required "contentChanges" (list contentChange)]

def willSaveParams : Shape := record [required "textDocument" documentId, required "reason" i32]

def didSaveParams : Shape :=
  record [required "textDocument" documentId, optional "text" string]

def configurationChangeParams : Shape := record [required "settings" any]

def watchedFilesParams : Shape := record [required "changes" (list fileEvent)]

def showMessageParams : Shape := record [required "type" i32, required "message" string]

def messageAction : Shape :=
  extended [required "title" string] (oneOf [string, bool, i32, any])

def showMessageRequestParams : Shape :=
  record
    [required "type" i32, required "message" string, optional "actions" (list messageAction)]

def publishDiagnosticsParams : Shape :=
  record
    [required "uri" uri, required "diagnostics" (list diagnostic), optional "version" i32]

def registrationParams : Shape :=
  record
    [required "registrations"
      (list (record
        [required "id" string, required "method" string, optional "registerOptions" any]))]

def unregistrationParams : Shape :=
  record
    [required "unregisterations"
      (list (record [required "id" string, required "method" string]))]

def configurationParams : Shape :=
  record
    [required "items"
      (list (record [optional "scopeUri" uri, optional "section" string]))]

def applyEditParams : Shape :=
  record [optional "label" string, required "edit" workspaceEdit]

end Shape

end LanguageClient
