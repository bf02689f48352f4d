import LanguageClient.ClientError
import LanguageClient.Server.Capability
import LanguageClient.Status
namespace LanguageClient

/-!
# Features

What the client may ask of a server or tell it. Every feature has its method, and a condition on
the capabilities and the dynamic registrations under which the server takes it. `Feature.result`
says what an answer comes to, and which failures count as a crash.
-/

inductive Feature where
  | didOpen
  | didClose
  | didChange
  | willSave
  | willSaveWaitUntil
  | didSave
  | didChangeConfiguration
  | didChangeWatchedFiles
  | workspaceSymbol
  | executeCommand
  | hover
  | completion
  | resolveCompletion
  | signatureHelp
  | references
  | documentHighlight
  | documentSymbol
  | formatting
  | rangeFormatting
  | onTypeFormatting
  | definition
  | codeAction
  | codeLens
  | resolveCodeLens
  | documentLink
  | resolveDocumentLink
  | rename
  | prepareRename
deriving DecidableEq, Repr

namespace Feature

def all : List Feature :=
  [didOpen, didClose, didChange, willSave, willSaveWaitUntil, didSave, didChangeConfiguration,
    didChangeWatchedFiles, workspaceSymbol, executeCommand, hover, completion, resolveCompletion,
    signatureHelp, references, documentHighlight, documentSymbol, formatting, rangeFormatting,
    onTypeFormatting, definition, codeAction, codeLens, resolveCodeLens, documentLink,
    resolveDocumentLink, rename, prepareRename]

/-- The name of a feature in scripts and reports. -/
def name : Feature → String
  | didOpen => "did_open"
  | didClose => "did_close"
  | didChange => "did_change"
  | willSave => "will_save"
  | willSaveWaitUntil => "will_save_wait_until"
  | didSave => "did_save"
  | didChangeConfiguration => "did_change_configuration"
  | didChangeWatchedFiles => "did_change_watched_files"
  | workspaceSymbol => "workspace_symbol"
  | executeCommand => "execute_command"
  | hover => "hover"
  | completion => "completion"
  | resolveCompletion => "resolve_completion_item"
  | signatureHelp => "signature_help"
  | references => "references"
  | documentHighlight => "document_highlight"
  | documentSymbol => "document_symbol"
  | formatting => "formatting"
  | rangeFormatting => "range_formatting"
  | onTypeFormatting => "on_type_formatting"
  | definition => "definition"
  | codeAction => "code_action"
  | codeLens => "code_lens"
  | resolveCodeLens => "resolve_code_lens"
  | documentLink => "document_link"
  | resolveDocumentLink => "resolve_document_link"
  | rename => "rename"
  | prepareRename => "prepare_rename"

def ofName? (s : String) : Option Feature := all.find? fun f => f.name == s

def method : Feature → String
  | didOpen => "textDocument/didOpen"
  | didClose => "textDocument/didClose"
  | didChange => "textDocument/didChange"
  | willSave => "textDocument/willSave"
  | willSaveWaitUntil => "textDocument/willSaveWaitUntil"
  | didSave => "textDocument/didSave"
  | didChangeConfiguration => "workspace/didChangeConfiguration"
  | didChangeWatchedFiles => "workspace/didChangeWatchedFiles"
  | workspaceSymbol => "workspace/symbol"
  | executeCommand => "workspace/executeCommand"
  | hover => "textDocument/hover"
  | completion => "textDocument/completion"
  | resolveCompletion => "completionItem/resolve"
  | signatureHelp => "textDocument/signatureHelp"
  | references => "textDocument/references"
  | documentHighlight => "textDocument/documentHighlight"
  | documentSymbol => "textDocument/documentSymbol"
  | formatting => "textDocument/formatting"
  | rangeFormatting => "textDocument/rangeFormatting"
  | onTypeFormatting => "textDocument/onTypeFormatting"
  | definition => "textDocument/definition"
  | codeAction => "textDocument/codeAction"
  | codeLens => "textDocument/codeLens"
  | resolveCodeLens => "codeLens/resolve"
  | documentLink => "textDocument/documentLink"
  | resolveDocumentLink => "documentLink/resolve"
  | rename => "textDocument/rename"
  | prepareRename => "textDocument/prepareRename"

/-- Notifications have no answer. -/
def isNotification : Feature → Bool
  | didOpen | didClose | didChange | willSave | didSave | didChangeConfiguration
  | didChangeWatchedFiles => true
  | _ => false

/-- Whether a server executes a command: one it lists or, where it lists none, any. -/
def supportsCommand (c : Capabilities) (registered : DynamicMethod → Bool) (command : String) :
    Bool :=
  match c.commands? with
  | some commands => commands.elem command
  | none => registered .executeCommand

/-- Whether the server takes the feature with these parameters. -/
def isSupported (c : Capabilities) (registered : DynamicMethod → Bool) (params : Json) :
    Feature → Bool
  | didOpen | didClose => c.openClose
  | didChange => c.syncKind != SyncKind.none
  | willSave => c.willSave
  | willSaveWaitUntil => c.willSaveWaitUntil
  | didSave => c.save
  | didChangeConfiguration | didChangeWatchedFiles => true
  | workspaceSymbol => c.isOn "workspaceSymbolProvider" || registered .workspaceSymbol
  | executeCommand => supportsCommand c registered ((params.get "command").str?.getD "")
  | hover => c.isOn "hoverProvider" || registered .hover
  | completion => c.has "completionProvider" || registered .completion
  | resolveCompletion => c.option "completionProvider" "resolveProvider"
  | signatureHelp => c.has "signatureHelpProvider" || registered .signatureHelp
  | references => c.isOn "referencesProvider" || registered .references
  | documentHighlight => c.isOn "documentHighlightProvider" || registered .documentHighlight
  | documentSymbol => c.isOn "documentSymbolProvider" || registered .documentSymbol
  | formatting => c.isOn "documentFormattingProvider" || registered .formatting
  | rangeFormatting => c.isOn "documentRangeFormattingProvider" || registered .rangeFormatting
  | onTypeFormatting =>
    c.has "documentOnTypeFormattingProvider" || registered .onTypeFormatting
  | definition => c.isOn "definitionProvider" || registered .definition
  | codeAction => c.isOn "codeActionProvider" || registered .codeAction
  | codeLens => c.has "codeLensProvider" || registered .codeLens
  | resolveCodeLens => c.option "codeLensProvider" "resolveProvider"
  | documentLink => c.has "documentLinkProvider" || registered .documentLink
  | resolveDocumentLink => c.option "documentLinkProvider" "resolveProvider"
  | rename => c.isOn "renameProvider" || registered .rename
  | prepareRename => c.option "renameProvider" "prepareProvider"

/-- The shape of the parameters. -/
def paramsShape : Feature → Shape
  | didOpen => Shape.didOpenParams
  | didClose => Shape.didCloseParams
  | didChange => Shape.didChangeParams
  | willSave | willSaveWaitUntil => Shape.willSaveParams
  | didSave => Shape.didSaveParams
  | didChangeConfiguration => Shape.configurationChangeParams
  | didChangeWatchedFiles => Shape.watchedFilesParams
  | workspaceSymbol => Shape.workspaceSymbolParams
  | executeCommand => Shape.executeCommandParams
  | hover => Shape.hoverParams
  | completion => Shape.completionParams
  | resolveCompletion => Shape.completionItem
  | signatureHelp => Shape.signatureHelpParams
  | references => Shape.referenceParams
  | documentHighlight => Shape.at_ [Shape.workDone, Shape.partialResult]
  | documentSymbol => Shape.of_ [Shape.workDone, Shape.partialResult]
  | formatting => Shape.formattingParams
  | rangeFormatting => Shape.rangeFormattingParams
  | onTypeFormatting => Shape.onTypeFormattingParams
  | definition => Shape.at_ [Shape.workDone, Shape.partialResult]
  | codeAction => Shape.codeActionParams
  | codeLens | documentLink => Shape.of_ [Shape.workDone, Shape.partialResult]
  | resolveCodeLens => Shape.codeLens
  | resolveDocumentLink => Shape.documentLink
  | rename => Shape.renameParams
  | prepareRename => Shape.documentPosition

/-- The shape of an answer that is not null. -/
def answerShape : Feature → Shape
  | willSaveWaitUntil | formatting | rangeFormatting | onTypeFormatting => Shape.list Shape.textEdit
  | workspaceSymbol => Shape.workspaceSymbolResponse
  | hover => Shape.hover
  | completion => Shape.completionResponse
  | resolveCompletion => Shape.completionItem
  | signatureHelp => Shape.signatureHelp
  | references => Shape.list Shape.location
  | documentHighlight => Shape.list Shape.documentHighlight
  | documentSymbol => Shape.documentSymbolResponse
  | codeAction => Shape.codeActionResponse
  | codeLens => Shape.list Shape.codeLens
  | resolveCodeLens => Shape.codeLens
  | documentLink => Shape.list Shape.documentLink
  | resolveDocumentLink => Shape.documentLink
  | rename => Shape.workspaceEdit
  | prepareRename => Shape.prepareRenameResponse
  | _ => Shape.any

/-- A location, or several, or links of which the selections are taken; none of anything else. -/
def definitionLocations (answer : Json) : Json :=
  let link (l : Json) : Json :=
    Json.object [("uri", l.get "targetUri"), ("range", l.get "targetSelectionRange")]
  match Shape.location answer with
  | some l => .arr [l]
  | none =>
    match Shape.list Shape.location answer with
    | some ls => ls
    | none =>
      match Shape.list Shape.locationLink answer with
      | some ls => .arr ((ls.arr?.getD []).map link)
      | none => .arr []

/-- What a call came to: a value, or an answer that refuses it. -/
inductive Result where
  | none
  | value (v : Json)
  | refused (error : ClientError)

def Result.value? : Result → Option Json
  | value v => some v
  | _ => Option.none

/-- What a successful answer comes to; one of unexpected shape comes to nothing. -/
def ofAnswer (f : Feature) (answer : Json) : Result :=
  match f with
  | definition => .value (definitionLocations answer)
  | prepareRename =>
    if answer.isNull then .value .null
    else
      match f.answerShape answer with
      | some v => .value v
      | none => .refused (.json "")
  | _ =>
    if answer.isNull then .none
    else
      match f.answerShape answer with
      | some v => .value v
      | none => .none

/-- Whether a failed call means that the connection broke. -/
def isCrash (f : Feature) (e : ClientError) : Bool :=
  match f, e with
  | prepareRename, .rpc _ _ => false
  | _, e => !e.isBenign

/-- What a failed call comes to. -/
def ofFailure (f : Feature) (e : ClientError) : Result :=
  match f, e with
  | prepareRename, .rpc c m => .refused (.rpc c m)
  | prepareRename, e => .refused (.request e.message)
  | _, _ => .none

end Feature

end LanguageClient
