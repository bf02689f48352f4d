import LanguageClient.Schema.Feature
namespace LanguageClient

/-!
# Shape of the capabilities of a server
-/

namespace Shape

def workDoneProgress : Field := optional "workDoneProgress" bool

def workDoneOptions : Shape := merged [workDoneProgress]

/-- A switch, or options that imply it. -/
def switchOr (options : Shape) : Shape := oneOf [bool, options]

def saveOptions : Shape := record [optional "includeText" bool]

def syncOptions : Shape :=
  record
    [optional "openClose" bool, optional "change" i32, optional "willSave" bool,
      optional "willSaveWaitUntil" bool, optional "save" (oneOf [bool, saveOptions])]

def documentFilter : Shape :=
  record [optional "language" string, optional "scheme" string, optional "pattern" string]

def documentSelector : Shape := list documentFilter

def staticRegistration : Field := optional "id" string

def selectorField : Field := nullable "documentSelector" documentSelector

/-- A switch, options, or options with a static registration. -/
def switchOrRegistration : Shape :=
  oneOf [bool, merged [selectorField, workDoneProgress, staticRegistration], workDoneOptions]

def documentRegistration : Shape := record [selectorField, staticRegistration]

def completionOptions : Shape :=
  merged
    [optional "resolveProvider" bool, optional "triggerCharacters" (list string),
      optional "allCommitCharacters" (list string), workDoneProgress,
      optional "completionItem" (record [optional "labelDetailsSupport" bool])]

def signatureHelpOptions : Shape :=
  merged
    [optional "triggerCharacters" (list string), optional "retriggerCharacters" (list string),
      workDoneProgress]

def fileOperationFilter : Shape :=
  record
    [nullable "scheme" string,
      required "pattern"
        (record
          [required "glob" string, optional "matches" (word ["file", "folder"]),
            optional "options" (record [optional "ignoreCase" bool])])]

def fileOperationRegistration : Shape := record [required "filters" (list fileOperationFilter)]

def workspaceOptions : Shape :=
  record
    [optional "workspaceFolders"
      (record
        [optional "supported" bool, optional "changeNotifications" (oneOf [bool, string])]),
      optional "fileOperations"
        (record
          [optional "didCreate" fileOperationRegistration,
            optional "willCreate" fileOperationRegistration,
            optional "didRename" fileOperationRegistration,
            optional "willRename" fileOperationRegistration,
            optional "didDelete" fileOperationRegistration,
            optional "willDelete" fileOperationRegistration])]

def semanticTokensOptions : Shape :=
  merged
    [workDoneProgress,
      required "legend"
        (record [required "tokenTypes" (list string), required "tokenModifiers" (list string)]),
      optional "range" bool,
      optional "full" (oneOf [bool, merged [optional "delta" bool]])]

def diagnosticOptions : Shape :=
  merged
    [optional "identifier" string, required "interFileDependencies" bool,
      required "workspaceDiagnostics" bool, workDoneProgress]

/-- A switch, bare options, or the documents that they hold for. -/
def switchOrDocuments : Shape := oneOf [bool, record [], documentRegistration]

/-- A notebook by one of its marks, which must be given; the other two need not be. -/
def notebookFilter (mark : String) : Shape :=
  merged
    (["notebook_type", "scheme", "pattern"].map fun name =>
      if name = mark then required name string else optional name string)

def notebook : Shape :=
  oneOf [string, notebookFilter "notebook_type", notebookFilter "scheme", notebookFilter "pattern"]

def notebookCells : Shape := list (record [required "language" string])

/-- A notebook, its cells, or both. -/
def notebookSelector : Shape :=
  oneOf
    [merged [required "notebook" notebook, optional "cells" notebookCells],
      merged [optional "notebook" notebook, required "cells" notebookCells]]

def notebookSyncFields : List Field :=
  [required "notebookSelector" (list notebookSelector), optional "save" bool]

def notebookSync : Shape :=
  oneOf [record notebookSyncFields, record (notebookSyncFields ++ [staticRegistration])]

def serverCapabilities : Shape :=
  record
    [optional "positionEncoding" string,
      optional "textDocumentSync" (oneOf [i32, syncOptions]),
      optional "notebookDocumentSync" notebookSync,
      optional "selectionRangeProvider" (switchOr workDoneOptions),
      optional "hoverProvider" (switchOr workDoneOptions),
      optional "completionProvider" completionOptions,
      optional "signatureHelpProvider" signatureHelpOptions,
      optional "definitionProvider" (switchOr workDoneOptions),
      optional "typeDefinitionProvider" (switchOr documentRegistration),
      optional "implementationProvider" (switchOr documentRegistration),
      optional "referencesProvider" (switchOr workDoneOptions),
      optional "documentHighlightProvider" (switchOr workDoneOptions),
      optional "documentSymbolProvider"
        (switchOr (merged [optional "label" string, workDoneProgress])),
      optional "workspaceSymbolProvider"
        (switchOr (merged [workDoneProgress, optional "resolveProvider" bool])),
      optional "codeActionProvider"
        (switchOr
          (merged
            [optional "codeActionKinds" (list string), workDoneProgress,
              optional "resolveProvider" bool])),
      optional "codeLensProvider" (record [optional "resolveProvider" bool]),
      optional "documentFormattingProvider" (switchOr workDoneOptions),
      optional "documentRangeFormattingProvider" (switchOr workDoneOptions),
      optional "documentOnTypeFormattingProvider"
        (record
          [required "firstTriggerCharacter" string,
            optional "moreTriggerCharacter" (list string)]),
      optional "renameProvider"
        (switchOr (merged [optional "prepareProvider" bool, workDoneProgress])),
      optional "documentLinkProvider"
        (merged [optional "resolveProvider" bool, workDoneProgress]),
      optional "colorProvider" switchOrDocuments,
      optional "foldingRangeProvider" switchOrDocuments,
      optional "declarationProvider" switchOrRegistration,
      optional "executeCommandProvider"
        (merged [required "commands" (list string), workDoneProgress]),
      optional "workspace" workspaceOptions,
      optional "callHierarchyProvider" (switchOr workDoneOptions),
      optional "semanticTokensProvider" semanticTokensOptions,
      optional "monikerProvider" (switchOr workDoneOptions),
      optional "linkedEditingRangeProvider" (switchOr workDoneOptions),
      optional "inlineValueProvider" (switchOr workDoneOptions),
      optional "inlayHintProvider"
        (switchOr (merged [workDoneProgress, optional "resolveProvider" bool])),
      optional "diagnosticProvider" diagnosticOptions,
      optional "experimental" any]

def initializeResult : Shape :=
  record
    [required "capabilities" serverCapabilities,
      optional "serverInfo" (record [required "name" string, optional "version" string])]

end Shape

end LanguageClient
