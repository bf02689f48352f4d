import LanguageClient.Schema.Basic
import LanguageClient.Uri.Reference
namespace LanguageClient

/-!
# Shapes of documents, edits and diagnostics
-/

namespace Shape

def isUri (s : String) : Bool := Uri.isReference s.toList

def uri : Shape
  | .str s => if isUri s then some (.str s) else none
  | _ => none

def position : Shape := record [required "line" u32, required "character" u32]

def range : Shape := record [required "start" position, required "end" position]

def location : Shape := record [required "uri" uri, required "range" range]

def locationLink : Shape :=
  record
    [optional "originSelectionRange" range, required "targetUri" uri,
      required "targetRange" range, required "targetSelectionRange" range]

def textEdit : Shape := record [required "range" range, required "newText" string]

def annotatedTextEdit : Shape :=
  merged [required "range" range, required "newText" string, required "annotationId" string]

def command : Shape :=
  record
    [required "title" string, required "command" string, optional "arguments" (list any)]

def numberOrString : Shape := oneOf [i32, string]

def markupContent : Shape :=
  record [required "kind" (word ["plaintext", "markdown"]), required "value" string]

def documentation : Shape := oneOf [string, markupContent]

def diagnostic : Shape :=
  record
    [required "range" range, optional "severity" i32, optional "code" numberOrString,
      optional "codeDescription" (record [required "href" uri]), optional "source" string,
      required "message" string,
      optional "relatedInformation"
        (list (record [required "location" location, required "message" string])),
      optional "tags" (list i32), optional "data" any]

def documentId : Shape := record [required "uri" uri]

def versionedDocumentId : Shape := record [required "uri" uri, required "version" i32]

def optionalVersionedDocumentId : Shape := record [required "uri" uri, nullable "version" i32]

def documentItem : Shape :=
  record
    [required "uri" uri, required "languageId" string, required "version" i32,
      required "text" string]

def contentChange : Shape :=
  record [optional "range" range, optional "rangeLength" u32, required "text" string]

def documentEdit : Shape :=
  record
    [required "textDocument" optionalVersionedDocumentId,
      required "edits" (list (oneOf [textEdit, annotatedTextEdit]))]

def createOptions : Shape :=
  record [optional "overwrite" bool, optional "ignoreIfExists" bool]

def deleteOptions : Shape :=
  record
    [optional "recursive" bool, optional "ignoreIfNotExists" bool,
      optional "annotationId" string]

/-- The operations on files, each with its kind and its fields. -/
def resourceOperations : List (String × List Field) :=
  [("create",
      [required "uri" uri, optional "options" createOptions, optional "annotationId" string]),
    ("rename",
      [required "oldUri" uri, required "newUri" uri, optional "options" createOptions,
        optional "annotationId" string]),
    ("delete", [required "uri" uri, optional "options" deleteOptions])]

/-- An operation on files, told apart by its kind. -/
def resourceOperation : Shape := tagged "kind" resourceOperations

def changeAnnotation : Shape :=
  record
    [required "label" string, optional "needsConfirmation" bool, optional "description" string]

def workspaceEdit : Shape :=
  record
    [omittable "changes" (mapOf isUri (list textEdit)),
      optional "documentChanges"
        (oneOf [list documentEdit, list (oneOf [resourceOperation, documentEdit])]),
      optional "changeAnnotations" (map changeAnnotation)]

end Shape

end LanguageClient
