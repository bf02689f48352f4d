import LanguageClient.Client.Basic
import LanguageClient.Routing.Workspace
namespace LanguageClient

/-!
# Values in reports

How values are written in a report: what has many fields as an object, what comes in numbers as a
row of its fields.
-/

namespace Report

def texts (ts : List Text) : Json := .arr (ts.map Json.ofText)

def position (p : Position) : Json := .arr [.ofNat p.line, .ofNat p.character]

def range (r : Range) : Json := .arr [position r.start, position r.stop]

/-- A row of the two ends of a piece of text. -/
def span (s : Nat × Nat) : Json := .arr [.ofNat s.1, .ofNat s.2]

def spans (ss : List (Nat × Nat)) : Json := .arr (ss.map span)

end Report

open Report

namespace Snippet

def toJson (s : Snippet) : Json :=
  Json.object
    [("text", .ofText s.text),
      ("stops", .arr (s.stops.map fun t =>
        .arr [.ofNat t.start, .ofNat t.stop, .ofNat t.number, .ofText t.placeholder]))]

end Snippet

namespace CompletionShape

def name : CompletionShape → String
  | textEdit => "TextEdit"
  | textEditWithAdditional => "TextEditWithAdditional"
  | insertWithAdditional => "InsertWithAdditional"
  | bare => "Bare"

end CompletionShape

namespace CompletionEntry

def toJson (e : CompletionEntry) : Json :=
  Json.object
    [("label", .str e.label), ("detail", .ofOption .str e.detail), ("kind", .ofOption .int e.kind),
      ("sort_text", .ofOption .str e.sortText), ("filter_text", .ofOption .str e.filterText),
      ("shape", .str e.shape.name), ("edit", .ofOption TextEdit.toJson e.edit),
      ("insert_text", .ofText e.insertText), ("snippet", .ofOption Snippet.toJson e.snippet),
      ("additional_edits", .arr (e.additionalEdits.map TextEdit.toJson)),
      ("command", .ofOption id e.command), ("lookup", .str e.lookupText)]

end CompletionEntry

namespace Launch

def toJson : Launch → Json
  | artifact package mainClass args =>
    Json.object
      [("package", .ofText package), ("main_class", .ofText mainClass), ("args", texts args)]
  | executable path args => Json.object [("path", .ofText path), ("args", texts args)]
  | rawCommand command => Json.object [("command", texts command)]

end Launch

namespace LaunchCommand

def toJson (c : LaunchCommand) : Json :=
  Json.object [("program", .ofText c.program), ("args", texts c.args), ("dir", .ofText c.directory)]

end LaunchCommand

namespace ServerDefinition

/-- Whether a definition that was read is the same. -/
def isReadBack (d : ServerDefinition) (read : Except ClientError ServerDefinition) : Bool :=
  read.toOption == some d

/-- A definition with its written forms, and whether they are read back. -/
def toJson (d : ServerDefinition) : Json :=
  Json.object
    [("extension", .ofText d.extension), ("id", .ofText d.id), ("tag", .str d.launch.tag),
      ("launch", d.launch.toJson), ("options", .ofOption (fun o => o) d.options),
      ("extensions", texts d.extensions), ("array", texts d.toArray), ("csv", .ofText d.toCsv),
      ("round_trip", .bool (d.isReadBack (ofArray d.toArray))),
      ("csv_round_trip", .bool (d.isReadBack (ofCsv d.toCsv)))]

end ServerDefinition

namespace Config

/-- A configuration with what its definitions and its log level come to. -/
def report (c : Config) : List (String × Json) :=
  [("value", c.toJson), ("definitions", .arr (c.definitions.map ServerDefinition.toJson)),
    ("log_level", .ofOption (fun l => .str l.name) c.level?)]

end Config

namespace Marker

def toJson (m : Marker) : Json :=
  .arr [.ofNat m.start, .ofNat m.stop, .ofOption .int m.severity, .str m.message,
    .ofOption .str m.source, .ofOption .str m.code]

end Marker

namespace HoverText

def toJson (h : HoverText) : Json := .arr [.ofNat h.offset, .ofText h.text, .bool h.markdown]

end HoverText

namespace Display

def labels (entries : List CompletionEntry) : Json := .ofStrings (entries.map (·.label))

def toJson : Display → Json
  | diagnostics uri ms => .arr [.str "diagnostics", .str uri, .arr (ms.map Marker.toJson)]
  | hover uri h => .arr [.str "hover", .str uri, h.toJson]
  | highlights uri ranges => .arr [.str "highlights", .str uri, spans ranges]
  | signature uri label => .arr [.str "signature", .str uri, .ofText label]
  | completions uri entries => .arr [.str "completions", .str uri, labels entries]
  | snippet uri offset s => .arr [.str "snippet", .str uri, .ofNat offset, s.toJson]
  | message kind m => .arr [.str "message", .int kind, .str m]
  | error title m => .arr [.str "error", .str title, .str m]

def isHover : Display → Bool
  | hover .. => true
  | _ => false

def isError : Display → Bool
  | error .. => true
  | _ => false

/-- The markers that a document is shown with. -/
def markersOf (shown : List Display) (uri : String) : Option (List Marker) :=
  shown.reverse.findSome? fun d => match d with
    | diagnostics u ms => if u == uri then some ms else none
    | _ => none

/-- All that was shown, kind by kind, and the markers of one document. -/
def summary (shown : List Display) (uri : String) : Json :=
  let pick (f : Display → Option Json) : Json := .arr (shown.filterMap f)
  Json.object
    [("hovers", pick fun d => match d with
        | hover _ h => some h.toJson
        | _ => none),
      ("highlights", pick fun d => match d with
        | highlights _ ranges => some (spans ranges)
        | _ => none),
      ("signatures", pick fun d => match d with
        | signature _ label => some (.ofText label)
        | _ => none),
      ("completions", pick fun d => match d with
        | completions _ entries => some (labels entries)
        | _ => none),
      ("snippets", pick fun d => match d with
        | snippet _ offset s => some (.arr [.ofNat offset, s.toJson])
        | _ => none),
      ("messages", pick fun d => match d with
        | message kind m => some (.arr [.int kind, .str m])
        | _ => none),
      ("errors", .ofNat (shown.filter isError).length),
      ("diagnostics", .ofOption (fun ms => .arr (ms.map Marker.toJson)) (markersOf shown uri))]

end Display

namespace JournalEntry

def toJson : JournalEntry → Json
  | output server line => .arr [.str server, .ofText line]
  | message server level m => .arr [.str server, .str level.name.toUpper, .str m]

end JournalEntry

namespace SymbolMatch

def toJson (m : SymbolMatch) : Json :=
  .arr [.str m.name, .int m.kind, .ofOption .str m.container, .str m.uri, .ofOption id m.range,
    .str m.server, .ofOption .ofText m.path?]

end SymbolMatch

namespace Tally

def toJson (t : Tally) : Json := .arr [.ofNat t.successes, .ofNat t.failures]

end Tally

namespace Capabilities

/-- What a server takes, as far as it can be told without the parameters of a call. -/
def summary (c : Capabilities) (registered : DynamicMethod → Bool) : Json :=
  let takes (f : Feature) : Json := .bool (f.isSupported c registered .null)
  Json.object
    [("sync_kind", .int c.syncKind), ("save_includes_text", .bool c.saveIncludesText),
      ("will_save", .bool c.willSave), ("will_save_wait", .bool c.willSaveWaitUntil),
      ("workspace_symbol", takes .workspaceSymbol), ("hover", takes .hover),
      ("completion", takes .completion), ("completion_triggers", .ofStrings c.completionTriggers),
      ("signature_triggers", .ofStrings c.signatureTriggers),
      ("on_type_triggers", .ofStrings c.onTypeTriggers), ("code_action", takes .codeAction),
      ("rename", takes .rename), ("prepare_rename", takes .prepareRename)]

end Capabilities

namespace Server

def toJson (s : Server) : Json :=
  Json.object
    [("idle", .bool s.isIdle), ("settings", s.settings.toJson),
      ("uptime", .bool s.connection.isSome), ("subscribed", .str s.status.name),
      ("generation", .ofNat s.generation), ("definition", .ofText s.definition.toCsv),
      ("root", .ofText s.root)]

end Server

end LanguageClient
