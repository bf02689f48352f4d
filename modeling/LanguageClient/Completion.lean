import LanguageClient.Edit
import LanguageClient.Snippet
namespace LanguageClient

/-!
# Completion entries

A completion item of the server becomes an entry that can be applied: a main edit, or a text to
insert at the caret, with additional edits elsewhere and possibly a snippet to expand.
-/

/-- How an entry brings its text in. -/
inductive CompletionShape where
  | textEdit
  | textEditWithAdditional
  | insertWithAdditional
  | bare
deriving DecidableEq, Repr

structure CompletionEntry where
  label : String
  detail : Option String
  kind : Option Int
  sortText : Option String
  filterText : Option String
  /-- The main edit. -/
  edit : Option TextEdit
  /-- Inserted at the caret where there is no main edit. -/
  insertText : Text
  snippet : Option Snippet
  additionalEdits : List TextEdit
  /-- Run once the entry is applied. -/
  command : Option Json
  /-- The item in normal form, as the server may be asked to complete it. -/
  item : Json
deriving DecidableEq

namespace CompletionEntry

def shape (e : CompletionEntry) : CompletionShape :=
  match e.edit, e.additionalEdits with
  | some _, [] => .textEdit
  | some _, _ :: _ => .textEditWithAdditional
  | none, _ :: _ => .insertWithAdditional
  | none, [] => .bare

/-- The text that the entry is found by. -/
def lookupText (e : CompletionEntry) : String := e.filterText.getD e.label

/-- The main edit of an item; of an edit that can insert or replace, the inserting one. -/
def mainEdit? (item : Json) : Option TextEdit :=
  (item.get? "textEdit").map fun e =>
    ⟨Range.ofNormal ((e.get? "range").getD (e.get "insert")),
      ((e.get "newText").str?.getD "").toList⟩

/-- The number of the insert text format of snippets. -/
def snippetFormat : Int := 2

/-- The entry of an item in normal form. -/
def ofItem (item : Json) : CompletionEntry :=
  let label := (item.get "label").str?.getD ""
  let edit := mainEdit? item
  let insertText :=
    match (item.get "insertText").str? with
    | some t => if t = "" then label else t
    | none => label
  let template := match edit with
    | some e => e.newText
    | none => insertText.toList
  { label
    detail := (item.get "detail").str?
    kind := (item.get "kind").int?
    sortText := (item.get "sortText").str?
    filterText := (item.get "filterText").str?
    edit
    insertText := insertText.toList
    snippet :=
      if (item.get "insertTextFormat").int? = some snippetFormat then some (Snippet.parse template)
      else none
    additionalEdits := TextEdit.listOfNormal (item.get "additionalTextEdits")
    command := item.get? "command"
    item }

/-- The entries of an answer in normal form, a list of items or a record that has one. -/
def ofResponse (response : Json) : List CompletionEntry :=
  match response with
  | .arr items => items.map ofItem
  | j => ((j.get "items").arr?.getD []).map ofItem

end CompletionEntry

/-- The active signature and its documentation, to show on one another. -/
def signatureLabel? (help : Json) : Option Text := do
  let signatures := (help.get "signatures").arr?.getD []
  let active := ((help.get? "activeSignature").bind Json.nat?).getD 0
  let signature ← (signatures[active]?).or signatures.head?
  let label := (signature.get "label").str?.getD ""
  let doc := match signature.get "documentation" with
    | .str d => d
    | d => (d.get "value").str?.getD ""
  some (if doc = "" then label.toList else label.toList ++ '\n' :: doc.toList)

end LanguageClient
