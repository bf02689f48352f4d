import LanguageClient.Schema.Feature
import LanguageClient.Text.Blank
namespace LanguageClient

/-!
# Rendering

Plain text from a server is wrapped into blocks before it is shown. Lines are cut into sentences,
and a block ends with the first sentence that takes it past the width; no character but white
space at the ends of a block is lost.
-/

namespace Rendering

/-- A block ends once it has more characters than this. -/
def blockWidth : Nat := 100

/-- Cuts a line after every full stop followed by a space. -/
def sentences : Text → List Text
  | [] => []
  | '.' :: ' ' :: r => ['.', ' '] :: sentences r
  | c :: r =>
    match sentences r with
    | [] => [[c]]
    | s :: ss => (c :: s) :: ss

/-- The finished blocks and the unfinished last one. -/
def gather : List Text → (block : Text) → List Text × Text
  | [], block => ([], block)
  | s :: ss, block =>
    if (block ++ s).length > blockWidth then
      let rest := gather ss []
      (Text.trim (block ++ s) :: rest.1, rest.2)
    else gather ss (block ++ s)

/-- The blocks of one line; an empty line is an empty block. -/
def blocks (line : Text) : List Text :=
  let (done, last) := gather (sentences line) []
  if last ≠ [] ∨ line = [] then done ++ [Text.trim last] else done

/-- Wraps plain text into blocks, one a line. -/
def wrapPlain (t : Text) : Text :=
  Text.joinWith ['\n'] ((Text.splitOnChar '\n' t).flatMap blocks)

theorem flatten_sentences (t : Text) : (sentences t).flatten = t := by
  fun_induction sentences t with
  | case1 => rfl
  | case2 r ih => simp [ih]
  | case3 c r _ h ih => rw [h] at ih; simp_all
  | case4 c r _ s ss h ih => rw [h] at ih; simp_all

end Rendering

/-- A text to show, and whether it is Markdown. -/
structure Rendered where
  text : Text
  markdown : Bool
deriving DecidableEq, Repr

/-- One part of a hover answer. -/
inductive MarkedText where
  | plain (text : Text)
  | code (language : Text) (source : Text)
deriving DecidableEq, Repr

namespace MarkedText

def fence : Text := "```".toList

/-- Code is fenced, or passed on when it names no language; plain text is wrapped. -/
def render : MarkedText → Rendered
  | plain t => ⟨Rendering.wrapPlain t, false⟩
  | code [] source => ⟨source, true⟩
  | code language source =>
    ⟨fence ++ language ++ '\n' :: source ++ '\n' :: fence, true⟩

end MarkedText

inductive HoverContents where
  | single (part : MarkedText)
  | several (parts : List MarkedText)
  | markup (markdown : Bool) (text : Text)
deriving DecidableEq, Repr

namespace HoverContents

/-- Parts that come out empty are dropped and the others set apart by an empty line. -/
def render : HoverContents → Rendered
  | single part => part.render
  | several parts =>
    let shown := (parts.map MarkedText.render).filter fun r => r.text ≠ []
    ⟨Text.joinWith ['\n', '\n'] (shown.map (·.text)), shown.any (·.markdown)⟩
  | markup true t => ⟨t, true⟩
  | markup false t => ⟨Rendering.wrapPlain t, false⟩

end HoverContents

/-!
## Hover answers

The contents of a hover answer, from its normal form.
-/

namespace MarkedText

def ofNormal : Json → MarkedText
  | .str s => plain s.toList
  | j => code ((j.get "language").str?.getD "").toList ((j.get "value").str?.getD "").toList

end MarkedText

namespace HoverContents

def ofNormal (j : Json) : HoverContents :=
  match j with
  | .arr items => several (items.map MarkedText.ofNormal)
  | j =>
    match (j.get "kind").str? with
    | some kind => markup (kind == "markdown") ((j.get "value").str?.getD "").toList
    | none => single (MarkedText.ofNormal j)

end HoverContents

/-- The text of a hover answer in normal form. -/
def hoverText (hover : Json) : Rendered := (HoverContents.ofNormal (hover.get "contents")).render

end LanguageClient
