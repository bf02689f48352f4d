import LanguageClient.Text.Blank
namespace LanguageClient

/-!
# Log levels

Levels of detail, their names, and the directives of a log filter: one for all events and one for
the lines that servers write to their error stream.
-/

inductive LogLevel where
  | trace
  | debug
  | info
  | warn
  | error
deriving DecidableEq, Repr, Inhabited

namespace LogLevel

def all : List LogLevel := [trace, debug, info, warn, error]

def name : LogLevel → String
  | trace => "trace"
  | debug => "debug"
  | info => "info"
  | warn => "warn"
  | error => "error"

/-- Higher levels report less. -/
def rank : LogLevel → Nat
  | trace => 0
  | debug => 1
  | info => 2
  | warn => 3
  | error => 4

def standard : LogLevel := info

/-- Reads a name in any letter case with white space around it; `warning` stands for `warn`. -/
def ofName? (t : Text) : Option LogLevel :=
  let name := Text.lowerAscii (Text.trim t)
  let name := if name = "warning".toList then "warn".toList else name
  all.find? fun level => level.name.toList == name

theorem ofName?_name (level : LogLevel) : ofName? level.name.toList = some level := by
  cases level <;> decide

/-- The source name of the events made of server error output. -/
def serverTarget : String := "langlink_lsp::server"

/-- The directives of a filter, sorted by their text. -/
def filterDirectives (level : LogLevel) (serverOutput : Option LogLevel) : List String :=
  let own := level.name
  match serverOutput with
  | none => [own]
  | some l =>
    let served := serverTarget ++ "=" ++ l.name
    if served < own then [served, own] else [own, served]

end LogLevel

end LanguageClient
