import LanguageClient.ClientError
import LanguageClient.Definition.Line
import LanguageClient.Json.Printer
import LanguageClient.Json.Reader
import LanguageClient.Text.Blank
namespace LanguageClient

/-!
# Server definitions

A definition says how a language server is launched and which file extensions it owns. It is kept
as a list of strings whose first names the kind of launch, or as that list on one CSV line:

    artifact,   extension, package, main class, arguments
    exe,        extension, path, arguments
    rawCommand, extension, command

A plus sign after the kind announces two more elements after the extension: the language id, and
the initialization options as JSON.
-/

/-!
## Language ids

The language id that a server is told for a document, by its file extension.
-/

namespace LanguageId

def table : List (String × String) :=
  [("abap", "abap"), ("bat", "bat"), ("bib", "bibtex"), ("clj", "clojure"),
    ("coffee", "coffeescript"), ("c", "c"), ("h", "c"), ("cpp", "cpp"), ("hpp", "cpp"),
    ("cc", "cpp"), ("cxx", "cpp"), ("cs", "csharp"), ("css", "css"), ("diff", "diff"),
    ("dart", "dart"), ("fs", "fsharp"), ("go", "go"), ("groovy", "groovy"),
    ("handlebars", "handlebars"), ("html", "html"), ("ini", "ini"), ("java", "java"),
    ("js", "javascript"), ("jsx", "javascriptreact"), ("json", "json"), ("tex", "latex"),
    ("less", "less"), ("lua", "lua"), ("md", "markdown"), ("m", "objective-c"),
    ("mm", "objective-cpp"), ("pl", "perl"), ("pm", "perl"), ("p6", "perl6"), ("pm6", "perl6"),
    ("php", "php"), ("ps1", "powershell"), ("pug", "jade"), ("py", "python"), ("r", "r"),
    ("cshtml", "razor"), ("rb", "ruby"), ("rs", "rust"), ("scss", "scss"), ("sass", "sass"),
    ("scala", "scala"), ("sh", "shellscript"), ("bash", "shellscript"), ("zsh", "shellscript"),
    ("csh", "shellscript"), ("sql", "sql"), ("swift", "swift"), ("ts", "typescript"),
    ("tsx", "typescriptreact"), ("kt", "kotlin"), ("kts", "kotlin"), ("vb", "vb"),
    ("xml", "xml"), ("xsl", "xsl"), ("yaml", "yaml"), ("yml", "yaml"), ("toml", "toml")]

/-- The well-known language id of a file extension. -/
def ofExtension? (ext : Text) : Option Text :=
  (table.find? fun e => e.1.toList == ext).map (·.2.toList)

/-- The language id of the first extension of a key, or that extension itself. -/
def ofKey (key : Text) : Text :=
  let first := (Text.splitOnChar ';' key).headD []
  (ofExtension? first).getD first

end LanguageId

/-! ## Definitions -/

inductive Launch where
  /-- A packaged program, found by a resolver of class paths. -/
  | artifact (package mainClass : Text) (args : List Text)
  | executable (path : Text) (args : List Text)
  | rawCommand (command : List Text)
deriving DecidableEq, Repr

structure ServerDefinition where
  /-- One extension, or several joined by semicolons. -/
  extension : Text
  /-- The language id of its documents. -/
  id : Text
  launch : Launch
  options : Option Json
deriving DecidableEq

/-- A program to start in a directory. -/
structure LaunchCommand where
  program : Text
  args : List Text
  directory : Text
deriving DecidableEq, Repr

/-- Finds the class path of a package. -/
abbrev ArtifactResolver := Text → Except ClientError Text

namespace Launch

def tag : Launch → String
  | artifact .. => "artifact"
  | executable .. => "exe"
  | rawCommand .. => "rawCommand"

/-- Program and arguments, with the quotes they were written in. -/
def commandLine (resolver : Option ArtifactResolver) : Launch → Except ClientError (List Text)
  | artifact package mainClass args =>
    match resolver with
    | none => .error (.launch s!"No artifact resolver for {String.ofList package}")
    | some resolve => do
      let classPath ← resolve package
      return ["java".toList, "-cp".toList, classPath, mainClass] ++ args
  | executable path args => .ok (path :: args)
  | rawCommand command => .ok command

/-- The last elements of the list form. -/
def elements : Launch → List Text
  | artifact package mainClass args => package :: mainClass :: args.map Arguments.escape
  | executable path args => path :: args.map Arguments.escape
  | rawCommand command => command.map Arguments.escape

end Launch

namespace ServerDefinition

/-- A definition whose language id is that of its first extension. -/
def new (extension : Text) (launch : Launch) : ServerDefinition :=
  ⟨extension, LanguageId.ofKey extension, launch, none⟩

/-- Every key that the definition is found under: its extensions and the key they make up. -/
def extensions (d : ServerDefinition) : List Text :=
  let parts := ((Text.splitOnChar ';' d.extension).map Text.trim).filter (· ≠ [])
  if d.extension ∈ parts then parts else parts ++ [d.extension]

def handlesExtension (d : ServerDefinition) (ext : Text) : Bool :=
  (Text.splitOnChar ';' d.extension).any (fun e => Text.trim e == ext) || d.extension == ext

/-- The command to run in a directory. Single quotes only grouped words and are dropped. -/
def launchCommand (d : ServerDefinition) (directory : Text) (resolver : Option ArtifactResolver) :
    Except ClientError LaunchCommand := do
  let line ← d.launch.commandLine resolver
  match line.map fun t => t.filter (· ≠ '\'') with
  | program@(_ :: _) :: args => return ⟨program, args, directory⟩
  | _ => .error (.badDefinition s!"Empty command for {String.ofList d.id}")

/-- Whether the short form tells everything. -/
def isPlain (d : ServerDefinition) : Bool :=
  d.id == LanguageId.ofKey d.extension && d.options == none

def toArray (d : ServerDefinition) : List Text :=
  let tag := d.launch.tag.toList
  if d.isPlain then tag :: d.extension :: d.launch.elements
  else
    (tag ++ ['+']) :: d.extension :: d.id :: (d.options.getD .null).print :: d.launch.elements

/-- The kind of launch that a tag names, and the number of elements it needs at least. -/
def kind? (tag : Text) : Option ((List Text → Launch) × Nat) :=
  if tag = "artifact".toList then
    some (fun rest =>
      .artifact (rest.headD []) ((rest.drop 1).headD []) (Arguments.parse (rest.drop 2)), 2)
  else if tag = "exe".toList then
    some (fun rest => .executable (rest.headD []) (Arguments.parse (rest.drop 1)), 1)
  else if tag = "rawCommand".toList then some (fun rest => .rawCommand (Arguments.parse rest), 1)
  else none

/-- The tag without its plus sign, and whether it had one. -/
def cutExtended (tag : Text) : Text × Bool :=
  if tag.getLast? = some '+' then (tag.dropLast, true) else (tag, false)

def tooShort (elements : List Text) : ClientError :=
  let list := String.ofList (Text.joinWith " ; ".toList elements)
  .badDefinition s!"Not enough elements: {list}"

/-- Reads the list form; blank elements count for nothing. -/
def ofArray (array : List Text) : Except ClientError ServerDefinition :=
  let elements := array.filter fun t => Text.trim t ≠ []
  match elements with
  | [] => .error (.badDefinition "Empty definition")
  | first :: tail =>
    let (tag, extended) := cutExtended first
    match kind? tag with
    | none => .error (.badDefinition s!"Unknown type {String.ofList tag}")
    | some (launch, required) =>
      if extended then
        match tail with
        | extension :: id :: options :: rest =>
          if rest.length < required then .error (tooShort elements)
          else
            match Json.read? options with
            | none => .error (.badDefinition "Bad initialization options: ")
            | some value =>
              .ok ⟨extension, id, launch rest, if value.isNull then none else some value⟩
        | _ => .error (tooShort elements)
      else
        match tail with
        | extension :: rest =>
          if rest.length < required then .error (tooShort elements)
          else .ok (new extension (launch rest))
        | [] => .error (tooShort elements)

def toCsv (d : ServerDefinition) : Text := Csv.encode d.toArray

def ofCsv (line : Text) : Except ClientError ServerDefinition :=
  match Csv.decode? line with
  | none => .error (.badDefinition "Unterminated quote in CSV line")
  | some fields => ofArray fields

end ServerDefinition

end LanguageClient
