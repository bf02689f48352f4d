import LanguageClient.Uri.Host
namespace LanguageClient

/-!
# Locations

Reading a URI in the forgiving way of a browser: blanks around it and line breaks in it count for
nothing, a backslash is a slash in the schemes of files and of the web, dots in the path are
resolved. What a location keeps is the host and the path.
-/

namespace Uri

structure Location where
  host : Host
  path : Text
deriving DecidableEq, Repr

/-- The kinds of schemes that are read in different ways. -/
inductive SchemeKind where
  | file
  | web
  | other
deriving DecidableEq, Repr

def SchemeKind.ofName (scheme : Text) : SchemeKind :=
  let name := Text.lowerAscii scheme
  if name = "file".toList then .file
  else if ["http", "https", "ws", "wss", "ftp"].any fun s => s.toList == name then .web
  else .other

/-- How many dots a segment consists of, if of nothing else; some may be percent-encoded. -/
def dots : Text → Option Nat
  | [] => some 0
  | '.' :: r => (dots r).map (· + 1)
  | '%' :: '2' :: e :: r => if e = 'e' ∨ e = 'E' then (dots r).map (· + 1) else none
  | _ => none

/-- The letter of a drive, with a colon or a bar. -/
def isDrive : Text → Bool
  | [c, d] => c.isAlpha && (d == ':' || d == '|')
  | _ => false

def isPlainDrive : Text → Bool
  | [c, ':'] => c.isAlpha
  | _ => false

/-- Tabs and line breaks. -/
def isBreak (c : Char) : Bool := c == '\t' || c == '\n' || c == '\r'

def withoutBreaks (t : Text) : Text := t.filter fun c => !isBreak c

/-- A drive and what a tab or a line break sets apart from it. -/
def cutDrive? (t : Text) : Option (Text × Text) :=
  match t.dropWhile isBreak with
  | c :: r =>
    match r.dropWhile isBreak with
    | ':' :: d :: r =>
      let rest := withoutBreaks r
      if c.isAlpha && isBreak d && !rest.isEmpty then some ([c, ':'], rest) else none
    | _ => none
  | [] => none

/-- A path while its segments are being resolved. -/
structure Trail where
  /-- The path so far, last character first. -/
  path : Text
  /-- Whether it starts with a drive, which takes the place of any host. -/
  drive : Bool

namespace Trail

def ensureSlash (t : Text) : Text := if t.head? == some '/' then t else '/' :: t

/-- Whether the slash at the end of a path may go: one after a drive stays. -/
def canDropSlash : Text → Bool
  | '/' :: r =>
    let segment := (r.takeWhile (· ≠ '/')).reverse
    r.elem '/' && !(isDrive (segment.take 2) && (segment.length == 2 || segment[2]? == some '\\'))
  | _ => false

/-- Takes away the last segment; in a file path, the letter of a drive stays. -/
def dropSegment (kind : SchemeKind) (path : Text) : Text :=
  let path := if canDropSlash path then path.tail else path
  if kind == .file && isPlainDrive (path.takeWhile (· ≠ '/')).reverse then path
  else path.dropWhile (· ≠ '/')

/-- Follows a segment, and the slash after it if there is one. Breaks count for nothing, but for one
after the drive that a file path starts with: there a slash goes. -/
def follow (kind : SchemeKind) (trail : Trail) (segment : Text) (slash : Bool) : Trail :=
  let isFirst := kind == .file && trail.path.length == 1
  match if isFirst then cutDrive? segment else none with
  | some (drive, rest) =>
    let path := rest.reverse ++ '/' :: drive.reverse ++ trail.path
    { trail with path := if slash then '/' :: path else path }
  | none =>
    let segment := withoutBreaks segment
    match dots segment with
    | some 1 => { trail with path := ensureSlash trail.path }
    | some 2 =>
      let path := dropSegment kind trail.path
      { trail with path := if slash then ensureSlash path else path }
    | _ =>
      let drive := isFirst && isDrive segment
      let segment := if drive then segment.take 1 ++ [':'] else segment
      let path := segment.reverse ++ trail.path
      { path := if slash then '/' :: path else path, drive := trail.drive || drive }

def followAll (kind : SchemeKind) (trail : Trail) : List Text → Trail
  | [] => trail
  | [s] => trail.follow kind s false
  | s :: rest => followAll kind (trail.follow kind s true) rest

end Trail

/-- A slash, or in some schemes a backslash. -/
def isSlash (kind : SchemeKind) (c : Char) : Bool := c == '/' || (kind != .other && c == '\\')

/-- Whether a character ends what stands before the path. -/
def startsPath (kind : SchemeKind) (c : Char) : Bool := isSlash kind c || c == '?' || c == '#'

/-- Resolves the path of a text, up to its query, from the start it has. -/
def resolve (kind : SchemeKind) (start : Text) (t : Text) : Trail :=
  let path := t.takeWhile fun c => c != '?' && c != '#'
  let segments := Text.splitOnChar '/' (path.map fun c => if isSlash kind c then '/' else c)
  let trail := Trail.followAll kind ⟨start, false⟩ segments
  if kind == .file then
    { trail with path := '/' :: trail.path.reverse.dropWhile (· == '/') }
  else { trail with path := trail.path.reverse }

/-- A text without the slash it may start with. -/
def dropSlash (kind : SchemeKind) : Text → Text
  | c :: r => if isSlash kind c then r else c :: r
  | [] => []

/-- What follows the slash that a text starts with. -/
def afterSlash (t : Text) : Text := (t.dropWhile isBreak).drop 1

/-- A file on a host. A drive stands where a host would, or takes its place. -/
def fileLocation? (t : Text) : Option Location := do
  let hostText := withoutBreaks (t.takeWhile fun c => !startsPath .file c)
  let rest := t.dropWhile fun c => !startsPath .file c
  if isDrive hostText then return ⟨.absent, (resolve .file ['/'] t).path⟩
  let host ← if hostText.isEmpty then some Host.absent else Host.ofInternetName? hostText
  if host.isHere then return ⟨.absent, (resolve .file ['/'] rest).path⟩
  let trail := resolve .file ['/'] (dropSlash .file rest)
  return ⟨if trail.drive then .absent else host, trail.path⟩

/-- The text up to the first colon outside brackets, and the rest. -/
def cutHost (inBrackets : Bool) : Text → Text × Text
  | [] => ([], [])
  | c :: r =>
    if c = ':' ∧ !inBrackets then ([], c :: r)
    else
      let inBrackets := if c = '[' then true else if c = ']' then false else inBrackets
      let (host, rest) := cutHost inBrackets r
      (c :: host, rest)

/-- What follows a number of 16 bits, if the text starts with a colon. -/
def skipNumber? : Text → Option Text
  | ':' :: r =>
    let number := (r.takeWhile Char.isDigit).foldl (fun n c => n * 10 + (c.toNat - 48)) 0
    let rest := r.dropWhile Char.isDigit
    if number < UInt16.size && (rest.head?.map fun c => startsPath .web c).getD true then some rest
    else none
  | t => some t

/-- The host after a double slash, and what follows it. -/
def authority? (kind : SchemeKind) (t : Text) : Option (Host × Text) := do
  let authority := t.takeWhile fun c => !startsPath kind c
  let path := t.dropWhile fun c => !startsPath kind c
  let target := (authority.reverse.takeWhile (· ≠ '@')).reverse
  let hasUser := target.length < authority.length
  let user := authority.take (authority.length - target.length - 1)
  if hasUser && user.isEmpty && target.isEmpty && !path.isEmpty then none
  let (hostText, ending) := cutHost false target
  let host ← if kind == .other then Host.ofPlainName? hostText else Host.ofInternetName? hostText
  if host == .absent && (!ending.isEmpty || (hasUser && !user.isEmpty && user != [':'])) then none
  let rest ← skipNumber? ending
  return (host, rest ++ path)

namespace Location

/-- Reads a URI; none if it has no scheme, no path, or no valid host where it needs one. -/
def parse? (t : Text) : Option Location := do
  let isOuter (c : Char) : Bool := c.toNat ≤ 0x20
  let inner := ((t.dropWhile isOuter).reverse.dropWhile isOuter).reverse
  let (scheme, rest) ← scheme? (withoutBreaks inner)
  let kind := SchemeKind.ofName scheme
  let slashes := (rest.takeWhile (isSlash kind)).length
  match kind with
  | .file =>
    let rest := (inner.dropWhile (· ≠ ':')).drop 1
    if slashes ≥ 2 then fileLocation? (afterSlash (afterSlash rest))
    else return ⟨.absent, (resolve .file (if slashes = 1 then [] else ['/']) rest).path⟩
  | .web =>
    let (host, rest) ← authority? .web (rest.drop slashes)
    return ⟨host, (resolve .web ['/'] (dropSlash .web rest)).path⟩
  | .other =>
    let (host, rest) ← if slashes ≥ 2 then authority? .other (rest.drop 2) else some (.absent, rest)
    match rest with
    | [] => none
    | '/' :: _ => return ⟨host, (resolve .other [] rest).path⟩
    | c :: _ =>
      if slashes < 2 ∨ c = '?' ∨ c = '#' then none
      else return ⟨host, (resolve .other ['/'] rest).path⟩

end Location

end Uri

end LanguageClient
