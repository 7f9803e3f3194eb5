import SpamVerdict.Http.Host
import SpamVerdict.Http.Form
set_option autoImplicit false

/-!
# Web addresses (SPEC_FULL §6, §13)

An absolute web address is taken apart into scheme, credentials, host, port, path, query and
fragment, each in its written form, and `Url.print` puts the parts together again.  In the known
schemes a backslash counts as a slash and the path is never empty; dot segments are resolved
while the path is read.

The addresses of the two services are given as texts in the settings (SPEC_FULL §13).  The one of
the reputation service is extended by the pairs of a look-up (`Url.withPairs`), and its written form
is part of the report (§14.2).
-/

namespace SpamVerdict.Http

/-- The path of a web address. -/
inductive UrlPath where
  /-- Text that has no segments. -/
  | whole (text : List Char)
  /-- Segments, each behind a slash. -/
  | segments (items : List (List Char))
  deriving DecidableEq, Repr

/-- A web address in its parts, as they are written. -/
structure Url where
  scheme : List Char
  /-- User name and password with the sign behind them, the host and the port with its colon. -/
  authority : Option (List Char)
  path : UrlPath
  query : Option (List Char)
  fragment : Option (List Char)
  deriving DecidableEq, Repr

/-! ## Schemes -/

/-- How the parts of an address are read. -/
inductive SchemeKind where
  | known
  | file
  | other
  deriving DecidableEq, Repr

/-- The ports that go without saying, by scheme. -/
def defaultPorts : List (String × Nat) :=
  [("http", 80), ("ws", 80), ("https", 443), ("wss", 443), ("ftp", 21)]

/-- The kind of a scheme. -/
def kindOf (scheme : List Char) : SchemeKind :=
  if scheme = "file".toList then .file
  else if (defaultPorts.lookup (String.ofList scheme)).isSome then .known
  else .other

/-- A slash, or a backslash that counts as one. -/
def isSlash (kind : SchemeKind) (c : Char) : Bool :=
  c == '/' || (kind != .other && c == '\x5c')

/-- The scheme in front of the first colon, in lower case, and what follows it. -/
def splitScheme? (cs : List Char) : Option (List Char × List Char) :=
  match cs.head?, Text.cut? ':' cs with
  | some c, some (scheme, rest) =>
    if c.isAlpha && scheme.all (fun c => c.isAlphanum || c == '+' || c == '-' || c == '.') then
      some (scheme.map Char.toLower, rest)
    else none
  | _, _ => none

/-! ## Classes of characters -/

/-- A character that is encoded in a fragment. -/
def inFragment (c : Char) : Bool := " \x22<>\x60".toList.contains c

/-- A character that is encoded in a path. -/
def inPath (c : Char) : Bool := inFragment c || "#?\x7b\x7d".toList.contains c

/-- A character that is encoded in a user name or a password. -/
def inCredentials (c : Char) : Bool := inPath c || "/:;=@[\x5c]^|".toList.contains c

/-- A character that is encoded in a query. -/
def inQuery (kind : SchemeKind) (c : Char) : Bool :=
  " \x22#<>".toList.contains c || (kind != .other && c == '\x27')

/-! ## Authority -/

/-- The user name and the password in front of the last `@`, as they are written. -/
def credentials (cs : List Char) : List Char :=
  match Text.cut? ':' cs with
  | none => if cs.isEmpty then [] else percentEncode inCredentials cs ++ ['@']
  | some (name, password) =>
    let name := percentEncode inCredentials name
    let password := percentEncode inCredentials password
    if password.isEmpty then (if name.isEmpty then [] else name ++ ['@'])
    else name ++ ':' :: password ++ ['@']

/-- The text in front of the last `@` and the text behind it. -/
def cutLastAt? (cs : List Char) : Option (List Char × List Char) :=
  (Text.cut? '@' cs.reverse).map fun (behind, front) => (front.reverse, behind.reverse)

/-- The host and what follows its colon; a colon in brackets belongs to the host. -/
def splitPort : Bool → List Char → List Char × Option (List Char)
  | _, [] => ([], none)
  | inside, c :: cs =>
    if c = ':' ∧ inside = false then ([], some cs)
    else
      let (host, port) := splitPort (if c = '[' then true else if c = ']' then false else inside) cs
      (c :: host, port)

/-- The port as it is written: nothing for none and for the one that goes without saying. -/
def portText (scheme : List Char) (ds : List Char) : Except UrlFault (List Char) :=
  if !ds.all Char.isDigit || 65535 < Decimal.value ds then .error .port
  else if ds.isEmpty || defaultPorts.lookup (String.ofList scheme) = some (Decimal.value ds) then
    .ok []
  else .ok (':' :: Decimal.numeral (Decimal.value ds))

/-- The authority as it is written, and the text behind it that belongs to the path: outside the
known schemes a backslash ends the port. -/
def authorityText (scheme : List Char) (kind : SchemeKind) (more : Bool) (cs : List Char) :
    Except UrlFault (List Char × List Char) := do
  let (user, cs) ← match cutLastAt? cs with
    | none => .ok ([], cs)
    | some ([], behind) =>
      if behind.isEmpty && more then .error .emptyHost else .ok ([], behind)
    | some (front, behind) => .ok (credentials front, behind)
  let (host, port) := splitPort false cs
  if kind = .known && host.isEmpty then .error .emptyHost
  let host ← if kind = .other then opaqueHost host else knownHost host
  if host.isEmpty && (port.isSome || !user.isEmpty) then .error .emptyHost
  let endsPort (c : Char) : Bool := kind == .other && c == '\x5c'
  let port := port.getD []
  let digits ← portText scheme (port.takeWhile (!endsPort ·))
  return (user ++ host ++ digits, port.dropWhile (!endsPort ·))

/-! ## Paths -/

/-- A segment that stands for the one in which it is. -/
def isSingleDot (cs : List Char) : Bool :=
  [".", "%2e"].contains (String.ofList (cs.map Char.toLower))

/-- A segment that stands for the one above. -/
def isDoubleDot (cs : List Char) : Bool :=
  ["..", "%2e.", ".%2e", "%2e%2e"].contains (String.ofList (cs.map Char.toLower))

/-- A segment that names a drive: a letter and a colon or a bar, and nothing or a backslash behind
them. -/
def namesDrive : List Char → Bool
  | letter :: sign :: rest =>
    letter.isAlpha && (sign == ':' || sign == '|') && rest.head?.all (· == '\x5c')
  | _ => false

/-- The segments above the last one; there is no way up from a drive. -/
def parent (done : List (List Char)) : List (List Char) :=
  if done.getLast?.any namesDrive then done else done.dropLast

/-- The path behind `done` once more segments are read; dot segments leave an empty segment only
at the end. -/
def resolve (done : List (List Char)) : List (List Char) → List (List Char)
  | [] => done
  | s :: rest =>
    if isDoubleDot s then resolve (if rest.isEmpty then parent done ++ [[]] else parent done) rest
    else if isSingleDot s then resolve (if rest.isEmpty then done ++ [[]] else done) rest
    else resolve (done ++ [s]) rest

/-- The pieces of a text between slashes, as they are written in a path. -/
def piecesOf (kind : SchemeKind) (cs : List Char) : List (List Char) :=
  (Text.split (isSlash kind) cs).map (percentEncode inPath)

/-- The segments of a text between slashes. -/
def segmentsOf (kind : SchemeKind) (cs : List Char) : List (List Char) :=
  resolve [] (piecesOf kind cs)

/-- The path that follows an authority. -/
def pathAfterHost (kind : SchemeKind) (cs : List Char) : UrlPath :=
  match cs with
  | [] => if kind = .other then .whole [] else .segments [[]]
  | c :: rest => .segments (segmentsOf kind (if isSlash kind c then rest else cs))

/-! ## Files -/

/-- A text that is a drive and nothing more. -/
def isDrive (cs : List Char) : Bool := cs.length == 2 && namesDrive cs

/-- The path of a file, of which the pieces between slashes are given: empty segments in front do
not count. -/
def filePath (pieces : List (List Char)) : UrlPath :=
  match (resolve [] pieces).dropWhile List.isEmpty with
  | [] => .segments [[]]
  | items => .segments items

/-- The pieces of a path that begins with a drive, the sign of which becomes a colon. -/
def onDrive? : List (List Char) → Option (List (List Char))
  | first :: pieces => if isDrive first then some ((first.take 1 ++ [':']) :: pieces) else none
  | [] => none

/-- The host and the path of a file.  A path without a slash in front of it may begin with a drive,
and so may the text in place of the host; a drive behind a host takes its place.  A drive behind
the slash of an empty host is left as it is. -/
def readFile (cs : List Char) : Except UrlFault (List Char × UrlPath) :=
  let pieces := piecesOf .file
  let bare (cs : List Char) : List Char × UrlPath :=
    ([], filePath ((onDrive? (pieces cs)).getD (pieces cs)))
  let slash := isSlash .file
  match cs with
  | a :: b :: cs =>
    if slash a && slash b then do
      let text := cs.takeWhile (!slash ·)
      let rest := cs.dropWhile (!slash ·)
      if isDrive text then return bare cs
      let host ← if text.isEmpty then .ok [] else knownHost text
      let behind := pieces (rest.drop 1)
      if host.isEmpty || host = "localhost".toList then return ([], filePath behind)
      match onDrive? behind with
      | some behind => return ([], filePath behind)
      | none => return (host, filePath behind)
    else if slash a then .ok ([], filePath (pieces (b :: cs)))
    else .ok (bare (a :: b :: cs))
  | [a] => .ok (bare (if slash a then [] else [a]))
  | [] => .ok (bare [])

/-! ## Reading -/

/-- The text of a fragment mark and behind it, split off. -/
def splitAt (sep : Char) (cs : List Char) : List Char × Option (List Char) :=
  match Text.cut? sep cs with
  | some (before, after) => (before, some after)
  | none => (cs, none)

/-- The authority and the path in front of a query. -/
def readHierarchy (scheme : List Char) (kind : SchemeKind) (more : Bool) (cs : List Char) :
    Except UrlFault (Option (List Char) × UrlPath) :=
  let afterSlashes (cs : List Char) : Except UrlFault (Option (List Char) × UrlPath) := do
    let rest := cs.dropWhile (fun c => !isSlash kind c)
    let (authority, front) ← authorityText scheme kind (more || !rest.isEmpty)
      (cs.takeWhile (fun c => !isSlash kind c))
    return (some authority, pathAfterHost kind (front ++ rest))
  match kind, cs with
  | .known, cs => afterSlashes (cs.dropWhile (isSlash kind))
  | .other, '/' :: '/' :: cs => afterSlashes cs
  | .other, '/' :: cs => .ok (none, .segments (segmentsOf kind cs))
  | .other, cs => .ok (none, .whole (percentEncode (fun _ => false) cs))
  | .file, cs => (readFile cs).map fun (host, path) => (some host, path)

/-- A character that is dropped at the ends of an address. -/
def isMargin (c : Char) : Bool := c.toNat ≤ 0x20

/-- The web address that a text spells.  Tabs and line ends in it do not count. -/
def Url.parse (s : String) : Except UrlFault Url :=
  let cs := (Text.trimOf isMargin s.toList).filter fun c => c ≠ '\t' ∧ c ≠ '\n' ∧ c ≠ '\r'
  match splitScheme? cs with
  | none => .error .relative
  | some (scheme, cs) => do
    let kind := kindOf scheme
    let (cs, fragment) := splitAt '#' cs
    let (cs, query) := splitAt '?' cs
    let (authority, path) ← readHierarchy scheme kind (query.isSome || fragment.isSome) cs
    return {
      scheme, authority, path
      query := query.map (percentEncode (inQuery kind))
      fragment := fragment.map (percentEncode inFragment) }

/-! ## Printing -/

namespace Url

/-- The path as it is written. -/
def pathText (u : Url) : List Char :=
  match u.path with
  | .whole text => text
  | .segments items =>
    let text := items.flatMap ('/' :: ·)
    if u.authority.isNone && items.head? = some [] && 1 < items.length then '/' :: '.' :: text
    else text

/-- The address up to its fragment. -/
def target (u : Url) : List Char :=
  u.scheme ++ ':' :: ((u.authority.map fun a => '/' :: '/' :: a).getD []) ++ u.pathText ++
    ((u.query.map fun q => '?' :: q).getD [])

/-- The whole address. -/
def print (u : Url) : String :=
  String.ofList (u.target ++ ((u.fragment.map fun f => '#' :: f).getD []))

/-- The address with more pairs in its query. -/
def withPairs (u : Url) (pairs : List (List Char × List Char)) : Url :=
  { u with query := some (Form.append (u.query.getD []) pairs) }

/-- The pairs in the query. -/
def pairs (u : Url) : List (List Char × List Char) := Form.decode (u.query.getD [])

/-- The address is on the web, with or without encryption. -/
def isWeb (u : Url) : Bool := u.scheme = "http".toList || u.scheme = "https".toList

end Url

end SpamVerdict.Http
