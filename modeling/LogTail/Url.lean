import LogTail.Url.Host

/-!
URLs: their parts, how they are read, how they are written, and how a path leads on from one to
another. Reading repairs what can be repaired: blanks around the text, backslashes for slashes,
steps up and down in the path.
-/
namespace LogTail

inductive UrlPath
  /-- A text without structure; such a URL cannot be built upon. -/
  | rootless (text : String)
  | segments (names : List String)
  deriving DecidableEq, Repr

structure Url where
  scheme : String
  username : String
  password : String
  /-- The host, which may be empty, or nothing where the URL has no place for one. -/
  host : Option String
  port : Option Nat
  path : UrlPath
  query : Option String
  fragment : Option String
  deriving DecidableEq, Repr

namespace Url

def knownSchemes : List (String × Option Nat) :=
  [("http", some 80), ("https", some 443), ("ws", some 80), ("wss", some 443),
    ("ftp", some 21), ("file", none)]

def isKnown (scheme : String) : Bool :=
  (knownSchemes.lookup scheme).isSome

def escapedInPath (c : Char) : Bool :=
  c.toNat < 0x20 || [' ', '"', '#', '<', '>', '?', '\x60', '\x7b', '\x7d'].contains c

def escapedInUser (c : Char) : Bool :=
  escapedInPath c || ['/', ':', ';', '=', '@', '[', '\\', ']', '^', '|'].contains c

def escapedInQuery (scheme : String) (c : Char) : Bool :=
  c.toNat < 0x20 || [' ', '"', '#', '<', '>'].contains c || (isKnown scheme && c == '\'')

def escapedInFragment (c : Char) : Bool :=
  c.toNat < 0x20 || [' ', '"', '<', '>', '\x60'].contains c

def staysHere (segment : List Char) : Bool :=
  [['.'], ['%', '2', 'e']].contains (segment.map Char.toLower)

def stepsUp (segment : List Char) : Bool :=
  [['.', '.'], ['.', '%', '2', 'e'], ['%', '2', 'e', '.'],
    ['%', '2', 'e', '%', '2', 'e']].contains (segment.map Char.toLower)

def isDrive (segment : List Char) : Bool :=
  match segment with
  | [letter, sign] => letter.isAlpha && (sign == ':' || sign == '|')
  | _ => false

def up (isFile : Bool) (path : List String) : List String :=
  if isFile && path.length == 1 && path.any (fun name => isDrive name.toList) then path
  else path.dropLast

/-- Goes on along a segment. The last segment is there even if it is empty. -/
def walk (isFile : Bool) (path : List String) (segment : List Char) (isLast : Bool) :
    List String :=
  if stepsUp segment then up isFile path ++ (if isLast then [""] else [])
  else if staysHere segment then path ++ (if isLast then [""] else [])
  else
    let name := percentEncode escapedInPath segment
    if isFile && path.isEmpty && isDrive segment then
      path ++ [String.ofList (name.take 1 ++ [':'])]
    else path ++ [String.ofList name]

def walkAll (isFile : Bool) (path : List String) : List (List Char) → List String
  | [] => path
  | [segment] => walk isFile path segment true
  | segment :: rest => walkAll isFile (walk isFile path segment false) rest

def isSlash (scheme : String) (c : Char) : Bool :=
  c == '/' || (isKnown scheme && c == '\\')

def segmentsOf (scheme : String) (cs : List Char) : List (List Char) :=
  splitAt '/' (cs.map fun c => if isSlash scheme c then '/' else c)

/-- Reads a path of a known scheme, where it may begin without a slash, or of another one, where
it may be missing. -/
def readPath (scheme : String) (cs : List Char) : UrlPath :=
  if cs.isEmpty && !isKnown scheme then .segments []
  else
    let rest := if cs.head?.any (isSlash scheme) then cs.drop 1 else cs
    .segments (walkAll (scheme == "file") [] (segmentsOf scheme rest))

/-- Reads a port; the one a scheme uses by itself counts as none. -/
def readPort (scheme : String) (digits : List Char) : Except UrlError (Option Nat) :=
  if digits.isEmpty then .ok none
  else
    match Number.natural? 10 digits with
    | none => .error .invalidPort
    | some port =>
      if 65535 < port then .error .invalidPort
      else .ok (if knownSchemes.lookup scheme = some (some port) then none else some port)

/-- Where the port of an authority begins: at the first colon outside brackets. -/
def atPort (inBrackets : Bool) (host : List Char) : List Char → List Char × Option (List Char)
  | [] => (host.reverse, none)
  | c :: rest =>
    if c = ':' ∧ !inBrackets then (host.reverse, some rest)
    else atPort (if c = '[' then true else if c = ']' then false else inBrackets) (c :: host) rest

def atUser (cs : List Char) : Option (List Char) × List Char :=
  if cs.contains '@' then
    let after := (cs.reverse.takeWhile (· ≠ '@')).reverse
    (some (cs.take (cs.length - after.length - 1)), after)
  else (none, cs)

def userPart (cs : List Char) : String :=
  String.ofList (percentEncode escapedInUser cs)

section Reading

variable (ascii? : List Char → Option (List Char))

def readAuthority (scheme : String) (cs : List Char) (path : UrlPath) : Except UrlError Url := do
  let (user, rest) := atUser cs
  let (host, port) := atPort false [] rest
  if host.isEmpty && (isKnown scheme || user.isSome || port.isSome) then throw .emptyHost
  let host ← if isKnown scheme then specialHost ascii? host else otherHost host
  let port ← readPort scheme (port.getD [])
  let user := user.getD []
  return ⟨scheme, userPart (user.takeWhile (· ≠ ':')),
    userPart ((user.dropWhile (· ≠ ':')).drop 1), some (String.ofList host), port, path, none, none⟩

/-- Reads what follows the scheme of a file. A drive is no host, and neither is this computer. -/
def readFile (cs : List Char) : Except UrlError Url := do
  let scheme := "file"
  let isSlash (c : Char) := c == '/' || c == '\\'
  match cs with
  | a :: b :: rest =>
    if isSlash a && isSlash b then
      let host := rest.takeWhile (!isSlash ·)
      if isDrive host then
        return ⟨scheme, "", "", some "", none, readPath scheme rest, none, none⟩
      let name ← if host.isEmpty then .ok [] else specialHost ascii? host
      let name := String.ofList name
      return ⟨scheme, "", "", some (if name = "localhost" then "" else name), none,
        readPath scheme (rest.dropWhile (!isSlash ·)), none, none⟩
    else return ⟨scheme, "", "", some "", none, readPath scheme cs, none, none⟩
  | _ => return ⟨scheme, "", "", some "", none, readPath scheme cs, none, none⟩

def readRest (scheme : String) (cs : List Char) : Except UrlError Url :=
  if scheme = "file" then readFile ascii? cs
  else if isKnown scheme then
    let isSlash (c : Char) := c == '/' || c == '\\'
    let cs := cs.dropWhile isSlash
    readAuthority ascii? scheme (cs.takeWhile (!isSlash ·))
      (readPath scheme (cs.dropWhile (!isSlash ·)))
  else
    match cs with
    | '/' :: '/' :: rest =>
      readAuthority ascii? scheme (rest.takeWhile (· ≠ '/'))
        (readPath scheme (rest.dropWhile (· ≠ '/')))
    | '/' :: _ => .ok ⟨scheme, "", "", none, none, readPath scheme cs, none, none⟩
    | _ =>
      .ok ⟨scheme, "", "", none, none,
        .rootless (String.ofList (percentEncode (·.toNat < 0x20) cs)), none, none⟩

def isSchemeChar (c : Char) : Bool :=
  c.isAlphanum || c == '+' || c == '-' || c == '.'

def unbroken (cs : List Char) : List Char :=
  cs.filter fun c => c != '\t' && c != '\n' && c != '\r'

/-- What is read of a text: no blanks and controls around it, and no tabs and line ends in it. -/
def cleaned (text : String) : List Char :=
  let isEdge (c : Char) := c.toNat ≤ 0x20
  unbroken ((text.toList.dropWhile isEdge).reverse.dropWhile isEdge).reverse

def cutAt (sign : Char) (cs : List Char) : List Char × Option (List Char) :=
  (cs.takeWhile (· ≠ sign),
    if cs.contains sign then some ((cs.dropWhile (· ≠ sign)).drop 1) else none)

def readPlace (cs : List Char) : Except UrlError Url :=
  let scheme := cs.takeWhile isSchemeChar
  match scheme.head?, cs.drop scheme.length with
  | some first, ':' :: rest =>
    if first.isAlpha then readRest ascii? (String.ofList (scheme.map Char.toLower)) rest
    else .error .relative
  | _, _ => .error .relative

def read (text : String) : Except UrlError Url := do
  let (cs, fragment) := cutAt '#' (cleaned text)
  let (cs, query) := cutAt '?' cs
  let u ← readPlace ascii? cs
  return { u with
    query := query.map fun cs => String.ofList (percentEncode (escapedInQuery u.scheme) cs)
    fragment := fragment.map fun cs => String.ofList (percentEncode escapedInFragment cs) }

end Reading

def isRootless (u : Url) : Bool :=
  match u.path with
  | .rootless _ => true
  | .segments _ => false

def pathText (u : Url) : String :=
  match u.path with
  | .rootless text => text
  | .segments names => String.join (names.map ("/" ++ ·))

def setPath (u : Url) (text : String) : Url :=
  if u.isRootless then u else { u with path := readPath u.scheme (unbroken text.toList) }

structure RelativePath where
  text : List Char
  /-- Nothing in it could be taken for a scheme, a query, a fragment, or a blank to be left
  out. -/
  plain : text.all fun c => 0x20 < c.toNat && !([':', '|', '?', '#'].contains c)
  begins : text.head?.any fun c => !(['/', '\\'].contains c)

/-- Where a relative path leads from a URL. It takes the place of the last name of the path; the
query and the fragment are left behind. -/
def join (u : Url) (r : RelativePath) : Except UrlError Url :=
  match u.path with
  | .rootless _ => .error .rootlessBase
  | .segments names =>
    let isFile := u.scheme == "file"
    .ok { u with
      path := .segments (walkAll isFile (up isFile names) (segmentsOf u.scheme r.text))
      query := none
      fragment := none }

def userText (u : Url) : String :=
  if u.username = "" ∧ u.password = "" then ""
  else u.username ++ (if u.password = "" then "" else ":" ++ u.password) ++ "@"

def render (u : Url) : String :=
  let place :=
    match u.host with
    | some host =>
      "//" ++ u.userText ++ host ++ (u.port.map fun n => ":" ++ toString n).getD ""
    | none => if u.pathText.startsWith "//" then "/." else ""
  u.scheme ++ ":" ++ place ++ u.pathText ++ (u.query.map ("?" ++ ·)).getD "" ++
    (u.fragment.map ("#" ++ ·)).getD ""

end Url

end LogTail
