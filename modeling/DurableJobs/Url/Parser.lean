import DurableJobs.Url.Host

/-!
# Reading URLs

Blanks and controls around a URL and tabs and line ends inside it do not count. What is left is cut at
the first `#`, then at the first `?`; the part in front is the scheme and what the scheme makes of the
rest. For the schemes of the web a backslash is as good as a slash, and any number of them, even none,
leads to the host. A scheme that is not of the web has a host only behind two slashes, and a path of
segments only behind one.

Segments of one dot vanish and segments of two dots take the one before them with them.
-/

set_option autoImplicit false

namespace DurableJobs.Url

open DurableJobs.Text

/-! ## Pieces of text -/

def isTabOrLineEnd (c : Char) : Bool := c == '\t' || c == '\n' || c == '\r'

def isControlOrBlank (c : Char) : Bool := c.toNat ≤ 0x20

/-- The characters of a URL that count. -/
def significant (cs : List Char) : List Char :=
  ((cs.dropWhile isControlOrBlank).reverse.dropWhile isControlOrBlank).reverse.filter fun c =>
    !isTabOrLineEnd c

def isSchemeChar (c : Char) : Bool := c.isAlphanum || c == '+' || c == '-' || c == '.'

/-- A scheme, in lower case, and what stands behind its colon. -/
def scheme? (cs : List Char) : Option (List Char × List Char) :=
  match cs.head?, cs.dropWhile isSchemeChar with
  | some first, ':' :: rest =>
      if first.isAlpha then some ((cs.takeWhile isSchemeChar).map Char.toLower, rest) else none
  | _, _ => none

/-- Whether a character separates segments. -/
def isSeparator (kind : SchemeKind) (c : Char) : Bool := c == '/' || (kind != .other && c == '\\')

/-! ## Paths -/

/-- A letter and a colon, or a bar in its place. -/
def isDriveLetter : List Char → Bool
  | [letter, c] => letter.isAlpha && (c == ':' || c == '|')
  | _ => false

def isDot (segment : List Char) : Bool :=
  [".", "%2e"].contains (String.ofList (segment.map Char.toLower))

def isDoubleDot (segment : List Char) : Bool :=
  ["..", ".%2e", "%2e.", "%2e%2e"].contains (String.ofList (segment.map Char.toLower))

/-- A path without its last segment; a drive letter stays. -/
def shorten (path : List (List Char)) : List (List Char) :=
  if path.getLast?.any isDriveLetter then path else path.dropLast

/-- The segments of a path, given those read before. With `drive` a drive letter at the start is written
with a colon. -/
def resolve (drive : Bool) : List (List Char) → List (List Char) → List (List Char)
  | path, [] => path
  | path, segment :: rest =>
      let written := percentEncode pathSet segment
      let atEnd (path : List (List Char)) := if rest.isEmpty then path ++ [[]] else path
      if isDoubleDot written then resolve drive (atEnd (shorten path)) rest
      else if isDot written then resolve drive (atEnd path) rest
      else if drive ∧ path.isEmpty ∧ isDriveLetter segment then
        resolve drive [segment.take 1 ++ [':']] rest
      else resolve drive (path ++ [written]) rest

/-- A file's path does not start with empty segments. -/
def dropLeadingEmpty : List (List Char) → List (List Char)
  | [] :: segment :: rest => dropLeadingEmpty (segment :: rest)
  | path => path

/-- The path that a text is, its first separator included. -/
def segmentsOf (kind : SchemeKind) (drive : Bool) (cs : List Char) : List (List Char) :=
  let cs := if kind = .other then cs else cs.map fun c => if c = '\\' then '/' else c
  match cs with
  | [] => if kind = .other then [] else [[]]
  | c :: rest =>
      let path := resolve drive [] (splitOn '/' (if c = '/' then rest else c :: rest))
      if kind = .file then dropLeadingEmpty path else path

/-! ## Authorities -/

/-- User name, password, host and port; `behind` is what of the authority belongs to the path. -/
structure Authority where
  username : List Char
  password : List Char
  host : Host
  port : Option Nat
  behind : List Char

/-- The host, up to a colon outside of brackets. -/
def spanHost : Bool → List Char → List Char × List Char
  | _, [] => ([], [])
  | inside, c :: cs =>
      if c = ':' ∧ !inside then ([], c :: cs)
      else
        let inside := if c = '[' then true else if c = ']' then false else inside
        let (host, rest) := spanHost inside cs
        (c :: host, rest)

/-- A port and what stands behind it, where a backslash may end it. -/
def portOf (scheme cs : List Char) : Except Flaw (Option Nat × List Char) :=
  let digits := cs.takeWhile Char.isDigit
  let rest := cs.dropWhile Char.isDigit
  let port := (Text.numberIn? 10 digits).getD 0
  if 65535 < port then .error .invalidPort
  else if rest.isEmpty ∨ rest.head? = some '\\' then
    .ok (if digits.isEmpty ∨ standardPort? scheme = some port then none else some port, rest)
  else .error .invalidPort

/-- Cut the user's name and password off: what is left is behind the last at sign. -/
def credentialsOf (cs : List Char) : List Char × List Char × List Char :=
  match cutAtLast? '@' cs with
  | none => ([], [], cs)
  | some (userinfo, rest) =>
      let (username, password) := cutAt ':' userinfo
      (percentEncode userinfoSet username, percentEncode userinfoSet (password.getD []), rest)

/-- The host that a text is, by what the scheme makes of hosts. -/
def hostOf (scheme text : List Char) : Except Flaw Host :=
  if kindOfScheme scheme = .special then specialHost text else otherHost text

/-- The port behind a host, its colon included, if there is one. -/
def portBehind (scheme : List Char) : List Char → Except Flaw (Option Nat × List Char)
  | [] => .ok (none, [])
  | _ :: port => portOf scheme port

/-- The authority in a text. `followed` tells whether anything stands behind it: an at sign with
nothing in front of it needs a host then. So do a web scheme, a user and a port. -/
def authorityOf (scheme : List Char) (followed : Bool) (cs : List Char) : Except Flaw Authority :=
  let (username, password, rest) := credentialsOf cs
  let (text, behind) := spanHost false rest
  if (cs.head? = some '@' ∧ rest.isEmpty ∧ followed) ∨
      (text.isEmpty ∧
        (kindOfScheme scheme = .special ∨ !behind.isEmpty ∨ !username.isEmpty ∨ !password.isEmpty)) then
    .error .emptyHost
  else do
    let host ← hostOf scheme text
    let (port, behind) ← portBehind scheme behind
    .ok ⟨username, password, host, port, behind⟩

/-- The host that is written as nothing. -/
def noHost : Host := .domain []

/-- The host of a file, which may be left out and which `localhost` means the absence of. -/
def fileHost (cs : List Char) : Except Flaw Host :=
  if cs.isEmpty then .ok noHost
  else do
    let host ← specialHost cs
    .ok (if host = .domain "localhost".toList then noHost else host)

/-! ## The whole -/

/-- A URL without an authority of its own. -/
def ofPath (scheme : List Char) (host : Option Host) (path : Path) : Url :=
  ⟨scheme, [], [], host, none, path, none, none⟩

/-- The parts of a text that starts with an authority. `more` tells whether there is a query or a fragment. -/
def ofAuthority (scheme cs : List Char) (more : Bool) : Except Flaw Url := do
  let kind := kindOfScheme scheme
  let text := cs.takeWhile fun c => !isSeparator kind c
  let path := cs.dropWhile fun c => !isSeparator kind c
  let a ← authorityOf scheme (more || !path.isEmpty) text
  .ok
    ⟨scheme, a.username, a.password, some a.host, a.port,
     .segments (segmentsOf kind false (a.behind ++ path)), none, none⟩

/-- The parts of a file's URL. -/
def ofFile (scheme cs : List Char) : Except Flaw Url :=
  let isSep := isSeparator .file
  if (cs.takeWhile isSep).length < 2 then
    .ok (ofPath scheme (some noHost) (.segments (segmentsOf .file true cs)))
  else do
    let text := (cs.drop 2).takeWhile fun c => !isSep c
    let path := (cs.drop 2).dropWhile fun c => !isSep c
    if isDriveLetter text then
      .ok (ofPath scheme (some noHost) (.segments (segmentsOf .file true (cs.drop 2))))
    else
      let host ← fileHost text
      let path := segmentsOf .file (host != noHost) path
      -- A drive has no host.
      let host := if path.head?.any isDriveLetter then noHost else host
      .ok (ofPath scheme (some host) (.segments path))

/-- The parts in front of query and fragment. -/
def front (scheme cs : List Char) (more : Bool) : Except Flaw Url :=
  match kindOfScheme scheme with
  | .special => ofAuthority scheme (cs.dropWhile (isSeparator .special)) more
  | .file => ofFile scheme cs
  | .other =>
      match cs with
      | '/' :: '/' :: rest => ofAuthority scheme rest more
      | '/' :: _ => .ok (ofPath scheme none (.segments (segmentsOf .other false cs)))
      | _ => .ok (ofPath scheme none (.opaquePath (percentEncode controls cs)))

/-- Read a URL. -/
def parse (cs : List Char) : Except Flaw Url := do
  let (rest, fragment) := cutAt '#' (significant cs)
  let (rest, query) := cutAt '?' rest
  match scheme? rest with
  | none => .error .relative
  | some (scheme, rest) =>
      let url ← front scheme rest (query.isSome || fragment.isSome)
      let set := if kindOfScheme scheme = .other then querySet else specialQuerySet
      .ok
        { url with
          query := query.map (percentEncode set)
          fragment := fragment.map (percentEncode fragmentSet) }

end DurableJobs.Url
