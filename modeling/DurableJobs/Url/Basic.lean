import DurableJobs.Url.Address
import DurableJobs.Url.Percent

/-!
# URLs

A URL by its parts, each as it is written, and its text. A path is opaque (`mailto:someone`) or a list of
segments; a URL with an opaque path has no host. An empty host is a host: it is written, as the nothing
between `//` and the path.
-/

set_option autoImplicit false

namespace DurableJobs

namespace Url

inductive Host where
  | domain (name : List Char)
  /-- The host of a scheme that makes no rules about it. -/
  | opaqueName (name : List Char)
  | v4 (value : Nat)
  | v6 (pieces : List Nat)
  deriving DecidableEq, Repr

inductive Path where
  | opaquePath (text : List Char)
  | segments (segments : List (List Char))
  deriving DecidableEq, Repr

def Host.text : Host → List Char
  | .domain name => name
  | .opaqueName name => name
  | .v4 value => Address.v4Text value
  | .v6 pieces => '[' :: Address.v6Text pieces ++ [']']

end Url

structure Url where
  scheme : List Char
  username : List Char
  password : List Char
  host : Option Url.Host
  port : Option Nat
  path : Url.Path
  query : Option (List Char)
  fragment : Option (List Char)
  deriving DecidableEq, Repr

namespace Url

/-! ## Schemes -/

/-- What a scheme means for the parts behind it. -/
inductive SchemeKind where
  | file
  /-- A scheme of the web, which needs a host and knows its port. -/
  | special
  | other
  deriving DecidableEq, Repr

/-- The schemes of the web and their ports. -/
def standardPorts : List (String × Nat) :=
  [("http", 80), ("https", 443), ("ws", 80), ("wss", 443), ("ftp", 21)]

def standardPort? (scheme : List Char) : Option Nat :=
  standardPorts.lookup (String.ofList scheme)

def kindOfScheme (scheme : List Char) : SchemeKind :=
  if scheme = "file".toList then .file
  else if (standardPort? scheme).isSome then .special
  else .other

/-! ## Text -/

def credentialsText (url : Url) : List Char :=
  if url.username.isEmpty ∧ url.password.isEmpty then []
  else
    url.username ++ (if url.password.isEmpty then [] else ':' :: url.password) ++ ['@']

def portText (port : Option Nat) : List Char :=
  match port with
  | some n => ':' :: (toString n).toList
  | none => []

/-- Everything between the scheme's colon and the path. A path of a URL without a host that starts with
an empty segment is kept apart from a host by a dot. -/
def authorityText (url : Url) : List Char :=
  match url.host with
  | some host => '/' :: '/' :: url.credentialsText ++ host.text ++ portText url.port
  | none =>
      match url.path with
      | .segments ([] :: _ :: _) => ['/', '.']
      | _ => []

def Path.text : Path → List Char
  | .opaquePath text => text
  | .segments parts => parts.flatMap fun part => '/' :: part

def queryText (query : Option (List Char)) : List Char :=
  match query with
  | some q => '?' :: q
  | none => []

def fragmentText (fragment : Option (List Char)) : List Char :=
  match fragment with
  | some f => '#' :: f
  | none => []

/-- The text of a URL. -/
def text (url : Url) : List Char :=
  url.scheme ++ ':' :: url.authorityText ++ url.path.text ++ queryText url.query ++
    fragmentText url.fragment

def toString (url : Url) : String := String.ofList url.text

/-- A text without the slashes at its end. -/
def dropSlashes (cs : List Char) : List Char := (cs.reverse.dropWhile (· == '/')).reverse

end Url

end DurableJobs
