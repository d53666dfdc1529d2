import DurableJobs.Idna.Domain
import DurableJobs.Url.Basic

/-!
# Hosts

The host of a web scheme is a domain name or an address: it is decoded, brought into its ASCII form, and
is an address of version 4 as soon as its last part is a number. Any other scheme's host is kept as it
is, as long as it holds nothing that ends a host. Square brackets enclose an address of version 6 in
both.
-/

set_option autoImplicit false

namespace DurableJobs.Url

open DurableJobs.Text

/-- Why a text is no URL. -/
inductive Flaw where
  | emptyHost
  | invalidDomain
  | invalidPort
  | invalidV4
  | invalidV6
  | invalidHostCharacter
  | relative
  deriving DecidableEq, Repr

def Flaw.message : Flaw → String
  | .emptyHost => "empty host"
  | .invalidDomain => "invalid international domain name"
  | .invalidPort => "invalid port number"
  | .invalidV4 => "invalid IPv4 address"
  | .invalidV6 => "invalid IPv6 address"
  | .invalidHostCharacter => "invalid domain character"
  | .relative => "relative URL without a base"

/-- What no host may hold. -/
def forbiddenInHost (c : Char) : Bool :=
  ['\x00', '\t', '\n', '\r', ' ', '#', '/', ':', '<', '>', '?', '@', '[', '\\', ']', '^', '|'].contains c

/-- What a domain may not hold: besides, controls and the percent sign. -/
def forbiddenInDomain (c : Char) : Bool := forbiddenInHost c || controls c || c == '%'

/-- An address in square brackets. -/
def bracketed (cs : List Char) : Except Flaw Host :=
  if cs.getLast? = some ']' then
    match Address.v6? cs.dropLast with
    | some pieces => .ok (.v6 pieces)
    | none => .error .invalidV6
  else .error .invalidV6

/-- The characters that percent-encoded text stands for, if they are well formed. -/
def decodedChars? (cs : List Char) : Option (List Char) :=
  (symbolsOfBytes (percentDecode (cs.flatMap String.utf8EncodeChar))).mapM id

/-- A domain in its ASCII form. -/
def asciiDomain (cs : List Char) : Except Flaw (List Char) :=
  match (decodedChars? cs).bind Idna.toAscii? with
  | none => .error .invalidDomain
  | some name =>
      if name.any forbiddenInDomain then .error .invalidDomain
      else if name.isEmpty then .error .emptyHost
      else .ok name

/-- The host of a web scheme. -/
def specialHost (cs : List Char) : Except Flaw Host :=
  match cs with
  | '[' :: rest => bracketed rest
  | cs => do
      let name ← asciiDomain cs
      if Address.endsInNumber name then
        match Address.lenientV4? name with
        | some value => .ok (.v4 value)
        | none => .error .invalidV4
      else .ok (.domain name)

/-- The host of any other scheme. -/
def otherHost (cs : List Char) : Except Flaw Host :=
  match cs with
  | '[' :: rest => bracketed rest
  | cs =>
      if cs.any forbiddenInHost then .error .invalidHostCharacter
      else .ok (.opaqueName (percentEncode controls cs))

end DurableJobs.Url
