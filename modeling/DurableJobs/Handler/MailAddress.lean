import DurableJobs.Idna.Domain
import DurableJobs.Url.Address

/-!
# Mail addresses

Which texts are addresses that a mail can be sent to: a user before the last at sign and a domain behind
it. The domain is a name, or an internet address in square brackets at the end of the text, or a name
that becomes either in its ASCII form.
-/

set_option autoImplicit false

namespace DurableJobs.MailAddress

/-- A letter or digit. Two characters beyond ASCII are case variants of `s` and `k`, and count. -/
def isLetterOrDigit (c : Char) : Bool := c.isAlphanum || c == '\u017F' || c == '\u212A'

def isUserChar (c : Char) : Bool :=
  isLetterOrDigit c || ".!#$%&'*+/=?^_\x60\x7b|\x7d~-".toList.contains c

/-- A label of a name: letters, digits and inner hyphens, at most 63 characters. -/
def isLabel (cs : List Char) : Bool :=
  cs.length ≤ 63 && cs.all (fun c => isLetterOrDigit c || c == '-') &&
    cs.head?.any isLetterOrDigit && cs.getLast?.any isLetterOrDigit

def isName (cs : List Char) : Bool := (Text.splitOn '.' cs).all isLabel

/-- An internet address of either version. -/
def isInternetAddress (cs : List Char) : Bool :=
  (Address.strictV4? cs).isSome || (Address.v6? cs).isSome

/-- An internet address in square brackets at the end. -/
def endsInLiteral (cs : List Char) : Bool :=
  match cs.reverse with
  | ']' :: rest =>
      rest.contains '[' && isInternetAddress (rest.takeWhile (· != '[')).reverse
  | _ => false

def isDomain (cs : List Char) : Bool := isName cs || endsInLiteral cs

/-- Whether a text is a mail address. -/
def isValid (s : String) : Bool :=
  let cs := s.toList
  let domain := (cs.reverse.takeWhile (· != '@')).reverse
  let user := cs.take (cs.length - domain.length - 1)
  cs.contains '@' && user.length ≤ 64 && domain.length ≤ 255 &&
    !user.isEmpty && user.all isUserChar &&
    (isDomain domain || (Idna.toAscii? domain).any isDomain)

end DurableJobs.MailAddress
