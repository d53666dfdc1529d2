import DurableJobs.Url.Basic

/-!
# Query pairs

The form encoding of names and values: letters, digits and `*-._` stand for themselves, a blank is a
plus sign, and every other byte is written as `%` and two digits. Pairs are joined by `&`, name and
value by `=`; neither is ever written for itself, so both can be cut apart again.
-/

set_option autoImplicit false

namespace DurableJobs.Url

open DurableJobs.Text

/-- Whether a byte stands for itself. -/
def formSafe (b : UInt8) : Bool :=
  let c := Char.ofNat b.toNat
  b < 0x80 && (c.isAlphanum || c == '*' || c == '-' || c == '.' || c == '_')

def formByte (b : UInt8) : List Char :=
  if formSafe b then [Char.ofNat b.toNat] else if b = 0x20 then ['+'] else percentByte b

def formBytes (bytes : List UInt8) : List Char := bytes.flatMap formByte

def formEncode (s : String) : List Char := formBytes (bytesOfString s)

def formPair (name value : String) : List Char := formEncode name ++ '=' :: formEncode value

/-- The bytes an encoded name or value stands for. -/
def formDecode (cs : List Char) : List UInt8 :=
  percentDecode ((cs.flatMap String.utf8EncodeChar).map fun b => if b = 0x2B then 0x20 else b)

/-- A pair behind the ones a query has. -/
def appendPair (query : Option (List Char)) (name value : String) : List Char :=
  match query with
  | none | some [] => formPair name value
  | some pairs => pairs ++ '&' :: formPair name value

def withPair (url : Url) (name value : String) : Url :=
  { url with query := some (appendPair url.query name value) }

/-- The pairs of a query, each as name and value; a pair without `=` has an empty value. -/
def formPairs (query : List Char) : List (List UInt8 × List UInt8) :=
  ((Text.splitOn '&' query).filter fun part => !part.isEmpty).map fun part =>
    (formDecode (part.takeWhile (· != '=')), formDecode ((part.dropWhile (· != '=')).drop 1))

end DurableJobs.Url
