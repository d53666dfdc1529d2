import DurableJobs.Url.Parser

/-!
# References

A URL given in relation to another: in full, or by what changes. Whatever is not given is taken from the
base, and the text that results is read like any other, so dots in its path are resolved.
-/

set_option autoImplicit false

namespace DurableJobs.Url

/-- A path up to and with its last slash. -/
def directory (path : List Char) : List Char := (path.reverse.dropWhile (· != '/')).reverse

/-- The text of the URL that a reference without a scheme means. -/
def resolved (base : Url) (reference : List Char) : List Char :=
  let root := base.scheme ++ ':' :: base.authorityText
  let path := base.path.text
  let query := queryText base.query
  match reference with
  | '/' :: '/' :: _ => base.scheme ++ ':' :: reference
  | '/' :: _ => root ++ reference
  | '?' :: _ => root ++ path ++ reference
  | '#' :: _ => root ++ path ++ query ++ reference
  | [] => root ++ path ++ query
  | _ => root ++ directory path ++ reference

/-- Read a reference at a base of the web. -/
def join (base : Url) (reference : List Char) : Except Flaw Url :=
  match parse reference with
  | .error .relative => parse (resolved base (significant reference))
  | result => result

end DurableJobs.Url
