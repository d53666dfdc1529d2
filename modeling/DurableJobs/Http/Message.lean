import DurableJobs.Text.Blank
import DurableJobs.Text.Utf8
import DurableJobs.Url.Basic

/-!
# HTTP messages

A request and a response, as far as the providers of this system look at them. The name of a header is
looked up without regard to case, and its value is a list of bytes, of which only those with visible
ASCII characters and tabs are taken for a text.
-/

set_option autoImplicit false

namespace DurableJobs.Http

/-! ## Headers -/

structure Header where
  name : String
  value : List UInt8
  deriving DecidableEq, Repr

/-- A byte that a header's value may hold: no control but the tab. -/
def isFieldByte (b : UInt8) : Bool := b == 9 || (32 ≤ b && b != 127)

/-- A header with a text, unless the text cannot stand in one. -/
def Header.ofText? (name text : String) : Option Header :=
  let value := Text.bytesOfString text
  if value.all isFieldByte then some ⟨name, value⟩ else none

/-- The text of a header's value. -/
def Header.text? (header : Header) : Option String :=
  if header.value.all fun b => b == 9 || (32 ≤ b && b < 127) then
    some (String.ofList (header.value.map fun b => Char.ofNat b.toNat))
  else none

def sameName (a b : String) : Bool := a.toLower == b.toLower

/-- The first header of a name. -/
def find? (name : String) (headers : List Header) : Option Header :=
  headers.find? fun header => sameName header.name name

/-- The headers without those of some names. -/
def without (names : List String) (headers : List Header) : List Header :=
  headers.filter fun header => !names.any (sameName header.name)

/-! ## Requests -/

inductive Method where
  | get
  | post
  deriving DecidableEq, Repr

structure Request where
  method : Method
  url : Url
  headers : List Header
  body : List UInt8
  deriving DecidableEq, Repr

/-! ## Responses -/

structure Response where
  status : Nat
  headers : List Header
  body : List UInt8
  deriving DecidableEq, Repr

/-- What the codes of responses are called. -/
def reasons : List (Nat × String) := [
  (100, "Continue"), (101, "Switching Protocols"), (102, "Processing"), (103, "Early Hints"),
  (200, "OK"), (201, "Created"), (202, "Accepted"), (203, "Non Authoritative Information"),
  (204, "No Content"), (205, "Reset Content"), (206, "Partial Content"), (207, "Multi-Status"),
  (208, "Already Reported"), (226, "IM Used"), (300, "Multiple Choices"), (301, "Moved Permanently"),
  (302, "Found"), (303, "See Other"), (304, "Not Modified"), (305, "Use Proxy"),
  (307, "Temporary Redirect"), (308, "Permanent Redirect"), (400, "Bad Request"),
  (401, "Unauthorized"), (402, "Payment Required"), (403, "Forbidden"), (404, "Not Found"),
  (405, "Method Not Allowed"), (406, "Not Acceptable"), (407, "Proxy Authentication Required"),
  (408, "Request Timeout"), (409, "Conflict"), (410, "Gone"), (411, "Length Required"),
  (412, "Precondition Failed"), (413, "Payload Too Large"), (414, "URI Too Long"),
  (415, "Unsupported Media Type"), (416, "Range Not Satisfiable"), (417, "Expectation Failed"),
  (418, "I'm a teapot"), (421, "Misdirected Request"), (422, "Unprocessable Entity"), (423, "Locked"),
  (424, "Failed Dependency"), (425, "Too Early"), (426, "Upgrade Required"),
  (428, "Precondition Required"), (429, "Too Many Requests"),
  (431, "Request Header Fields Too Large"), (451, "Unavailable For Legal Reasons"),
  (500, "Internal Server Error"), (501, "Not Implemented"), (502, "Bad Gateway"),
  (503, "Service Unavailable"), (504, "Gateway Timeout"), (505, "HTTP Version Not Supported"),
  (506, "Variant Also Negotiates"), (507, "Insufficient Storage"), (508, "Loop Detected"),
  (510, "Not Extended"), (511, "Network Authentication Required")]

namespace Response

def isSuccess (response : Response) : Bool := 200 ≤ response.status && response.status < 300

def tooManyRequests : Nat := 429

/-- The code and what it is called. -/
def statusText (response : Response) : String :=
  toString response.status ++ " " ++
    (reasons.lookup response.status).getD "<unknown status code>"

/-- The body as a text; a mark of the byte order is no part of it. -/
def text (response : Response) : String :=
  match Text.readable response.body with
  | '\ufeff' :: cs => String.ofList cs
  | cs => String.ofList cs

/-- When to come back, as the server says it. -/
def retryAfter? (response : Response) : Option String :=
  (find? "retry-after" response.headers).bind Header.text?

end Response

end DurableJobs.Http
