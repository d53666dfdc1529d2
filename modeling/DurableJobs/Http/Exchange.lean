import DurableJobs.Handler.Collaborators
import DurableJobs.Http.Message
import DurableJobs.Url.Join

/-!
# Exchanges

A JSON document is posted to a URL with a bearer token, and whatever response there is at the end of the
redirects is the answer. The network is a parameter: a function that carries a request over and brings
the response, or says that there was nobody to carry it to. What is wrong with a request itself is found
out before the network is asked.
-/

set_option autoImplicit false

namespace DurableJobs.Http

/-- Why nobody could be reached. -/
inductive ConnectFailure where
  /-- The name of the host has no address. -/
  | unresolved
  | unreachable
  deriving DecidableEq, Repr

abbrev Transport (σ : Type) := Request → σ → Except ConnectFailure Response × σ

/-- The network of a machine that is connected to none. Names other than that of the machine itself need
a network to be resolved. -/
def offline {σ : Type} : Transport σ := fun request s =>
  match request.url.host with
  | some (.domain name) =>
      (.error (if name = "localhost".toList then .unreachable else .unresolved), s)
  | _ => (.error .unreachable, s)

/-- Why an exchange has no response. -/
inductive ExchangeError where
  | badUrl (flaw : Url.Flaw)
  | badHeader
  | badScheme (url : Url)
  | connect (url : Url) (failure : ConnectFailure)
  | tooManyRedirects (url : Url)
  deriving DecidableEq, Repr

namespace ExchangeError

def connectTexts : ConnectFailure → List String
  | .unresolved =>
      ["dns error",
       "failed to lookup address information: Temporary failure in name resolution"]
  | .unreachable => ["tcp connect error", "Network is unreachable (os error 101)"]

/-- The text of each cause, outermost first. -/
def chain : ExchangeError → ErrorChain
  | .badUrl flaw => ["builder error", flaw.message]
  | .badHeader => ["builder error", "failed to parse header value"]
  | .badScheme url =>
      ["builder error for url (" ++ url.toString ++ ")", "URL scheme is not allowed"]
  | .connect url failure =>
      ("error sending request for url (" ++ url.toString ++ ")") ::
        "client error (Connect)" :: connectTexts failure
  | .tooManyRedirects url =>
      ["error following redirect for url (" ++ url.toString ++ ")", "too many redirects"]

end ExchangeError

/-! ## Redirects -/

/-- How many redirects are followed. -/
def redirectLimit : Nat := 10

/-- Headers that go with a body. -/
def bodyHeaders : List String := ["content-type", "content-length", "transfer-encoding"]

/-- Headers that no other host may see. -/
def privateHeaders : List String := ["authorization", "cookie", "proxy-authorization"]

/-- The port a URL leads to. -/
def portOf (url : Url) : Option Nat := url.port <|> Url.standardPort? url.scheme

/-- The request that a redirect asks for: the same again where it says so, and else a look at the place.
Another host does not get what is private. -/
def Request.redirected (request : Request) (status : Nat) (url : Url) : Request :=
  let request :=
    if status = 307 ∨ status = 308 then request
    else
      { request with method := .get, headers := without bodyHeaders request.headers, body := [] }
  let stays := url.host = request.url.host ∧ portOf url = portOf request.url
  { request with
    url
    headers := if stays then request.headers else without privateHeaders request.headers }

/-- Where a response redirects to, if it does. -/
def redirect? (request : Request) (response : Response) : Option Url := do
  let _ ← if [301, 302, 303, 307, 308].contains response.status then some () else none
  let location ← find? "location" response.headers
  let symbols ← (Text.symbolsOfBytes location.value).mapM id
  (request.url.join symbols).toOption

variable {σ : Type}

def isWebScheme (scheme : List Char) : Bool :=
  scheme == "http".toList || scheme == "https".toList

/-- Carry a request over and follow redirects, so many at most. -/
def follow (transport : Transport σ) : Nat → Request → σ → Except ExchangeError Response × σ
  | hops, request, s =>
      if !isWebScheme request.url.scheme then (.error (.badScheme request.url), s)
      else
        match transport request s with
        | (.error failure, s) => (.error (.connect request.url failure), s)
        | (.ok response, s) =>
            match redirect? request response with
            | none => (.ok response, s)
            | some url =>
                match hops with
                | 0 => (.error (.tooManyRedirects url), s)
                | hops + 1 => follow transport hops (request.redirected response.status url) s

/-! ## Posting -/

/-- The request that posts a document. A URL names a host, and the credentials in it are left out: the
token speaks for the request. -/
def Request.posting (url token document : String) : Except ExchangeError Request := do
  let url ← (Url.parse url.toList).mapError .badUrl
  if url.host.isNone || url.host == some Url.noHost then .error (.badScheme url)
  match Header.ofText? "authorization" ("Bearer " ++ token) with
  | none => .error .badHeader
  | some authorization =>
      .ok
        { method := .post
          url := { url with username := [], password := [] }
          headers := [authorization, ⟨"content-type", Text.bytesOfString "application/json"⟩]
          body := Text.bytesOfString document }

/-- Post a document and wait for the response. -/
def post (transport : Transport σ) (url token document : String) (s : σ) :
    Except ExchangeError Response × σ :=
  match Request.posting url token document with
  | .error error => (.error error, s)
  | .ok request => follow transport redirectLimit request s

end DurableJobs.Http
