import DurableJobs.Text.Blank
import DurableJobs.Text.Digits
import DurableJobs.Text.Split
import DurableJobs.Text.Word
import DurableJobs.Time.Span

/-!
# What an error message says about retrying

Providers report overload in words. A message is looked at without regard to case for marks of a
failure that will pass, for marks of a rate limit, and for a hint of the form `retry-after: 30s`.

Only two characters outside ASCII have a lower-case form with an ASCII letter in it, the Kelvin sign
and the capital I with a dot, so lowering those and the ASCII letters finds every mark that lowering
the whole message would find.
-/

set_option autoImplicit false

namespace DurableJobs.Retry

open DurableJobs.Text

/-! ## Marks -/

/-- The lower-case form of a character as far as it can meet an ASCII mark. -/
def lower (c : Char) : List Char :=
  if c = '\u212a' then ['k']
  else if c = '\u0130' then ['i', '\u0307']
  else [c.toLower]

/-- Marks of a failure that will pass. -/
def retryableMarks : List String :=
  ["rate limit", "quota", "too many requests", "429", "500", "502", "503", "504",
   "connection refused", "connection reset", "context deadline exceeded", "deadline has elapsed",
   "i/o timeout", "timed out", "temporary_failure", "try_again", "service unavailable"]

/-- Marks of a provider that limits its callers. -/
def rateLimitMarks : List String :=
  ["rate limit", "too many requests", "429", "quota exceeded", "throttl"]

def hasMark (marks : List String) (message : String) : Bool :=
  let lowered := message.toList.flatMap lower
  marks.any fun mark => occursIn mark.toList lowered

def isRetryable (message : String) : Bool := hasMark retryableMarks message

def isRateLimit (message : String) : Bool := hasMark rateLimitMarks message

/-! ## The hint -/

/-- The letters of a word without regard to case. The long s is a form of s. -/
def sameLetter (letter c : Char) : Bool :=
  c.toLower == letter || (letter == 's' && c == '\u017f')

/-- The rest of a text behind a word, in any case. -/
def stripWord : List Char → List Char → Option (List Char)
  | [], cs => some cs
  | _ :: _, [] => none
  | letter :: letters, c :: cs => if sameLetter letter c then stripWord letters cs else none

/-- At most `limit` characters that belong to no word, and the rest. -/
def skipNonWord : Nat → List Char → List Char
  | 0, cs => cs
  | _ + 1, [] => []
  | limit + 1, c :: cs => if isWordChar c then c :: cs else skipNonWord limit cs

/-- What a hint counts in. -/
inductive HintUnit where
  | millis
  | seconds
  | minutes
  | hours
  deriving DecidableEq, Repr

/-- The unit at the front of a text. An unreadable spelling of one counts as seconds. -/
def HintUnit.ofText : List Char → HintUnit
  | c :: d :: _ =>
      if (c == 'm' || c == 'M') && (d == 's' || d == 'S') then .millis
      else if (c == 'm' || c == 'M') && d == '\u017f' then .seconds
      else single c
  | [c] => single c
  | [] => .seconds
where
  single (c : Char) : HintUnit :=
    if c == 'm' || c == 'M' then .minutes
    else if c == 'h' || c == 'H' then .hours
    else .seconds

/-- A number of seconds from a number of units. -/
def HintUnit.toSeconds (unit : HintUnit) (value : Binary64) : Binary64 :=
  match unit with
  | .millis => value.div (Binary64.ofNat 1000)
  | .seconds => value
  | .minutes => value.mul (Binary64.ofNat 60)
  | .hours => value.mul (Binary64.ofNat 3600)

/-- The digits at the front of a text, with one fraction behind a point, and the rest. -/
def takeNumber (cs : List Char) : Option (List Char × List Char × List Char) :=
  let whole := cs.takeWhile isAnyDigit
  if whole.isEmpty then none
  else
    match cs.dropWhile isAnyDigit with
    | '.' :: rest =>
        let fraction := rest.takeWhile isAnyDigit
        if fraction.isEmpty then some (whole, [], '.' :: rest)
        else some (whole, fraction, rest.dropWhile isAnyDigit)
    | rest => some (whole, [], rest)

/-- A hint at the front of a text: the two words, up to three characters of no word, a number and an
optional unit. `none` is no hint; `some none` is a hint that names no span. -/
def hintAt (cs : List Char) : Option (Option Span) := do
  let cs ← stripWord "retry".toList cs
  let cs ←
    match cs with
    | c :: cs => if c = '-' ∨ c = '_' ∨ c = ' ' then some cs else none
    | [] => none
  let cs ← stripWord "after".toList cs
  let (whole, fraction, rest) ← takeNumber (skipNonWord 3 cs)
  some do
    -- Digits of another script have no value here.
    let digits ← numberIn? 10 (whole ++ fraction)
    let value := Binary64.ofDecimal false digits (-(fraction.length : Int))
    Span.ofFloatSeconds? ((HintUnit.ofText (trimStart rest)).toSeconds value)

/-- The first place with a hint decides, also when its number names no span. -/
def firstHint : List Char → Option (Option Span)
  | [] => none
  | c :: cs =>
      match hintAt (c :: cs) with
      | some hint => some hint
      | none => firstHint cs

/-- The span a message asks to wait. -/
def hint? (message : String) : Option Span := (firstHint message.toList).join

/-- The wait for a rate limit that comes without a hint. -/
def standardWait : Span := Span.ofSeconds 60

/-- The least wait before the next try, for messages of a rate limit only. -/
def rateLimitWait? (message : String) : Option Span :=
  if isRateLimit message then some ((hint? message).getD standardWait) else none

end DurableJobs.Retry
