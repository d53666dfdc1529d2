/-!
# Bytes as characters

A document that arrives as bytes is read as a list of symbols: a symbol is a character, or `none` for
a byte that is part of no well-formed character. Nothing is dropped, so a reader of symbols can still
say at which byte a document is broken, and a text that never was bytes is the special case without
a `none`.
-/

set_option autoImplicit false

namespace DurableJobs.Text

/-- A character, or a byte that belongs to none. -/
abbrev Symbol := Option Char

/-- How many bytes a symbol stands for. -/
def Symbol.size : Symbol → Nat
  | some c => c.utf8Size
  | none => 1

/-- How many bytes symbols stand for. -/
def Symbol.sizes (symbols : List Symbol) : Nat := symbols.foldl (fun n s => n + s.size) 0

/-- A continuation byte. -/
def isTail (b : UInt8) : Bool := 0x80 ≤ b && b < 0xC0

/-- The character of a code point. -/
def charOf? (n : Nat) : Option Char :=
  if h : n.isValidChar then some (Char.ofNatAux n h) else none

/-- The bits a byte of a longer character carries. -/
def tailBits (b : UInt8) : Nat := b.toNat % 64

/-- The first character and how many bytes follow its first one. A character has one spelling: the
shortest, and no surrogates. -/
def firstChar? : List UInt8 → Option (Char × Nat)
  | [] => none
  | a :: rest =>
      if a < 0x80 then (charOf? a.toNat).map (·, 0)
      else if 0xC2 ≤ a && a < 0xE0 then
        match rest with
        | b :: _ =>
            if isTail b then (charOf? ((a.toNat % 32) * 64 + tailBits b)).map (·, 1) else none
        | _ => none
      else if 0xE0 ≤ a && a < 0xF0 then
        match rest with
        | b :: c :: _ =>
            if isTail b && isTail c && !(a == 0xE0 && b < 0xA0) then
              (charOf? ((a.toNat % 16) * 4096 + tailBits b * 64 + tailBits c)).map (·, 2)
            else none
        | _ => none
      else if 0xF0 ≤ a && a < 0xF5 then
        match rest with
        | b :: c :: d :: _ =>
            if isTail b && isTail c && isTail d && !(a == 0xF0 && b < 0x90) then
              (charOf? ((a.toNat % 8) * 262144 + tailBits b * 4096 + tailBits c * 64 +
                tailBits d)).map (·, 3)
            else none
        | _ => none
      else none

/-- The symbols of a list of bytes. -/
def symbolsOfBytes (bytes : List UInt8) : List Symbol :=
  match bytes with
  | [] => []
  | b :: rest =>
      match firstChar? (b :: rest) with
      | some (c, more) => some c :: symbolsOfBytes (rest.drop more)
      | none => none :: symbolsOfBytes rest
termination_by bytes.length
decreasing_by
  all_goals simp only [List.length_drop, List.length_cons]
  all_goals omega

/-- The symbols of a text: all of them characters. -/
def symbolsOfString (s : String) : List Symbol := s.toList.map some

/-- The bytes of a text. -/
def bytesOfString (s : String) : List UInt8 := s.toList.flatMap String.utf8EncodeChar

/-! ## Texts that may be broken -/

/-- The bytes that may stand second in a character with a given first byte. -/
def secondBytes (first : UInt8) : UInt8 × UInt8 :=
  if first = 0xE0 then (0xA0, 0xBF)
  else if first = 0xED then (0x80, 0x9F)
  else if first = 0xF0 then (0x90, 0xBF)
  else if first = 0xF4 then (0x80, 0x8F)
  else (0x80, 0xBF)

/-- How many bytes behind the first go with it, where the first begins no whole character: those that
might have gone on to one. -/
def brokenTail (first : UInt8) (rest : List UInt8) : Nat :=
  let second (b : UInt8) : Bool := (secondBytes first).1 ≤ b && b ≤ (secondBytes first).2
  if 0xE0 ≤ first && first < 0xF5 then
    match rest with
    | b :: c :: _ => if second b then (if 0xF0 ≤ first && isTail c then 2 else 1) else 0
    | [b] => if second b then 1 else 0
    | [] => 0
  else 0

/-- The characters of a list of bytes; whatever is broken stands as one replacement character. -/
def readable (bytes : List UInt8) : List Char :=
  match bytes with
  | [] => []
  | b :: rest =>
      match firstChar? (b :: rest) with
      | some (c, more) => c :: readable (rest.drop more)
      | none => '\ufffd' :: readable (rest.drop (brokenTail b rest))
termination_by bytes.length
decreasing_by
  all_goals simp only [List.length_drop, List.length_cons]
  all_goals omega

end DurableJobs.Text
