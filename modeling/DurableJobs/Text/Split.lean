/-!
# Cutting texts

Texts as lists of characters, cut at a separator or searched for a mark.
-/

set_option autoImplicit false

namespace DurableJobs.Text

/-- Cut at every separator; there is always one part at least. -/
def splitOn (separator : Char) : List Char → List (List Char)
  | [] => [[]]
  | c :: cs =>
      if c = separator then [] :: splitOn separator cs
      else
        match splitOn separator cs with
        | [] => [[c]]
        | part :: parts => (c :: part) :: parts

/-- A text and what stands behind the first occurrence of a character, without it. -/
def cutAt (separator : Char) (cs : List Char) : List Char × Option (List Char) :=
  match cs.dropWhile (· != separator) with
  | [] => (cs, none)
  | _ :: rest => (cs.takeWhile (· != separator), some rest)

/-- What stands before and behind the last occurrence of a character. -/
def cutAtLast? (separator : Char) (cs : List Char) : Option (List Char × List Char) :=
  match cutAt separator cs.reverse with
  | (_, none) => none
  | (back, some front) => some (front.reverse, back.reverse)

/-- Whether `mark` stands somewhere in a text. -/
def occursIn (mark : List Char) : List Char → Bool
  | [] => mark.isEmpty
  | c :: cs => mark.isPrefixOf (c :: cs) || occursIn mark cs

theorem occursIn_iff (mark cs : List Char) : occursIn mark cs = true ↔ mark <:+: cs := by
  induction cs with
  | nil => rw [occursIn, List.isEmpty_iff, List.infix_nil]
  | cons c cs ih =>
    rw [occursIn, Bool.or_eq_true, List.isPrefixOf_iff_prefix, ih, List.infix_cons_iff]

/-- A text with every occurrence of a mark replaced, from the front on. The number says how many
characters of an occurrence are still to be passed over. -/
def replaceFrom (mark replacement : List Char) : Nat → List Char → List Char
  | _, [] => []
  | left + 1, _ :: cs => replaceFrom mark replacement left cs
  | 0, c :: cs =>
      if mark.isPrefixOf (c :: cs) then
        replacement ++ replaceFrom mark replacement (mark.length - 1) cs
      else c :: replaceFrom mark replacement 0 cs

/-- A text with every occurrence of a mark, which is not empty, replaced. -/
def replaceAll (mark replacement : String) (s : String) : String :=
  String.ofList (replaceFrom mark.toList replacement.toList 0 s.toList)

end DurableJobs.Text
