import DurableJobs.Proofs.Retry.Marks

/-!
# How an error is classified

An error is a chain of texts, and it is judged by its whole text at once. The verdict is one on its links all
the same: what one of them says of a passing failure or of a rate limit, the whole error says. It does not
hang on the case of a letter either, and the case that is taken off before the marks are looked for is the
one of all of Unicode.

The hint on when to come back is read from the text as it stands; it is the same in any case, too.
-/

set_option autoImplicit false

namespace DurableJobs.Retry

/-- **Any link, any case.** An error is worth a retry if one of its links is, and comes of a rate limit if one
of them does. Messages that differ in the case of ASCII letters only are judged alike, and hold the same hint.
And a message is judged by the marks in its lower-case form, whatever the characters of the message are and
whichever small sigma stands for a large one. -/
theorem classified_by_any_link_in_any_case :
    (∀ (chain : List String) (link : String), link ∈ chain →
      (isRetryable link = true → (Failure.other chain).isRetryable = true) ∧
      (isRateLimit link = true → isRateLimit (Failure.other chain).message = true)) ∧
    (∀ a b : String, SameButCase a b →
      isRetryable a = isRetryable b ∧ isRateLimit a = isRateLimit b ∧ hint? a = hint? b) ∧
    ∀ (message : String) (lowered : List Char), Lowered message.toList lowered →
      (isRetryable message = true ↔ ∃ mark ∈ retryableMarks, mark.toList <:+: lowered) ∧
      (isRateLimit message = true ↔ ∃ mark ∈ rateLimitMarks, mark.toList <:+: lowered) := by
  refine ⟨?_, ?_, ?_⟩
  · intro chain link hlink
    have hpart := infix_chainText hlink
    exact ⟨hasMark_mono hpart, hasMark_mono hpart⟩
  · intro a b hsame
    exact ⟨hsame.hasMark, hsame.hasMark, hsame.hint?⟩
  · intro message lowered hlowered
    exact ⟨hlowered.hasMark_iff retryableMarks_ascii, hlowered.hasMark_iff rateLimitMarks_ascii⟩

/-- A provider's answer, passed on with a word in Greek letters around it. -/
def passedOn : List String := ["ΠΕΛΑΤΗΣ", "HTTP 503", "QUOTA EXCEEDED, Retry-After: 90S"]

theorem classified_by_any_link_in_any_case_passedOn :
    (Failure.other passedOn).isRetryable = true ∧
    isRateLimit (Failure.other passedOn).message = true ∧
    hint? "QUOTA EXCEEDED, Retry-After: 90S" = hint? "quota exceeded, retry-after: 90s" ∧
    hint? "quota exceeded, retry-after: 90s" = some (Span.ofSeconds 90) ∧
    (isRetryable "ΣΣ" = true ↔ ∃ mark ∈ retryableMarks, mark.toList <:+: ['σ', 'ς']) := by
  obtain ⟨hlinks, hcase, hlower⟩ := classified_by_any_link_in_any_case
  have hgreek : Lowered "ΣΣ".toList ['σ', 'ς'] := .cons 'Σ' (.finalSigma .nil)
  refine ⟨?_, ?_, ?_, by decide +kernel, (hlower "ΣΣ" _ hgreek).1⟩
  · exact (hlinks passedOn "HTTP 503" (by decide)).1 (by decide)
  · exact (hlinks passedOn "QUOTA EXCEEDED, Retry-After: 90S" (by decide)).2 (by decide)
  · exact (hcase _ _ (by unfold SameButCase; decide)).2.2

end DurableJobs.Retry
