import Mathlib.Data.Char
import Mathlib.Data.List.Lex
import Mathlib.Data.Prod.Lex
import Mathlib.Data.String.Basic
import DurableJobs.DeadLetters
import DurableJobs.Proofs.Store.Columns
import DurableJobs.Proofs.Store.Whereabouts
import DurableJobs.Proofs.Time.StoredOrder

/-!
# The archive listed and counted

Dead letters are listed by two columns, the text of a time and, where texts are the same, the id. Ids are
never the same (`Tables.Filed`), so there is one order of all letters and a list is a front of it, whatever
its length. As long as the times lie in the years 0000 to 9999 the texts are in the order of the times.

The letters are counted twice, in all and by type, and each count goes over the whole archive. Types are
counted by runs of a sorted list (`runs`): what makes a run the whole of its type is that nothing smaller
comes behind it.
-/

set_option autoImplicit false

namespace DurableJobs.Store

open Rfc3339

/-! ## The order of the list -/

/-- Archived later, by the time that its text shows, or at the same time and under a greater id. -/
def LaterArchived (a b : DeadLetter) : Prop :=
  b.archivedAt.shown.before a.archivedAt.shown = true ∨
    b.archivedAt.shown = a.archivedAt.shown ∧ b.id < a.id

instance (a b : DeadLetter) : Decidable (LaterArchived a b) :=
  inferInstanceAs (Decidable (_ ∨ _ ∧ _))

theorem LaterArchived.asymm {a b : DeadLetter} (h : LaterArchived a b) : ¬ LaterArchived b a := by
  simp only [LaterArchived, Instant.before_iff] at *
  rintro (hlater | ⟨hsame, hid⟩)
  · rcases h with h | ⟨h, -⟩
    · omega
    · rw [h] at hlater
      omega
  · rw [hsame] at h
    omega

/-- What letters are listed by, the greatest first. -/
def listKey (letter : DeadLetter) : List Char ×ₗ Int := toLex (stored letter.archivedAt, letter.id)

variable {a b : DeadLetter}

theorem listedBefore_iff_key : listedBefore a b = true ↔ listKey b < listKey a := by
  simp only [listedBefore, storedBefore, listKey, Prod.Lex.toLex_lt_toLex, Bool.or_eq_true,
    Bool.and_eq_true, Bool.not_eq_true', decide_eq_true_eq, decide_eq_false_iff_not]
  refine or_congr_right' fun hlater => and_congr_left fun _ => ⟨fun hearlier => ?_, fun heq => ?_⟩
  · exact le_antisymm (not_lt.mp hearlier) (not_lt.mp hlater)
  · rw [heq]
    exact lt_irrefl _

/-- In years of four digits the texts are in the order of the times. -/
theorem listedBefore_iff (ha : a.archivedAt.Dated) (hb : b.archivedAt.Dated) :
    listedBefore a b = true ↔ LaterArchived a b := by
  simp only [listedBefore, LaterArchived, Bool.or_eq_true, Bool.and_eq_true, Bool.not_eq_true',
    Bool.eq_false_iff, Ne, decide_eq_true_eq, hb.storedBefore_iff ha, ha.storedBefore_iff hb]
  refine or_congr_right' fun hlater => and_congr_left fun _ => ⟨fun hearlier => ?_, fun heq => ?_⟩
  · rcases Instant.before_trichotomy b.archivedAt.shown a.archivedAt.shown with h | h | h
    · exact absurd h hlater
    · exact h
    · exact absurd h hearlier
  · rw [heq] at hlater ⊢
    exact hlater

/-- All letters, in the order in which they are listed. -/
def Tables.listed (tables : Tables) : List DeadLetter :=
  tables.deadLetters.mergeSort fun a b => !listedBefore b a

theorem Tables.listed_perm (tables : Tables) : tables.listed.Perm tables.deadLetters :=
  List.mergeSort_perm _ _

theorem Tables.listed_sorted (tables : Tables) :
    tables.listed.Pairwise fun a b => listKey b ≤ listKey a := by
  have hle : ∀ a b : DeadLetter, (!listedBefore b a) = true ↔ listKey b ≤ listKey a := by
    intro a b
    rw [Bool.not_eq_true', Bool.eq_false_iff, Ne, listedBefore_iff_key, not_lt]
  refine (List.pairwise_mergeSort (fun a b c hab hbc => ?_) (fun a b => ?_) tables.deadLetters).imp
    fun h => (hle _ _).mp h
  · rw [hle] at *
    exact hbc.trans hab
  · rw [Bool.or_eq_true, hle, hle]
    exact le_total _ _

/-- No two letters have one id, so of two letters one is listed first. -/
theorem Tables.Filed.listed_strict {tables : Tables} (hf : tables.Filed) :
    tables.listed.Pairwise fun a b => listedBefore a b = true := by
  have hids : tables.listed.Pairwise fun a b => a.id ≠ b.id := by
    refine (tables.listed_perm.symm.pairwise_iff fun h => Ne.symm h).mp ?_
    exact hf.sorted.imp fun hlt => by omega
  refine (tables.listed_sorted.and hids).imp fun {a b} h => ?_
  rw [listedBefore_iff_key]
  refine lt_of_le_of_ne h.1 fun heq => h.2 ?_
  exact (congrArg (fun key => (ofLex key).2) heq).symm

/-- **The letters in order**: the later archived first, and none twice. -/
theorem Tables.Filed.listed_later {tables : Tables} (hf : tables.Filed)
    (hdated : ∀ letter ∈ tables.deadLetters, letter.archivedAt.Dated) :
    tables.listed.Pairwise LaterArchived := by
  have hmem : ∀ letter ∈ tables.listed, letter.archivedAt.Dated :=
    fun letter h => hdated letter (tables.listed_perm.mem_iff.mp h)
  exact hf.listed_strict.imp_of_mem fun ha hb h => (listedBefore_iff (hmem _ ha) (hmem _ hb)).mp h

/-! ## Counting by type -/

/-- The runs of a list: each name that follows itself, and how often. -/
def runs (names : List String) : List (String × Nat) :=
  names.foldr
    (fun name counts =>
      match counts with
      | (other, n) :: rest => if other = name then (name, n + 1) :: rest else (name, 1) :: counts
      | [] => [(name, 1)])
    []

theorem runs_cons (name : String) (names : List String) :
    runs (name :: names) =
      match runs names with
      | (other, n) :: rest =>
          if other = name then (name, n + 1) :: rest else (name, 1) :: runs names
      | [] => [(name, 1)] := rfl

theorem sum_runs (names : List String) : ((runs names).map (·.2)).sum = names.length := by
  induction names with
  | nil => rfl
  | cons name names ih =>
    rw [runs_cons, List.length_cons, ← ih]
    cases runs names with
    | nil => rfl
    | cons first rest =>
      dsimp only
      split
      · simp only [List.map_cons, List.sum_cons]
        omega
      · simp only [List.map_cons, List.sum_cons]
        omega

/-- One count for each name of a list and no other, the smaller names first. -/
structure Counts (counts : List (String × Nat)) (names : List String) : Prop where
  ordered : counts.Pairwise fun a b => a.1 < b.1
  mem_iff : ∀ name n, (name, n) ∈ counts ↔ 0 < n ∧ n = names.count name

/-- The counts of greater names, with that of the first name put in front. -/
theorem Counts.cons {first : String} {names : List String} {rest : List (String × Nat)}
    (hrest : rest.Pairwise fun a b => a.1 < b.1) (hgreater : ∀ run ∈ rest, first < run.1)
    (hsame : ∀ name, name ≠ first → ∀ n, (name, n) ∈ rest ↔ 0 < n ∧ n = names.count name) :
    Counts ((first, names.count first + 1) :: rest) (first :: names) := by
  refine ⟨List.pairwise_cons.mpr ⟨hgreater, hrest⟩, fun name n => ?_⟩
  rw [List.mem_cons, Prod.mk.injEq]
  by_cases hname : name = first
  · subst hname
    have hnone : (name, n) ∉ rest := fun hmem => lt_irrefl _ (hgreater _ hmem)
    rw [List.count_cons_self]
    simp only [hnone, or_false, true_and]
    omega
  · rw [hsame name hname, List.count_cons_of_ne (Ne.symm hname)]
    simp only [hname, false_and, false_or]

/-- Of a sorted list there is one run of each name, as long as the name occurs. -/
theorem runs_of_sorted {names : List String} (hsorted : names.Pairwise (· ≤ ·)) : Counts (runs names) names := by
  induction names with
  | nil =>
    refine ⟨.nil, fun name n => iff_of_false List.not_mem_nil ?_⟩
    rw [List.count_nil]
    omega
  | cons first names ih =>
    obtain ⟨hfirst, hnames⟩ := List.pairwise_cons.mp hsorted
    obtain ⟨hkeys, hcounts⟩ := ih hnames
    -- the runs behind are of names that are not smaller
    have hleast : ∀ run ∈ runs names, first ≤ run.1 := by
      rintro ⟨name, n⟩ hmem
      obtain ⟨hpos, rfl⟩ := (hcounts name n).mp hmem
      exact hfirst name (List.count_pos_iff.mp hpos)
    -- a name without a run is new, and its own run has one name in it
    have hnew (hnone : ∀ run ∈ runs names, first < run.1) :
        Counts ((first, 1) :: runs names) (first :: names) := by
      have hcount : names.count first = 0 :=
        Nat.eq_zero_of_not_pos fun hpos => lt_irrefl _ (hnone _ ((hcounts first _).mpr ⟨hpos, rfl⟩))
      have hcons := Counts.cons hkeys hnone fun name _ n => hcounts name n
      rwa [hcount] at hcons
    rw [runs_cons]
    cases hruns : runs names with
    | nil =>
      rw [hruns] at hnew
      exact hnew nofun
    | cons run rest =>
      obtain ⟨other, n⟩ := run
      rw [hruns] at hkeys hleast hcounts hnew
      obtain ⟨hbehind, hrest⟩ := List.pairwise_cons.mp hkeys
      dsimp only
      split
      next heq =>
        subst heq
        obtain ⟨-, rfl⟩ := (hcounts other n).mp List.mem_cons_self
        refine .cons hrest hbehind fun name hname n => ?_
        rw [← hcounts, List.mem_cons, Prod.mk.injEq]
        simp only [hname, false_and, false_or]
      next hne =>
        have hless : first < other := lt_of_le_of_ne (hleast _ List.mem_cons_self) (Ne.symm hne)
        exact hnew (List.forall_mem_cons.mpr ⟨hless, fun run hmem => hless.trans (hbehind run hmem)⟩)

/-- **Each type is counted once, in full**, and the counts make up the whole. -/
theorem tally_spec (types : List String) :
    ((tally types).map (·.1)).Nodup ∧
      (∀ name n, (name, n) ∈ tally types ↔ 0 < n ∧ n = types.count name) ∧
      ((tally types).map (·.2)).sum = types.length := by
  have hsort : types.mergeSort (fun a b => !decide (b < a)) = types.mergeSort (· ≤ ·) := by
    congr 1
    funext a b
    rw [Bool.eq_iff_iff, Bool.not_eq_true', decide_eq_false_iff_not, decide_eq_true_iff, not_lt]
  have htally : tally types = runs (types.mergeSort (· ≤ ·)) := by
    rw [← hsort]
    rfl
  have hperm : (types.mergeSort (· ≤ ·)).Perm types := List.mergeSort_perm _ _
  have htrans (a b c : String) (hab : decide (a ≤ b) = true) (hbc : decide (b ≤ c) = true) :
      decide (a ≤ c) = true := by
    rw [decide_eq_true_iff] at *
    exact hab.trans hbc
  have htotal (a b : String) : (decide (a ≤ b) || decide (b ≤ a)) = true := by
    rw [Bool.or_eq_true, decide_eq_true_iff, decide_eq_true_iff]
    exact le_total a b
  have hsorted : (types.mergeSort (· ≤ ·)).Pairwise (· ≤ ·) :=
    (List.pairwise_mergeSort htrans htotal types).imp fun h => of_decide_eq_true h
  obtain ⟨hkeys, hcounts⟩ := runs_of_sorted hsorted
  rw [htally]
  refine ⟨List.pairwise_map.mpr (hkeys.imp fun h => ne_of_lt h), fun name n => ?_, ?_⟩
  · rw [hcounts, hperm.count_eq]
  · rw [sum_runs, hperm.length_eq]

/-! ## Runs of the store -/

/-- Behind every run the tables are all there, and no two letters have one id. -/
theorem filed_run (requests : List Request) :
    (Tables.empty.afterAll requests).Filed ∧ (Tables.empty.afterAll requests).migrated = 3 := by
  refine @Run.final_of_moments _ _ Tables.after (fun tables => tables.Filed ∧ tables.migrated = 3)
    (fun _ => True) (fun e _ h => ?_) _ requests ⟨Tables.empty_filed, rfl⟩ fun _ _ => trivial
  exact ⟨Exchange.change e |>.filed h.1, (Exchange.change e).migrated.trans h.2⟩

section Perform

variable {tables : Tables} (hthere : tables.has .deadLetters = true)
include hthere

theorem perform_look {α : Type} (look : Tables → α) :
    (statement .deadLetters fun tables => .ok (look tables, tables)).perform tables =
      (.ok (look tables), tables) := by
  rw [Call.perform, execute_statement]
  simp only [hthere]
  rfl

theorem perform_listDeadLetters (n : Nat) :
    (listDeadLetters n).perform tables = (.ok (tables.listed.take n), tables) :=
  perform_look hthere fun tables => tables.listed.take n

theorem perform_stats :
    DeadLetters.stats.perform tables =
      (.ok ⟨tables.deadLetters.length, tally (tables.deadLetters.map (·.jobType))⟩, tables) := by
  rw [Call.perform, DeadLetters.stats, Call.execute_bind, countDeadLetters, execute_statement]
  simp only [hthere, List.headD_nil, Bool.not_true, Bool.or_self, Bool.false_eq_true, if_false]
  rw [Call.execute_bind, countDeadLettersByType, execute_statement]
  simp only [hthere, List.tail_nil, List.headD_nil, Bool.not_true, Bool.or_self, Bool.false_eq_true, if_false]
  rfl

end Perform

/-- **The archive listed and counted.** Behind every run of the store whose dead letters were archived in the
years 0000 to 9999, there is one order of all of them, the later archived first and of one time the
greater id first, and a list of at most `n` is the front of it, as long as `n` or the archive. The
statistics give the number of letters and, for each type that occurs and no other, how many of them are of
it; these make up the whole. -/
theorem archive_listed_and_counted (requests : List Request)
    (hdated : ∀ letter ∈ (Tables.empty.afterAll requests).deadLetters, letter.archivedAt.Dated) :
    let tables := Tables.empty.afterAll requests
    (∃ letters : List DeadLetter, letters.Perm tables.deadLetters ∧ letters.Pairwise LaterArchived ∧
      ∀ n : Nat, fitsSigned 64 n = true →
        (listDeadLetters n).perform tables = (.ok (letters.take n), tables) ∧
        (letters.take n).length = min n tables.deadLetters.length) ∧
    ∃ stats : DeadLetterStats, DeadLetters.stats.perform tables = (.ok stats, tables) ∧
      stats.total = tables.deadLetters.length ∧
      (stats.byType.map (·.1)).Nodup ∧
      (∀ jobType n, (jobType, n) ∈ stats.byType ↔
        0 < n ∧ n = tables.deadLetters.countP (·.jobType == jobType)) ∧
      (stats.byType.map (·.2)).sum = stats.total := by
  intro tables
  obtain ⟨hfiled, hmigrated⟩ := filed_run requests
  have hthere : tables.has .deadLetters = true := by
    rw [Tables.has, hmigrated]
    rfl
  obtain ⟨hnodup, hcounts, hsum⟩ := tally_spec (tables.deadLetters.map (·.jobType))
  refine ⟨⟨tables.listed, tables.listed_perm, hfiled.listed_later hdated, fun n _ =>
      ⟨perform_listDeadLetters hthere n, ?_⟩⟩,
    _, perform_stats hthere, rfl, hnodup, fun jobType n => ?_, ?_⟩
  · rw [List.length_take, tables.listed_perm.length_eq]
  · rw [hcounts, List.count, List.countP_map]
    rfl
  · rw [hsum, List.length_map]

/-- So many nanoseconds behind the seventh second. -/
def behindSeven (nanos : Nat) : Instant := .ofTotalNanos (7000000000 + nanos)

/-- Three jobs of two types are archived within a second: the second of them last, a microsecond behind the
others, whose times have six digits less. The first attempt to archive it is lost with its commit. -/
def filedInOneSecond : List Request :=
  let put (jobType : String) : Request :=
    ⟨.enqueue ⟨jobType, [], none, none, none, none⟩ standardMaxAttempts, wholeSecond 0, []⟩
  let known (id : Int) (jobType : String) : Job :=
    { id, tenantId := none, jobType, payload := [], status := .pending, idempotencyKey := none,
      attemptCount := 0, maxAttempts := 5, lastError := none, runAt := wholeSecond 0, startedAt := none,
      completedAt := none, createdAt := wholeSecond 0, updatedAt := wholeSecond 0 }
  let file (id : Int) (jobType : String) (nanos : Nat) (faults : List Bool) : Request :=
    ⟨.archive (known id jobType) "bad", behindSeven nanos, faults⟩
  [put "b", put "a", put "b",
   file 1 "b" 0 [], file 2 "a" 1000 [false, false, false, true], file 2 "a" 1000 [], file 3 "b" 0 []]

theorem archive_listed_and_counted_inOneSecond :
    let tables := Tables.empty.afterAll filedInOneSecond
    let letter (id : Int) (jobType : String) (nanos : Nat) : DeadLetter :=
      ⟨id, id, none, jobType, [], 0, some "bad", behindSeven nanos, behindSeven nanos⟩
    (listDeadLetters 2).perform tables =
      (.ok [letter 2 "a" 1000, letter 3 "b" 0], tables) ∧
    ∃ stats, DeadLetters.stats.perform tables = (.ok stats, tables) ∧ stats.total = 3 ∧
      ("b", 2) ∈ stats.byType := by
  intro tables letter
  obtain ⟨⟨letters, hperm, hsorted, hlist⟩, stats, hstats, htotal, -, hcounts, -⟩ :=
    archive_listed_and_counted filedInOneSecond (by decide +kernel)
  have hletters : letters =
      [letter 2 "a" 1000, letter 3 "b" 0, letter 1 "b" 0] := by
    refine (hperm.trans ?_).eq_of_pairwise (fun a b _ _ hab hba => absurd hba hab.asymm) hsorted
      (by decide)
    decide +kernel
  rw [hletters] at hlist
  exact ⟨(hlist 2 (by decide)).1, stats, hstats, htotal.trans (by decide +kernel),
    (hcounts "b" 2).mpr (by decide +kernel)⟩

end DurableJobs.Store
