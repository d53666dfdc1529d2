import DurableJobs.Job.Document
import DurableJobs.Proofs.Json.Records
import DurableJobs.Proofs.Time.Written

/-!
# Documents are read back

What was read as a job, a dead letter or their statistics is written as a text that is read as the same
value, and the same text is written for that. A map has no order of its own, so the statistics are read
back from their entries in whatever order these are written.
-/

set_option autoImplicit false

namespace DurableJobs

open DurableJobs.Json
open DurableJobs.Text

/-! ## Types of fields -/

/-- A time from the text of a string. -/
def readTime (s : String) : Except Mismatch Timestamp :=
  (Rfc3339.parse s).mapError fun flaw => .custom flaw.text

theorem timestampCodec_eq : timestampCodec =
    ⟨readText "an RFC 3339 formatted date and time string" readTime,
      fun t => stringText (String.ofList (Rfc3339.document t)), none⟩ := rfl

theorem readTime_eq_ok {s : String} {t : Timestamp} :
    readTime s = .ok t ↔ Rfc3339.parse s = .ok t := by
  rw [readTime]
  cases Rfc3339.parse s with
  | error flaw => exact iff_of_false (fun h => by cases h) (fun h => by cases h)
  | ok t' =>
    constructor
    all_goals
      intro h
      cases h
      rfl

theorem timestampCodec_faithful : timestampCodec.Faithful := by
  rw [timestampCodec_eq]
  intro t hyields
  rcases hyields with ⟨c, c', hread⟩ | habsent
  · obtain ⟨s, hs⟩ := decode_of_readText hread
    have hreadable := Rfc3339.readable_of_parse (readTime_eq_ok.mp hs)
    exact readText_stringText (readTime_eq_ok.mpr (Rfc3339.parse_document hreadable))
  · cases habsent

theorem timestampCodec_plain : timestampCodec.Plain := fun _ => stringText_plain _

theorem Status.codec_faithful : Status.codec.Faithful := by
  refine choice_faithful fun status => ?_
  cases status <;> rfl

theorem optionalText_faithful : (optional text).Faithful := optional_faithful text_faithful text_plain

theorem optionalTimestamp_faithful : (optional timestampCodec).Faithful :=
  optional_faithful timestampCodec_faithful timestampCodec_plain

theorem payload_faithful : (listOf byte).Faithful := listOf_faithful byte_faithful byte_plain

/-! ## Records -/

theorem JobDocument.codec_faithful : JobDocument.codec.Faithful := by
  refine (recordOf_faithful "Job" ?_ (by decide)).imap fun row _ => rfl
  simp only [JobDocument.fields, List.forall_mem_cons]
  exact ⟨int64_faithful, optionalText_faithful, text_faithful, payload_faithful, Status.codec_faithful,
    optionalText_faithful, int32_faithful, int32_faithful, optionalText_faithful,
    timestampCodec_faithful, optionalTimestamp_faithful, optionalTimestamp_faithful,
    timestampCodec_faithful, timestampCodec_faithful, by simp⟩

theorem DeadLetterDocument.codec_faithful : DeadLetterDocument.codec.Faithful := by
  refine (recordOf_faithful "DeadLetterJob" ?_ (by decide)).imap fun row _ => rfl
  simp only [DeadLetterDocument.fields, List.forall_mem_cons]
  exact ⟨int64_faithful, int64_faithful, optionalText_faithful, text_faithful, payload_faithful,
    int32_faithful, optionalText_faithful, timestampCodec_faithful, timestampCodec_faithful, by simp⟩

/-! ## Statistics -/

/-- A text of statistics, with the entries by type in any order. -/
def DeadLetterStats.IsText (stats : DeadLetterStats) (text : String) : Prop :=
  ∃ entries, entries.Perm stats.byType ∧ text = DeadLetterStats.codec.write ⟨stats.total, entries⟩

/-- Texts of statistics that differ in the order of the entries by type, and in nothing else. -/
def DeadLetterStats.SameText (text text' : String) : Prop :=
  ∃ total entries entries', entries.Perm entries' ∧
    text = DeadLetterStats.codec.write ⟨total, entries⟩ ∧
    text' = DeadLetterStats.codec.write ⟨total, entries'⟩

/-- Statistics are read back from any of their texts. -/
theorem DeadLetterStats.reads_of_isText {stats : DeadLetterStats} {text : String}
    (hyields : DeadLetterStats.codec.Yields stats) (h : stats.IsText text) :
    Reads DeadLetterStats.codec.read text stats := by
  obtain ⟨entries, hperm, rfl⟩ := h
  obtain ⟨row, hrow, rfl⟩ := hyields.of_imap
  obtain ⟨htotal, hbyType, -⟩ := hrow.of_recordOf
  obtain ⟨hsorted, hentries⟩ := hbyType.of_mapOf
  refine Reads.imap (Reads.readRow "DeadLetterStats" ?_ (by decide))
  refine ⟨⟨rfl, count64_faithful _ htotal⟩, ⟨rfl, ?_⟩, rfl⟩
  exact Reads.mapOf hsorted (fun e he => count64_faithful _ (hentries e he)) hperm

/-! ## Back again -/

/-- A value comes back from its text: it is read from it, and the text is written for it once more. -/
def Json.Codec.ComesBack {α : Type} (codec : Codec α) (a : α) : Prop :=
  ∃ again, codec.decode (symbolsOfString (codec.write a)) = .ok again ∧ again = a ∧
    codec.write again = codec.write a

/-- Statistics come back from each of their texts, which is theirs once more but for the order. -/
def DeadLetterStats.ComesBack (stats : DeadLetterStats) : Prop :=
  ∀ text, stats.IsText text → ∃ again,
    DeadLetterStats.codec.decode (symbolsOfString text) = .ok again ∧ again = stats ∧
      ∀ text', again.IsText text' → SameText text text'

theorem Json.Codec.Faithful.comesBack {α : Type} {codec : Codec α} (h : codec.Faithful)
    {document : List Symbol} {a : α} (hread : codec.decode document = .ok a) : codec.ComesBack a :=
  ⟨a, h.decode_write hread, rfl, rfl⟩

theorem DeadLetterStats.comesBack {document : List Symbol} {stats : DeadLetterStats}
    (hread : DeadLetterStats.codec.decode document = .ok stats) : stats.ComesBack := by
  intro text htext
  refine ⟨stats, (reads_of_isText (.of_decode hread) htext).decode, rfl, ?_⟩
  obtain ⟨entries, hperm, rfl⟩ := htext
  rintro text' ⟨entries', hperm', rfl⟩
  exact ⟨stats.total, entries, entries', hperm.trans hperm'.symm, rfl, rfl⟩

/-- **Documents are read back from their own text**, and it is written once more for what is read. -/
theorem documents_come_back (document : List Symbol) :
    (∀ job, JobDocument.codec.decode document = .ok job → JobDocument.codec.ComesBack job) ∧
    (∀ letter, DeadLetterDocument.codec.decode document = .ok letter →
      DeadLetterDocument.codec.ComesBack letter) ∧
    ∀ stats, DeadLetterStats.codec.decode document = .ok stats → stats.ComesBack :=
  ⟨fun _ => JobDocument.codec_faithful.comesBack, fun _ => DeadLetterDocument.codec_faithful.comesBack,
    fun _ => DeadLetterStats.comesBack⟩

theorem documents_come_back_leapSecond :
    (JobDocument.codec.decode (symbolsOfString ("[7,null,\"mail\",[0,255],\"failed\",null,-1,3," ++
        "\"a\\u001f\",\"2016-12-31 22:59:60.5-0100\",null,null,\"0-1-1T0:0:0Z\",\"0-1-1T0:0:0Z\"]")) =
      .ok ⟨7, none, "mail", [0, 255], .failed, none, -1, 3, some "a\x1f",
        ⟨⟨1483228799, 1500000000, by decide⟩, -3600⟩, none, none,
        .utc ⟨-62167219200, 0, by decide⟩, .utc ⟨-62167219200, 0, by decide⟩⟩ ∧
      JobDocument.codec.ComesBack ⟨7, none, "mail", [0, 255], .failed, none, -1, 3, some "a\x1f",
        ⟨⟨1483228799, 1500000000, by decide⟩, -3600⟩, none, none,
        .utc ⟨-62167219200, 0, by decide⟩, .utc ⟨-62167219200, 0, by decide⟩⟩) ∧
    (DeadLetterDocument.codec.decode (symbolsOfString
        "[1,7,null,\"mail\",[],3,null,\"0-1-1T0:0:0Z\",\"0-1-1T0:0:0Z\"]") =
      .ok ⟨1, 7, none, "mail", [], 3, none, .utc ⟨-62167219200, 0, by decide⟩,
        .utc ⟨-62167219200, 0, by decide⟩⟩ ∧
      DeadLetterDocument.codec.ComesBack ⟨1, 7, none, "mail", [], 3, none,
        .utc ⟨-62167219200, 0, by decide⟩, .utc ⟨-62167219200, 0, by decide⟩⟩) ∧
    (DeadLetterStats.codec.decode (symbolsOfString
        "\x7b\"by_type\":\x7b\"b\":1,\"a\":2\x7d,\"total\":3\x7d") = .ok ⟨3, [("a", 2), ("b", 1)]⟩ ∧
      DeadLetterStats.ComesBack ⟨3, [("a", 2), ("b", 1)]⟩) := by
  refine ⟨?_, ?_, ?_⟩
  · refine (fun hread => ⟨hread, (documents_come_back _).1 _ hread⟩) (toOption_eq_some.mp ?_)
    decide +kernel
  · refine (fun hread => ⟨hread, (documents_come_back _).2.1 _ hread⟩) (toOption_eq_some.mp ?_)
    decide +kernel
  · refine (fun hread => ⟨hread, (documents_come_back _).2.2 _ hread⟩) (toOption_eq_some.mp ?_)
    decide +kernel

end DurableJobs
