import Mathlib.Data.List.Induction
import SeccompBootstrap.Proofs.Stream
import SeccompBootstrap.Proofs.Text.Utf8

/-!
Reports on one stream. However the stream takes single writes, it ends up with the lines of all
outcomes as far as its limits hold them. A report whose whole line lies within that part flushes the
stream once, every other one says that the stream is unavailable.
-/

set_option autoImplicit false
set_option relaxedAutoImplicit false

namespace SeccompBootstrap.Outcome

def lineBytes (outcome : Outcome) : List UInt8 :=
  Text.Utf8.bytes (outcome.line ++ "\n")

def written (outcomes : List Outcome) : List UInt8 :=
  outcomes.flatMap lineBytes

theorem length_lineBytes_pos (outcome : Outcome) : 0 < outcome.lineBytes.length := by
  have lineEnd : (Text.Utf8.bytes "\n").length = 1 := by decide
  rw [lineBytes, Text.Utf8.bytes_append, List.length_append, lineEnd]
  exact Nat.succ_pos _

theorem written_eq_bytes (outcomes : List Outcome) :
    written outcomes = Text.Utf8.bytes (String.join (outcomes.map (·.line ++ "\n"))) := by
  induction outcomes with
  | nil => rfl
  | cons outcome rest ih =>
      rw [List.map_cons, String.join_cons, Text.Utf8.bytes_append, ← ih]
      rfl

theorem written_append_singleton (earlier : List Outcome) (outcome : Outcome) :
    written (earlier ++ [outcome]) = written earlier ++ outcome.lineBytes := by
  simp [written]

section OneReport

variable {stream : Stream} (outcome : Outcome) (inside : stream.limits.Holds stream.offset)
  (chunk : stream.limits.chunk ≠ some 0)

include inside chunk

theorem report_of_room
    (room : stream.limits.Holds (stream.offset + outcome.lineBytes.length)) :
    outcome.report stream =
      (.finished outcome.label outcome.isProtected ::
          if stream.limits.flushFails then [.streamUnavailable stream.limits.fault.message] else [],
        { stream.wrote outcome.lineBytes with flushes := stream.flushes + 1 }) := by
  have whole : stream.writeAll (Text.Utf8.bytes (outcome.line ++ "\n")) =
      (.ok (), stream.wrote outcome.lineBytes) := by
    rw [← lineBytes, Stream.writeAll_eq inside chunk, Stream.verdict, if_pos room]
  unfold report Stream.writeLine
  rw [whole]
  cases flush : stream.limits.flushFails <;> simp [Stream.flush, Stream.wrote, flush]

theorem report_of_no_room
    (full : ¬ stream.limits.Holds (stream.offset + outcome.lineBytes.length)) :
    outcome.report stream =
      ([.finished outcome.label outcome.isProtected,
          .streamUnavailable stream.limits.lastFault.message],
        stream.wrote outcome.lineBytes) := by
  have cut : stream.writeAll (Text.Utf8.bytes (outcome.line ++ "\n")) =
      (.error stream.limits.lastFault, stream.wrote outcome.lineBytes) := by
    rw [← lineBytes, Stream.writeAll_eq inside chunk, Stream.verdict, if_neg full]
  unfold report Stream.writeLine
  rw [cut]

theorem accepted_report :
    (outcome.report stream).2.limits = stream.limits ∧
      (outcome.report stream).2.accepted =
        stream.limits.admitted (stream.accepted ++ outcome.lineBytes) := by
  by_cases room : stream.limits.Holds (stream.offset + outcome.lineBytes.length)
  · rw [report_of_room outcome inside chunk room]
    exact ⟨rfl, rfl⟩
  · rw [report_of_no_room outcome inside chunk room]
    exact ⟨rfl, rfl⟩

end OneReport

/-- Whether the line of an outcome that is reported after others is accepted as a whole. -/
def Delivered (limits : StreamLimits) (earlier : List Outcome) (outcome : Outcome) : Prop :=
  limits.Holds (written (earlier ++ [outcome])).length

instance (limits : StreamLimits) (earlier : List Outcome) (outcome : Outcome) :
    Decidable (Delivered limits earlier outcome) :=
  inferInstanceAs (Decidable (limits.Holds _))

variable {limits : StreamLimits} (chunk : limits.chunk ≠ some 0)

theorem reportAll_append_singleton (earlier : List Outcome) (outcome : Outcome) (stream : Stream) :
    reportAll (earlier ++ [outcome]) stream =
      ((reportAll earlier stream).1 ++ (outcome.report (reportAll earlier stream).2).1,
        (outcome.report (reportAll earlier stream).2).2) := by
  simp [reportAll, List.foldl_append]

theorem reportAll_snd (outcomes : List Outcome) (stream : Stream) :
    (reportAll outcomes stream).2 =
      outcomes.foldl (fun taken outcome => (outcome.report taken).2) stream :=
  (List.foldl_hom Prod.snd fun _ _ => rfl).symm

include chunk

theorem reportAll_stream (outcomes : List Outcome) :
    (reportAll outcomes (.fresh limits)).2.limits = limits ∧
      (reportAll outcomes (.fresh limits)).2.accepted = limits.admitted (written outcomes) := by
  induction outcomes using List.reverseRecOn with
  | nil => exact ⟨rfl, (StreamLimits.admitted_of_holds (StreamLimits.holds_zero limits)).symm⟩
  | append_singleton earlier outcome ih =>
      obtain ⟨sameLimits, accepted⟩ := ih
      have inside := Stream.holds_offset_of_admitted sameLimits accepted
      obtain ⟨keptLimits, added⟩ := accepted_report outcome inside (by rw [sameLimits]; exact chunk)
      rw [reportAll_append_singleton]
      refine ⟨keptLimits.trans sameLimits, ?_⟩
      rw [added, sameLimits, accepted, StreamLimits.admitted_admitted_append,
        written_append_singleton]

theorem holds_offset_reportAll (outcomes : List Outcome) :
    (reportAll outcomes (.fresh limits)).2.limits.Holds
      (reportAll outcomes (.fresh limits)).2.offset := by
  obtain ⟨sameLimits, accepted⟩ := reportAll_stream chunk outcomes
  exact Stream.holds_offset_of_admitted sameLimits accepted

/-- The next line is delivered exactly if there is room for it behind what was accepted so far. -/
theorem delivered_iff (earlier : List Outcome) (outcome : Outcome) :
    Delivered limits earlier outcome ↔
      (reportAll earlier (.fresh limits)).2.limits.Holds
        ((reportAll earlier (.fresh limits)).2.offset + outcome.lineBytes.length) := by
  obtain ⟨sameLimits, accepted⟩ := reportAll_stream chunk earlier
  rw [Delivered, written_append_singleton, List.length_append, sameLimits, Stream.offset, accepted]
  by_cases room : limits.Holds (written earlier).length
  · rw [StreamLimits.admitted_of_holds room]
  -- a line is never empty, so none is delivered once the room is used up
  · obtain ⟨k, found, less⟩ := StreamLimits.capacity_of_not_holds room
    rw [StreamLimits.admitted_eq_take found, StreamLimits.holds_iff_le found,
      StreamLimits.holds_iff_le found, List.length_take]
    have present := outcome.length_lineBytes_pos
    omega

end Outcome

/-- Reports on a stream that accepts some bytes with every write deliver their lines in order, as
far as the stream's limits hold them: the stream has accepted just the first bytes of all lines,
up to where it fails for good. A report is flushed once if its line is among these bytes as a whole,
and otherwise not at all. It says that the stream is unavailable exactly if its line was not
accepted as a whole or the flush failed. In which pieces a line is written does not matter. -/
theorem reportAll_delivers (limits : StreamLimits) (chunk : limits.chunk ≠ some 0)
    (outcomes : List Outcome) :
    (Outcome.reportAll outcomes (.fresh limits)).2.accepted =
        limits.admitted (Outcome.written outcomes) ∧
      ∀ earlier outcome, earlier ++ [outcome] <+: outcomes →
        let before := Outcome.reportAll earlier (.fresh limits)
        let after := Outcome.reportAll (earlier ++ [outcome]) (.fresh limits)
        let finished := Event.finished outcome.label outcome.isProtected
        (Outcome.Delivered limits earlier outcome →
          after.2.flushes = before.2.flushes + 1 ∧
          after.1 = before.1 ++ finished ::
            if limits.flushFails then [.streamUnavailable limits.fault.message] else []) ∧
        (¬ Outcome.Delivered limits earlier outcome →
          after.2.flushes = before.2.flushes ∧
          after.1 = before.1 ++ [finished, .streamUnavailable limits.lastFault.message]) ∧
        ∀ pieces, pieces.flatten = outcome.lineBytes →
          before.2.writePieces pieces = before.2.writeAll outcome.lineBytes := by
  refine ⟨(Outcome.reportAll_stream chunk outcomes).2, ?_⟩
  intro earlier outcome _ before after finished
  have sameLimits : before.2.limits = limits := (Outcome.reportAll_stream chunk earlier).1
  have inside : before.2.limits.Holds before.2.offset :=
    Outcome.holds_offset_reportAll chunk earlier
  have admits : before.2.limits.chunk ≠ some 0 := sameLimits.symm ▸ chunk
  have fits := Outcome.delivered_iff chunk earlier outcome
  have next : after = (before.1 ++ (outcome.report before.2).1, (outcome.report before.2).2) :=
    Outcome.reportAll_append_singleton earlier outcome (.fresh limits)
  refine ⟨?_, ?_, ?_⟩
  · intro delivered
    rw [next, Outcome.report_of_room outcome inside admits (fits.mp delivered), sameLimits]
    exact ⟨rfl, rfl⟩
  · intro lost
    have full := fun room => lost (fits.mpr room)
    rw [next, Outcome.report_of_no_room outcome inside admits full, sameLimits]
    exact ⟨rfl, rfl⟩
  · intro pieces cut
    rw [Stream.writePieces_eq inside admits, cut]

theorem reportAll_delivers_first_line :
    let first : Outcome := .debugSkip skipVar
    let second : Outcome := .initFailure "no call"
    let limits : StreamLimits :=
      { failAt := some 37, interruptAt := some 37, zeroAt := some 40, chunk := some 5
        flushFails := true, fault := .storageFull }
    let reported := Outcome.reportAll [first, second] (.fresh limits)
    limits.chunk ≠ some 0 ∧
      reported.2.accepted = Text.Utf8.bytes "seccomp: debug-skip via SKIP_SECCOMP\n" ∧
      reported.2.flushes = 1 ∧
      reported.1 =
        [.finished "debug-skip" false, .streamUnavailable "no storage space",
          .finished "init-failure" false, .streamUnavailable "no storage space"] := by
  intro first second limits reported
  have chunk : limits.chunk ≠ some 0 := by decide
  obtain ⟨accepted, each⟩ := reportAll_delivers limits chunk [first, second]
  obtain ⟨one, finished⟩ := (each [] first ⟨[second], rfl⟩).1 (by decide +kernel)
  obtain ⟨still, more⟩ := (each [first] second ⟨[], rfl⟩).2.1 (by decide +kernel)
  simp only [List.nil_append, List.cons_append] at one finished still more
  refine ⟨chunk, ?_, ?_, ?_⟩
  · rw [accepted]
    decide +kernel
  · rw [still, one]
    rfl
  · rw [more, finished]
    rfl

end SeccompBootstrap
