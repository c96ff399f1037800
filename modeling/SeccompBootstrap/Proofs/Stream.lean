import SeccompBootstrap.Bootstrap

/-!
What a stream accepts. Its limits hold a certain number of bytes, and whatever is written, in
whatever pieces, the stream ends up with as many of the bytes as its limits hold. Neither the size
of single writes nor an interruption changes that.
-/

set_option autoImplicit false
set_option relaxedAutoImplicit false

namespace SeccompBootstrap

namespace StreamLimits

def capacity? (limits : StreamLimits) : Option Nat :=
  match limits.failAt, limits.zeroAt with
  | some failing, some refusing => some (min failing refusing)
  | some failing, none => some failing
  | none, refusing => refusing

/-- Whether a stream accepts as many bytes as that. -/
def Holds (limits : StreamLimits) (length : Nat) : Prop :=
  ∀ k, limits.capacity? = some k → length ≤ k

instance (limits : StreamLimits) (length : Nat) : Decidable (limits.Holds length) :=
  decidable_of_iff (limits.capacity?.all (length ≤ ·) = true) (by
    unfold Holds
    cases limits.capacity? <;> simp)

def admitted (limits : StreamLimits) (bytes : List UInt8) : List UInt8 :=
  match limits.capacity? with
  | none => bytes
  | some k => bytes.take k

/-- What a stream reports that has no room left. -/
def lastFault (limits : StreamLimits) : StreamFault :=
  if limits.failAt = limits.capacity? then limits.fault else .nothingAccepted

/-- Whether a stream accepts everything, be it in pieces and not at the first attempt. -/
structure Lossless (limits : StreamLimits) : Prop where
  failAt : limits.failAt = none
  zeroAt : limits.zeroAt = none
  chunk : limits.chunk ≠ some 0

variable {limits : StreamLimits} {length other k : Nat} {bytes : List UInt8}

theorem Holds.mono (holds : limits.Holds length) (less : other ≤ length) : limits.Holds other :=
  fun k found => Nat.le_trans less (holds k found)

theorem holds_zero (limits : StreamLimits) : limits.Holds 0 :=
  fun k _ => Nat.zero_le k

theorem holds_iff_le (found : limits.capacity? = some k) : limits.Holds length ↔ length ≤ k := by
  simp [Holds, found]

theorem holds_iff :
    limits.Holds length ↔
      (∀ k, limits.failAt = some k → length ≤ k) ∧ ∀ k, limits.zeroAt = some k → length ≤ k := by
  unfold Holds capacity?
  rcases limits.failAt with _ | failing
  · simp
  · rcases limits.zeroAt with _ | refusing
    · simp
    · simp only [Option.some.injEq, forall_eq', Nat.le_min]

theorem capacity_of_not_holds (full : ¬ limits.Holds length) :
    ∃ k, limits.capacity? = some k ∧ k < length := by
  simpa [Holds] using full

theorem admitted_eq_take (found : limits.capacity? = some k) :
    limits.admitted bytes = bytes.take k := by
  rw [admitted, found]

theorem admitted_of_holds (holds : limits.Holds bytes.length) : limits.admitted bytes = bytes := by
  unfold admitted
  rcases found : limits.capacity? with _ | k
  · rfl
  · exact List.take_of_length_le (holds k found)

theorem Lossless.admitted (lossless : limits.Lossless) (bytes : List UInt8) :
    limits.admitted bytes = bytes := by
  have unlimited : limits.capacity? = none := by
    rw [capacity?, lossless.failAt, lossless.zeroAt]
  rw [StreamLimits.admitted, unlimited]

theorem admitted_append_of_not_holds (full : ¬ limits.Holds bytes.length) (more : List UInt8) :
    limits.admitted (bytes ++ more) = limits.admitted bytes := by
  obtain ⟨k, found, less⟩ := capacity_of_not_holds full
  rw [admitted_eq_take found, admitted_eq_take found]
  exact List.take_append_of_le_length (Nat.le_of_lt less)

theorem admitted_admitted_append (limits : StreamLimits) (bytes more : List UInt8) :
    limits.admitted (limits.admitted bytes ++ more) = limits.admitted (bytes ++ more) := by
  by_cases holds : limits.Holds bytes.length
  · rw [admitted_of_holds holds]
  · rw [admitted_append_of_not_holds holds]
    obtain ⟨k, found, less⟩ := capacity_of_not_holds holds
    rw [admitted_eq_take found, admitted_eq_take found]
    rw [List.take_append_of_le_length (by rw [List.length_take]; omega), List.take_take,
      Nat.min_self]

theorem holds_length_admitted (limits : StreamLimits) (bytes : List UInt8) :
    limits.Holds (limits.admitted bytes).length := by
  intro k found
  rw [admitted_eq_take found, List.length_take]
  exact Nat.min_le_left k bytes.length

end StreamLimits

namespace Stream

variable {stream : Stream} {bytes : List UInt8}

def Interrupts (stream : Stream) : Prop :=
  stream.limits.interruptAt = some stream.offset ∧ stream.interrupted = false

def Full (stream : Stream) : Prop :=
  stream.limits.failAt = some stream.offset ∨ stream.limits.zeroAt = some stream.offset

def accept (stream : Stream) (bytes : List UInt8) : Stream :=
  { stream with accepted := stream.accepted ++ bytes }

theorem capacity_of_full (inside : stream.limits.Holds stream.offset) (full : stream.Full) :
    stream.limits.capacity? = some stream.offset := by
  obtain ⟨fails, refuses⟩ := StreamLimits.holds_iff.mp inside
  unfold StreamLimits.capacity?
  rcases failing : stream.limits.failAt with _ | f <;>
    rcases refusing : stream.limits.zeroAt with _ | z <;>
    simp_all [Full]
  omega

theorem write_of_interrupts (due : stream.Interrupts) :
    stream.write bytes = (.interrupted, { stream with interrupted := true }) :=
  if_pos due

private theorem write_of_not_interrupts (undue : ¬ stream.Interrupts) :
    stream.write bytes =
      if stream.limits.failAt = some stream.offset then (.failed stream.limits.fault, stream)
      else if stream.limits.zeroAt = some stream.offset then (.accepted 0, stream)
      else
        (.accepted (stream.room bytes.length),
          stream.accept (bytes.take (stream.room bytes.length))) :=
  if_neg undue

theorem write_of_full (bytes : List UInt8) (inside : stream.limits.Holds stream.offset)
    (undue : ¬ stream.Interrupts) (full : stream.Full) :
    stream.write bytes = (.failed stream.limits.lastFault, stream) ∨
      stream.write bytes = (.accepted 0, stream) ∧ stream.limits.lastFault = .nothingAccepted := by
  have least := capacity_of_full inside full
  rw [write_of_not_interrupts undue, StreamLimits.lastFault, least]
  by_cases failing : stream.limits.failAt = some stream.offset
  · exact .inl (by rw [if_pos failing, if_pos failing])
  · have refusing := full.resolve_left failing
    exact .inr ⟨by rw [if_neg failing, if_pos refusing], if_neg failing⟩

theorem stopAt_le (offset : Nat) (place : Option Nat) (count : Nat) :
    stopAt offset place count ≤ count := by
  unfold stopAt
  split
  · exact Nat.le_refl count
  · split <;> omega

theorem stopAt_pos (offset : Nat) (place : Option Nat) {count : Nat} (some_ : 0 < count) :
    0 < stopAt offset place count := by
  unfold stopAt
  split
  · exact some_
  · split <;> omega

theorem add_stopAt_le {offset place : Nat} (ahead : offset < place) (count : Nat) :
    offset + stopAt offset (some place) count ≤ place := by
  simp only [stopAt, if_pos ahead]
  omega

/-- What a stream with room accepts: at least one byte, and none beyond the next place where it
stops. -/
structure Admits (stream : Stream) (length count : Nat) : Prop where
  pos : 0 < count
  le_length : count ≤ length
  holds : stream.limits.Holds (stream.offset + count)
  le_interruptAt : ∀ i, stream.limits.interruptAt = some i → stream.offset < i →
    stream.offset + count ≤ i

theorem admits_room {length : Nat} (inside : stream.limits.Holds stream.offset)
    (roomy : ¬ stream.Full) (chunk : stream.limits.chunk ≠ some 0) (present : 0 < length) :
    stream.Admits length (stream.room length) := by
  obtain ⟨fails, refuses⟩ := StreamLimits.holds_iff.mp inside
  let whole := match stream.limits.chunk with
    | none => length
    | some chunk => min length chunk
  have whole_le : whole ≤ length := by
    simp only [whole]
    split <;> omega
  have whole_pos : 0 < whole := by
    simp only [whole]
    split
    · exact present
    · rename_i size given
      have size_pos : size ≠ 0 := fun zero => chunk (zero ▸ given)
      omega
  let refused := stopAt stream.offset stream.limits.zeroAt whole
  let broken := stopAt stream.offset stream.limits.interruptAt refused
  have room_eq : stream.room length = stopAt stream.offset stream.limits.failAt broken := rfl
  have refused_le : refused ≤ whole := stopAt_le _ _ _
  have broken_le : broken ≤ refused := stopAt_le _ _ _
  have room_le : stream.room length ≤ broken := stopAt_le _ _ _
  refine ⟨?_, by omega, StreamLimits.holds_iff.mpr ⟨?_, ?_⟩, ?_⟩
  · exact stopAt_pos _ _ (stopAt_pos _ _ (stopAt_pos _ _ whole_pos))
  · intro place failing
    have ahead : stream.offset < place :=
      Nat.lt_of_le_of_ne (fails place failing) fun same => roomy (.inl (by rw [failing, same]))
    have bound := add_stopAt_le ahead broken
    rw [room_eq, failing]
    exact bound
  · intro place refusing
    have ahead : stream.offset < place :=
      Nat.lt_of_le_of_ne (refuses place refusing) fun same => roomy (.inr (by rw [refusing, same]))
    have bound := add_stopAt_le ahead whole
    rw [← refusing] at bound
    omega
  · intro place breaking ahead
    have bound := add_stopAt_le ahead refused
    rw [← breaking] at bound
    omega

theorem write_of_room (inside : stream.limits.Holds stream.offset) (undue : ¬ stream.Interrupts)
    (roomy : ¬ stream.Full) (chunk : stream.limits.chunk ≠ some 0) (present : bytes ≠ []) :
    ∃ count, stream.Admits bytes.length count ∧
      stream.write bytes = (.accepted count, stream.accept (bytes.take count)) := by
  refine ⟨_, admits_room inside roomy chunk (List.length_pos_iff.mpr present), ?_⟩
  rw [write_of_not_interrupts undue, if_neg fun failing => roomy (.inl failing),
    if_neg fun refusing => roomy (.inr refusing)]

/-- Whether a stream that is given so many bytes gets to the place of its interruption with some of
them left. -/
def breaksOff (stream : Stream) (length : Nat) : Bool :=
  stream.limits.interruptAt.any fun i =>
    decide (stream.offset ≤ i) && decide (i < stream.offset + length) &&
      decide (stream.limits.Holds i)

def wrote (stream : Stream) (bytes : List UInt8) : Stream :=
  { stream with
    accepted := stream.limits.admitted (stream.accepted ++ bytes)
    interrupted := stream.interrupted || stream.breaksOff bytes.length }

/-- What becomes of writing some bytes. -/
def verdict (stream : Stream) (bytes : List UInt8) : Except StreamFault Unit :=
  if stream.limits.Holds (stream.offset + bytes.length) then .ok ()
  else .error stream.limits.lastFault

theorem wrote_nil (inside : stream.limits.Holds stream.offset) : stream.wrote [] = stream := by
  have flag : stream.breaksOff 0 = false := by
    unfold breaksOff
    rcases stream.limits.interruptAt with _ | i
    · rfl
    · by_cases reached : stream.offset ≤ i
      · have beyond : ¬ i < stream.offset + 0 := Nat.not_lt.mpr reached
        rw [Option.any_some, decide_eq_false beyond, Bool.and_false, Bool.false_and]
      · rw [Option.any_some, decide_eq_false reached, Bool.false_and, Bool.false_and]
  have kept : stream.limits.admitted stream.accepted = stream.accepted :=
    StreamLimits.admitted_of_holds inside
  simp [wrote, flag, kept]

theorem breaksOff_of_interrupts (inside : stream.limits.Holds stream.offset)
    (due : stream.Interrupts) (present : bytes ≠ []) : stream.breaksOff bytes.length = true := by
  have some_ : 0 < bytes.length := List.length_pos_iff.mpr present
  simp [breaksOff, due.1, inside, some_]

theorem wrote_of_interrupts (inside : stream.limits.Holds stream.offset) (due : stream.Interrupts)
    (present : bytes ≠ []) :
    Stream.wrote { stream with interrupted := true } bytes = stream.wrote bytes := by
  simp [wrote, breaksOff_of_interrupts inside due present]

theorem wrote_of_full (inside : stream.limits.Holds stream.offset) (undue : ¬ stream.Interrupts)
    (full : stream.Full) : stream.wrote bytes = stream := by
  have least := capacity_of_full inside full
  have kept : stream.limits.admitted (stream.accepted ++ bytes) = stream.accepted := by
    rw [StreamLimits.admitted_eq_take least]
    exact List.take_left
  have flag : (stream.interrupted || stream.breaksOff bytes.length) = stream.interrupted := by
    cases already : stream.interrupted with
    | true => rfl
    | false =>
        unfold breaksOff
        rcases breaking : stream.limits.interruptAt with _ | i
        · rfl
        · have elsewhere : i ≠ stream.offset := by
            rintro rfl
            exact undue ⟨breaking, already⟩
          simp [StreamLimits.holds_iff_le least]
          omega
  simp [wrote, kept, flag]

theorem verdict_of_full (inside : stream.limits.Holds stream.offset) (full : stream.Full)
    (present : bytes ≠ []) : stream.verdict bytes = .error stream.limits.lastFault := by
  have some_ : 0 < bytes.length := List.length_pos_iff.mpr present
  have past : ¬ stream.limits.Holds (stream.offset + bytes.length) := by
    rw [StreamLimits.holds_iff_le (capacity_of_full inside full)]
    omega
  exact if_neg past

section Continue

variable {count : Nat} (admits : stream.Admits bytes.length count)

include admits

theorem offset_accept_take :
    (stream.accept (bytes.take count)).offset = stream.offset + count := by
  have enough := admits.le_length
  simp only [accept, offset, List.length_append, List.length_take]
  omega

theorem wrote_accept_take (undue : ¬ stream.Interrupts) :
    (stream.accept (bytes.take count)).wrote (bytes.drop count) = stream.wrote bytes := by
  have enough := admits.le_length
  have flag : (stream.interrupted ||
        (stream.accept (bytes.take count)).breaksOff (bytes.drop count).length) =
      (stream.interrupted || stream.breaksOff bytes.length) := by
    cases already : stream.interrupted with
    | true => rfl
    | false =>
        unfold breaksOff
        rw [offset_accept_take admits, List.length_drop]
        have sameLimits : (stream.accept (bytes.take count)).limits = stream.limits := rfl
        rw [sameLimits]
        rcases breaking : stream.limits.interruptAt with _ | i
        · rfl
        · have elsewhere : i ≠ stream.offset := by
            rintro rfl
            exact undue ⟨breaking, already⟩
          have bound := admits.le_interruptAt i breaking
          have passed : stream.offset + count ≤ i ↔ stream.offset ≤ i := by omega
          have left : i < stream.offset + count + (bytes.length - count) ↔
              i < stream.offset + bytes.length := by omega
          simp only [Option.any_some, passed, left]
  have joined : stream.accepted ++ bytes.take count ++ bytes.drop count =
      stream.accepted ++ bytes := by
    rw [List.append_assoc, List.take_append_drop]
  simp only [accept, wrote, joined] at flag ⊢
  rw [flag]

theorem verdict_accept_take :
    (stream.accept (bytes.take count)).verdict (bytes.drop count) = stream.verdict bytes := by
  have enough := admits.le_length
  have total : stream.offset + count + (bytes.length - count) = stream.offset + bytes.length := by
    omega
  unfold verdict
  rw [offset_accept_take admits, List.length_drop, total]
  rfl

end Continue

theorem writeLoop_nil (fuel : Nat) (inside : stream.limits.Holds stream.offset) :
    writeLoop fuel stream [] = (stream.verdict [], stream.wrote []) := by
  have done : stream.verdict [] = .ok () := if_pos inside
  cases fuel <;> rw [wrote_nil inside, done, writeLoop]

section Iteration

variable (fuel : Nat) (present : bytes ≠ [])

include present

theorem writeLoop_succ :
    writeLoop (fuel + 1) stream bytes = match stream.write bytes with
      | (.interrupted, after) => writeLoop fuel after bytes
      | (.failed fault, after) => (.error fault, after)
      | (.accepted 0, after) => (.error .nothingAccepted, after)
      | (.accepted count, after) => writeLoop fuel after (bytes.drop count) :=
  writeLoop.eq_3 stream bytes fuel present

theorem writeLoop_of_interrupts (due : stream.Interrupts) :
    writeLoop (fuel + 1) stream bytes =
      writeLoop fuel { stream with interrupted := true } bytes := by
  rw [writeLoop_succ fuel present, write_of_interrupts due]

theorem writeLoop_of_full (inside : stream.limits.Holds stream.offset)
    (undue : ¬ stream.Interrupts) (full : stream.Full) :
    writeLoop (fuel + 1) stream bytes = (.error stream.limits.lastFault, stream) := by
  rw [writeLoop_succ fuel present]
  rcases write_of_full bytes inside undue full with failed | ⟨refused, fault⟩
  · rw [failed]
  · rw [refused, fault]
    rfl

theorem writeLoop_of_room (inside : stream.limits.Holds stream.offset)
    (undue : ¬ stream.Interrupts) (roomy : ¬ stream.Full)
    (chunk : stream.limits.chunk ≠ some 0) :
    ∃ count, stream.Admits bytes.length count ∧
      writeLoop (fuel + 1) stream bytes =
        writeLoop fuel (stream.accept (bytes.take count)) (bytes.drop count) := by
  obtain ⟨count, admits, accepted⟩ := write_of_room inside undue roomy chunk present
  obtain ⟨more, rfl⟩ := Nat.exists_eq_add_one.mpr admits.pos
  refine ⟨more + 1, admits, ?_⟩
  rw [writeLoop_succ fuel present, accepted]
  rfl

end Iteration

/-- Whatever single writes it takes, some bytes are written up to the end of the room for them. -/
theorem writeLoop_eq {fuel : Nat} (inside : stream.limits.Holds stream.offset)
    (chunk : stream.limits.chunk ≠ some 0)
    (enough : bytes.length + (if stream.interrupted = true then 0 else 1) ≤ fuel) :
    writeLoop fuel stream bytes = (stream.verdict bytes, stream.wrote bytes) := by
  induction fuel generalizing stream bytes with
  | zero =>
      obtain rfl : bytes = [] := List.length_eq_zero_iff.mp (by omega)
      exact writeLoop_nil 0 inside
  | succ fuel ih =>
      by_cases done : bytes = []
      · subst done
        exact writeLoop_nil (fuel + 1) inside
      by_cases due : stream.Interrupts
      · let next : Stream := { stream with interrupted := true }
        have left : bytes.length ≤ fuel := by
          rw [due.2, if_neg Bool.false_ne_true] at enough
          omega
        have rest : writeLoop fuel next bytes = (next.verdict bytes, next.wrote bytes) :=
          ih inside chunk left
        rw [writeLoop_of_interrupts fuel done due, rest, wrote_of_interrupts inside due done]
        rfl
      by_cases full : stream.Full
      · rw [writeLoop_of_full fuel done inside due full, wrote_of_full inside due full,
          verdict_of_full inside full done]
      · obtain ⟨count, admits, goesOn⟩ := writeLoop_of_room fuel done inside due full chunk
        let next := stream.accept (bytes.take count)
        have within : next.limits.Holds next.offset := by
          rw [show next.offset = stream.offset + count from offset_accept_take admits]
          exact admits.holds
        have left : (bytes.drop count).length + (if next.interrupted = true then 0 else 1) ≤
            fuel := by
          have pos := admits.pos
          have all := admits.le_length
          have flag : next.interrupted = stream.interrupted := rfl
          rw [flag, List.length_drop]
          omega
        rw [goesOn, ih within chunk left, wrote_accept_take admits due, verdict_accept_take admits]

theorem writeAll_eq (inside : stream.limits.Holds stream.offset)
    (chunk : stream.limits.chunk ≠ some 0) :
    stream.writeAll bytes = (stream.verdict bytes, stream.wrote bytes) :=
  writeLoop_eq inside chunk (by split <;> omega)

def writePieces (stream : Stream) : List (List UInt8) → Except StreamFault Unit × Stream
  | [] => (.ok (), stream)
  | piece :: rest =>
    match stream.writeAll piece with
    | (.ok (), after) => after.writePieces rest
    | (.error fault, after) => (.error fault, after)

theorem holds_offset_of_admitted {limits : StreamLimits} (sameLimits : stream.limits = limits)
    (accepted : stream.accepted = limits.admitted bytes) :
    stream.limits.Holds stream.offset := by
  rw [sameLimits, offset, accepted]
  exact StreamLimits.holds_length_admitted limits bytes

section Append

variable {first : List UInt8} (rest : List UInt8)

theorem offset_wrote (room : stream.limits.Holds (stream.offset + first.length)) :
    (stream.wrote first).offset = stream.offset + first.length := by
  have total : (stream.accepted ++ first).length = stream.offset + first.length :=
    List.length_append
  have whole : stream.limits.admitted (stream.accepted ++ first) = stream.accepted ++ first :=
    StreamLimits.admitted_of_holds (total ▸ room)
  rw [offset, wrote, whole, total]

theorem verdict_wrote (room : stream.limits.Holds (stream.offset + first.length)) :
    (stream.wrote first).verdict rest = stream.verdict (first ++ rest) := by
  unfold verdict
  rw [offset_wrote room, List.length_append, Nat.add_assoc]
  rfl

theorem breaksOff_wrote (room : stream.limits.Holds (stream.offset + first.length)) :
    (stream.breaksOff first.length || (stream.wrote first).breaksOff rest.length) =
      stream.breaksOff (first ++ rest).length := by
  unfold breaksOff
  rw [offset_wrote room, List.length_append]
  have sameLimits : (stream.wrote first).limits = stream.limits := rfl
  rw [sameLimits]
  rcases stream.limits.interruptAt with _ | i
  · rfl
  · by_cases held : stream.limits.Holds i
    · rw [Bool.eq_iff_iff]
      simp [held]
      omega
    · simp [held]

theorem wrote_wrote (room : stream.limits.Holds (stream.offset + first.length)) :
    (stream.wrote first).wrote rest = stream.wrote (first ++ rest) := by
  have flag := breaksOff_wrote rest room
  have accepted := StreamLimits.admitted_admitted_append stream.limits (stream.accepted ++ first)
    rest
  rw [List.append_assoc] at accepted
  simp only [wrote, accepted, Bool.or_assoc] at flag ⊢
  rw [flag]

theorem verdict_append_of_not_holds
    (full : ¬ stream.limits.Holds (stream.offset + first.length)) :
    stream.verdict (first ++ rest) = stream.verdict first := by
  have past : ¬ stream.limits.Holds (stream.offset + (first ++ rest).length) := by
    intro holds
    exact full (holds.mono (by rw [List.length_append]; omega))
  rw [verdict, verdict, if_neg past, if_neg full]

theorem wrote_append_of_not_holds
    (full : ¬ stream.limits.Holds (stream.offset + first.length)) :
    stream.wrote (first ++ rest) = stream.wrote first := by
  have total : (stream.accepted ++ first).length = stream.offset + first.length :=
    List.length_append
  have accepted : stream.limits.admitted (stream.accepted ++ (first ++ rest)) =
      stream.limits.admitted (stream.accepted ++ first) := by
    rw [← List.append_assoc]
    exact StreamLimits.admitted_append_of_not_holds (total ▸ full) rest
  have flag : stream.breaksOff (first ++ rest).length = stream.breaksOff first.length := by
    unfold breaksOff
    rw [List.length_append]
    rcases stream.limits.interruptAt with _ | i
    · rfl
    · by_cases held : stream.limits.Holds i
      -- a place that the stream gets to lies before its end, so within the first bytes
      · have before : i < stream.offset + first.length :=
          Nat.lt_of_not_le fun beyond => full (held.mono beyond)
        rw [Bool.eq_iff_iff]
        simp [held]
        omega
      · simp [held]
  simp only [wrote, accepted, flag]

end Append

/-- It does not matter in which pieces some bytes are written. -/
theorem writePieces_eq (inside : stream.limits.Holds stream.offset)
    (chunk : stream.limits.chunk ≠ some 0) (pieces : List (List UInt8)) :
    stream.writePieces pieces = stream.writeAll pieces.flatten := by
  induction pieces generalizing stream with
  | nil => rfl
  | cons piece rest ih =>
      have within : (stream.wrote piece).limits.Holds (stream.wrote piece).offset :=
        holds_offset_of_admitted rfl rfl
      have later : (stream.wrote piece).writePieces rest =
          (stream.wrote piece).writeAll rest.flatten := ih within chunk
      rw [writePieces, writeAll_eq inside chunk, List.flatten_cons, writeAll_eq inside chunk]
      by_cases room : stream.limits.Holds (stream.offset + piece.length)
      · have whole : stream.verdict piece = .ok () := if_pos room
        rw [whole]
        simp only
        rw [later, writeAll_eq within chunk, verdict_wrote _ room, wrote_wrote _ room]
      · have cut : stream.verdict piece = .error stream.limits.lastFault := if_neg room
        rw [verdict_append_of_not_holds _ room, wrote_append_of_not_holds _ room, cut]

end Stream

end SeccompBootstrap
