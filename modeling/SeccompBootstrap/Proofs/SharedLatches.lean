import Mathlib.Logic.Function.Basic
import SeccompBootstrap.Enforcement

/-!
Latches that callers share. Each caller makes requests in an order of its own, and the requests of
all callers are answered one at a time, in any order that keeps the callers' own. Of the claims of a
latch the first one alone is told that it was first, a query is told whether a claim came before it,
and the answers on a latch are those that it gives with no other latch in use.
-/

set_option autoImplicit false
set_option relaxedAutoImplicit false

namespace SeccompBootstrap

/-- What a caller asks of a latch that others share: nobody renews such a latch. -/
inductive LatchRequest where
  | claim (index : Nat)
  | query (index : Nat)
  deriving DecidableEq, Repr

namespace LatchRequest

def index : LatchRequest → Nat
  | claim index => index
  | query index => index

def operation : LatchRequest → LatchOperation
  | claim index => .claim index
  | query index => .query index

end LatchRequest

structure Turn (ι : Type) where
  caller : ι
  request : LatchRequest
  answer : Option Bool
  deriving DecidableEq, Repr

namespace LatchBank

variable (bank : LatchBank) (request : LatchRequest)

theorem latch_step_of_ne {index : Nat} (other : request.index ≠ index) :
    (bank.step request.operation).2.latch index = bank.latch index := by
  cases request with
  | claim claimed => exact if_neg (Ne.symm other)
  | query => rfl

theorem claimed_step (index : Nat) :
    ((bank.step request.operation).2.latch index).claimed =
      ((bank.latch index).claimed || request == .claim index) := by
  cases request with
  | claim claimed =>
      by_cases same : claimed = index
      · subst same
        simp [LatchRequest.operation, step, put, Latch.tryClaim]
      · rw [latch_step_of_ne bank (.claim claimed) same]
        simp [same]
  | query => simp [LatchRequest.operation, step]

theorem step_congr {other : LatchBank}
    (same : bank.latch request.index = other.latch request.index) :
    (bank.step request.operation).1 = (other.step request.operation).1 ∧
      (bank.step request.operation).2.latch request.index =
        (other.step request.operation).2.latch request.index := by
  cases request with
  | claim index =>
      have latch : bank.latch index = other.latch index := same
      simp [LatchRequest.operation, LatchRequest.index, step, put, latch]
  | query index =>
      have latch : bank.latch index = other.latch index := same
      simp [LatchRequest.operation, LatchRequest.index, step, latch]

theorem run_append_singleton (operations : List LatchOperation) (operation : LatchOperation) :
    bank.run (operations ++ [operation]) =
      ((bank.run operations).1 ++ [((bank.run operations).2.step operation).1],
        ((bank.run operations).2.step operation).2) := by
  induction operations generalizing bank with
  | nil => rfl
  | cons first rest ih => simp [run, ih]

end LatchBank

namespace Turn

variable {ι : Type} {turns : List (Turn ι)}

def claimedIn (index : Nat) (turns : List (Turn ι)) : Bool :=
  turns.any (·.request == .claim index)

def onLatch (index : Nat) (turns : List (Turn ι)) : List (Turn ι) :=
  turns.filter (·.request.index = index)

/-- The answers of fresh latches to the requests of some turns, and those latches afterwards. -/
def replay (turns : List (Turn ι)) : List (Option Bool) × LatchBank :=
  LatchBank.fresh.run (turns.map fun turn => turn.request.operation)

/-- What a request is told after some turns: a claim whether it is the first one, a query whether
there was one. -/
def due (turns : List (Turn ι)) : LatchRequest → Bool
  | .claim index => !claimedIn index turns
  | .query index => claimedIn index turns

theorem replay_append_singleton (turns : List (Turn ι)) (last : Turn ι) :
    replay (turns ++ [last]) =
      ((replay turns).1 ++ [((replay turns).2.step last.request.operation).1],
        ((replay turns).2.step last.request.operation).2) := by
  simp only [replay, List.map_append, List.map_singleton, LatchBank.run_append_singleton]

/-- Whether each turn was told what was due after those before it. -/
def Told (turns : List (Turn ι)) : Prop :=
  ∀ before turn after, turns = before ++ turn :: after →
    turn.answer = some (due before turn.request)

theorem Told.append_singleton {last : Turn ι} (told : Told turns)
    (answer : last.answer = some (due turns last.request)) : Told (turns ++ [last]) := by
  intro before turn after split
  rcases List.eq_nil_or_concat after with rfl | ⟨after, final, rfl⟩
  · obtain ⟨rfl, same⟩ := List.append_inj' split rfl
    obtain rfl := List.singleton_inj.mp same
    exact answer
  · rw [List.concat_eq_append, ← List.cons_append, ← List.append_assoc] at split
    exact told before turn after (List.append_inj' split rfl).1

theorem claimedIn_iff {index : Nat} :
    claimedIn index turns = true ↔ ∃ turn ∈ turns, turn.request = .claim index := by
  simp [claimedIn]

theorem exists_first_claim {index : Nat} (claimed : claimedIn index turns = true) :
    ∃ before turn after, turns = before ++ turn :: after ∧ turn.request = .claim index ∧
      claimedIn index before = false := by
  induction turns with
  | nil => cases claimed
  | cons head turns ih =>
      by_cases here : head.request = .claim index
      · exact ⟨[], head, turns, rfl, here, rfl⟩
      · have later : claimedIn index turns = true := by simpa [claimedIn, here] using claimed
        obtain ⟨before, turn, after, rfl, request, first⟩ := ih later
        refine ⟨head :: before, turn, after, rfl, request, ?_⟩
        simpa [claimedIn, here] using first

/-- Of the claims of a latch the first one is told that it was first, and no other is. -/
theorem Told.exists_winner (told : Told turns) {index : Nat}
    (claimed : claimedIn index turns = true) :
    ∃ before winner after, turns = before ++ winner :: after ∧ winner.request = .claim index ∧
      winner.answer = some true ∧ claimedIn index before = false ∧
      ∀ other ∈ before ++ after, other.request = .claim index → other.answer = some false := by
  obtain ⟨before, winner, after, split, request, first⟩ := exists_first_claim claimed
  refine ⟨before, winner, after, split, request, ?_, first, ?_⟩
  · rw [told before winner after split, request, due, first]
    rfl
  · intro other member claims
    rcases List.mem_append.mp member with earlier | later
    · have already : claimedIn index before = true := claimedIn_iff.mpr ⟨other, earlier, claims⟩
      rw [first] at already
      cases already
    · obtain ⟨between, rest, rfl⟩ := List.append_of_mem later
      have whole : turns = (before ++ winner :: between) ++ other :: rest := by simp [split]
      have already : claimedIn index (before ++ winner :: between) = true :=
        claimedIn_iff.mpr ⟨winner, by simp, request⟩
      rw [told _ other rest whole, claims, due, already]
      rfl

end Turn

/-- Callers that share a bank of latches: the requests that each of them has yet to make, and the
turns so far, in order. -/
structure Sharing (ι : Type) where
  bank : LatchBank
  pending : ι → List LatchRequest
  turns : List (Turn ι)

namespace Sharing

open Turn (claimedIn onLatch replay due Told)

variable {ι : Type} {s : Sharing ι} {programs : ι → List LatchRequest}

def start (programs : ι → List LatchRequest) : Sharing ι :=
  { bank := .fresh, pending := programs, turns := [] }

def schedule (s : Sharing ι) : List (ι × LatchRequest) :=
  s.turns.map fun turn => (turn.caller, turn.request)

def turn (s : Sharing ι) (caller : ι) (request : LatchRequest) : Turn ι :=
  { caller, request, answer := (s.bank.step request.operation).1 }

/-- Whether the latches are claimed that some turn claimed, and no others. -/
def Recorded (s : Sharing ι) : Prop :=
  ∀ index, (s.bank.latch index).claimed = claimedIn index s.turns

theorem answer_turn (recorded : Recorded s) (caller : ι) (request : LatchRequest) :
    (s.turn caller request).answer = some (due s.turns request) := by
  cases request with
  | claim index => exact congrArg (fun claimed => some !claimed) (recorded index)
  | query index => exact congrArg some (recorded index)

/-- Whether a latch, and the answers on it, are as if there had been no turns on other latches. -/
structure Alone (index : Nat) (s : Sharing ι) : Prop where
  answers : (replay (onLatch index s.turns)).1 = (onLatch index s.turns).map Turn.answer
  latch : (replay (onLatch index s.turns)).2.latch index = s.bank.latch index

variable [DecidableEq ι]

def answer (s : Sharing ι) (caller : ι) (request : LatchRequest) (rest : List LatchRequest) :
    Sharing ι where
  bank := (s.bank.step request.operation).2
  pending := Function.update s.pending caller rest
  turns := s.turns ++ [s.turn caller request]

section

variable (s : Sharing ι) (caller : ι) (request : LatchRequest) (rest : List LatchRequest)

@[simp] theorem bank_answer :
    (s.answer caller request rest).bank = (s.bank.step request.operation).2 := rfl

@[simp] theorem pending_answer :
    (s.answer caller request rest).pending = Function.update s.pending caller rest := rfl

@[simp] theorem turns_answer :
    (s.answer caller request rest).turns = s.turns ++ [s.turn caller request] := rfl

@[simp] theorem schedule_answer :
    (s.answer caller request rest).schedule = s.schedule ++ [(caller, request)] := by
  simp [schedule, turn]

end

def advance (s : Sharing ι) (caller : ι) : Sharing ι :=
  match s.pending caller with
  | [] => s
  | request :: rest => s.answer caller request rest

def play (programs : ι → List LatchRequest) (order : List ι) : Sharing ι :=
  order.foldl advance (start programs)

/-- The requests of a caller in a schedule. -/
def requestsOf (caller : ι) (schedule : List (ι × LatchRequest)) : List LatchRequest :=
  (schedule.filter (·.1 = caller)).map Prod.snd

/-- Whether a schedule interleaves the programs of callers: each of them goes through its own in
order, as far as the schedule goes. -/
def Interleaves (programs : ι → List LatchRequest) (schedule : List (ι × LatchRequest)) : Prop :=
  ∀ caller, requestsOf caller schedule <+: programs caller

theorem advance_of_next {caller : ι} {request : LatchRequest} {rest : List LatchRequest}
    (next : s.pending caller = request :: rest) :
    s.advance caller = s.answer caller request rest := by
  simp [advance, next]

theorem advance_cases (s : Sharing ι) (caller : ι) :
    s.advance caller = s ∨ ∃ request rest, s.pending caller = request :: rest ∧
      s.advance caller = s.answer caller request rest := by
  rcases next : s.pending caller with _ | ⟨request, rest⟩
  · left
    simp [advance, next]
  · right
    exact ⟨request, rest, rfl, advance_of_next next⟩

/-- Whether what callers asked, followed by what they have yet to ask, is their programs. -/
def Asked (programs : ι → List LatchRequest) (s : Sharing ι) : Prop :=
  ∀ caller, requestsOf caller s.schedule ++ s.pending caller = programs caller

theorem asked_advance (asked : Asked programs s) (caller : ι) :
    Asked programs (s.advance caller) := by
  rcases advance_cases s caller with same | ⟨request, rest, next, same⟩ <;> rw [same]
  · exact asked
  · intro other
    rw [← asked other]
    by_cases own : other = caller
    · subst own
      simp [requestsOf, next]
    · simp [requestsOf, own, Ne.symm own]

theorem recorded_advance (recorded : Recorded s) (caller : ι) : Recorded (s.advance caller) := by
  rcases advance_cases s caller with same | ⟨request, rest, -, same⟩ <;> rw [same]
  · exact recorded
  · intro index
    simp [LatchBank.claimed_step, recorded index, claimedIn, turn]

theorem told_advance (recorded : Recorded s) (told : Told s.turns) (caller : ι) :
    Told (s.advance caller).turns := by
  rcases advance_cases s caller with same | ⟨request, rest, -, same⟩ <;> rw [same]
  · exact told
  · exact told.append_singleton (answer_turn recorded caller request)

theorem alone_advance {index : Nat} (alone : Alone index s) (caller : ι) :
    Alone index (s.advance caller) := by
  rcases advance_cases s caller with same | ⟨request, rest, -, same⟩ <;> rw [same]
  · exact alone
  by_cases here : request.index = index
  · subst here
    obtain ⟨answer, after⟩ := LatchBank.step_congr _ request alone.latch
    have grown : onLatch request.index (s.turns ++ [s.turn caller request]) =
        onLatch request.index s.turns ++ [s.turn caller request] := by
      simp [onLatch, turn]
    refine ⟨?_, ?_⟩ <;> rw [turns_answer]
    · rw [grown, Turn.replay_append_singleton, List.map_append, alone.answers]
      exact congrArg (_ ++ [·]) answer
    · rw [grown, Turn.replay_append_singleton]
      exact after
  · have kept : onLatch index (s.turns ++ [s.turn caller request]) = onLatch index s.turns := by
      simp [onLatch, turn, here]
    refine ⟨?_, ?_⟩ <;> rw [turns_answer, kept]
    · exact alone.answers
    · rw [alone.latch, bank_answer, LatchBank.latch_step_of_ne s.bank request here]

theorem foldl_advance_induction {P : Sharing ι → Prop}
    (kept : ∀ s caller, P s → P (s.advance caller)) (order : List ι) (first : P s) :
    P (order.foldl advance s) := by
  induction order generalizing s with
  | nil => exact first
  | cons caller order ih => exact ih (kept s caller first)

/-- What holds of callers and latches whatever turns were taken. -/
structure Consistent (programs : ι → List LatchRequest) (s : Sharing ι) : Prop where
  asked : Asked programs s
  recorded : Recorded s
  told : Told s.turns
  alone : ∀ index, Alone index s

theorem consistent_start (programs : ι → List LatchRequest) :
    Consistent programs (start programs) where
  asked := fun _ => rfl
  recorded := fun _ => rfl
  told := fun before turn after split => by simp [start] at split
  alone := fun _ => ⟨rfl, rfl⟩

theorem consistent_advance (s : Sharing ι) (caller : ι) (consistent : Consistent programs s) :
    Consistent programs (s.advance caller) where
  asked := asked_advance consistent.asked caller
  recorded := recorded_advance consistent.recorded caller
  told := told_advance consistent.recorded consistent.told caller
  alone := fun index => alone_advance (consistent.alone index) caller

theorem consistent_play (programs : ι → List LatchRequest) (order : List ι) :
    Consistent programs (play programs order) :=
  foldl_advance_induction consistent_advance order (consistent_start programs)

theorem claimed_advance {index : Nat} (s : Sharing ι) (caller : ι)
    (claimed : (s.bank.latch index).claimed = true) :
    ((s.advance caller).bank.latch index).claimed = true := by
  rcases advance_cases s caller with same | ⟨request, rest, -, same⟩ <;> rw [same]
  · exact claimed
  · simp [LatchBank.claimed_step, claimed]

theorem schedule_foldl_advance (more : List (ι × LatchRequest)) (s : Sharing ι)
    (each : ∀ caller, requestsOf caller more <+: s.pending caller) :
    ((more.map Prod.fst).foldl advance s).schedule = s.schedule ++ more := by
  induction more generalizing s with
  | nil => simp
  | cons entry more ih =>
      obtain ⟨caller, request⟩ := entry
      obtain ⟨rest, whole⟩ := each caller
      have next : s.pending caller = request :: (requestsOf caller more ++ rest) := by
        simpa [requestsOf] using whole.symm
      have later : ∀ other, requestsOf other more <+: (s.advance caller).pending other := by
        intro other
        rw [advance_of_next next]
        by_cases own : other = caller
        · subst own
          simp
        · simpa [requestsOf, own, Ne.symm own] using each other
      rw [List.map_cons, List.foldl_cons, ih _ later, advance_of_next next, schedule_answer,
        List.append_assoc, List.singleton_append]

/-- The schedules that come about are the interleavings of the callers' programs, all of them. -/
theorem interleaves_iff {schedule : List (ι × LatchRequest)} :
    Interleaves programs schedule ↔ ∃ order, (play programs order).schedule = schedule := by
  constructor
  · intro interleaves
    exact ⟨schedule.map Prod.fst, schedule_foldl_advance schedule (start programs) interleaves⟩
  · rintro ⟨order, rfl⟩ caller
    exact ⟨_, (consistent_play programs order).asked caller⟩

/-- What the turns of callers show of the latches they share. -/
structure WonOnce (s : Sharing ι) : Prop where
  /-- A latch is claimed exactly if it was claimed in some turn. -/
  state : ∀ index, (s.bank.latch index).claimed = claimedIn index s.turns
  /-- The first claim of a latch is told that it was first, and every other that it was not. -/
  winner : ∀ index, claimedIn index s.turns = true →
    ∃ before winner after, s.turns = before ++ winner :: after ∧ winner.request = .claim index ∧
      winner.answer = some true ∧ claimedIn index before = false ∧
      ∀ other ∈ before ++ after, other.request = .claim index → other.answer = some false
  /-- A query is told whether a claim of the latch came before it. -/
  query : ∀ index before turn after, s.turns = before ++ turn :: after →
    turn.request = .query index → turn.answer = some (claimedIn index before)
  /-- The answers on a latch are those that the requests on it get without any others. -/
  alone : ∀ index, (replay (onLatch index s.turns)).1 = (onLatch index s.turns).map Turn.answer

/-- In every interleaving of what callers ask, each latch that is ever claimed has one winner, which
is the first claim, and queries tell whether it was claimed before; the answers on a latch do not
depend on what is done to other ones; and a latch that is claimed stays so. -/
theorem one_winner_in_every_interleaving (programs : ι → List LatchRequest) :
    (∀ schedule, Interleaves programs schedule ↔
      ∃ order, (play programs order).schedule = schedule) ∧
    ∀ order, WonOnce (play programs order) ∧ ∀ more index,
      ((play programs order).bank.latch index).claimed = true →
        ((play programs (order ++ more)).bank.latch index).claimed = true := by
  refine ⟨fun schedule => interleaves_iff, fun order => ⟨?_, ?_⟩⟩
  · have consistent := consistent_play programs order
    refine ⟨consistent.recorded, fun index => consistent.told.exists_winner, ?_, ?_⟩
    · intro index before turn after split asks
      rw [consistent.told before turn after split, asks]
      rfl
    · exact fun index => (consistent.alone index).answers
  · intro more index claimed
    rw [play, List.foldl_append]
    exact foldl_advance_induction claimed_advance more claimed

example :
    let programs : Bool → List LatchRequest := fun early =>
      if early then [.claim 0, .query 1] else [.query 0, .claim 0, .claim 1]
    (play programs [false, true, false, false, true]).turns.map Turn.answer =
      [some false, some true, some false, some true, some true] := by
  decide

end Sharing

end SeccompBootstrap
