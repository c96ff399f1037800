import SeccompBootstrap.Proofs.IdRange
import SeccompBootstrap.Proofs.SingleCall

/-!
Calls of a library's entry. A call is refused for the first id that a C integer does not hold, then
because the latch is claimed, and what is refused leaves the process as it was; otherwise it claims
the latch and reaches the entry once. A bootstrap never sees the first kind of refusal, since the
parameters of an argument vector are in range, so what an entry receives from it are the numbers
that the vector spells.
-/

set_option autoImplicit false
set_option relaxedAutoImplicit false

namespace SeccompBootstrap

open Text (IsNumeral placeValue)
open Text.Utf8 (bytes)

variable {ρ ε δ : Type}

/-- What a call of an entry answers in a process, and what becomes of the process. -/
inductive EntryResponse (entry : ε) (uid gid : UInt32) (enableNetwork : Bool)
    (before : NativeWorld ρ ε) :
    Except (Trouble EnforcementError) Unit → NativeWorld ρ ε → Prop
  | unfit {name : String} {value : UInt32} (blamed : FirstUnfit uid gid name value) :
      EntryResponse entry uid gid enableNetwork before
        (.error (.failure
          (.native (name ++ " " ++ toString value.toNat ++ " does not fit a C int"))))
        before
  | attempted (uidFits : uid.toNat < 2 ^ 31) (gidFits : gid.toNat < 2 ^ 31)
      (claimed : before.latch.claimed = true) :
      EntryResponse entry uid gid enableNetwork before
        (.error (.failure .alreadyAttempted)) before
  | called (uidFits : uid.toNat < 2 ^ 31) (gidFits : gid.toNat < 2 ^ 31)
      (unclaimed : before.latch.claimed = false) :
      EntryResponse entry uid gid enableNetwork before (.ok ())
        { before with
          latch := ⟨true⟩
          calls := before.calls ++ [{ entry, uid := uid.toNat, gid := gid.toNat, enableNetwork }] }

theorem nativeId_of_great {name : String} {id : UInt32} (great : 2 ^ 31 ≤ id.toNat) :
    nativeId name id =
      .error (.native (name ++ " " ++ toString id.toNat ++ " does not fit a C int")) := by
  have unfit : ¬ fitsInt32 id = true := by
    rw [not_fitsInt32_iff.mpr great]
    exact Bool.false_ne_true
  rw [nativeId, if_neg unfit]

namespace Binding

variable (symbol : String) (entry : ε) (uid gid : UInt32) (enableNetwork : Bool)
  (s : Session (NativeWorld ρ ε))

theorem run_ofEntry_of_unfit {uid gid : UInt32} {name : String} {value : UInt32}
    (blamed : FirstUnfit uid gid name value) :
    ((ofEntry symbol entry : Binding (NativeWorld ρ ε)).enforce uid gid enableNetwork).run s =
      (.error (.failure
        (.native (name ++ " " ++ toString value.toNat ++ " does not fit a C int"))), s) := by
  cases blamed with
  | uid great => simp [ofEntry, Action.run_bind, nativeId_of_great great]
  | gid fits great =>
      have held : nativeId "uid" uid = .ok uid.toNat := nativeId_of_fits (fitsInt32_iff.mpr fits)
      simp [ofEntry, Action.run_bind, held, nativeId_of_great great]

theorem entryResponse :
    EntryResponse entry uid gid enableNetwork s.world
      (((ofEntry symbol entry).enforce uid gid enableNetwork).run s).1
      (((ofEntry symbol entry).enforce uid gid enableNetwork).run s).2.world := by
  rcases fit_or_firstUnfit uid gid with ⟨uidFits, gidFits⟩ | ⟨name, value, blamed⟩
  · have uidBound := fitsInt32_iff.mp uidFits
    have gidBound := fitsInt32_iff.mp gidFits
    cases latch : s.world.latch.claimed with
    | true =>
        rw [run_ofEntry_of_claimed symbol entry enableNetwork uidFits gidFits latch]
        exact .attempted uidBound gidBound latch
    | false =>
        rw [run_ofEntry_of_unclaimed symbol entry enableNetwork uidFits gidFits latch]
        exact .called uidBound gidBound latch
  · rw [run_ofEntry_of_unfit symbol entry enableNetwork s blamed]
    exact .unfit blamed

end Binding

/-- Whether an integer is the number that the text at a position of an argument vector spells, and
one that a C integer holds. -/
def SpelledAt (argv : List String) (position : Nat) (received : Int) : Prop :=
  0 ≤ received ∧ received < 2 ^ 31 ∧
    ∃ text, argv[position]? = some text ∧ IsNumeral (bytes text) ∧
      received = placeValue (bytes text)

theorem spelledAt_of_idAt {argv : List String} {position : Nat} {name : String} {id : UInt32}
    (read : Parameters.idAt argv position name = .ok id) : SpelledAt argv position id.toNat := by
  cases Parameters.idAt_eq_iff.mp read with
  | @valid text _ present numeral denoted fits =>
      refine ⟨Int.natCast_nonneg _, ?_, text, present, numeral, ?_⟩
      · omega
      · rw [denoted]

/-- Whether a process has got from one state to another by one native call at most, and none but
with the ids that an argument vector spells. -/
def CallsSpelled (argv : List String) (before after : NativeWorld ρ ε) : Prop :=
  ∃ made, after.calls = before.calls ++ made ∧ made.length ≤ 1 ∧
    ∀ call ∈ made, SpelledAt argv 2 call.uid ∧ SpelledAt argv 3 call.gid

theorem callsSpelled_of_same (argv : List String) {before after : NativeWorld ρ ε}
    (same : after.calls = before.calls) : CallsSpelled argv before after :=
  ⟨[], by rw [same, List.append_nil], Nat.zero_le 1, by simp⟩

/-- Whether a loader binds nothing but entries of libraries, and calls none of them itself. -/
structure Loader.BindsEntries (loader : Loader (NativeWorld ρ ε) δ) : Prop where
  bound : ∀ (s after : Session (NativeWorld ρ ε)) (binding : Binding (NativeWorld ρ ε)),
    loader.load.run s = (.ok binding, after) →
      ∃ (symbol : String) (entry : ε), binding = .ofEntry symbol entry
  uncalled : ∀ s, (loader.load.run s).2.world.calls = s.world.calls

theorem Loader.bindsEntries_ofLibrary (linker : Linker ρ ε) (path : Path) (symbol : String) :
    (ofLibrary linker path symbol).BindsEntries where
  bound s after binding load := by
    rcases found : linker.entryAt s.world.linker.objects path symbol with error | entry
    · obtain ⟨state, refused⟩ := run_load_of_error linker path symbol found
      cases load.symm.trans refused
    · obtain ⟨state, loaded⟩ := run_load_of_entry linker path symbol found
      have result := congrArg Prod.fst (load.symm.trans loaded)
      exact ⟨symbol, entry, Except.ok.inj result⟩
  uncalled s := by
    rcases found : linker.entryAt s.world.linker.objects path symbol with error | entry
    · obtain ⟨state, refused⟩ := run_load_of_error linker path symbol found
      rw [refused]
      rfl
    · obtain ⟨state, loaded⟩ := run_load_of_entry linker path symbol found
      rw [loaded]
      rfl

namespace Bootstrap

variable (argv : List String)

theorem callsSpelled_enforceOnce (symbol : String) (entry : ε) (s : Session (NativeWorld ρ ε)) :
    CallsSpelled argv s.world ((enforceOnce (.ofEntry symbol entry) argv).run s).2.world := by
  rcases read : Parameters.ofArguments argv with error | p
  · rw [run_enforceOnce_of_unread (.ofEntry symbol entry) read]
    exact callsSpelled_of_same argv rfl
  · obtain ⟨uidFits, gidFits⟩ := Parameters.fitsInt32_of_ofArguments read
    obtain ⟨uid, gid, -⟩ := Parameters.ofArguments_eq_ok_iff.mp read
    let ready : Session (NativeWorld ρ ε) :=
      { s with trace := s.trace ++ [.parametersParsed p] }
    cases latch : ready.world.latch.claimed with
    | true =>
        have refused := Binding.run_ofEntry_of_claimed symbol entry p.capabilities.enableNetwork
          uidFits gidFits latch
        rw [run_enforceOnce_of_call_trouble (.ofEntry symbol entry) read refused]
        exact callsSpelled_of_same argv rfl
    | false =>
        have called := Binding.run_ofEntry_of_unclaimed symbol entry p.capabilities.enableNetwork
          uidFits gidFits latch
        rw [run_enforceOnce_of_call (.ofEntry symbol entry) read called]
        refine ⟨[.of entry p.uid p.gid p.capabilities.enableNetwork], rfl, Nat.le_refl 1, ?_⟩
        rw [List.forall_mem_singleton]
        exact ⟨spelledAt_of_idAt uid, spelledAt_of_idAt gid⟩

variable (bootstrap : Bootstrap (NativeWorld ρ ε) δ) (env : Environment)

theorem callsSpelled_attempt (binds : bootstrap.loader.BindsEntries)
    (s : Session (NativeWorld ρ ε)) :
    CallsSpelled argv s.world (bootstrap.attempt argv s).2.world := by
  have uncalled := binds.uncalled { s with quiet := true }
  rcases load : bootstrap.loader.load.run { s with quiet := true } with
    ⟨trouble | binding, loaded⟩
  · rw [load] at uncalled
    rw [attempt_of_load_trouble bootstrap argv load]
    exact callsSpelled_of_same argv uncalled
  · rw [load] at uncalled
    obtain ⟨symbol, entry, rfl⟩ := binds.bound _ _ _ load
    obtain ⟨made, calls, few, spelled⟩ :=
      callsSpelled_enforceOnce argv symbol entry { loaded with quiet := true }
    have ended : (bootstrap.attempt argv s).2.world =
        ((enforceOnce (.ofEntry symbol entry) argv).run { loaded with quiet := true }).2.world := by
      rcases call : (enforceOnce (.ofEntry symbol entry) argv).run
        { loaded with quiet := true } with ⟨trouble | p, after⟩
      · rw [attempt_of_call_trouble bootstrap argv load call]
      · rw [attempt_of_call bootstrap argv load call]
    refine ⟨made, ?_, few, spelled⟩
    rw [ended, calls]
    exact congrArg (· ++ made) uncalled

theorem callsSpelled_run (binds : bootstrap.loader.BindsEntries) (stream : Stream)
    (s : Session (NativeWorld ρ ε)) :
    CallsSpelled argv s.world (bootstrap.run env argv stream s).2.world := by
  rw [run_eq]
  cases mode : ActivationMode.resolve env bootstrap.config with
  | active =>
      rw [settle_of_active bootstrap env argv mode]
      exact callsSpelled_attempt argv bootstrap binds (bootstrap.resolved env s)
  | disabled =>
      refine callsSpelled_of_same argv ?_
      simp [settle, mode]
  | debugSkip =>
      refine callsSpelled_of_same argv ?_
      simp [settle, mode]

end Bootstrap

/-- A call of an entry is refused without a trace of it or made once with the given ids, and no run
of a bootstrap gets it refused for its ids: what the entry receives is what the vector spells. -/
theorem entry_receives_spelled_ids :
    (∀ (symbol : String) (entry : ε) (uid gid : UInt32) (enableNetwork : Bool)
      (s : Session (NativeWorld ρ ε)),
      EntryResponse entry uid gid enableNetwork s.world
        (((Binding.ofEntry symbol entry).enforce uid gid enableNetwork).run s).1
        (((Binding.ofEntry symbol entry).enforce uid gid enableNetwork).run s).2.world) ∧
    (∀ (argv : List String) (p : Parameters), Parameters.ofArguments argv = .ok p →
      ∀ name value, ¬ FirstUnfit p.uid p.gid name value) ∧
    (∀ (linker : Linker ρ ε) (path : Path) (symbol : String),
      (Loader.ofLibrary linker path symbol).BindsEntries) ∧
    ∀ (bootstrap : Bootstrap (NativeWorld ρ ε) δ) (env : Environment) (argv : List String)
      (stream : Stream) (s : Session (NativeWorld ρ ε)), bootstrap.loader.BindsEntries →
      CallsSpelled argv s.world (bootstrap.run env argv stream s).2.world := by
  refine ⟨Binding.entryResponse, ?_, Loader.bindsEntries_ofLibrary, ?_⟩
  · intro argv p read name value
    obtain ⟨uidFits, gidFits⟩ := Parameters.fitsInt32_of_ofArguments read
    exact not_firstUnfit uidFits gidFits
  · intro bootstrap env argv stream s binds
    exact bootstrap.callsSpelled_run argv env binds stream s

theorem entry_receives_spelled_ids_of_unhindered :
    let run : NativeRun Unit Unit := .unhindered
    let start : Session (NativeWorld Unit Unit) := .start .fresh
    let after := (run.bootstrap.run run.occasion.env run.occasion.argv run.occasion.stream
      start).2.world
    run.bootstrap.loader.BindsEntries ∧
      Parameters.ofArguments run.occasion.argv = .ok ⟨1000, 100, ⟨true⟩⟩ ∧
      after.calls = [⟨(), 1000, 100, true⟩] ∧
      CallsSpelled run.occasion.argv start.world after ∧
      ∀ name value, ¬ FirstUnfit 1000 100 name value := by
  intro run start after
  obtain ⟨-, inRange, binds, spelled⟩ := @entry_receives_spelled_ids Unit Unit LinkError
  have bound : run.bootstrap.loader.BindsEntries := binds run.linker run.library run.symbol
  have read : Parameters.ofArguments run.occasion.argv = .ok ⟨1000, 100, ⟨true⟩⟩ :=
    Parameters.ofArguments_written ⟨1000, 100, ⟨true⟩⟩ (by decide) (by decide) "bootstrap"
      "/bin/true" []
  refine ⟨bound, read, ?_, spelled _ _ _ _ start bound, inRange _ _ read⟩
  decide +kernel

end SeccompBootstrap
