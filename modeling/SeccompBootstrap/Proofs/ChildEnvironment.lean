import SeccompBootstrap.Proofs.Json.Typed
import SeccompBootstrap.Proofs.Launch

/-!
The environment of a launched child, name by name. A variable that was added by hand has the value
added last; the flags and the list of system calls follow for their own names, which never coincide,
and no other name is there. Of the host only two tests matter, so hosts that agree on them start
identical children. The list of system calls is split at its commas, and each piece is read as a
signed decimal number of 64 bits: that gives the list back, in order. So the value determines the
list, and a variable that is absent stands for the empty one.
-/

set_option autoImplicit false
set_option relaxedAutoImplicit false

namespace SeccompBootstrap

namespace Launch

variable {launch : Launch} {host other : Environment}

example :
    let launch := { Launch.ofWorkload (.ofString "gatehouse") (.ofString "node") 0 0 with
      extraEnv := [(skipVar, "no"), ("A", "1"), (skipVar, "yes")] }
    (Environment.mk (launch.childEnv ⟨[(debugSkipVar, "true")]⟩)).get? skipVar = some "yes" := by
  decide

end Launch

open Json (IsInt64)

namespace Text

def signed? : List Char → Option Int
  | '-' :: digits => (ofDigits? digits).map fun n : Nat => -(n : Int)
  | '+' :: digits => (ofDigits? digits).map Int.ofNat
  | digits => (ofDigits? digits).map Int.ofNat

/-- The integer that a text denotes, if 64 bits hold it. -/
def int64? (cs : List Char) : Option Int :=
  (signed? cs).filter fun i => Json.leastInt64 ≤ i && i ≤ Json.greatestInt64

theorem signed?_of_isDigit {c : Char} {digits : List Char} (digit : c.isDigit = true) :
    signed? (c :: digits) = (ofDigits? (c :: digits)).map Int.ofNat := by
  unfold signed?
  split
  next same =>
    obtain ⟨rfl, -⟩ := List.cons.inj same
    cases digit
  next same =>
    obtain ⟨rfl, -⟩ := List.cons.inj same
    cases digit
  next => rfl

theorem toList_toString_int (i : Int) :
    (toString i).toList = (if i < 0 then ['-'] else []) ++ Nat.toDigits 10 i.natAbs := by
  have value : i = if decide (i < 0) then -(i.natAbs : Int) else i.natAbs := by
    simp only [decide_eq_true_eq]
    split <;> omega
  have signed : decide (i < 0) = true → i.natAbs ≠ 0 := by
    simp only [decide_eq_true_eq]
    omega
  have form := toString_int_toList (decide (i < 0)) i.natAbs signed
  rw [← value] at form
  simpa using form

theorem signed?_toString (i : Int) : signed? (toString i).toList = some i := by
  rw [toList_toString_int]
  by_cases negative : i < 0
  · have back : -(i.natAbs : Int) = i := by omega
    rw [if_pos negative, List.singleton_append, signed?, ofDigits?_toDigits, Option.map_some, back]
  · have back : (i.natAbs : Int) = i := by omega
    obtain ⟨c, digits, form, digit⟩ := Text.exists_toDigits_eq_cons i.natAbs
    rw [if_neg negative, List.nil_append, form, signed?_of_isDigit digit, ← form,
      ofDigits?_toDigits, Option.map_some, Int.ofNat_eq_natCast, back]

theorem int64?_toString {i : Int} (fits : IsInt64 i) : int64? (toString i).toList = some i := by
  have range := Json.isInt64_iff.mp fits
  rw [int64?, signed?_toString]
  simp [Option.filter, range]

theorem not_mem_toString_int {c : Char} (other : c.isDigit = false) (unsigned : c ≠ '-') (i : Int) :
    c ∉ (toString i).toList := by
  rw [toList_toString_int, List.mem_append]
  rintro (sign | digit)
  · split at sign
    · exact unsigned (List.mem_singleton.mp sign)
    · cases sign
  · have isDigit := Nat.isDigit_of_mem_toDigits (by decide) (by decide) digit
    rw [other] at isDigit
    cases isDigit

end Text

namespace Launch

/-- The system calls that the value of the variable lists. -/
def readSyscalls? (value : String) : Option (List Int) :=
  (value.toList.splitOn ',').mapM Text.int64?

theorem splitOn_syscallList {syscalls : List Int} (nonempty : syscalls ≠ []) :
    (syscallList syscalls).toList.splitOn ',' = syscalls.map fun i => (toString i).toList := by
  have comma : (",".toList : List Char) = [','] := rfl
  rw [syscallList, String.toList_intercalate, comma, List.map_map, List.splitOn_intercalate]
  · rfl
  · simp only [List.forall_mem_map]
    exact fun i _ => Text.not_mem_toString_int (by decide) (by decide) i
  · simpa using nonempty

theorem readSyscalls?_syscallList {syscalls : List Int} (nonempty : syscalls ≠ [])
    (fits : ∀ i ∈ syscalls, IsInt64 i) : readSyscalls? (syscallList syscalls) = some syscalls := by
  rw [readSyscalls?, splitOn_syscallList nonempty]
  clear nonempty
  induction syscalls with
  | nil => rfl
  | cons i rest ih =>
      obtain ⟨first, later⟩ := List.forall_mem_cons.mp fits
      rw [List.map_cons, List.mapM_cons, Text.int64?_toString first, ih later]
      rfl

variable {launch : Launch}

def syscallEntries (launch : Launch) (host : Environment) : List (String × String) :=
  (launch.childEnv host).filter fun a => a.1 = allowedSyscallsVar

theorem syscallEntries_eq (alone : launch.LeavesAlone allowedSyscallsVar) (host : Environment) :
    launch.syscallEntries host =
      if launch.config.allowedSyscalls = [] then []
      else [(allowedSyscallsVar, syscallList launch.config.allowedSyscalls)] := by
  have noFlag (made : Bool) (name : String) (apart : name ≠ allowedSyscallsVar) :
      (if made then [(name, "true")] else []).filter (fun a => a.1 = allowedSyscallsVar) = [] := by
    cases made <;> simp [apart]
  have noneAdded : launch.extraEnv.filter (fun a => a.1 = allowedSyscallsVar) = [] :=
    List.filter_eq_nil_iff.mpr fun a member => by simpa using alone a member
  rw [syscallEntries, childEnv, List.filter_append, List.filter_append, List.filter_append,
    noneAdded, noFlag _ launch.disableVar (disableVar_ne_allowedSyscallsVar _),
    noFlag _ skipVar (by decide)]
  by_cases empty : launch.config.allowedSyscalls = []
  · simp [empty]
  · simp [empty]

theorem readSyscalls?_of_mem_childEnv (alone : launch.LeavesAlone allowedSyscallsVar)
    (fits : ∀ i ∈ launch.config.allowedSyscalls, IsInt64 i) {host : Environment} {value : String}
    (member : (allowedSyscallsVar, value) ∈ launch.childEnv host) :
    readSyscalls? value = some launch.config.allowedSyscalls := by
  have entry : (allowedSyscallsVar, value) ∈ launch.syscallEntries host :=
    List.mem_filter.mpr ⟨member, by simp⟩
  rw [syscallEntries_eq alone] at entry
  split at entry
  next => cases entry
  next nonempty =>
    obtain ⟨-, rfl⟩ := Prod.mk.inj (List.mem_singleton.mp entry)
    exact readSyscalls?_syscallList nonempty fits

/-- The child's variable of system calls lists what the launch allows. It is assigned once if that
is anything, and its value, split at the commas and read piece by piece, is the list in order; it is
not assigned at all exactly if nothing is listed. So no two lists have the same value. -/
theorem childEnv_lists_syscalls (launch : Launch) (alone : launch.LeavesAlone allowedSyscallsVar)
    (fits : ∀ i ∈ launch.config.allowedSyscalls, IsInt64 i) (host : Environment) :
    (launch.config.allowedSyscalls ≠ [] →
      ∃ value, launch.syscallEntries host = [(allowedSyscallsVar, value)] ∧
        readSyscalls? value = some launch.config.allowedSyscalls) ∧
    (launch.syscallEntries host = [] ↔ launch.config.allowedSyscalls = []) ∧
    ∀ (other : Launch) (otherHost : Environment) (value : String),
      other.LeavesAlone allowedSyscallsVar →
      (∀ i ∈ other.config.allowedSyscalls, IsInt64 i) →
      (allowedSyscallsVar, value) ∈ launch.childEnv host →
      (allowedSyscallsVar, value) ∈ other.childEnv otherHost →
      launch.config.allowedSyscalls = other.config.allowedSyscalls := by
  have entries := syscallEntries_eq alone host
  refine ⟨?_, ?_, ?_⟩
  · intro nonempty
    rw [if_neg nonempty] at entries
    exact ⟨_, entries, readSyscalls?_syscallList nonempty fits⟩
  · rw [entries]
    split <;> simp_all
  · intro other otherHost value otherAlone otherFits here there
    have first := readSyscalls?_of_mem_childEnv alone fits here
    have second := readSyscalls?_of_mem_childEnv otherAlone otherFits there
    exact Option.some.inj (first.symm.trans second)

theorem childEnv_lists_syscalls_of_limits :
    let listed := [Json.leastInt64, -1, 257, 257, Json.greatestInt64]
    let launch := { Launch.ofWorkload (.ofString "gatehouse") (.ofString "node") 1000 1000 with
      config := { LaunchConfig.default with allowedSyscalls := listed }, extraEnv := [("A", "1")] }
    let host : Environment := ⟨[(allowedSyscallsVar, "3"), (debugSkipVar, "true")]⟩
    launch.LeavesAlone allowedSyscallsVar ∧ (∀ i ∈ listed, IsInt64 i) ∧ listed ≠ [] ∧
      ∃ value, launch.syscallEntries host = [(allowedSyscallsVar, value)] ∧
        readSyscalls? value = some listed := by
  intro listed launch host
  have alone : launch.LeavesAlone allowedSyscallsVar := by
    intro a member
    obtain rfl := List.mem_singleton.mp member
    decide
  have fits : ∀ i ∈ listed, IsInt64 i := by
    simp only [Json.isInt64_iff]
    decide
  exact ⟨alone, fits, List.cons_ne_nil _ _,
    (childEnv_lists_syscalls launch alone fits host).1 (List.cons_ne_nil _ _)⟩

end Launch

end SeccompBootstrap
