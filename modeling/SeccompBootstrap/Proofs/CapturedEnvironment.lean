import SeccompBootstrap.Activation
import SeccompBootstrap.Proofs.Environment

/-!
What a process captures of its environment. An entry is read if it splits into a name and a value
and both are UTF-8, and a name has the value of the last entry that is read for it. An entry that is
not read contributes nothing, so it does not hide an earlier one. Entries that are made from a map
of texts are captured as that map, in whatever order they stand.
-/

set_option autoImplicit false
set_option relaxedAutoImplicit false

namespace SeccompBootstrap.Environment

open RawEnvironment (entry)
open Text.Utf8 (bytes encode)

variable {e : List UInt8} {name value : String}

/-- Whether a value is that of the last entry which is read for a name. -/
def LastReads (entries : List (List UInt8)) (name value : String) : Prop :=
  ∃ earlier e later, entries = earlier ++ e :: later ∧ Reads e name value ∧
    ∀ other ∈ later, ∀ v, ¬ Reads other name v

theorem capture_append (earlier later : List (List UInt8)) :
    capture (earlier ++ later) = ⟨(capture earlier).assignments ++ (capture later).assignments⟩ :=
  congrArg Environment.mk List.filterMap_append

theorem capture_of_unreadable (earlier later : List (List UInt8)) (unreadable : Unreadable e) :
    capture (earlier ++ e :: later) = capture (earlier ++ later) := by
  rw [capture, List.filterMap_append, List.filterMap_cons_none (unreadable_iff.mp unreadable),
    ← List.filterMap_append, capture]

theorem get?_capture_append_singleton (earlier : List (List UInt8)) :
    (capture (earlier ++ [e])).get? name =
      match readEntry? e with
      | some (n, v) => if n = name then some v else (capture earlier).get? name
      | none => (capture earlier).get? name := by
  rcases read : readEntry? e with _ | ⟨n, v⟩
  · rw [capture_of_unreadable earlier [] (unreadable_iff.mpr read), List.append_nil]
  · have last : capture [e] = ⟨[(n, v)]⟩ := by simp [capture, read]
    rw [capture_append, last, get?_append]
    by_cases same : n = name
    · simp [get?, same]
    · simp [get?, same]

theorem lastReads_append_singleton_iff {earlier : List (List UInt8)} :
    LastReads (earlier ++ [e]) name value ↔
      Reads e name value ∨ (∀ v, ¬ Reads e name v) ∧ LastReads earlier name value := by
  constructor
  · rintro ⟨before, d, later, split, reads, none⟩
    rcases List.eq_nil_or_concat later with rfl | ⟨more, last, rfl⟩
    · obtain ⟨-, same⟩ := List.append_inj' split rfl
      obtain rfl := List.singleton_inj.mp same
      exact .inl reads
    · rw [List.concat_eq_append, ← List.cons_append, ← List.append_assoc] at split
      obtain ⟨rfl, same⟩ := List.append_inj' split rfl
      obtain rfl := List.singleton_inj.mp same
      rw [List.concat_eq_append] at none
      refine .inr ⟨none e (by simp), before, d, more, rfl, reads, ?_⟩
      exact fun other member => none other (List.mem_append_left _ member)
  · rintro (reads | ⟨other, before, d, later, rfl, reads, none⟩)
    · exact ⟨earlier, e, [], rfl, reads, by simp⟩
    · refine ⟨before, d, later ++ [e], by simp, reads, ?_⟩
      rw [List.forall_mem_append, List.forall_mem_singleton]
      exact ⟨none, other⟩

theorem get?_capture_eq_some_iff {entries : List (List UInt8)} :
    (capture entries).get? name = some value ↔ LastReads entries name value := by
  induction entries using List.reverseRecOn with
  | nil => simp [capture, LastReads]
  | append_singleton earlier e ih =>
      rw [get?_capture_append_singleton, lastReads_append_singleton_iff, ← ih]
      rcases read : readEntry? e with _ | ⟨n, v⟩
      · have unread : ∀ m w, ¬ Reads e m w := fun m w reads => by
          rw [readEntry?_eq_some_iff.mpr reads] at read
          cases read
        simp [unread]
      · have reads (m w : String) : Reads e m w ↔ n = m ∧ v = w := by
          rw [← readEntry?_eq_some_iff, read, Option.some.injEq, Prod.mk.injEq]
        by_cases same : n = name
        · simp [reads, same]
        · simp [reads, same]

/-- What an entry can hold of a text: nothing from its first zero character on. -/
def untilZero (text : String) : String :=
  .ofList (text.toList.takeWhile (· != '\x00'))

structure IsName (name : String) : Prop where
  named : name ≠ ""
  first : '=' ∉ name.toList.tail

def entryOf (assignment : String × String) : List UInt8 :=
  entry (bytes assignment.1) (bytes assignment.2)

theorem content_entryOf (assignment : String × String) :
    content (entryOf assignment) =
      encode ((assignment.1.toList ++ '=' :: assignment.2.toList).takeWhile (· != '\x00')) := by
  rw [entryOf, entry_bytes, content_encode]

theorem unreadable_entryOf (isName : IsName name) (zero : '\x00' ∈ name.toList) (value : String) :
    Unreadable (entryOf (name, value)) := by
  refine .unsplit ?_
  have cut : (name.toList ++ '=' :: value.toList).takeWhile (· != '\x00') =
      name.toList.takeWhile (· != '\x00') := by
    rw [List.takeWhile_append, if_neg]
    intro whole
    have kept := (List.takeWhile_prefix _).eq_of_length whole
    simpa using List.takeWhile_eq_self_iff.mp kept '\x00' zero
  rw [content_entryOf, cut, equals_mem_tail_encode_iff]
  exact fun member => isName.first ((List.takeWhile_sublist _).tail.subset member)

theorem reads_entryOf (isName : IsName name) (nonzero : '\x00' ∉ name.toList) (value : String) :
    Reads (entryOf (name, value)) name (untilZero value) := by
  have passes : ∀ c ∈ name.toList, (c != '\x00') = true := fun c member =>
    bne_iff_ne.mpr (ne_of_mem_of_not_mem member nonzero)
  refine ⟨?_, ?_, ?_⟩
  · rw [content_entryOf, entry_bytes, List.takeWhile_append_of_pos passes]
    simp [untilZero]
  · exact fun empty => isName.named (Text.Utf8.bytes_injective empty)
  · rw [bytes, equals_mem_tail_encode_iff]
    exact isName.first

/-- Whether assignments are those of a map, in some order. -/
def Lists (assignments : List (String × String)) (map : String → Option String) : Prop :=
  ∀ name value, (name, value) ∈ assignments ↔ map name = some value

variable {assignments : List (String × String)} {map : String → Option String}

theorem mem_capture_map_entryOf (names : ∀ a ∈ assignments, IsName a.1) :
    (name, value) ∈ (capture (assignments.map entryOf)).assignments ↔
      '\x00' ∉ name.toList ∧ ∃ whole, (name, whole) ∈ assignments ∧ value = untilZero whole := by
  rw [capture, List.mem_filterMap]
  constructor
  · rintro ⟨_, member, read⟩
    obtain ⟨⟨n, whole⟩, given, rfl⟩ := List.mem_map.mp member
    have isName := names _ given
    by_cases zero : '\x00' ∈ n.toList
    · rw [unreadable_iff.mp (unreadable_entryOf isName zero whole)] at read
      cases read
    · rw [readEntry?_eq_some_iff.mpr (reads_entryOf isName zero whole)] at read
      obtain ⟨rfl, rfl⟩ := Prod.mk.inj (Option.some.inj read)
      exact ⟨zero, whole, given, rfl⟩
  · rintro ⟨nonzero, whole, given, rfl⟩
    exact ⟨_, List.mem_map_of_mem given,
      readEntry?_eq_some_iff.mpr (reads_entryOf (names _ given) nonzero whole)⟩

theorem get?_capture_map_entryOf (lists : Lists assignments map)
    (names : ∀ a ∈ assignments, IsName a.1) (name : String) :
    (capture (assignments.map entryOf)).get? name =
      if '\x00' ∈ name.toList then none else (map name).map untilZero := by
  have captured (value : String) :
      (name, value) ∈ (capture (assignments.map entryOf)).assignments ↔ _ :=
    mem_capture_map_entryOf names
  have agree (value : String)
      (member : (name, value) ∈ (capture (assignments.map entryOf)).assignments) :
      (capture (assignments.map entryOf)).get? name = some value := by
    refine get?_of_mem member ?_
    rintro ⟨n, other⟩ given rfl
    obtain ⟨-, whole, first, rfl⟩ := (captured value).mp member
    obtain ⟨-, whole', second, same⟩ := (captured other).mp given
    have equal := ((lists _ _).mp first).symm.trans ((lists _ _).mp second)
    rw [same, Option.some.inj equal]
  ext value
  by_cases zero : '\x00' ∈ name.toList
  · simp only [if_pos zero, reduceCtorEq, iff_false]
    exact fun found => ((captured value).mp (mem_of_get?_eq_some found)).1 zero
  · rw [if_neg zero, Option.map_eq_some_iff]
    constructor
    · intro found
      obtain ⟨-, whole, given, same⟩ := (captured value).mp (mem_of_get?_eq_some found)
      exact ⟨whole, (lists _ _).mp given, same.symm⟩
    · rintro ⟨whole, mapped, rfl⟩
      exact agree _ ((captured _).mpr ⟨zero, whole, (lists _ _).mpr mapped, rfl⟩)

theorem untilZero_of_nonzero {text : String} (nonzero : '\x00' ∉ text.toList) :
    untilZero text = text := by
  rw [untilZero, List.takeWhile_eq_self_iff.mpr, String.ofList_toList]
  exact fun c member => bne_iff_ne.mpr (ne_of_mem_of_not_mem member nonzero)

def Whole (assignments : List (String × String)) : Prop :=
  ∀ a ∈ assignments, '\x00' ∉ a.1.toList ∧ '\x00' ∉ a.2.toList

instance (assignments : List (String × String)) : Decidable (Whole assignments) :=
  inferInstanceAs (Decidable (∀ a ∈ assignments, _))

theorem get?_capture_of_whole (lists : Lists assignments map)
    (names : ∀ a ∈ assignments, IsName a.1) (whole : Whole assignments) :
    (capture (assignments.map entryOf)).get? = map := by
  funext name
  rw [get?_capture_map_entryOf lists names]
  rcases mapped : map name with _ | value
  · simp
  · obtain ⟨named, valued⟩ := whole _ ((lists name value).mpr mapped)
    rw [if_neg named, Option.map_some, untilZero_of_nonzero valued]

/-- A name is captured with the value of the last entry that is read for it, and with none if there
is no such entry. An entry without a separating `=`, or with a name or a value that is not UTF-8,
changes nothing. So entries that are made from a map, in any order, are captured as that map: each
entry ends at its first zero character, and where there is none, nothing is lost. -/
theorem capture_reads_last_value :
    (∀ (entries : List (List UInt8)) (name value : String),
      (capture entries).get? name = some value ↔ LastReads entries name value) ∧
    (∀ e : List UInt8, Unreadable e → ∀ earlier later,
      capture (earlier ++ e :: later) = capture (earlier ++ later)) ∧
    ∀ (map : String → Option String) (assignments : List (String × String)),
      Lists assignments map → (∀ a ∈ assignments, IsName a.1) →
      (∀ name, (capture (assignments.map entryOf)).get? name =
        if '\x00' ∈ name.toList then none else (map name).map untilZero) ∧
      (Whole assignments → (capture (assignments.map entryOf)).get? = map) := by
  refine ⟨?_, ?_, ?_⟩
  · intro entries name value
    exact get?_capture_eq_some_iff
  · intro e unreadable earlier later
    exact capture_of_unreadable earlier later unreadable
  · intro map assignments lists names
    exact ⟨get?_capture_map_entryOf lists names, get?_capture_of_whole lists names⟩

theorem capture_reads_last_value_of_unreadable_flag :
    let map := fun name => if name = skipVar then some "true" else if name = "=A" then some "b=c"
      else none
    let assignments := [("=A", "b=c"), (skipVar, "true")]
    let broken := bytes skipVar ++ [equals, 0xFF]
    Lists assignments map ∧ (∀ a ∈ assignments, IsName a.1) ∧ Whole assignments ∧
      Unreadable broken ∧ (capture (assignments.map entryOf ++ [broken])).get? = map ∧
      LastReads (assignments.map entryOf ++ [broken]) skipVar "true" := by
  intro map assignments broken
  obtain ⟨read, unread, mapped⟩ := capture_reads_last_value
  have lists : Lists assignments map := by
    intro name value
    simp only [assignments, map, List.mem_cons, Prod.mk.injEq, List.not_mem_nil, or_false]
    have apart : skipVar ≠ "=A" := by decide
    split
    next same => simp [same, apart, eq_comm]
    next other => split <;> simp_all [eq_comm]
  have names : ∀ a ∈ assignments, IsName a.1 := by
    simp only [assignments, List.forall_mem_cons, List.not_mem_nil, false_implies, implies_true,
      and_true]
    exact ⟨⟨by decide, by decide⟩, ⟨by decide, by decide⟩⟩
  have whole : Whole assignments := by decide +kernel
  have unreadable : Unreadable broken := unreadable_iff.mpr (by decide +kernel)
  have kept := (mapped map assignments lists names).2 whole
  have same := unread broken unreadable (assignments.map entryOf) []
  rw [List.append_nil] at same
  have flag : (capture (assignments.map entryOf ++ [broken])).get? = map := by rw [same, kept]
  exact ⟨lists, names, whole, unreadable, flag, (read _ _ _).mp (congrFun flag skipVar)⟩

end SeccompBootstrap.Environment
