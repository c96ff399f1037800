import Mathlib.Data.List.Induction
import Mathlib.Data.List.TakeWhile
import SeccompBootstrap.Environment
import SeccompBootstrap.Proofs.Text.Utf8

/-!
Environments as maps: what comes later wins, and an assignment matters to its own name only. A raw
entry ends before its first zero byte, and the first `=` after its first byte separates name and
value; it is read exactly if there is such an `=` and both parts are UTF-8. Every entry of a process
comes from an assignment, and an assignment that no other one contradicts has an entry.
-/

set_option autoImplicit false
set_option relaxedAutoImplicit false

namespace SeccompBootstrap.Environment

@[simp] theorem get?_nil (name : String) : get? ⟨[]⟩ name = none := rfl

private theorem foldl_eq (assignments : List (String × String)) (name : String)
    (found : Option String) :
    assignments.foldl
        (fun found assignment => if assignment.1 = name then some assignment.2 else found) found =
      (get? ⟨assignments⟩ name).or found := by
  induction assignments generalizing found with
  | nil => simp [get?]
  | cons assignment rest ih =>
      simp only [get?, List.foldl_cons]
      rw [ih, ih (if assignment.1 = name then some assignment.2 else none)]
      split <;> simp

theorem get?_append (first second : List (String × String)) (name : String) :
    get? ⟨first ++ second⟩ name = (get? ⟨second⟩ name).or (get? ⟨first⟩ name) := by
  rw [get?, List.foldl_append, foldl_eq]
  rfl

theorem get?_cons (assignment : String × String) (rest : List (String × String)) (name : String) :
    get? ⟨assignment :: rest⟩ name =
      (get? ⟨rest⟩ name).or (if assignment.1 = name then some assignment.2 else none) :=
  get?_append [assignment] rest name

theorem mem_of_get?_eq_some {assignments : List (String × String)} {name value : String}
    (found : get? ⟨assignments⟩ name = some value) :
    (name, value) ∈ assignments := by
  induction assignments with
  | nil => simp at found
  | cons assignment rest ih =>
      rw [get?_cons, Option.or_eq_some_iff] at found
      rcases found with later | ⟨_, here⟩
      · exact List.mem_cons_of_mem _ (ih later)
      · obtain ⟨rfl, same⟩ := Option.ite_none_right_eq_some.mp here
        obtain rfl := Option.some.inj same
        exact List.mem_cons_self

theorem get?_eq_none {assignments : List (String × String)} {name : String}
    (absent : ∀ assignment ∈ assignments, assignment.1 ≠ name) :
    get? ⟨assignments⟩ name = none := by
  rcases found : get? ⟨assignments⟩ name with _ | value
  · rfl
  · exact absurd rfl (absent (name, value) (mem_of_get?_eq_some found))

theorem get?_ite (made : Prop) [Decidable made] (assigned value name : String) :
    get? ⟨if made then [(assigned, value)] else []⟩ name =
      if made ∧ assigned = name then some value else none := by
  by_cases condition : made
  · simp [condition, get?]
  · simp [condition]

theorem isTrue_iff {env : Environment} {name : String} :
    env.isTrue name = true ↔ env.get? name = some "true" := by
  simp [isTrue]

theorem isTrue_congr {env other : Environment} {name : String}
    (same : env.get? name = some "true" ↔ other.get? name = some "true") :
    env.isTrue name = other.isTrue name := by
  rw [Bool.eq_iff_iff, isTrue_iff, isTrue_iff, same]

open RawEnvironment (entry)
open Text.Utf8 (asciiByte bytes encode)

variable {e : List UInt8} {name value : String}

/-- What an entry holds: it ends before its first zero byte. -/
def content (e : List UInt8) : List UInt8 :=
  e.takeWhile (· != 0)

/-- Whether an entry splits into a name and a value, at the first `=` after its first byte. -/
structure Splits (e n v : List UInt8) : Prop where
  whole : content e = entry n v
  named : n ≠ []
  first : equals ∉ n.tail

def Reads (e : List UInt8) (name value : String) : Prop :=
  Splits e (bytes name) (bytes value)

/-- Whether an entry has no `=` after its first byte, or a name or a value that is not UTF-8. -/
inductive Unreadable (e : List UInt8) : Prop
  | unsplit (absent : equals ∉ (content e).tail)
  | name {n v : List UInt8} (splits : Splits e n v) (illFormed : ∀ text, n ≠ bytes text)
  | value {n v : List UInt8} (splits : Splits e n v) (illFormed : ∀ text, v ≠ bytes text)

private theorem cut_eq_iff {bs n v : List UInt8} :
    bs = n ++ equals :: v ∧ equals ∉ n ↔
      bs.takeWhile (· != equals) = n ∧ bs.dropWhile (· != equals) = equals :: v := by
  constructor
  · rintro ⟨rfl, absent⟩
    have passes : ∀ b ∈ n, (b != equals) = true := fun b member =>
      bne_iff_ne.mpr (ne_of_mem_of_not_mem member absent)
    rw [List.takeWhile_append_of_pos passes, List.dropWhile_append_of_pos passes]
    simp
  · rintro ⟨rfl, after⟩
    refine ⟨?_, fun member => ?_⟩
    · rw [← after, List.takeWhile_append_dropWhile]
    · simpa using List.mem_takeWhile_imp member

theorem splitEntry?_eq_some_iff {c n v : List UInt8} :
    splitEntry? c = some (n, v) ↔ c = entry n v ∧ n ≠ [] ∧ equals ∉ n.tail := by
  rcases c with _ | ⟨b, rest⟩
  · simp [Environment.splitEntry?, entry]
  constructor
  · intro split
    rw [Environment.splitEntry?] at split
    rcases after : rest.dropWhile (· != equals) with _ | ⟨d, value⟩
    · simp [after] at split
    · have separator : d = equals := by
        have stopped := List.head?_dropWhile_not (· != equals) rest
        simpa [after] using stopped
      subst separator
      simp only [after, Option.some.injEq, Prod.mk.injEq] at split
      obtain ⟨rfl, rfl⟩ := split
      obtain ⟨whole, absent⟩ := cut_eq_iff.mpr ⟨rfl, after⟩
      exact ⟨congrArg (b :: ·) whole, List.cons_ne_nil _ _, absent⟩
  · rintro ⟨whole, named, absent⟩
    obtain ⟨first, n, rfl⟩ := List.exists_cons_of_ne_nil named
    obtain ⟨rfl, cut⟩ := List.cons.inj whole
    obtain ⟨before, after⟩ := cut_eq_iff.mp ⟨cut, absent⟩
    rw [Environment.splitEntry?, after, before]

theorem splitEntry?_eq_none_iff {c : List UInt8} : splitEntry? c = none ↔ equals ∉ c.tail := by
  rcases c with _ | ⟨b, rest⟩
  · simp [Environment.splitEntry?]
  rw [Environment.splitEntry?, List.tail_cons]
  rcases after : rest.dropWhile (· != equals) with _ | ⟨d, value⟩
  · have passes := List.dropWhile_eq_nil_iff.mp after
    simp only [true_iff]
    exact fun member => bne_iff_ne.mp (passes equals member) rfl
  · have kept : equals ∉ rest → rest.dropWhile (· != equals) = [] := fun absent =>
      List.dropWhile_eq_nil_iff.mpr fun b member =>
        bne_iff_ne.mpr (ne_of_mem_of_not_mem member absent)
    simp only [reduceCtorEq, false_iff]
    exact fun absent => by simp [kept absent] at after

theorem splits_iff {n v : List UInt8} : splitEntry? (content e) = some (n, v) ↔ Splits e n v := by
  rw [splitEntry?_eq_some_iff]
  exact ⟨fun ⟨whole, named, first⟩ => ⟨whole, named, first⟩,
    fun ⟨whole, named, first⟩ => ⟨whole, named, first⟩⟩

theorem Splits.unique {n v n' v' : List UInt8} (first : Splits e n v) (second : Splits e n' v') :
    n = n' ∧ v = v' :=
  Prod.mk.inj (Option.some.inj ((splits_iff.mpr first).symm.trans (splits_iff.mpr second)))

theorem readEntry?_eq_some_iff : readEntry? e = some (name, value) ↔ Reads e name value := by
  rw [Reads, ← splits_iff]
  simp [Environment.readEntry?, Option.bind_eq_some_iff, Text.Utf8.decode?_eq_some_iff, content]

theorem unreadable_iff : Unreadable e ↔ readEntry? e = none := by
  constructor
  · intro unreadable
    rcases read : readEntry? e with _ | ⟨name, value⟩
    · rfl
    · have reads := readEntry?_eq_some_iff.mp read
      cases unreadable with
      | unsplit absent =>
          have split := splits_iff.mpr reads
          rw [splitEntry?_eq_none_iff.mpr absent] at split
          cases split
      | name splits illFormed => exact absurd (splits.unique reads).1 (illFormed name)
      | value splits illFormed => exact absurd (splits.unique reads).2 (illFormed value)
  · intro unread
    rcases split : splitEntry? (content e) with _ | ⟨n, v⟩
    · exact .unsplit (splitEntry?_eq_none_iff.mp split)
    have splits := splits_iff.mp split
    by_cases named : ∃ name, n = bytes name
    · by_cases valued : ∃ value, v = bytes value
      · obtain ⟨name, rfl⟩ := named
        obtain ⟨value, rfl⟩ := valued
        have read := readEntry?_eq_some_iff.mpr splits
        rw [unread] at read
        cases read
      · exact .value splits (not_exists.mp valued)
    · exact .name splits (not_exists.mp named)

theorem entry_bytes (name value : String) :
    entry (bytes name) (bytes value) = encode (name.toList ++ '=' :: value.toList) := by
  rw [Text.Utf8.encode_append]
  rfl

private theorem asciiByte_equals : asciiByte '=' = equals := by decide

theorem equals_mem_tail_encode_iff {cs : List Char} :
    equals ∈ (encode cs).tail ↔ '=' ∈ cs.tail := by
  rcases cs with _ | ⟨c, cs⟩
  · simp
  have inside : equals ∉ (String.utf8EncodeChar c).tail := fun member => by
    rw [← asciiByte_equals] at member
    obtain rfl :=
      (Text.Utf8.asciiByte_mem_utf8EncodeChar (by decide)).mp (List.mem_of_mem_tail member)
    rw [Text.Utf8.utf8EncodeChar_of_ascii (by decide)] at member
    cases member
  obtain ⟨b, bs, encoded, -⟩ := Text.Utf8.unit_encodeChar [] c
  rw [encoded, List.tail_cons] at inside
  rw [Text.Utf8.encode_cons, encoded, List.cons_append, List.tail_cons, List.tail_cons,
    List.mem_append, ← asciiByte_equals, Text.Utf8.asciiByte_mem_encode (by decide),
    asciiByte_equals]
  simp [inside]

theorem content_encode (cs : List Char) :
    content (encode cs) = encode (cs.takeWhile (· != '\x00')) := by
  have zero : asciiByte '\x00' = 0 := by decide
  rw [content, ← zero, Text.Utf8.takeWhile_encode (by decide)]

variable {assignments : List (String × String)}

theorem get?_of_mem (member : (name, value) ∈ assignments)
    (agree : ∀ assignment ∈ assignments, assignment.1 = name → assignment.2 = value) :
    get? ⟨assignments⟩ name = some value := by
  induction assignments with
  | nil => simp at member
  | cons assignment rest ih =>
      rw [get?_cons]
      rcases found : get? ⟨rest⟩ name with _ | other
      · rcases List.mem_cons.mp member with rfl | later
        · simp
        · have given := ih later fun a inRest => agree a (List.mem_cons_of_mem _ inRest)
          simp [found] at given
      · have inRest := mem_of_get?_eq_some found
        have same : other = value := agree _ (List.mem_cons_of_mem _ inRest) rfl
        rw [same, Option.some_or]

end SeccompBootstrap.Environment

namespace SeccompBootstrap.RawEnvironment

section Entries

variable {n v : List UInt8} {a : List UInt8 × List UInt8}

theorem mem_of_mem_place {table : List (List UInt8 × List UInt8)} (member : a ∈ place n v table) :
    a = (n, v) ∨ a ∈ table := by
  fun_induction place n v table with
  | case1 => simpa using member
  | case2 old rest => grind
  | case3 other old rest apart before => grind
  | case4 other old rest apart behind ih => grind

theorem mem_place_self (n v : List UInt8) (table : List (List UInt8 × List UInt8)) :
    (n, v) ∈ place n v table := by
  fun_induction place n v table with
  | case1 => exact List.mem_cons_self
  | case2 old rest => exact List.mem_cons_self
  | case3 other old rest apart before => exact List.mem_cons_self
  | case4 other old rest apart behind ih => exact List.mem_cons_of_mem _ ih

theorem mem_place_of_mem {table : List (List UInt8 × List UInt8)} (member : a ∈ table)
    (agree : n = a.1 → v = a.2) : a ∈ place n v table := by
  fun_induction place n v table with
  | case1 => simp at member
  | case2 old rest =>
      rcases List.mem_cons.mp member with rfl | later
      · rw [agree rfl]
        exact List.mem_cons_self
      · exact List.mem_cons_of_mem _ later
  | case3 other old rest apart before => exact List.mem_cons_of_mem _ member
  | case4 other old rest apart behind ih =>
      rcases List.mem_cons.mp member with rfl | later
      · exact List.mem_cons_self
      · exact List.mem_cons_of_mem _ (ih later)

variable {assignments : List (List UInt8 × List UInt8)}

private theorem mem_of_mem_foldl_place (table : List (List UInt8 × List UInt8))
    (member : a ∈ assignments.foldl (fun table b => place b.1 b.2 table) table) :
    a ∈ assignments ∨ a ∈ table := by
  induction assignments generalizing table with
  | nil => exact .inr member
  | cons first rest ih =>
      rcases ih (place first.1 first.2 table) member with later | placed
      · exact .inl (List.mem_cons_of_mem _ later)
      · rcases mem_of_mem_place placed with rfl | before
        · exact .inl List.mem_cons_self
        · exact .inr before

private theorem mem_foldl_place (agree : ∀ b ∈ assignments, b.1 = a.1 → b.2 = a.2)
    (table : List (List UInt8 × List UInt8)) (present : a ∈ assignments ∨ a ∈ table) :
    a ∈ assignments.foldl (fun table b => place b.1 b.2 table) table := by
  induction assignments generalizing table with
  | nil => simpa using present
  | cons first rest ih =>
      obtain ⟨here, later⟩ := List.forall_mem_cons.mp agree
      refine ih later _ ?_
      rcases present with given | before
      · rcases List.mem_cons.mp given with rfl | inRest
        · exact .inr (mem_place_self a.1 a.2 table)
        · exact .inl inRest
      · exact .inr (mem_place_of_mem before here)

theorem exists_of_mem_ofAssignments {e : List UInt8}
    (member : e ∈ (ofAssignments assignments).entries) :
    ∃ b ∈ assignments, e = entry b.1 b.2 := by
  obtain ⟨b, kept, rfl⟩ := List.mem_map.mp member
  rcases mem_of_mem_foldl_place [] kept with given | none
  · exact ⟨b, given, rfl⟩
  · exact absurd none List.not_mem_nil

theorem entry_mem_ofAssignments (given : (n, v) ∈ assignments)
    (agree : ∀ b ∈ assignments, b.1 = n → b.2 = v) :
    entry n v ∈ (ofAssignments assignments).entries :=
  List.mem_map.mpr ⟨(n, v), mem_foldl_place agree [] (.inl given), rfl⟩

end Entries

theorem get?_eq_none_of_head? {env : RawEnvironment} {name : String}
    (others : ∀ e ∈ env.entries, e.head? ≠ (entry (Text.Utf8.bytes name) []).head?) :
    env.get? name = none := by
  have empty : env.values name = [] := by
    refine List.filterMap_eq_nil_iff.mpr fun e member => if_neg fun begins => ?_
    obtain ⟨value, rfl⟩ := List.isPrefixOf_iff_prefix.mp begins
    have present : (entry (Text.Utf8.bytes name) []).head?.isSome = true := by simp [entry]
    exact others _ member (by rw [List.head?_append, Option.or_of_isSome present])
  rw [get?, empty, List.head?_nil]

variable {c : Char} {cs : List Char} {name value : String}

theorem text_of_readEntry? (nonzero : c ≠ '\x00')
    (read : Environment.readEntry? (Text.Utf8.encode (c :: cs)) = some (name, value)) :
    name.toList.head? = some c ∧
      name.toList ++ '=' :: value.toList = c :: cs.takeWhile (· != '\x00') := by
  have reads := Environment.readEntry?_eq_some_iff.mp read
  have whole := reads.whole
  have passes : (c != '\x00') = true := bne_iff_ne.mpr nonzero
  rw [Environment.content_encode, Environment.entry_bytes, List.takeWhile_cons, if_pos passes]
    at whole
  have text := Text.Utf8.encode_injective whole
  rcases spelled : name.toList with _ | ⟨d, rest⟩
  · exact absurd (by rw [Text.Utf8.bytes, spelled]; rfl) reads.named
  · rw [spelled] at text
    exact ⟨congrArg some (List.cons.inj text).1.symm, text.symm⟩

end SeccompBootstrap.RawEnvironment
