import Mathlib.Data.List.TakeWhile
import SeccompBootstrap.Proofs.Json.StringLiteral

/-!
Reading lists and objects entry by entry. One turn of either loop takes one entry with what leads
it, or the closing bracket, and nothing else lets it go on; so a run takes exactly the entries up to
the bracket, if the reader of single entries takes each of them.
-/

set_option autoImplicit false
set_option relaxedAutoImplicit false

namespace SeccompBootstrap.Json

variable {c : Char} {w cs rest after : Input} {first : Bool} {fuel : Nat}

theorem isSpacing_iff : isSpacing c = true ↔ c ∈ [' ', '\t', '\n', '\r'] := by
  simp only [isSpacing, Bool.or_eq_true, decide_eq_true_eq, List.mem_cons, List.not_mem_nil,
    or_false]
  tauto

theorem Spacing.isSpacing (space : Spacing w) : ∀ c ∈ w, Json.isSpacing c = true :=
  fun c member => isSpacing_iff.mpr (space c member)

theorem Spacing.nil : Spacing [] := by
  simp [Spacing]

theorem Spacing.skipSpacing_append (space : Spacing w) :
    skipSpacing (w ++ rest) = skipSpacing rest :=
  List.dropWhile_append_of_pos space.isSpacing

theorem skipSpacing_cons (token : isSpacing c = false) : skipSpacing (c :: rest) = c :: rest := by
  rw [skipSpacing, List.dropWhile_cons_of_neg (by rw [token]; exact Bool.false_ne_true)]

theorem skipSpacing_eq_nil_iff : skipSpacing cs = [] ↔ Spacing cs := by
  rw [skipSpacing, List.dropWhile_eq_nil_iff]
  exact forall₂_congr fun c _ => isSpacing_iff

theorem exists_spacing (cs : Input) : ∃ w, Spacing w ∧ cs = w ++ skipSpacing cs := by
  refine ⟨cs.takeWhile isSpacing, ?_, List.takeWhile_append_dropWhile.symm⟩
  intro c member
  exact isSpacing_iff.mp (List.mem_takeWhile_imp member)

theorem skipSpacing_eq_cons_iff :
    skipSpacing cs = c :: rest ↔
      isSpacing c = false ∧ ∃ w, Spacing w ∧ cs = w ++ c :: rest := by
  constructor
  · intro skipped
    obtain ⟨w, space, same⟩ := exists_spacing cs
    rw [skipped] at same
    refine ⟨?_, w, space, same⟩
    have head := List.head?_dropWhile_not isSpacing cs
    rw [← skipSpacing, skipped] at head
    simpa using head
  · rintro ⟨token, w, space, rfl⟩
    rw [space.skipSpacing_append, skipSpacing_cons token]

theorem expectRest_eq_ok_iff : expectRest w cs = .ok rest ↔ cs = w ++ rest := by
  induction w generalizing cs with
  | nil =>
      rw [expectRest, List.nil_append, Except.ok.injEq]
  | cons d w ih =>
      cases cs with
      | nil => simp [expectRest, stop]
      | cons c cs =>
          rw [expectRest, List.cons_append, List.cons.injEq]
          split
          next same => rw [ih]; exact (and_iff_right same).symm
          next other => simp [stopPast, other]

theorem expectRest_bind_eq_ok_iff {α : Type} {a b : α} :
    (expectRest w cs >>= fun after => pure (a, after)) = .ok (b, rest) ↔
      a = b ∧ cs = w ++ rest := by
  rw [bind_eq_ok, ← expectRest_eq_ok_iff]
  constructor
  · rintro ⟨_, taken, ⟨⟩⟩
    exact ⟨rfl, taken⟩
  · rintro ⟨rfl, taken⟩
    exact ⟨rest, taken, rfl⟩

theorem colon_eq_ok_iff :
    colon cs = .ok rest ↔ ∃ w, Spacing w ∧ cs = w ++ ':' :: rest := by
  have token : isSpacing ':' = false := rfl
  unfold colon
  constructor
  · intro read
    split at read
    · cases read
    next skipped =>
      cases read
      exact (skipSpacing_eq_cons_iff.mp skipped).2
    · cases read
  · intro spelled
    rw [skipSpacing_eq_cons_iff.mpr ⟨token, spelled⟩]
    rfl

theorem Spacing.colon_append (space : Spacing w) : colon (w ++ ':' :: rest) = .ok rest :=
  colon_eq_ok_iff.mpr ⟨w, space, rfl⟩

theorem endList_eq_ok_iff :
    endList cs = .ok rest ↔ ∃ w, Spacing w ∧ cs = w ++ ']' :: rest := by
  have token : isSpacing ']' = false := rfl
  unfold endList
  constructor
  · intro read
    split at read
    · cases read
    next skipped =>
      cases read
      exact (skipSpacing_eq_cons_iff.mp skipped).2
    · split at read <;> cases read
    · cases read
  · intro spelled
    rw [skipSpacing_eq_cons_iff.mpr ⟨token, spelled⟩]
    rfl

theorem endObject_eq_ok_iff :
    endObject cs = .ok rest ↔ ∃ w, Spacing w ∧ cs = w ++ '}' :: rest := by
  have token : isSpacing '}' = false := rfl
  unfold endObject
  constructor
  · intro read
    split at read
    · cases read
    next skipped =>
      cases read
      exact (skipSpacing_eq_cons_iff.mp skipped).2
    · cases read
    · cases read
  · intro spelled
    rw [skipSpacing_eq_cons_iff.mpr ⟨token, spelled⟩]
    rfl

theorem nextElement_eq_none_iff :
    nextElement first cs = .ok none ↔ ∃ w rest, Spacing w ∧ cs = w ++ ']' :: rest := by
  have token : isSpacing ']' = false := rfl
  unfold nextElement
  constructor
  · intro read
    split at read
    · cases read
    next skipped => exact ⟨_, _, (skipSpacing_eq_cons_iff.mp skipped).2.choose_spec⟩
    · split at read
      · cases read
      · split at read
        · split at read <;> cases read
        · cases read
  · rintro ⟨w, rest, space, rfl⟩
    rw [skipSpacing_eq_cons_iff.mpr ⟨token, w, space, rfl⟩]
    rfl

def Element (cs : Input) : Prop :=
  ∃ c rest, cs = c :: rest ∧ isSpacing c = false ∧ c ≠ ']'

theorem Element.skipSpacing (begins : Element cs) : Json.skipSpacing cs = cs := by
  obtain ⟨c, rest, rfl, token, -⟩ := begins
  exact skipSpacing_cons token

theorem nextElement_eq_some_iff :
    nextElement first cs = .ok (some after) ↔
      Element after ∧ ∃ lead, Lead first lead ∧ cs = lead ++ after := by
  have comma : isSpacing ',' = false := rfl
  unfold nextElement
  constructor
  · intro read
    split at read
    · cases read
    · cases read
    next c rest other skipped =>
      obtain ⟨token, w, space, rfl⟩ := skipSpacing_eq_cons_iff.mp skipped
      cases first with
      | true =>
          cases read
          exact ⟨⟨c, rest, rfl, token, other⟩, w, .first space, rfl⟩
      | false =>
          simp only [Bool.false_eq_true, if_false] at read
          split at read
          next same =>
            subst same
            split at read
            · cases read
            · cases read
            next some_left other =>
              cases read
              obtain ⟨v, spaceAfter, same⟩ := exists_spacing rest
              obtain ⟨d, left, next⟩ := List.exists_cons_of_ne_nil some_left
              have token := (skipSpacing_eq_cons_iff.mp next).1
              refine ⟨⟨d, left, next, token, ?_⟩, w ++ ',' :: v, .later space spaceAfter, ?_⟩
              · rintro rfl
                exact other left next
              · rw [List.append_assoc, List.cons_append, ← same]
          next => cases read
  · rintro ⟨⟨c, rest, rfl, token, other⟩, lead, leads, rfl⟩
    cases leads with
    | first space =>
        rw [space.skipSpacing_append, skipSpacing_cons token]
        simp
    | @later before after spaceBefore spaceAfter =>
        have skipped : skipSpacing (after ++ c :: rest) = c :: rest := by
          rw [spaceAfter.skipSpacing_append, skipSpacing_cons token]
        rw [List.append_assoc, spaceBefore.skipSpacing_append, List.cons_append,
          skipSpacing_cons comma]
        split
        next same => cases same
        next same => cases same
        next same =>
          cases same
          simp only [Bool.false_eq_true, if_false, if_true, skipped]
          split
          next same => cases same
          next same => exact absurd (List.cons.inj same).1 other
          next => rfl

theorem nextKey_eq_none_iff :
    nextKey first cs = .ok none ↔ ∃ w rest, Spacing w ∧ cs = w ++ '}' :: rest := by
  have token : isSpacing '}' = false := rfl
  unfold nextKey
  constructor
  · intro read
    split at read
    · cases read
    next skipped => exact ⟨_, _, (skipSpacing_eq_cons_iff.mp skipped).2.choose_spec⟩
    · split at read
      · split at read <;> cases read
      · split at read
        · split at read <;> cases read
        · cases read
  · rintro ⟨w, rest, space, rfl⟩
    rw [skipSpacing_eq_cons_iff.mpr ⟨token, w, space, rfl⟩]
    rfl

theorem nextKey_eq_some_iff :
    nextKey first cs = .ok (some after) ↔ ∃ lead, Lead first lead ∧ cs = lead ++ '"' :: after := by
  have comma : isSpacing ',' = false := rfl
  have quote : isSpacing '"' = false := rfl
  unfold nextKey
  constructor
  · intro read
    split at read
    · cases read
    · cases read
    next c rest other skipped =>
      obtain ⟨token, w, space, rfl⟩ := skipSpacing_eq_cons_iff.mp skipped
      cases first with
      | true =>
          simp only [if_true] at read
          split at read
          next same =>
            cases read
            exact ⟨w, .first space, by rw [same]⟩
          next => cases read
      | false =>
          simp only [Bool.false_eq_true, if_false] at read
          split at read
          next same =>
            subst same
            split at read
            · cases read
            next skipped =>
              cases read
              obtain ⟨-, v, spaceAfter, rfl⟩ := skipSpacing_eq_cons_iff.mp skipped
              exact ⟨w ++ ',' :: v, .later space spaceAfter, by simp⟩
            · cases read
            · cases read
          next => cases read
  · rintro ⟨lead, leads, rfl⟩
    cases leads with
    | first space =>
        rw [space.skipSpacing_append, skipSpacing_cons quote]
        rfl
    | later spaceBefore spaceAfter =>
        rw [List.append_assoc, spaceBefore.skipSpacing_append, List.cons_append,
          skipSpacing_cons comma]
        simp [spaceAfter.skipSpacing_append, skipSpacing_cons quote]

variable {α : Type} {element : Input → Except Fault (α × Input)} {read result : List α}

/-- All that one turn of reading a list can do. -/
inductive ListTurn (element : Input → Except Fault (α × Input)) (first : Bool) (cs : Input) :
    Option α → Input → Prop
  | close {w rest : Input} (space : Spacing w) (is : cs = w ++ ']' :: rest) :
      ListTurn element first cs none rest
  | entry {lead after rest : Input} {a : α} (leads : Lead first lead) (begins : Element after)
      (is : cs = lead ++ after) (takes : element after = .ok (a, rest)) :
      ListTurn element first cs (some a) rest

theorem listLoop_close (turn : ListTurn element first cs none rest) :
    listLoop element (fuel + 1) first read cs = .ok (read.reverse, rest) := by
  cases turn with
  | close space is =>
      have closes : nextElement first cs = .ok none :=
        nextElement_eq_none_iff.mpr ⟨_, rest, space, is⟩
      have ends := endList_eq_ok_iff.mpr ⟨_, space, is⟩
      simp only [listLoop, closes, ends, ok_bind]
      rfl

theorem listLoop_entry {a : α} (turn : ListTurn element first cs (some a) rest) :
    listLoop element (fuel + 1) first read cs = listLoop element fuel false (a :: read) rest := by
  cases turn with
  | entry leads begins is takes =>
      have next := nextElement_eq_some_iff.mpr ⟨begins, _, leads, is⟩
      simp only [listLoop, next, takes, ok_bind]

theorem turn_of_listLoop (ended : listLoop element (fuel + 1) first read cs = .ok (result, rest)) :
    (ListTurn element first cs none rest ∧ result = read.reverse) ∨
      ∃ a left, ListTurn element first cs (some a) left ∧
        listLoop element fuel false (a :: read) left = .ok (result, rest) := by
  obtain ⟨_ | after, next, turned⟩ := bind_eq_ok.mp ended
  · obtain ⟨left, ends, same⟩ := bind_eq_ok.mp turned
    cases same
    obtain ⟨w, space, is⟩ := endList_eq_ok_iff.mp ends
    exact Or.inl ⟨.close space is, rfl⟩
  · obtain ⟨begins, lead, leads, is⟩ := nextElement_eq_some_iff.mp next
    obtain ⟨⟨a, left⟩, takes, later⟩ := bind_eq_ok.mp turned
    exact Or.inr ⟨a, left, .entry leads begins is takes, later⟩

/-- Whether a text begins with what may follow a value: white space, a comma or a closing bracket,
if with anything. -/
def Delimits (cs : Input) : Prop :=
  ∀ c ∈ cs.head?, c ∈ [' ', '\t', '\n', '\r', ',', ']', '}']

theorem Spacing.delimits_append (space : Spacing w) (delimits : Delimits rest) :
    Delimits (w ++ rest) := by
  cases w with
  | nil => exact delimits
  | cons c w =>
      rintro _ ⟨⟩
      exact List.mem_append_left [',', ']', '}'] (space c List.mem_cons_self)

theorem Spacing.delimits (space : Spacing w) : Delimits w := by
  have none : Delimits [] := by simp [Delimits]
  have follows := space.delimits_append none
  rwa [List.append_nil] at follows

namespace Entries

variable {closing : Char} {entry : α → Input → Prop} {as : List α} {t : Input}

theorem delimits (entries : Entries closing entry false as t)
    (bracket : closing = ']' ∨ closing = '}') : Delimits (t ++ rest) := by
  cases entries with
  | close space =>
      rw [List.append_assoc]
      refine space.delimits_append ?_
      rintro _ ⟨⟩
      rcases bracket with rfl | rfl
      · decide
      · decide
  | more leads is later =>
      cases leads with
      | later spaceBefore spaceAfter =>
          simp only [List.append_assoc, List.cons_append]
          refine spaceBefore.delimits_append ?_
          rintro _ ⟨⟩
          decide

theorem length_le (entries : Entries closing entry first as t) : as.length ≤ t.length := by
  have later {as : List α} {t : Input} {first : Bool} (entries : Entries closing entry first as t) :
      first = false → as.length < t.length := by
    induction entries with
    | close space =>
        intro _
        simp
    | more leads is rest ih =>
        rintro rfl
        have shorter := ih rfl
        cases leads with
        | later =>
            simp only [List.length_cons, List.length_append]
            omega
  cases entries with
  | close => exact Nat.zero_le _
  | more leads is rest =>
      have shorter := later rest rfl
      simp only [List.length_cons, List.length_append]
      omega

theorem map {β : Type} {other : β → Input → Prop} (f : α → β)
    (entries : Entries closing entry first as t)
    (reads : ∀ a s, s.length ≤ t.length → entry a s → other (f a) s) :
    Entries closing other first (as.map f) t := by
  induction entries with
  | close space => exact .close space
  | @more _ a as lead t ts leads is _ ih =>
      have longer : t.length + ts.length ≤ (lead ++ t ++ ts).length := by
        simp only [List.length_append]
        omega
      exact .more leads (reads a t (by omega) is) (ih fun b s short => reads b s (by omega))

theorem exists_of_mem {a : α} (entries : Entries closing entry first as t) (member : a ∈ as) :
    ∃ t, entry a t := by
  induction entries with
  | close => cases member
  | more leads is rest ih =>
      rcases List.mem_cons.mp member with rfl | later
      · exact ⟨_, is⟩
      · exact ih later

theorem exists_of_forall (each : ∀ a ∈ as, ∃ t, entry a t) (first : Bool) :
    ∃ t, Entries closing entry first as t := by
  induction as generalizing first with
  | nil => exact ⟨_, .close .nil⟩
  | cons a as ih =>
      obtain ⟨⟨t, is⟩, others⟩ := List.forall_mem_cons.mp each
      obtain ⟨ts, later⟩ := ih others false
      have leads : ∃ lead, Lead first lead := by
        cases first with
        | true => exact ⟨_, .first .nil⟩
        | false => exact ⟨_, .later .nil .nil⟩
      obtain ⟨lead, leads⟩ := leads
      exact ⟨lead ++ t ++ ts, .more leads is later⟩

end Entries

variable {entry : α → Input → Prop} {as : List α} {t : Input}

theorem listLoop_entries (entries : Entries ']' entry first as t)
    (begins : ∀ a t, entry a t → ∀ rest, Element (t ++ rest))
    (takes : ∀ a ∈ as, ∀ t rest, entry a t → Delimits rest → element (t ++ rest) = .ok (a, rest))
    (enough : as.length < fuel) :
    listLoop element fuel first read (t ++ rest) = .ok (read.reverse ++ as, rest) := by
  induction entries generalizing fuel read with
  | close space =>
      obtain ⟨fuel, rfl⟩ := Nat.exists_eq_add_one_of_ne_zero (Nat.ne_zero_of_lt enough)
      rw [listLoop_close (.close space (List.append_assoc _ [']'] rest)), List.append_nil]
      rfl
  | @more first a as lead t ts leads is rest' ih =>
      obtain ⟨fuel, rfl⟩ := Nat.exists_eq_add_one_of_ne_zero (Nat.ne_zero_of_lt enough)
      have delimits : Delimits (ts ++ rest) := rest'.delimits (Or.inl rfl)
      have taken := takes a List.mem_cons_self t (ts ++ rest) is delimits
      have turn : ListTurn element first (lead ++ t ++ ts ++ rest) (some a) (ts ++ rest) :=
        .entry leads (begins a t is (ts ++ rest)) (by simp only [List.append_assoc]) taken
      rw [listLoop_entry turn, ih (fun b member => takes b (List.mem_cons_of_mem a member))
        (Nat.lt_of_succ_lt_succ enough), List.reverse_cons, List.append_assoc]
      rfl

theorem readList_entries (entries : Entries ']' entry true as t)
    (begins : ∀ a t, entry a t → ∀ rest, Element (t ++ rest))
    (takes : ∀ a ∈ as, ∀ t rest, entry a t → Delimits rest → element (t ++ rest) = .ok (a, rest)) :
    readList element (t ++ rest) = .ok (as, rest) := by
  have enough : as.length < (t ++ rest).length + 1 := by
    have short := entries.length_le
    rw [List.length_append]
    omega
  rw [readList, listLoop_entries entries begins takes enough]
  rfl

theorem exists_of_listLoop
    (spelled : ∀ cs a rest, Element cs → element cs = .ok (a, rest) →
      ∃ t, entry a t ∧ cs = t ++ rest)
    (ended : listLoop element fuel first read cs = .ok (result, rest)) :
    ∃ as t, Entries ']' entry first as t ∧ cs = t ++ rest ∧ result = read.reverse ++ as := by
  induction fuel generalizing first read cs with
  | zero => cases ended
  | succ fuel ih =>
      rcases turn_of_listLoop ended with ⟨turn, rfl⟩ | ⟨a, left, turn, later⟩
      · cases turn with
        | @close w _ space is =>
            exact ⟨[], w ++ [']'], .close space, by rw [is, List.append_assoc]; rfl,
              (List.append_nil _).symm⟩
      · cases turn with
        | @entry lead after _ _ leads begins is takes =>
            obtain ⟨t, here, rfl⟩ := spelled after a left begins takes
            obtain ⟨as, ts, entries, rfl, rfl⟩ := ih later
            exact ⟨a :: as, lead ++ t ++ ts, .more leads here entries, by
              rw [is, List.append_assoc, List.append_assoc], by simp⟩

variable {σ : Type} {member : σ → String → Input → Except Fault (σ × Input)} {state last : σ}

inductive ObjectTurn (member : σ → String → Input → Except Fault (σ × Input)) (first : Bool)
    (state : σ) (cs : Input) : Option σ → Input → Prop
  | close {w rest : Input} (space : Spacing w) (is : cs = w ++ '}' :: rest) :
      ObjectTurn member first state cs none rest
  | entry {lead w after rest : Input} {key : String} {next : σ} (leads : Lead first lead)
      (letters : Letters key.toList w) (is : cs = lead ++ '"' :: (w ++ '"' :: after))
      (takes : member state key after = .ok (next, rest)) :
      ObjectTurn member first state cs (some next) rest

theorem objectLoop_close (turn : ObjectTurn member first state cs none rest) :
    objectLoop member (fuel + 1) first state cs = .ok (state, rest) := by
  cases turn with
  | close space is =>
      have closes : nextKey first cs = .ok none := nextKey_eq_none_iff.mpr ⟨_, rest, space, is⟩
      have ends := endObject_eq_ok_iff.mpr ⟨_, space, is⟩
      simp only [objectLoop, closes, ends, ok_bind]
      rfl

theorem objectLoop_key {lead : Input} {key : String} (leads : Lead first lead)
    (letters : Letters key.toList w) :
    objectLoop member (fuel + 1) first state (lead ++ '"' :: (w ++ '"' :: after)) =
      (member state key after >>= fun read => objectLoop member fuel false read.1 read.2) := by
  have text : readString (w ++ '"' :: after) = .ok (key, after) :=
    readString_eq_ok_iff.mpr ⟨w, letters, rfl⟩
  rw [objectLoop, nextKey_eq_some_iff.mpr ⟨lead, leads, rfl⟩, ok_bind]
  simp only [text, ok_bind]

theorem objectLoop_entry {next : σ} (turn : ObjectTurn member first state cs (some next) rest) :
    objectLoop member (fuel + 1) first state cs = objectLoop member fuel false next rest := by
  cases turn with
  | entry leads letters is takes => rw [is, objectLoop_key leads letters, takes, ok_bind]

theorem turn_of_objectLoop
    (ended : objectLoop member (fuel + 1) first state cs = .ok (last, rest)) :
    (ObjectTurn member first state cs none rest ∧ last = state) ∨
      ∃ next left, ObjectTurn member first state cs (some next) left ∧
        objectLoop member fuel false next left = .ok (last, rest) := by
  obtain ⟨_ | after, key, turned⟩ := bind_eq_ok.mp ended
  · obtain ⟨left, ends, same⟩ := bind_eq_ok.mp turned
    cases same
    obtain ⟨w, space, is⟩ := endObject_eq_ok_iff.mp ends
    exact Or.inl ⟨.close space is, rfl⟩
  · obtain ⟨lead, leads, is⟩ := nextKey_eq_some_iff.mp key
    obtain ⟨⟨key, valued⟩, text, read⟩ := bind_eq_ok.mp turned
    obtain ⟨w, letters, rfl⟩ := readString_eq_ok_iff.mp text
    obtain ⟨⟨next, left⟩, takes, later⟩ := bind_eq_ok.mp read
    exact Or.inr ⟨next, left, .entry leads letters is takes, later⟩

theorem readDocument_eq_ok_iff {value : Input → Except Fault (α × Input)} {text : String} {a : α} :
    readDocument value text = .ok a ↔
      ∃ rest, value text.toList = .ok (a, rest) ∧ Spacing rest := by
  simp only [readDocument]
  rcases value text.toList with fault | ⟨b, rest⟩
  · simp [error_bind, Except.mapError]
  · simp only [ok_bind]
    split
    next ended =>
      have space := skipSpacing_eq_nil_iff.mp ended
      simp only [Except.mapError, pure, Except.pure, Except.ok.injEq, Prod.mk.injEq]
      constructor
      · rintro rfl
        exact ⟨rest, ⟨rfl, rfl⟩, space⟩
      · rintro ⟨_, ⟨same, -⟩, -⟩
        exact same
    next going =>
      have other : ¬ Spacing rest := fun space => going (skipSpacing_eq_nil_iff.mpr space)
      simp only [stopPast, Except.mapError, reduceCtorEq, Except.ok.injEq, Prod.mk.injEq, false_iff]
      rintro ⟨_, ⟨rfl, rfl⟩, space⟩
      exact other space

end SeccompBootstrap.Json
