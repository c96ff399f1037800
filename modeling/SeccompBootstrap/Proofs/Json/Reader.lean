import SeccompBootstrap.Proofs.Json.Numeral
import SeccompBootstrap.Proofs.Json.Structure

/-!
Reading a value. Whatever is read is a spelling of the value, and every spelling of a value that is
not nested too deeply is read, so that the texts that `parse` reads are exactly the documents of
such values.
-/

set_option autoImplicit false
set_option relaxedAutoImplicit false

namespace SeccompBootstrap.Json

variable {c : Char} {w t cs rest : Input} {v : Value} {depth fuel : Nat} {first : Bool}
  {value : Input → Except Fault (Value × Input)}
  {inner : Option (Input → Except Fault (Value × Input))}
  {ms members result : List (String × Value)}

theorem isSpacing_of_isDigit (digit : c.isDigit = true) : isSpacing c = false := by
  rw [Bool.eq_false_iff]
  intro space
  have among := isSpacing_iff.mp space
  simp only [List.mem_cons, List.not_mem_nil, or_false] at among
  rcases among with rfl | rfl | rfl | rfl <;> cases digit

theorem Numeral.WellFormed.exists_digit {m : Numeral} (wf : m.WellFormed) :
    ∃ c ds, c.isDigit = true ∧ m.body = c :: ds := by
  rcases wf.whole.head with zero | ⟨c, ds, is, -⟩
  · exact ⟨'0', m.tail, rfl, by rw [body, zero]; rfl⟩
  · have digit : c.isDigit = true := wf.whole.digits c (is ▸ List.mem_cons_self)
    exact ⟨c, ds ++ m.tail, digit, by rw [body, is]; rfl⟩

theorem Numeral.WellFormed.element {m : Numeral} (wf : m.WellFormed) (rest : Input) :
    Element (m.text ++ rest) := by
  rcases sign : m.negative with _ | _
  · obtain ⟨c, ds, digit, is⟩ := wf.exists_digit
    refine ⟨c, ds ++ rest, ?_, isSpacing_of_isDigit digit, ?_⟩
    · rw [Numeral.text, sign, is]
      rfl
    · rintro rfl
      cases digit
  · exact ⟨'-', m.body ++ rest, by rw [Numeral.text, sign]; rfl, rfl, by decide⟩

theorem Valid.element (valid : Valid t) (rest : Input) : Element (t ++ rest) := by
  cases valid with
  | null => exact ⟨'n', _, rfl, rfl, by decide⟩
  | true => exact ⟨'t', _, rfl, rfl, by decide⟩
  | false => exact ⟨'f', _, rfl, rfl, by decide⟩
  | number wf => exact wf.element rest
  | string => exact ⟨'"', _, rfl, rfl, by decide⟩
  | array => exact ⟨'[', _, rfl, rfl, by decide⟩
  | object => exact ⟨'{', _, rfl, rfl, by decide⟩

theorem Delimits.endsBefore (delimits : Delimits rest) (m : Numeral) : m.EndsBefore rest := by
  have follows : ∀ c ∈ [' ', '\t', '\n', '\r', ',', ']', '}'],
      c.isDigit = false ∧ c ≠ 'e' ∧ c ≠ 'E' ∧ c ≠ '.' := by simp
  refine ⟨⟨?_, fun _ c is => ?_⟩, fun _ c is => ?_⟩
  · cases rest with
    | nil => rfl
    | cons c rest => exact (follows c (delimits c rfl)).1
  · obtain ⟨-, small, capital, -⟩ := follows c (delimits c is)
    exact ⟨small, capital⟩
  · exact (follows c (delimits c is)).2.2.2

/-- Whether a number that a text may be ends where the rest begins. -/
def Ends (t rest : Input) : Prop :=
  ∀ m : Numeral, m.WellFormed → t = m.text → m.EndsBefore rest

theorem Delimits.ends (delimits : Delimits rest) : Ends t rest :=
  fun m _ _ => delimits.endsBefore m

theorem ends_of_opening (opens : t.head? = some c) (noDigit : c.isDigit = false)
    (noSign : c ≠ '-') : Ends t rest := by
  rintro m wf rfl
  obtain ⟨d, ds, digit, is⟩ := wf.exists_digit
  rw [Numeral.text, is] at opens
  rcases sign : m.negative with _ | _
  · rw [sign] at opens
    cases opens
    rw [digit] at noDigit
    cases noDigit
  · rw [sign] at opens
    cases opens
    exact absurd rfl noSign

theorem ends_of_brace (opens : t.head? = some '{') : Ends t rest :=
  ends_of_opening opens rfl (by decide)

theorem Spells.valid (spelled : Spells v t) : Valid t := by
  -- by the length of the text, as values in lists and objects are under `Entries`
  generalize length : t.length = n
  induction n using Nat.strongRecOn generalizing v t with
  | _ n ih =>
      cases spelled with
      | null => exact .null
      | true => exact .true
      | false => exact .false
      | number wf => exact .number wf
      | string letters => exact .string letters.glyphs
      | @array vs t entries =>
          rw [List.length_cons] at length
          exact .array (entries.map (fun _ => ()) fun v s short spelled =>
            ih s.length (by omega) spelled rfl)
      | @object ms t entries =>
          rw [List.length_cons] at length
          refine .object (entries.map (fun _ => ()) fun m s short is => ?_)
          obtain @⟨_, v, w, before, after, t, letters, spaceBefore, spaceAfter, spelled⟩ := is
          have longer : t.length ≤ ('"' :: w ++ '"' :: before ++ ':' :: after ++ t).length := by
            simp only [List.length_append]
            omega
          exact .pair letters.glyphs spaceBefore spaceAfter (ih t.length (by omega) spelled rfl)

/-- Whether a reader reads every spelling of a value up to a depth. -/
def Complete (depth : Nat) (value : Input → Except Fault (Value × Input)) : Prop :=
  ∀ v t w rest, Spells v t → v.DepthAtMost depth → Spacing w →
    Ends t rest → value (w ++ (t ++ rest)) = .ok (v, rest)

theorem readValueWith_append (space : Spacing w) :
    readValueWith inner (w ++ cs) = readValueWith inner cs := by
  rw [readValueWith, readValueWith, space.skipSpacing_append]

theorem readValueWith_digit (digit : c.isDigit = true) :
    readValueWith inner (c :: rest) =
      (readNumeral false (c :: rest) >>= fun read => .ok (.number read.1, read.2)) := by
  rw [readValueWith, skipSpacing_cons (isSpacing_of_isDigit digit)]
  split
  case h_9 same =>
    cases same
    rw [if_pos digit]
    rfl
  all_goals
    rename_i same
    cases same
  all_goals cases digit

theorem readValueWith_shallow (spelled : Spells v t) (shallow : v.DepthAtMost 0)
    (ends : Ends t rest) :
    readValueWith inner (t ++ rest) = .ok (v, rest) := by
  cases spelled with
  | null => rfl
  | true => rfl
  | false => rfl
  | @number m n wf inRange =>
      have read := readNumeral_eq_ok_iff.mpr ⟨m, rfl, wf, inRange, ends m wf rfl, rfl⟩
      rcases sign : m.negative with _ | _
      · obtain ⟨c, ds, digit, is⟩ := wf.exists_digit
        rw [sign, is] at read
        rw [Numeral.text, sign, is]
        show readValueWith inner (c :: (ds ++ rest)) = _
        rw [readValueWith_digit digit]
        show (readNumeral false (c :: ds ++ rest) >>= _) = _
        rw [read]
        rfl
      · rw [sign] at read
        rw [Numeral.text, sign]
        show (readNumeral true (m.body ++ rest) >>= _) = _
        rw [read]
        rfl
  | @string s w letters =>
      have read : readString (w ++ '"' :: rest) = .ok (s, rest) :=
        readString_eq_ok_iff.mpr ⟨w, letters, rfl⟩
      show (readString (w ++ ['"'] ++ rest) >>= _) = _
      rw [List.append_assoc]
      show (readString (w ++ '"' :: rest) >>= _) = _
      rw [read]
      rfl
  | array => cases shallow
  | object => cases shallow

theorem readMember_member {key : String} {before after : Input}
    (complete : Complete depth value) (spaceBefore : Spacing before) (spaceAfter : Spacing after)
    (spelled : Spells v t)
    (shallow : v.DepthAtMost depth) (delimits : Delimits rest) :
    readMember value members key (before ++ ':' :: after ++ t ++ rest) =
      .ok ((key, v) :: members, rest) := by
  have colons : colon (before ++ ':' :: after ++ t ++ rest) = .ok (after ++ (t ++ rest)) :=
    colon_eq_ok_iff.mpr ⟨before, spaceBefore, by simp only [List.append_assoc, List.cons_append]⟩
  have read := complete v t after rest spelled shallow spaceAfter delimits.ends
  rw [readMember, colons, ok_bind, read]
  rfl

theorem objectLoop_members (complete : Complete depth value)
    (entries : Entries '}' (Member Spells) first ms t)
    (shallow : ∀ m ∈ ms, m.2.DepthAtMost depth) (enough : ms.length < fuel) :
    objectLoop (readMember value) fuel first members (t ++ rest) =
      .ok (ms.reverse ++ members, rest) := by
  induction entries generalizing fuel members with
  | close space =>
      obtain ⟨fuel, rfl⟩ := Nat.exists_eq_add_one_of_ne_zero (Nat.ne_zero_of_lt enough)
      rw [objectLoop_close (.close space (List.append_assoc _ ['}'] rest))]
      rfl
  | @more first m ms lead t ts leads is later ih =>
      obtain ⟨fuel, rfl⟩ := Nat.exists_eq_add_one_of_ne_zero (Nat.ne_zero_of_lt enough)
      have delimits : Delimits (ts ++ rest) := later.delimits (Or.inr rfl)
      cases is with
      | @pair key v w before after t letters spaceBefore spaceAfter spelled =>
          have takes : readMember value members key (before ++ ':' :: after ++ t ++ (ts ++ rest)) =
              .ok ((key, v) :: members, ts ++ rest) :=
            readMember_member complete spaceBefore spaceAfter spelled
              (shallow _ List.mem_cons_self) delimits
          rw [objectLoop_entry (.entry leads letters (by simp) takes),
            ih (fun m member => shallow m (List.mem_cons_of_mem _ member))
              (Nat.lt_of_succ_lt_succ enough)]
          simp

/-- A reader of values to a depth reads all of their spellings: its lists and objects have entries
that the reader to the next smaller depth reads. -/
theorem complete_readValue (depth : Nat) : Complete depth (readValue depth) := by
  induction depth with
  | zero =>
      intro v t w rest spelled shallow space ends
      rw [readValue, readValueWith_append space]
      exact readValueWith_shallow spelled shallow ends
  | succ depth ih =>
      intro v t w rest spelled shallow space ends
      rw [readValue, readValueWith_append space]
      cases shallow with
      | null => exact readValueWith_shallow spelled .null ends
      | boolean => exact readValueWith_shallow spelled .boolean ends
      | number => exact readValueWith_shallow spelled .number ends
      | string => exact readValueWith_shallow spelled .string ends
      | @array _ vs each =>
          cases spelled with
          | @array _ t entries =>
              have takes : ∀ v ∈ vs, ∀ t rest, Spells v t → Delimits rest →
                  readValue depth (t ++ rest) = .ok (v, rest) := by
                intro v member t rest spelled delimits
                exact ih v t [] rest spelled (each v member) .nil delimits.ends
              have read : readList (readValue depth) (t ++ rest) = .ok (vs, rest) :=
                readList_entries entries (fun v t spelled => spelled.valid.element) takes
              show (readList (readValue depth) (t ++ rest) >>= _) = _
              rw [read]
              rfl
      | @object _ ms each =>
          cases spelled with
          | @object _ t entries =>
              have enough : ms.length < (t ++ rest).length + 1 := by
                have short := entries.length_le
                rw [List.length_append]
                omega
              have read : readObject (readMember (readValue depth)) [] (t ++ rest) =
                  .ok (ms.reverse, rest) := by
                rw [readObject, objectLoop_members ih entries each enough, List.append_nil]
              show (readObject (readMember (readValue depth)) [] (t ++ rest) >>= _) = _
              rw [read, ok_bind]
              show Except.ok (Value.object ms.reverse.reverse, rest) = _
              rw [List.reverse_reverse]

/-- Whether a reader reads nothing but spellings of values up to a depth. -/
def Sound (depth : Nat) (value : Input → Except Fault (Value × Input)) : Prop :=
  ∀ cs v rest, value cs = .ok (v, rest) →
    ∃ w t, Spacing w ∧ Spells v t ∧ v.DepthAtMost depth ∧ cs = w ++ (t ++ rest)

theorem exists_of_readList {elements : List Value} (sound : Sound depth value)
    (read : readList value cs = .ok (elements, rest)) :
    ∃ t, Entries ']' Spells true elements t ∧ (∀ v ∈ elements, v.DepthAtMost depth) ∧
      cs = t ++ rest := by
  have spelled : ∀ cs v rest, Element cs → value cs = .ok (v, rest) →
      ∃ t, (Spells v t ∧ v.DepthAtMost depth) ∧ cs = t ++ rest := by
    intro cs v rest begins read
    obtain ⟨w, t, space, spelled, shallow, rfl⟩ := sound cs v rest read
    cases w with
    | nil => exact ⟨t, ⟨spelled, shallow⟩, rfl⟩
    | cons c w =>
        obtain ⟨_, _, ⟨⟩, token, -⟩ := begins
        rw [space.isSpacing c List.mem_cons_self] at token
        cases token
  obtain ⟨vs, t, entries, rfl, rfl⟩ := exists_of_listLoop spelled read
  have spelled : Entries ']' Spells true (elements.map id) t :=
    entries.map id fun _ _ _ is => is.1
  rw [List.map_id] at spelled
  refine ⟨t, spelled, fun v member => ?_, rfl⟩
  obtain ⟨_, is⟩ := entries.exists_of_mem member
  exact is.2

theorem exists_of_objectLoop (sound : Sound depth value)
    (ended : objectLoop (readMember value) fuel first members cs = .ok (result, rest)) :
    ∃ ms t, Entries '}' (Member Spells) first ms t ∧ (∀ m ∈ ms, m.2.DepthAtMost depth) ∧
      cs = t ++ rest ∧ result = ms.reverse ++ members := by
  induction fuel generalizing first members cs with
  | zero => cases ended
  | succ fuel ih =>
      rcases turn_of_objectLoop ended with ⟨turn, rfl⟩ | ⟨next, left, turn, later⟩
      · cases turn with
        | @close w _ space is =>
            exact ⟨[], w ++ ['}'], .close space, by simp, by rw [is, List.append_assoc]; rfl, rfl⟩
      · cases turn with
        | @entry lead w after _ key _ leads letters is takes =>
            obtain ⟨valued, colons, read⟩ := bind_eq_ok.mp takes
            obtain ⟨⟨v, _⟩, read, same⟩ := bind_eq_ok.mp read
            cases same
            obtain ⟨before, spaceBefore, rfl⟩ := colon_eq_ok_iff.mp colons
            obtain ⟨after, t, spaceAfter, spelled, shallow, rfl⟩ := sound valued v left read
            obtain ⟨ms, ts, entries, deep, rfl, rfl⟩ := ih later
            refine ⟨(key, v) :: ms, _,
              .more leads (.pair letters spaceBefore spaceAfter spelled) entries, ?_, ?_, ?_⟩
            · exact List.forall_mem_cons.mpr ⟨shallow, deep⟩
            · rw [is]
              simp only [List.append_assoc, List.cons_append]
            · simp

theorem sound_readValueWith
    (within : ∀ value, inner = some value → ∃ less, depth = less + 1 ∧ Sound less value) :
    Sound depth (readValueWith inner) := by
  intro cs v rest read
  obtain ⟨w, space, same⟩ := exists_spacing cs
  suffices spelled : ∃ t, Spells v t ∧ v.DepthAtMost depth ∧ skipSpacing cs = t ++ rest by
    obtain ⟨t, spelled, shallow, is⟩ := spelled
    exact ⟨w, t, space, spelled, shallow, by rw [← is]; exact same⟩
  unfold readValueWith at read
  split at read
  · cases read
  next is =>
    obtain ⟨rfl, rfl⟩ := expectRest_bind_eq_ok_iff.mp read
    rw [is]
    exact ⟨_, .null, .null, rfl⟩
  next is =>
    obtain ⟨rfl, rfl⟩ := expectRest_bind_eq_ok_iff.mp read
    rw [is]
    exact ⟨_, .true, .boolean, rfl⟩
  next is =>
    obtain ⟨rfl, rfl⟩ := expectRest_bind_eq_ok_iff.mp read
    rw [is]
    exact ⟨_, .false, .boolean, rfl⟩
  next is =>
    obtain ⟨⟨n, after⟩, taken, same⟩ := bind_eq_ok.mp read
    cases same
    obtain ⟨m, sign, wf, inRange, -, rfl⟩ := readNumeral_eq_ok_iff.mp taken
    refine ⟨m.text, .number wf inRange, .number, ?_⟩
    rw [is, Numeral.text, sign]
    rfl
  next is =>
    obtain ⟨⟨s, after⟩, taken, same⟩ := bind_eq_ok.mp read
    cases same
    obtain ⟨w, letters, rfl⟩ := readString_eq_ok_iff.mp taken
    refine ⟨_, .string letters, .string, ?_⟩
    rw [is, List.append_assoc]
    rfl
  next is =>
    split at read
    · cases read
    next value =>
      obtain ⟨less, rfl, sound⟩ := within value rfl
      obtain ⟨⟨vs, after⟩, taken, same⟩ := bind_eq_ok.mp read
      cases same
      obtain ⟨t, entries, shallow, rfl⟩ := exists_of_readList sound taken
      exact ⟨_, .array entries, .array shallow, is⟩
  next is =>
    split at read
    · cases read
    next value =>
      obtain ⟨less, rfl, sound⟩ := within value rfl
      obtain ⟨⟨ms, after⟩, taken, same⟩ := bind_eq_ok.mp read
      cases same
      obtain ⟨ms, t, entries, shallow, rfl, rfl⟩ := exists_of_objectLoop sound taken
      rw [List.append_nil, List.reverse_reverse]
      exact ⟨_, .object entries, .object shallow, is⟩
  next c cs _ _ _ _ _ _ _ is =>
    split at read
    next digit =>
      obtain ⟨⟨n, after⟩, taken, same⟩ := bind_eq_ok.mp read
      cases same
      obtain ⟨m, sign, wf, inRange, -, spelled⟩ := readNumeral_eq_ok_iff.mp taken
      refine ⟨m.text, .number wf inRange, .number, ?_⟩
      rw [is, Numeral.text, sign]
      exact spelled
    next => cases read

theorem sound_readValue (depth : Nat) : Sound depth (readValue depth) := by
  induction depth with
  | zero => exact sound_readValueWith fun value none => by cases none
  | succ depth ih =>
      refine sound_readValueWith fun value is => ⟨depth, rfl, ?_⟩
      cases is
      exact ih

theorem readDocument_readValue_eq_ok_iff {text : String} :
    readDocument (readValue depth) text = .ok v ↔ Document v text ∧ v.DepthAtMost depth := by
  rw [readDocument_eq_ok_iff]
  constructor
  · rintro ⟨rest, read, space⟩
    obtain ⟨w, t, spaceBefore, spelled, shallow, is⟩ := sound_readValue depth _ v rest read
    refine ⟨?_, shallow⟩
    have document := Document.text spaceBefore space spelled
    rwa [List.append_assoc, ← is, String.ofList_toList] at document
  · rintro ⟨⟨spaceBefore, spaceAfter, spelled⟩, shallow⟩
    refine ⟨_, ?_, spaceAfter⟩
    rw [String.toList_ofList, List.append_assoc]
    exact complete_readValue depth _ _ _ _ spelled shallow spaceBefore
      spaceAfter.delimits.ends

/-- The texts that are read are the documents of values that are not nested too deeply. -/
theorem parse_eq_ok_iff {text : String} :
    parse text = .ok v ↔ Document v text ∧ v.DepthAtMost depthLimit :=
  readDocument_readValue_eq_ok_iff

end SeccompBootstrap.Json
