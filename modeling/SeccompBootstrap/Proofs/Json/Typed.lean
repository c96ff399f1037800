import SeccompBootstrap.Proofs.Json.Skip

/-!
Reading values of a required type. Such a reader takes exactly the spellings of the values of its
type, with white space in front of them; in front of any other value it fails. An integer has one
spelling, its decimal form: zero with a minus sign, and numerals with a point or an exponent, spell
reals.
-/

set_option autoImplicit false
set_option relaxedAutoImplicit false

namespace SeccompBootstrap.Json

open Text (toString_int_toList valueOfDigits withDigits)

variable {limit n count v : Nat} {i : Int} {ds : Input}

theorem takeDigits_of_le (digits : Digits ds) (within : withDigits n ds ≤ limit) :
    takeDigits limit n count ds = (withDigits n ds, count + ds.length, []) := by
  induction ds generalizing n count with
  | nil => rfl
  | cons c ds ih =>
      obtain ⟨digit, later⟩ := digits_cons_iff.mp digits
      rw [Text.withDigits_cons] at within ⊢
      have fits : n * 10 + Text.digitValue c ≤ limit :=
        Nat.le_trans (Text.le_withDigits _ ds) within
      rw [takeDigits, if_pos (by simp [digit, fits]), ih later within, List.length_cons,
        Nat.add_right_comm, Nat.add_assoc]

theorem takeDigits_fst (all : (takeDigits limit n count ds).2.2 = []) :
    (takeDigits limit n count ds).1 = withDigits n ds := by
  induction ds generalizing n count with
  | nil => rfl
  | cons c ds ih =>
      rw [takeDigits] at all ⊢
      split at all
      next taken =>
        rw [if_pos taken]
        exact ih all
      next => cases all

namespace Numeral

theorem Whole.toDigits_valueOfDigits (whole : Whole ds) :
    Nat.toDigits 10 (valueOfDigits ds) = ds := by
  rcases whole.head with rfl | ⟨c, more, rfl, nonzero⟩
  · rfl
  · exact Text.toDigits_valueOfDigits nonzero whole.digits

theorem whole_toDigits (n : Nat) : Whole (Nat.toDigits 10 n) := by
  refine ⟨fun c member => Nat.isDigit_of_mem_toDigits (by decide) (by decide) member, ?_⟩
  rcases Nat.eq_zero_or_pos n with rfl | positive
  · exact Or.inl (Nat.toDigits_zero 10)
  · exact Or.inr (Text.toDigits_eq_cons positive)

variable {m : Numeral}

theorem real?_ne_integer {exponent : Option Exponent} {negative : Bool} {significand : Nat}
    {power : Int} : Exponent.real? exponent negative significand power ≠ some (.integer i) := by
  cases exponent with
  | none => simp [Exponent.real?]
  | some e =>
      simp only [Exponent.real?, Exponent.number?]
      split
      · simp
      · split <;> simp

theorem text_of_integer (whole : m.fraction = []) (plain : m.exponent = none) :
    m.text = (if m.negative then ['-'] else []) ++ m.whole := by
  rw [text, body, tail_of_no_fraction whole, plain]
  simp [Exponent.marked]

theorem WellFormed.text_eq_toString (wf : m.WellFormed) (read : m.number? = some (.integer i)) :
    m.text = (toString i).toList := by
  by_cases is : m.IsInteger
  · rw [number?, if_pos is] at read
    have value : i = if m.negative then -(m.scaled.1 : Int) else m.scaled.1 := by
      cases read
      rfl
    have all : (takeDigits significandLimit 0 0 m.whole).2.2 = [] := by
      have left := is.fits
      rw [scaled_of_no_fraction is.no_fraction] at left
      exact List.length_eq_zero_iff.mp (Int.ofNat_eq_zero.mp left)
    have digits : m.scaled.1 = valueOfDigits m.whole := by
      rw [scaled_of_no_fraction is.no_fraction]
      exact takeDigits_fst all
    have signed : m.negative = true → m.scaled.1 ≠ 0 := fun sign => (is.negative sign).1
    rw [value, toString_int_toList m.negative _ signed, digits,
      wf.whole.toDigits_valueOfDigits, text_of_integer is.no_fraction is.no_exponent]
  · rw [number?_of_not_isInteger is] at read
    exact absurd read real?_ne_integer

theorem exists_of_integer (least : -(negativeLimit : Int) ≤ i)
    (greatest : i ≤ (significandLimit : Int)) :
    ∃ m : Numeral, m.WellFormed ∧ m.text = (toString i).toList ∧
      m.number? = some (.integer i) := by
  let negative := decide (i < 0)
  let m : Numeral := ⟨negative, Nat.toDigits 10 i.natAbs, [], none⟩
  have value : i = if negative then -(i.natAbs : Int) else i.natAbs := by
    simp only [negative, decide_eq_true_eq]
    split <;> omega
  have signed : negative = true → i.natAbs ≠ 0 := by
    simp only [negative, decide_eq_true_eq]
    omega
  have whole := whole_toDigits i.natAbs
  have wf : m.WellFormed := ⟨whole, by simp [m, Digits], by simp [m]⟩
  have digits : valueOfDigits (Nat.toDigits 10 i.natAbs) = i.natAbs := by
    rw [Text.valueOfDigits_eq_ofDigitChars, Nat.ofDigitChars_ten_toDigits]
  have limits : negativeLimit ≤ significandLimit := by decide
  rw [Text.valueOfDigits_eq_withDigits] at digits
  have taken : takeDigits significandLimit 0 0 m.whole = (i.natAbs, 0 + m.whole.length, []) := by
    rw [takeDigits_of_le whole.digits (by omega), digits]
  have scaled : m.scaled = (i.natAbs, 0) := by
    rw [scaled_of_no_fraction rfl, taken]
    rfl
  have is : m.IsInteger := by
    refine ⟨rfl, rfl, by rw [scaled], fun sign => ?_⟩
    have nonzero := signed sign
    have below : i < 0 := of_decide_eq_true sign
    rw [scaled]
    dsimp only
    omega
  refine ⟨m, wf, ?_, ?_⟩
  · rw [text_of_integer rfl rfl, ← toString_int_toList negative i.natAbs signed, ← value]
  · rw [number?, if_pos is, scaled]
    exact congrArg (fun i => some (Number.integer i)) value.symm

end Numeral

variable {α : Type} {c : Char} {w t cs rest left : Input} {a : α}
  {value : Input → Except Fault (α × Input)} {spells : α → Input → Prop}

/-- Whether a reader takes the spellings of values, at the first token, and nothing else. -/
structure Exact (value : Input → Except Fault (α × Input)) (spells : α → Input → Prop) : Prop where
  valid : ∀ a t, spells a t → Valid t
  takes : ∀ cs a rest, value cs = .ok (a, rest) ↔
    ∃ t, spells a t ∧ Ends t rest ∧ skipSpacing cs = t ++ rest

namespace Exact

theorem eq_ok_iff (exact : Exact value spells) (space : Spacing w) (valid : Valid t)
    (ends : Ends t rest) :
    value (w ++ (t ++ rest)) = .ok (a, left) ↔ spells a t ∧ left = rest := by
  have token (rest : Input) {t : Input} (valid : Valid t) : skipSpacing (t ++ rest) = t ++ rest :=
    (valid.element rest).skipSpacing
  rw [exact.takes, space.skipSpacing_append, token rest valid]
  constructor
  · rintro ⟨s, spelled, stops, same⟩
    have nothing : Spacing [] := .nil
    have ended : rest = left := Valid.rest_unique nothing valid ends nothing
      (exact.valid a s spelled) stops same
    subst ended
    rw [List.append_cancel_right same]
    exact ⟨spelled, rfl⟩
  · rintro ⟨spelled, rfl⟩
    exact ⟨t, spelled, ends, rfl⟩

theorem exists_of_element (exact : Exact value spells) (begins : Element cs)
    (read : value cs = .ok (a, rest)) : ∃ t, spells a t ∧ cs = t ++ rest := by
  obtain ⟨t, spelled, -, same⟩ := (exact.takes cs a rest).mp read
  rw [begins.skipSpacing] at same
  exact ⟨t, spelled, same⟩

end Exact

theorem refuseType_ne_ok {expected : String} : refuseType expected cs ≠ .ok a := by
  have afterwards {β : Type} {read : Except Fault β} {refuse : β → Except Fault α}
      (refuses : ∀ b, refuse b ≠ .ok a) : read >>= refuse ≠ .ok a := by
    intro ended
    obtain ⟨b, -, refused⟩ := bind_eq_ok.mp ended
    exact refuses b refused
  unfold refuseType
  split
  · exact afterwards fun _ => by simp [stop]
  · exact afterwards fun _ => by simp [stop]
  · exact afterwards fun _ => by simp [stop]
  · exact afterwards fun _ => by simp [stop]
  · exact afterwards fun _ => by simp [stop]
  · simp [stop]
  · simp [stop]
  · simp [stopPast]
  · split
    · exact afterwards fun _ => by simp [stop]
    · simp [stopPast]

theorem exact_readBoolean : Exact readBoolean fun b => Spells (.boolean b) := by
  refine ⟨fun b t spelled => spelled.valid, fun cs b rest => ?_⟩
  unfold readBoolean
  constructor
  · intro read
    split at read
    · cases read
    next is =>
      obtain ⟨rfl, rfl⟩ := expectRest_bind_eq_ok_iff.mp read
      rw [is]
      exact ⟨_, .true, ends_of_opening rfl rfl (by decide), rfl⟩
    next is =>
      obtain ⟨rfl, rfl⟩ := expectRest_bind_eq_ok_iff.mp read
      rw [is]
      exact ⟨_, .false, ends_of_opening rfl rfl (by decide), rfl⟩
    · exact absurd read refuseType_ne_ok
  · rintro ⟨t, spelled, -, same⟩
    rw [same]
    cases spelled with
    | true => rfl
    | false => rfl

theorem exact_readText : Exact readText fun s => Spells (.string s) := by
  refine ⟨fun s t spelled => spelled.valid, fun cs s rest => ?_⟩
  unfold readText
  constructor
  · intro read
    split at read
    · cases read
    next is =>
      obtain ⟨w, letters, rfl⟩ := readString_eq_ok_iff.mp read
      rw [is]
      exact ⟨_, .string letters, ends_of_opening rfl rfl (by decide), by simp⟩
    · exact absurd read refuseType_ne_ok
  · rintro ⟨t, spelled, -, same⟩
    rw [same]
    cases spelled with
    | string letters => exact readString_eq_ok_iff.mpr ⟨_, letters, by simp⟩

theorem exists_spells_boolean (b : Bool) : ∃ t, Spells (.boolean b) t := by
  cases b with
  | false => exact ⟨_, .false⟩
  | true => exact ⟨_, .true⟩

theorem exists_spells_string (s : String) : ∃ t, Spells (.string s) t := by
  obtain ⟨w, letters⟩ := exists_letters s.toList
  exact ⟨_, .string letters⟩

def IsInt64 (i : Int) : Prop :=
  -2 ^ 63 ≤ i ∧ i < 2 ^ 63

/-- The text of an integer of 64 bits: its decimal form. Numerals with a point or an exponent, and
zero with a minus sign, are texts of reals, which are numbers of another type. -/
structure SpellsInt64 (i : Int) (t : Input) : Prop where
  fits : IsInt64 i
  decimal : t = (toString i).toList

theorem isInt64_iff : IsInt64 i ↔ leastInt64 ≤ i ∧ i ≤ greatestInt64 := by
  unfold IsInt64 leastInt64 greatestInt64
  omega

theorem requireInt64_eq_ok_iff {number : Number} :
    requireInt64 (number, rest) = .ok (i, left) ↔
      number = .integer i ∧ IsInt64 i ∧ left = rest := by
  rw [isInt64_iff]
  cases number with
  | integer j =>
      simp only [requireInt64, Bool.and_eq_true, decide_eq_true_eq]
      split
      next within =>
        simp only [Except.ok.injEq, Prod.mk.injEq, Number.integer.injEq]
        constructor
        · rintro ⟨rfl, rfl⟩
          exact ⟨rfl, within, rfl⟩
        · rintro ⟨rfl, -, rfl⟩
          exact ⟨rfl, rfl⟩
      next beyond =>
        constructor
        · intro read
          cases read
        · rintro ⟨⟨⟩, within, -⟩
          exact absurd within beyond
  | real => simp [requireInt64, stop]

theorem SpellsInt64.exists_numeral (spelled : SpellsInt64 i t) :
    ∃ m : Numeral, m.WellFormed ∧ m.text = t ∧ m.number? = some (.integer i) := by
  obtain ⟨⟨least, greatest⟩, rfl⟩ := spelled
  exact Numeral.exists_of_integer (by rw [negativeLimit]; omega) (by rw [significandLimit]; omega)

theorem Numeral.EndsBefore.ends {m : Numeral} (ends : m.EndsBefore rest)
    (read : m.number? = some (.integer i)) : Ends t rest := by
  have is : m.IsInteger := by
    by_contra other
    rw [number?_of_not_isInteger other] at read
    exact real?_ne_integer read
  have none : m.tail = [] := by
    rw [tail_of_no_fraction is.no_fraction, is.no_exponent]
    rfl
  intro other _ _
  exact ⟨⟨ends.digit, fun _ => ends.mark is.no_exponent⟩, fun _ => ends.point none⟩

theorem readInt64_text {m : Numeral} (wf : m.WellFormed)
    (token : skipSpacing cs = m.text ++ rest) :
    readInt64 cs = (readNumeral m.negative (m.body ++ rest) >>= requireInt64) := by
  rw [readInt64, token, Numeral.text]
  cases m.negative with
  | true => rfl
  | false =>
      obtain ⟨c, ds, digit, is⟩ := wf.exists_digit
      rw [is]
      split
      next same => cases same
      next same =>
        cases same
        cases digit
      next same =>
        cases same
        rw [if_pos digit]
        rfl

theorem exists_of_requireInt64 {negative : Bool}
    (read : (readNumeral negative cs >>= requireInt64) = .ok (i, rest)) :
    ∃ m : Numeral, m.negative = negative ∧ SpellsInt64 i m.text ∧ Ends m.text rest ∧
      cs = m.body ++ rest := by
  obtain ⟨⟨number, left⟩, taken, required⟩ := bind_eq_ok.mp read
  obtain ⟨rfl, fits, rfl⟩ := requireInt64_eq_ok_iff.mp required
  obtain ⟨m, sign, wf, integer, ends, same⟩ := readNumeral_eq_ok_iff.mp taken
  exact ⟨m, sign, ⟨fits, wf.text_eq_toString integer⟩, ends.ends integer, same⟩

theorem exact_readInt64 : Exact readInt64 SpellsInt64 := by
  refine ⟨fun i t spelled => ?_, fun cs i rest => ?_⟩
  · obtain ⟨m, wf, rfl, -⟩ := spelled.exists_numeral
    exact .number wf
  constructor
  · intro read
    unfold readInt64 at read
    split at read
    · cases read
    next is =>
      obtain ⟨m, sign, spelled, ends, rfl⟩ := exists_of_requireInt64 read
      exact ⟨m.text, spelled, ends, by rw [is, Numeral.text, sign]; rfl⟩
    next is =>
      split at read
      · obtain ⟨m, sign, spelled, ends, same⟩ := exists_of_requireInt64 read
        exact ⟨m.text, spelled, ends, by rw [is, Numeral.text, sign]; exact same⟩
      · exact absurd read refuseType_ne_ok
  · rintro ⟨t, spelled, ends, token⟩
    obtain ⟨m, wf, rfl, number⟩ := spelled.exists_numeral
    have read : readNumeral m.negative (m.body ++ rest) = .ok (.integer i, rest) :=
      readNumeral_eq_ok_iff.mpr ⟨m, rfl, wf, number, ends m wf rfl, rfl⟩
    rw [readInt64_text wf token, read, ok_bind]
    exact requireInt64_eq_ok_iff.mpr ⟨rfl, spelled.fits, rfl⟩

inductive SpellsInt64s (is : List Int) : Input → Prop
  | list {t : Input} (elements : Entries ']' SpellsInt64 true is t) : SpellsInt64s is ('[' :: t)

theorem exists_spellsInt64s {is : List Int} (fit : ∀ i ∈ is, IsInt64 i) :
    ∃ t, SpellsInt64s is t := by
  have each : ∀ i ∈ is, ∃ t, SpellsInt64 i t := fun i member => ⟨_, fit i member, rfl⟩
  obtain ⟨t, elements⟩ := Entries.exists_of_forall each true
  exact ⟨'[' :: t, .list elements⟩

theorem exact_readInt64List : Exact readInt64List SpellsInt64s := by
  refine ⟨?_, fun cs is rest => ?_⟩
  · rintro is _ ⟨elements⟩
    have each : ∀ i t, SpellsInt64 i t → Valid t := exact_readInt64.valid
    exact .array (elements.map (fun _ => ()) fun i t _ spelled => each i t spelled)
  unfold readInt64List
  constructor
  · intro read
    split at read
    · cases read
    next opens =>
      obtain ⟨_, t, elements, rfl, rfl⟩ :=
        exists_of_listLoop (fun _ _ _ => exact_readInt64.exists_of_element) read
      exact ⟨_, .list elements, ends_of_opening rfl rfl (by decide), opens⟩
    · exact absurd read refuseType_ne_ok
  · rintro ⟨_, ⟨elements⟩, -, same⟩
    rw [same]
    have valid : ∀ i t, SpellsInt64 i t → Valid t := exact_readInt64.valid
    refine readList_entries elements (fun i t spelled => (valid i t spelled).element)
      fun i _ t rest spelled delimits => ?_
    have nothing : Spacing [] := .nil
    exact (exact_readInt64.eq_ok_iff nothing (valid i t spelled) delimits.ends).mpr ⟨spelled, rfl⟩

end SeccompBootstrap.Json
