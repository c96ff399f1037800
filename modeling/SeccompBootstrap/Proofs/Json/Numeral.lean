import Mathlib.Data.List.TakeWhile
import SeccompBootstrap.Proofs.Json.Grammar
import SeccompBootstrap.Proofs.Text.Decimal

/-!
Reading a numeral. The digits in a row that the text holds decide what is read: `readNumeral` takes
as much of a text as is a numeral and gives its number. It is refused only where the number is out
of range.
-/

set_option autoImplicit false
set_option relaxedAutoImplicit false

namespace SeccompBootstrap.Json

variable {c : Char} {n count limit significand : Nat} {power : Int} {ds cs rest : Input}
  {negative : Bool} {result : Number × Input}

theorem digitValue_le (digit : c.isDigit = true) : Text.digitValue c ≤ 9 := by
  have bounds := Text.isDigit_iff.mp digit
  have zero : '0'.toNat = 48 := rfl
  rw [Text.digitValue]
  omega

theorem takeDigits_of_ends (ends : startsWithDigit cs = false) :
    takeDigits limit n count cs = (n, count, cs) := by
  cases cs with
  | nil => rfl
  | cons c cs =>
      have other : c.isDigit = false := ends
      simp [takeDigits, other]

theorem takeDigits_append (ends : startsWithDigit rest = false) :
    takeDigits limit n count (ds ++ rest) =
      ((takeDigits limit n count ds).1, (takeDigits limit n count ds).2.1,
        (takeDigits limit n count ds).2.2 ++ rest) := by
  induction ds generalizing n count with
  | nil => exact takeDigits_of_ends ends
  | cons c ds ih =>
      rw [List.cons_append, takeDigits, takeDigits]
      split
      · exact ih
      · rfl

theorem takeDigits_length :
    (takeDigits limit n count ds).2.1 + (takeDigits limit n count ds).2.2.length =
      count + ds.length := by
  induction ds generalizing n count with
  | nil => rfl
  | cons c ds ih =>
      rw [takeDigits]
      split
      · rw [ih, List.length_cons]
        omega
      · rfl

theorem takeDigits_suffix : (takeDigits limit n count ds).2.2 <:+ ds := by
  induction ds generalizing n count with
  | nil => exact List.suffix_rfl
  | cons c ds ih =>
      rw [takeDigits]
      split
      · exact ih.trans (List.suffix_cons c ds)
      · exact List.suffix_rfl

theorem takeDigits_succ :
    takeDigits limit n (count + 1) ds =
      ((takeDigits limit n count ds).1, (takeDigits limit n count ds).2.1 + 1,
        (takeDigits limit n count ds).2.2) := by
  induction ds generalizing n count with
  | nil => rfl
  | cons c ds ih =>
      rw [takeDigits, takeDigits]
      split
      · exact ih
      · rfl

theorem takeDigits_first (room : 9 ≤ limit) (digit : c.isDigit = true) :
    takeDigits limit 0 0 (c :: ds) =
      ((takeDigits limit (Text.digitValue c) 0 ds).1,
        (takeDigits limit (Text.digitValue c) 0 ds).2.1 + 1,
        (takeDigits limit (Text.digitValue c) 0 ds).2.2) := by
  have small := digitValue_le digit
  have fits : (c.isDigit && decide (0 * 10 + Text.digitValue c ≤ limit)) = true := by
    rw [digit, Bool.true_and, decide_eq_true_eq]
    omega
  rw [takeDigits, if_pos fits, Nat.zero_mul, Nat.zero_add, takeDigits_succ]

theorem digits_cons_iff : Digits (c :: ds) ↔ c.isDigit = true ∧ Digits ds :=
  List.forall_mem_cons

theorem Digits.takeDigits (digits : Digits ds) :
    Digits (takeDigits limit n count ds).2.2 :=
  fun c member => digits c (takeDigits_suffix.subset member)

theorem Digits.startsWithDigit_append (digits : Digits ds) (ends : startsWithDigit rest = false) :
    startsWithDigit (ds ++ rest) = true ↔ ds ≠ [] := by
  cases ds with
  | nil => simp [ends]
  | cons c ds => simp [startsWithDigit, digits c List.mem_cons_self]

theorem takeWhile_of_ends (ends : startsWithDigit rest = false) :
    rest.takeWhile Char.isDigit = [] ∧ rest.dropWhile Char.isDigit = rest := by
  cases rest with
  | nil => exact ⟨rfl, rfl⟩
  | cons c rest =>
      have other : c.isDigit = false := ends
      simp [other]

theorem Digits.dropDigits_append (digits : Digits ds) (ends : startsWithDigit rest = false) :
    dropDigits (ds ++ rest) = rest := by
  rw [dropDigits, List.dropWhile_append_of_pos digits, (takeWhile_of_ends ends).2]

theorem Digits.takeWhile_append (digits : Digits ds) (ends : startsWithDigit rest = false) :
    (ds ++ rest).takeWhile Char.isDigit = ds := by
  rw [List.takeWhile_append_of_pos digits, (takeWhile_of_ends ends).1, List.append_nil]

theorem exists_digits (cs : Input) :
    ∃ ds rest, Digits ds ∧ startsWithDigit rest = false ∧ cs = ds ++ rest := by
  refine ⟨cs.takeWhile Char.isDigit, cs.dropWhile Char.isDigit, ?_, ?_, ?_⟩
  · intro c member
    exact List.mem_takeWhile_imp member
  · induction cs with
    | nil => rfl
    | cons c cs ih =>
        rw [List.dropWhile_cons]
        split
        · exact ih
        next other => exact Bool.eq_false_iff.mpr other
  · exact List.takeWhile_append_dropWhile.symm

theorem realNumber_toOption :
    (realNumber negative significand power rest).toOption =
      ((Binary64.ofDecimal? significand power).map (Number.real negative)).map (·, rest) := by
  unfold realNumber
  cases Binary64.ofDecimal? significand power <;> rfl

namespace Exponent

variable {e : Exponent} {exponent : Option Exponent}

theorem WellFormed.exponentSign_text (wf : e.WellFormed) :
    exponentSign (e.text ++ rest) = (decide (e.sign = some '-'), e.digits ++ rest) := by
  obtain ⟨mark, sign, digits⟩ := e
  cases sign with
  | none =>
      obtain ⟨c, ds, rfl⟩ := List.exists_cons_of_ne_nil wf.some_digit
      have digit : c.isDigit = true := wf.digits c List.mem_cons_self
      have plus : c ≠ '+' := by
        rintro rfl
        cases digit
      have minus : c ≠ '-' := by
        rintro rfl
        cases digit
      simp [text, exponentSign, plus, minus]
  | some c =>
      rcases wf.sign c rfl with rfl | rfl
      · rfl
      · rfl

theorem WellFormed.readExponent_text (wf : e.WellFormed) (ends : startsWithDigit rest = false) :
    (readExponent negative significand power (e.text ++ rest)).toOption =
      (e.number? negative significand power).map (·, rest) := by
  have digits := wf.digits
  rw [readExponent, wf.exponentSign_text, number?]
  obtain ⟨c, ds, same⟩ := List.exists_cons_of_ne_nil wf.some_digit
  rw [same] at digits ⊢
  obtain ⟨digit, more⟩ := digits_cons_iff.mp digits
  have left : Digits (takeDigits exponentLimit (Text.digitValue c) 0 ds).2.2 := more.takeDigits
  have goesOn := left.startsWithDigit_append ends
  have dropped := left.dropDigits_append ends
  rw [takeDigits_first (by decide) digit]
  simp only [List.cons_append, digit, takeDigits_append ends, Bool.not_true, Bool.false_eq_true,
    if_false]
  rcases taken : takeDigits exponentLimit (Text.digitValue c) 0 ds with ⟨n, count, _ | ⟨d, more⟩⟩
  · rw [taken] at goesOn
    have ended : startsWithDigit ([] ++ rest) = false := ends
    simp only [ended, Bool.false_eq_true, if_false, decide_eq_true_eq]
    exact realNumber_toOption
  · rw [taken] at goesOn dropped
    have goes : startsWithDigit (d :: more ++ rest) = true := goesOn.mpr (List.cons_ne_nil d more)
    simp only [goes, if_true, dropped]
    by_cases out : significand ≠ 0 ∧ e.sign ≠ some '-'
    · simp [out, stop, Except.toOption]
    · have zero : (decide (significand ≠ 0) && !decide (e.sign = some '-')) = false := by
        simpa using out
      rw [zero, if_neg out]
      rfl

/-- Whether what follows goes on neither with a digit nor with an exponent where there is none. -/
structure EndsBefore (exponent : Option Exponent) (rest : Input) : Prop where
  digit : startsWithDigit rest = false
  mark : exponent = none → ∀ c ∈ rest.head?, c ≠ 'e' ∧ c ≠ 'E'

theorem startsWithDigit_marked (wf : ∀ e, exponent = some e → e.WellFormed)
    (ends : EndsBefore exponent rest) : startsWithDigit (marked exponent ++ rest) = false := by
  cases exponent with
  | none => exact ends.digit
  | some e =>
      have form := wf e rfl
      show e.mark.isDigit = false
      rcases form.mark with is | is
      · rw [is]
        rfl
      · rw [is]
        rfl

theorem readOptionalExponent_marked (wf : ∀ e, exponent = some e → e.WellFormed)
    (ends : EndsBefore exponent rest) :
    (readOptionalExponent negative significand power (marked exponent ++ rest)).toOption =
      (real? exponent negative significand power).map (·, rest) := by
  cases exponent with
  | none =>
      have unmarked := ends.mark rfl
      have same : readOptionalExponent negative significand power rest =
          realNumber negative significand power rest := by
        unfold readOptionalExponent
        split
        · exact absurd rfl (unmarked 'e' rfl).1
        · exact absurd rfl (unmarked 'E' rfl).2
        · rfl
      show (readOptionalExponent negative significand power rest).toOption = _
      rw [same]
      exact realNumber_toOption
  | some e =>
      have form := wf e rfl
      have same : readOptionalExponent negative significand power (e.mark :: (e.text ++ rest)) =
          readExponent negative significand power (e.text ++ rest) := by
        rcases form.mark with is | is
        · rw [is]
          rfl
        · rw [is]
          rfl
      show (readOptionalExponent _ _ _ (e.mark :: (e.text ++ rest))).toOption = _
      rw [same]
      exact form.readExponent_text ends.digit

end Exponent

theorem readFraction_digits {exponent : Option Exponent} (digits : Digits ds) (some_digit : ds ≠ [])
    (wf : ∀ e, exponent = some e → e.WellFormed) (ends : Exponent.EndsBefore exponent rest) :
    (readFraction negative significand power (ds ++ (Exponent.marked exponent ++ rest))).toOption =
      (Exponent.real? exponent negative (takeDigits significandLimit significand 0 ds).1
        (power - (takeDigits significandLimit significand 0 ds).2.1)).map (·, rest) := by
  have stops := Exponent.startsWithDigit_marked wf ends
  have left : Digits (takeDigits significandLimit significand 0 ds).2.2 := digits.takeDigits
  have goesOn := left.startsWithDigit_append stops
  have dropped := left.dropDigits_append stops
  have length := @takeDigits_length significand 0 significandLimit ds
  rw [readFraction, takeDigits_append stops]
  rcases taken : takeDigits significandLimit significand 0 ds with ⟨n, count, _ | ⟨d, more⟩⟩
  · rw [taken] at length
    have positive : count ≠ 0 := by
      have some_length := List.length_pos_iff.mpr some_digit
      dsimp only [List.length_nil] at length
      omega
    simp only [List.nil_append, stops, Bool.false_eq_true, if_false, positive]
    exact Exponent.readOptionalExponent_marked wf ends
  · rw [taken] at goesOn dropped
    have goes := goesOn.mpr (List.cons_ne_nil d more)
    simp only [goes, if_true, dropped]
    exact Exponent.readOptionalExponent_marked wf ends

namespace Numeral

variable {m : Numeral}

/-- Whether what follows a numeral is no further part of it. -/
structure EndsBefore (m : Numeral) (rest : Input) : Prop
    extends Exponent.EndsBefore m.exponent rest where
  point : m.tail = [] → ∀ c ∈ rest.head?, c ≠ '.'

theorem scaled_of_no_fraction (whole : m.fraction = []) :
    m.scaled = ((takeDigits significandLimit 0 0 m.whole).1,
      ((takeDigits significandLimit 0 0 m.whole).2.2.length : Int)) := by
  simp [scaled, whole, takeDigits]

theorem number?_of_not_isInteger (other : ¬ m.IsInteger) :
    m.number? = Exponent.real? m.exponent m.negative m.scaled.1 m.scaled.2 := by
  rw [number?, if_neg other]

theorem WellFormed.readFraction_tail (wf : m.WellFormed) (ends : m.EndsBefore rest)
    (some_digit : m.fraction ≠ []) :
    (readFraction m.negative (takeDigits significandLimit 0 0 m.whole).1
      ((takeDigits significandLimit 0 0 m.whole).2.2.length : Int)
      (m.fraction ++ (Exponent.marked m.exponent ++ rest))).toOption =
      m.number?.map (·, rest) := by
  have other : ¬ m.IsInteger := fun is => some_digit is.no_fraction
  rw [number?_of_not_isInteger other]
  exact readFraction_digits wf.fraction some_digit wf.exponent ends.toEndsBefore

theorem signedInteger_toOption (whole : m.fraction = []) (plain : m.exponent = none)
    (fits : (takeDigits significandLimit 0 0 m.whole).2.2 = []) :
    (signedInteger m.negative (takeDigits significandLimit 0 0 m.whole).1 rest).toOption =
      m.number?.map (·, rest) := by
  have scaled : m.scaled = ((takeDigits significandLimit 0 0 m.whole).1, 0) := by
    rw [scaled_of_no_fraction whole, fits]
    rfl
  unfold signedInteger
  rcases sign : m.negative with _ | _
  · have is : m.IsInteger := ⟨whole, plain, by rw [scaled], by simp [sign]⟩
    rw [number?, if_pos is, sign, scaled]
    rfl
  · by_cases is : m.IsInteger
    · obtain ⟨positive, small⟩ := is.negative sign
      rw [scaled] at positive small
      have holds : ¬ ((takeDigits significandLimit 0 0 m.whole).1 = 0 ∨
          negativeLimit < (takeDigits significandLimit 0 0 m.whole).1) := by
        dsimp only at positive small
        omega
      rw [number?, if_pos is, sign, scaled]
      simp only [Bool.not_true, Bool.false_eq_true, if_false, Bool.or_eq_true, decide_eq_true_eq,
        holds]
      rfl
    · have beyond : (takeDigits significandLimit 0 0 m.whole).1 = 0 ∨
          negativeLimit < (takeDigits significandLimit 0 0 m.whole).1 := by
        by_contra holds
        refine is ⟨whole, plain, by rw [scaled], fun _ => ?_⟩
        rw [scaled]
        dsimp only
        omega
      rw [number?_of_not_isInteger is, plain, scaled, sign]
      simp only [Bool.not_true, Bool.false_eq_true, if_false, Bool.or_eq_true, decide_eq_true_eq,
        beyond, if_true]
      exact realNumber_toOption

theorem tail_of_no_fraction (whole : m.fraction = []) : m.tail = Exponent.marked m.exponent := by
  rw [tail, if_pos whole, List.nil_append]

theorem tail_of_fraction (some_digit : m.fraction ≠ []) :
    m.tail = '.' :: (m.fraction ++ Exponent.marked m.exponent) := by
  rw [tail, if_neg some_digit, List.cons_append]

theorem WellFormed.startsWithDigit_tail (wf : m.WellFormed) (ends : m.EndsBefore rest) :
    startsWithDigit (m.tail ++ rest) = false := by
  by_cases whole : m.fraction = []
  · rw [tail_of_no_fraction whole]
    exact Exponent.startsWithDigit_marked wf.exponent ends.toEndsBefore
  · rw [tail_of_fraction whole]
    rfl

theorem WellFormed.ne_point (wf : m.WellFormed) (ends : m.EndsBefore rest)
    (whole : m.fraction = []) : ∀ c ∈ (Exponent.marked m.exponent ++ rest).head?, c ≠ '.' := by
  rcases plain : m.exponent with _ | e
  · refine ends.point ?_
    rw [tail_of_no_fraction whole, plain]
    rfl
  · intro c is
    cases is
    rcases (wf.exponent e plain).mark with mark | mark
    · rw [mark]
      decide
    · rw [mark]
      decide

theorem WellFormed.readAfterInteger_tail (wf : m.WellFormed) (ends : m.EndsBefore rest)
    (fits : (takeDigits significandLimit 0 0 m.whole).2.2 = []) :
    (readAfterInteger m.negative (takeDigits significandLimit 0 0 m.whole).1
      (m.tail ++ rest)).toOption = m.number?.map (·, rest) := by
  by_cases whole : m.fraction = []
  · have unpointed := wf.ne_point ends whole
    rw [tail_of_no_fraction whole]
    rcases plain : m.exponent with _ | e
    · have unmarked := ends.mark plain
      rw [plain] at unpointed
      have same (s : Nat) :
          readAfterInteger m.negative s rest = signedInteger m.negative s rest := by
        unfold readAfterInteger
        split
        · exact absurd rfl (unpointed '.' rfl)
        · exact absurd rfl (unmarked 'e' rfl).1
        · exact absurd rfl (unmarked 'E' rfl).2
        · rfl
      show (readAfterInteger _ _ rest).toOption = _
      rw [same]
      exact signedInteger_toOption whole plain fits
    · have form := wf.exponent e plain
      have other : ¬ m.IsInteger := by
        intro is
        have absent := is.no_exponent
        rw [plain] at absent
        cases absent
      have same (s : Nat) : readAfterInteger m.negative s (e.mark :: (e.text ++ rest)) =
          readExponent m.negative s 0 (e.text ++ rest) := by
        rcases form.mark with is | is
        · rw [is]
          rfl
        · rw [is]
          rfl
      show (readAfterInteger _ _ (e.mark :: (e.text ++ rest))).toOption = _
      rw [same, number?_of_not_isInteger other, plain, scaled_of_no_fraction whole, fits]
      exact form.readExponent_text ends.digit
  · have read := wf.readFraction_tail ends whole
    rw [fits] at read
    rw [tail_of_fraction whole, List.cons_append, List.append_assoc]
    exact read

theorem WellFormed.readLongInteger_tail (wf : m.WellFormed) (ends : m.EndsBefore rest)
    (long : (takeDigits significandLimit 0 0 m.whole).2.2 ≠ []) :
    (readLongInteger m.negative (takeDigits significandLimit 0 0 m.whole).1
      ((takeDigits significandLimit 0 0 m.whole).2.2 ++ (m.tail ++ rest))).toOption =
      m.number?.map (·, rest) := by
  have left : Digits (takeDigits significandLimit 0 0 m.whole).2.2 := wf.whole.digits.takeDigits
  have stops := wf.startsWithDigit_tail ends
  rw [readLongInteger, left.dropDigits_append stops, left.takeWhile_append stops]
  by_cases whole : m.fraction = []
  · have unpointed := wf.ne_point ends whole
    have other : ¬ m.IsInteger := by
      intro is
      have none_left := is.fits
      rw [scaled_of_no_fraction whole] at none_left
      have some_left := List.length_pos_iff.mpr long
      dsimp only at none_left
      omega
    rw [tail_of_no_fraction whole, number?_of_not_isInteger other, scaled_of_no_fraction whole]
    split
    next _ is =>
      rw [is] at unpointed
      exact absurd rfl (unpointed '.' rfl)
    next => exact Exponent.readOptionalExponent_marked wf.exponent ends.toEndsBefore
  · rw [tail_of_fraction whole, List.cons_append, List.append_assoc]
    exact wf.readFraction_tail ends whole

theorem WellFormed.readNumeral_body (wf : m.WellFormed) (ends : m.EndsBefore rest) :
    (readNumeral m.negative (m.body ++ rest)).toOption = m.number?.map (·, rest) := by
  have stops := wf.startsWithDigit_tail ends
  rw [body, List.append_assoc]
  rcases wf.whole.head with zero | ⟨c, ds, is, nonzero⟩
  · have value : takeDigits significandLimit 0 0 m.whole = (0, 1, []) := by
      rw [zero]
      rfl
    have read := wf.readAfterInteger_tail ends (by rw [value])
    rw [value] at read
    rw [zero]
    show (if startsWithDigit (m.tail ++ rest) then _ else _ : Except Fault _).toOption = _
    rw [if_neg (Bool.eq_false_iff.mp stops)]
    exact read
  · have digits := wf.whole.digits
    rw [is] at digits
    obtain ⟨digit, more⟩ := digits_cons_iff.mp digits
    have left : Digits (takeDigits significandLimit (Text.digitValue c) 0 ds).2.2 := more.takeDigits
    have goesOn := left.startsWithDigit_append stops
    have short := wf.readAfterInteger_tail ends
    have long := wf.readLongInteger_tail ends
    rw [is, takeDigits_first (by decide) digit] at short long
    rw [is, List.cons_append]
    simp only [readNumeral, digit, takeDigits_append stops, Bool.not_true, Bool.false_eq_true,
      if_false]
    by_cases ended : (takeDigits significandLimit (Text.digitValue c) 0 ds).2.2 = []
    · rw [ended, List.nil_append, if_neg (Bool.eq_false_iff.mp stops)]
      exact short ended
    · rw [if_pos (goesOn.mpr ended)]
      exact long ended

end Numeral

theorem exists_of_readExponent {mark : Char} (isMark : mark = 'e' ∨ mark = 'E')
    (read : readExponent negative significand power cs = .ok result) :
    ∃ e : Exponent, e.mark = mark ∧ e.WellFormed ∧
      ∃ rest, startsWithDigit rest = false ∧ cs = e.text ++ rest := by
  have signed : ∃ sign : Option Char, (∀ c, sign = some c → c = '+' ∨ c = '-') ∧
      cs = sign.toList ++ (exponentSign cs).2 := by
    unfold exponentSign
    split
    · exact ⟨some '+', by simp, rfl⟩
    · exact ⟨some '-', by simp, rfl⟩
    · exact ⟨none, by simp, rfl⟩
  obtain ⟨sign, isSign, spelled⟩ := signed
  rcases parted : exponentSign cs with ⟨down, unsigned⟩
  rw [parted] at spelled
  obtain ⟨ds, rest, digits, ends, rfl⟩ := exists_digits unsigned
  have some_digit : ds ≠ [] := by
    rintro rfl
    rw [readExponent, parted] at read
    cases rest with
    | nil => cases read
    | cons c rest =>
        have other : c.isDigit = false := ends
        simp only [List.nil_append, other, Bool.not_false, if_true] at read
        cases read
  refine ⟨⟨mark, sign, ds⟩, rfl, ⟨isMark, isSign, digits, some_digit⟩, rest, ends, ?_⟩
  rw [Exponent.text, List.append_assoc]
  exact spelled

theorem exists_of_readOptionalExponent (ends : startsWithDigit cs = false)
    (read : readOptionalExponent negative significand power cs = .ok result) :
    ∃ exponent, (∀ e, exponent = some e → e.WellFormed) ∧
      ∃ rest, Exponent.EndsBefore exponent rest ∧ cs = Exponent.marked exponent ++ rest := by
  have marked {mark : Char} {after : Input} (isMark : mark = 'e' ∨ mark = 'E')
      (read : readExponent negative significand power after = .ok result) :
      ∃ exponent, (∀ e, exponent = some e → e.WellFormed) ∧
        ∃ rest, Exponent.EndsBefore exponent rest ∧
          mark :: after = Exponent.marked exponent ++ rest := by
    obtain ⟨e, rfl, wf, rest, ends, rfl⟩ := exists_of_readExponent isMark read
    refine ⟨some e, ?_, rest, ⟨ends, fun absent => by cases absent⟩, rfl⟩
    rintro _ ⟨⟩
    exact wf
  unfold readOptionalExponent at read
  split at read
  · exact marked (Or.inl rfl) read
  · exact marked (Or.inr rfl) read
  next small capital =>
    refine ⟨none, (fun e present => by cases present), cs, ⟨ends, fun _ c is => ?_⟩, rfl⟩
    obtain ⟨after, rfl⟩ := List.head?_eq_some_iff.mp is
    exact ⟨fun same => small after (same ▸ rfl), fun same => capital after (same ▸ rfl)⟩

theorem exists_of_readFraction
    (read : readFraction negative significand power cs = .ok result) :
    ∃ ds exponent, Digits ds ∧ ds ≠ [] ∧ (∀ e, exponent = some e → e.WellFormed) ∧
      ∃ rest, Exponent.EndsBefore exponent rest ∧
        cs = ds ++ (Exponent.marked exponent ++ rest) := by
  obtain ⟨ds, after, digits, ends, rfl⟩ := exists_digits cs
  have left : Digits (takeDigits significandLimit significand 0 ds).2.2 := digits.takeDigits
  have goesOn := left.startsWithDigit_append ends
  rw [readFraction, takeDigits_append ends] at read
  dsimp only at read
  split at read
  next goes =>
    have some_digit : ds ≠ [] := by
      rintro rfl
      exact goesOn.mp goes rfl
    rw [left.dropDigits_append ends] at read
    obtain ⟨exponent, wf, rest, ended, rfl⟩ := exists_of_readOptionalExponent ends read
    exact ⟨ds, exponent, digits, some_digit, wf, rest, ended, rfl⟩
  next stops =>
    split at read
    · split at read <;> cases read
    next positive =>
      have none_left : (takeDigits significandLimit significand 0 ds).2.2 = [] := by
        by_contra some_left
        exact stops (goesOn.mpr some_left)
      have some_digit : ds ≠ [] := by
        rintro rfl
        exact positive rfl
      rw [none_left, List.nil_append] at read
      obtain ⟨exponent, wf, rest, ended, rfl⟩ := exists_of_readOptionalExponent ends read
      exact ⟨ds, exponent, digits, some_digit, wf, rest, ended, rfl⟩

namespace Numeral

/-- Whether a text goes on as a numeral with the given sign and digits before the point does. -/
def GoesOn (negative : Bool) (whole cs : Input) : Prop :=
  ∃ m : Numeral, m.negative = negative ∧ m.whole = whole ∧ m.WellFormed ∧
    ∃ rest, m.EndsBefore rest ∧ cs = m.tail ++ rest

variable {whole : Input}

theorem goesOn_of_readFraction (form : Whole whole)
    (read : readFraction negative significand power cs = .ok result) :
    GoesOn negative whole ('.' :: cs) := by
  obtain ⟨ds, exponent, fraction, some_digit, wf, rest, ends, rfl⟩ := exists_of_readFraction read
  have tail : (Numeral.mk negative whole ds exponent).tail =
      '.' :: (ds ++ Exponent.marked exponent) :=
    tail_of_fraction some_digit
  refine ⟨⟨negative, whole, ds, exponent⟩, rfl, rfl, ⟨form, fraction, wf⟩, rest, ?_, ?_⟩
  · refine ⟨ends, fun empty => ?_⟩
    rw [tail] at empty
    cases empty
  · rw [tail, List.cons_append, List.append_assoc]

theorem goesOn_of_readOptionalExponent (form : Whole whole)
    (ends : startsWithDigit cs = false) (unpointed : ∀ c ∈ cs.head?, c ≠ '.')
    (read : readOptionalExponent negative significand power cs = .ok result) :
    GoesOn negative whole cs := by
  obtain ⟨exponent, wf, rest, ended, rfl⟩ := exists_of_readOptionalExponent ends read
  have tail : (Numeral.mk negative whole [] exponent).tail = Exponent.marked exponent :=
    tail_of_no_fraction rfl
  refine ⟨⟨negative, whole, [], exponent⟩, rfl, rfl, ⟨form, by simp [Digits], wf⟩, rest,
    ⟨ended, fun empty => ?_⟩, by rw [tail]⟩
  rw [tail] at empty
  rw [empty] at unpointed
  exact unpointed

theorem goesOn_of_readAfterInteger (form : Whole whole)
    (ends : startsWithDigit cs = false)
    (read : readAfterInteger negative significand cs = .ok result) :
    GoesOn negative whole cs := by
  unfold readAfterInteger at read
  split at read
  · exact goesOn_of_readFraction form read
  · exact goesOn_of_readOptionalExponent form ends (by rintro _ ⟨⟩; decide) read
  · exact goesOn_of_readOptionalExponent form ends (by rintro _ ⟨⟩; decide) read
  next point small capital =>
    have follows (c : Char) (is : c ∈ cs.head?) : c ≠ 'e' ∧ c ≠ 'E' ∧ c ≠ '.' := by
      obtain ⟨after, rfl⟩ := List.head?_eq_some_iff.mp is
      exact ⟨fun same => small after (same ▸ rfl), fun same => capital after (same ▸ rfl),
        fun same => point after (same ▸ rfl)⟩
    refine ⟨⟨negative, whole, [], none⟩, rfl, rfl, ⟨form, by simp [Digits], by simp⟩, cs,
      ⟨⟨ends, fun _ c is => ?_⟩, fun _ c is => ?_⟩, rfl⟩
    · exact ⟨(follows c is).1, (follows c is).2.1⟩
    · exact (follows c is).2.2

theorem goesOn_of_readLongInteger (form : Whole whole) (left : Digits ds)
    (ends : startsWithDigit cs = false)
    (read : readLongInteger negative significand (ds ++ cs) = .ok result) :
    GoesOn negative whole cs := by
  rw [readLongInteger, left.dropDigits_append ends] at read
  split at read
  · exact goesOn_of_readFraction form read
  next point =>
    refine goesOn_of_readOptionalExponent form ends (fun c is same => ?_) read
    obtain ⟨after, rfl⟩ := List.head?_eq_some_iff.mp is
    exact point after (same ▸ rfl)

end Numeral

theorem exists_of_readNumeral (read : readNumeral negative cs = .ok result) :
    ∃ m : Numeral, m.negative = negative ∧ m.WellFormed ∧
      ∃ rest, m.EndsBefore rest ∧ cs = m.body ++ rest := by
  have whole {ds after : Input} (goesOn : Numeral.GoesOn negative ds after) :
      ∃ m : Numeral, m.negative = negative ∧ m.WellFormed ∧
        ∃ rest, m.EndsBefore rest ∧ ds ++ after = m.body ++ rest := by
    obtain ⟨m, sign, rfl, wf, rest, ends, rfl⟩ := goesOn
    exact ⟨m, sign, wf, rest, ends, by rw [Numeral.body, List.append_assoc]⟩
  unfold readNumeral at read
  split at read
  · cases read
  next after =>
    split at read
    · cases read
    next stops =>
      have ends : startsWithDigit after = false := Bool.eq_false_iff.mpr stops
      have zero : Digits ['0'] := List.forall_mem_singleton.mpr rfl
      exact whole (Numeral.goesOn_of_readAfterInteger ⟨zero, Or.inl rfl⟩ ends read)
  next c cs nonzero =>
    split at read
    · cases read
    next digit =>
      have digit : c.isDigit = true := by simpa using digit
      obtain ⟨ds, after, more, ends, rfl⟩ := exists_digits cs
      have left : Digits (takeDigits significandLimit (Text.digitValue c) 0 ds).2.2 :=
        more.takeDigits
      have goesOn := left.startsWithDigit_append ends
      have form : Numeral.Whole (c :: ds) :=
        ⟨digits_cons_iff.mpr ⟨digit, more⟩, Or.inr ⟨c, ds, rfl, nonzero⟩⟩
      rw [takeDigits_append ends] at read
      dsimp only at read
      split at read
      · exact whole (Numeral.goesOn_of_readLongInteger form left ends read)
      next stops =>
        have none_left : (takeDigits significandLimit (Text.digitValue c) 0 ds).2.2 = [] := by
          by_contra some_left
          exact stops (goesOn.mpr some_left)
        rw [none_left, List.nil_append] at read
        exact whole (Numeral.goesOn_of_readAfterInteger form ends read)

/-- A number is read exactly from a numeral that ends where reading stops. -/
theorem readNumeral_eq_ok_iff {number : Number} :
    readNumeral negative cs = .ok (number, rest) ↔
      ∃ m : Numeral, m.negative = negative ∧ m.WellFormed ∧ m.number? = some number ∧
        m.EndsBefore rest ∧ cs = m.body ++ rest := by
  constructor
  · intro read
    obtain ⟨m, rfl, wf, after, ends, rfl⟩ := exists_of_readNumeral read
    have exact := wf.readNumeral_body ends
    rw [read] at exact
    obtain ⟨_, same, equal⟩ := Option.map_eq_some_iff.mp exact.symm
    cases equal
    exact ⟨m, rfl, wf, same, ends, rfl⟩
  · rintro ⟨m, rfl, wf, same, ends, rfl⟩
    have exact := wf.readNumeral_body ends
    rw [same] at exact
    cases read : readNumeral m.negative (m.body ++ rest) with
    | error fault =>
        rw [read] at exact
        cases exact
    | ok result =>
        rw [read] at exact
        cases exact
        rfl

end SeccompBootstrap.Json
