import SeccompBootstrap.Proofs.Json.Reader

/-!
Passing over a value. Behind every text of a value, of whatever depth and with numbers of whatever
size, `skipValue` stops where the text ends: each entry leaves the open brackets as they were. So no
text begins with two values, or with one value in two ways.
-/

set_option autoImplicit false
set_option relaxedAutoImplicit false

namespace SeccompBootstrap.Json

variable {c : Char} {w t ts cs rest : Input} {fuel : Nat} {first : Bool} {count : List Unit}
  {bracket : Bracket} {brackets : List Bracket}

theorem skipStringLoop_glyph (glyph : Glyph w) :
    skipStringLoop (fuel + 1) (w ++ rest) = skipStringLoop fuel rest := by
  cases glyph with
  | @plain c visible noQuote noBackslash =>
      have shown : isControl c = false := by
        simpa [isControl] using visible
      simp [skipStringLoop, shown]
  | @short c e escape =>
      have made := plainEscape?_eq_some_iff.mpr escape
      have other : e ≠ 'u' := by
        rintro rfl
        cases made
      have step : skipEscape (e :: rest) = .ok rest := by
        simp only [skipEscape, made]
      simp only [List.cons_append, List.nil_append, skipStringLoop, step, ok_bind]
  | @unit n ds digits =>
      have step : readHexUnit (ds ++ rest) = .ok (n, rest) :=
        readHexUnit_eq_ok_iff.mpr ⟨ds, digits, rfl⟩
      simp only [List.cons_append, skipStringLoop, skipEscape, step, ok_bind]

theorem Glyph.length_pos (glyph : Glyph w) : 0 < w.length := by
  cases glyph <;> simp

theorem skipStringLoop_glyphs (glyphs : Glyphs w) (enough : w.length < fuel) :
    skipStringLoop fuel (w ++ '"' :: rest) = .ok rest := by
  induction glyphs generalizing fuel with
  | nil =>
      obtain ⟨fuel, rfl⟩ := Nat.exists_eq_add_one_of_ne_zero (Nat.ne_zero_of_lt enough)
      rfl
  | cons glyph more ih =>
      have some_length := glyph.length_pos
      rw [List.length_append] at enough
      obtain ⟨fuel, rfl⟩ := Nat.exists_eq_add_one_of_ne_zero (Nat.ne_zero_of_lt enough)
      rw [List.append_assoc, skipStringLoop_glyph glyph]
      exact ih (by omega)

theorem skipString_glyphs (glyphs : Glyphs w) : skipString (w ++ '"' :: rest) = .ok rest := by
  refine skipStringLoop_glyphs glyphs ?_
  simp only [List.length_append]
  omega

theorem Exponent.WellFormed.skipExponent_text {e : Exponent} (wf : e.WellFormed)
    (ends : startsWithDigit rest = false) : skipExponent (e.text ++ rest) = .ok rest := by
  have digits := wf.digits
  rw [skipExponent, wf.exponentSign_text]
  obtain ⟨c, ds, same⟩ := List.exists_cons_of_ne_nil wf.some_digit
  rw [same] at digits ⊢
  obtain ⟨digit, more⟩ := digits_cons_iff.mp digits
  simp only [List.cons_append, digit, if_true, more.dropDigits_append ends]

theorem Exponent.skipOptionalExponent_marked {exponent : Option Exponent}
    (wf : ∀ e, exponent = some e → e.WellFormed) (ends : EndsBefore exponent rest) :
    skipOptionalExponent (marked exponent ++ rest) = .ok rest := by
  cases exponent with
  | none =>
      have unmarked := ends.mark rfl
      show skipOptionalExponent rest = _
      unfold skipOptionalExponent
      split
      · exact absurd rfl (unmarked 'e' rfl).1
      · exact absurd rfl (unmarked 'E' rfl).2
      · rfl
  | some e =>
      have form := wf e rfl
      have skipped := form.skipExponent_text ends.digit
      show skipOptionalExponent (e.mark :: (e.text ++ rest)) = _
      rcases form.mark with is | is
      · rw [is]
        exact skipped
      · rw [is]
        exact skipped

namespace Numeral.WellFormed

variable {m : Numeral}

theorem skipFractionAndExponent_tail (wf : m.WellFormed) (ends : m.EndsBefore rest) :
    skipFractionAndExponent (m.tail ++ rest) = .ok rest := by
  have skipped := Exponent.skipOptionalExponent_marked wf.exponent ends.toEndsBefore
  by_cases whole : m.fraction = []
  · have unpointed := wf.ne_point ends whole
    rw [tail_of_no_fraction whole]
    unfold skipFractionAndExponent
    split
    next is =>
      rw [is] at unpointed
      exact absurd rfl (unpointed '.' rfl)
    next => exact skipped
  · have stops := Exponent.startsWithDigit_marked wf.exponent ends.toEndsBefore
    have goes := (wf.fraction.startsWithDigit_append stops).mpr whole
    rw [tail_of_fraction whole, List.cons_append, List.append_assoc, skipFractionAndExponent,
      if_pos goes, wf.fraction.dropDigits_append stops]
    exact skipped

theorem skipNumeral_body (wf : m.WellFormed) (ends : m.EndsBefore rest) :
    skipNumeral (m.body ++ rest) = .ok rest := by
  have stops := wf.startsWithDigit_tail ends
  have skipped := wf.skipFractionAndExponent_tail ends
  rw [body, List.append_assoc]
  rcases wf.whole.head with zero | ⟨c, ds, is, nonzero⟩
  · rw [zero]
    show (if startsWithDigit (m.tail ++ rest) then _ else _) = _
    rw [if_neg (Bool.eq_false_iff.mp stops)]
    exact skipped
  · have digits := wf.whole.digits
    rw [is] at digits
    obtain ⟨digit, more⟩ := digits_cons_iff.mp digits
    rw [is, List.cons_append]
    simp only [skipNumeral, digit, if_true, more.dropDigits_append stops]
    exact skipped

end Numeral.WellFormed

/-- How passing goes on behind an entry, or behind an opening bracket, inside the open brackets. -/
def resume (fuel : Nat) (afterEntry : Bool) (brackets : List Bracket) (cs : Input) :
    Except Fault Input := do
  let (brackets, rest) ← skipClosing afterEntry brackets cs
  if brackets.isEmpty then return rest else skipLoop fuel brackets rest

theorem skipLoop_scalar (token : skipToken cs = .ok (none, rest)) :
    skipLoop (fuel + 1) brackets cs = resume fuel true brackets rest := by
  rw [skipLoop, token]
  rfl

theorem skipLoop_opening (token : skipToken cs = .ok (some bracket, rest)) :
    skipLoop (fuel + 1) brackets cs = resume fuel false (bracket :: brackets) rest := by
  rw [skipLoop, token]
  rfl

theorem skipLoop_append (space : Spacing w) :
    skipLoop (fuel + 1) brackets (w ++ cs) = skipLoop (fuel + 1) brackets cs := by
  rw [skipLoop, skipLoop, skipToken, skipToken, space.skipSpacing_append]

theorem resume_close {afterEntry : Bool} (space : Spacing w) :
    resume fuel afterEntry (bracket :: brackets) (w ++ bracket.closing :: rest) =
      resume fuel true brackets rest := by
  have token : isSpacing bracket.closing = false := by cases bracket <;> rfl
  rw [resume, skipClosing, space.skipSpacing_append, skipSpacing_cons token]
  simp only [if_true]
  rfl

theorem resume_element {lead : Input} (leads : Lead first lead) (begins : Element cs) :
    resume (fuel + 1) (!first) (.list :: brackets) (lead ++ cs) =
      skipLoop (fuel + 1) (.list :: brackets) cs := by
  obtain ⟨c, rest, rfl, token, other⟩ := begins
  have comma : isSpacing ',' = false := rfl
  cases leads with
  | first space =>
      rw [resume, skipClosing, space.skipSpacing_append, skipSpacing_cons token]
      simp [Bracket.closing, other, skipToEntry, ok_bind]
  | later spaceBefore spaceAfter =>
      rw [List.append_assoc, resume, skipClosing, spaceBefore.skipSpacing_append, List.cons_append,
        skipSpacing_cons comma]
      simp [Bracket.closing, skipToEntry, ok_bind]
      exact skipLoop_append spaceAfter

theorem skipToEntry_key {before : Input} (space : Spacing cs) (glyphs : Glyphs w)
    (spaceBefore : Spacing before) :
    skipToEntry .object (cs ++ '"' :: (w ++ '"' :: (before ++ ':' :: rest))) = .ok rest := by
  have quote : isSpacing '"' = false := rfl
  have skipped : skipString (w ++ '"' :: (before ++ ':' :: rest)) = .ok (before ++ ':' :: rest) :=
    skipString_glyphs glyphs
  have colons : colon (before ++ ':' :: rest) = .ok rest :=
    colon_eq_ok_iff.mpr ⟨before, spaceBefore, rfl⟩
  rw [skipToEntry, space.skipSpacing_append, skipSpacing_cons quote]
  simp only [skipped, ok_bind]
  exact colons

theorem resume_member {lead before after : Input} (leads : Lead first lead) (glyphs : Glyphs w)
    (spaceBefore : Spacing before) (spaceAfter : Spacing after) :
    resume (fuel + 1) (!first) (.object :: brackets)
      (lead ++ '"' :: (w ++ '"' :: (before ++ ':' :: (after ++ cs)))) =
      skipLoop (fuel + 1) (.object :: brackets) cs := by
  have comma : isSpacing ',' = false := rfl
  have quote : isSpacing '"' = false := rfl
  rw [← skipLoop_append spaceAfter]
  cases leads with
  | first space =>
      have key : skipToEntry .object ('"' :: (w ++ '"' :: (before ++ ':' :: (after ++ cs)))) =
          .ok (after ++ cs) :=
        skipToEntry_key .nil glyphs spaceBefore
      rw [resume, skipClosing, space.skipSpacing_append, skipSpacing_cons quote]
      simp [Bracket.closing, key, ok_bind]
  | @later _ behind space spaceLater =>
      have key : skipToEntry .object
          (behind ++ '"' :: (w ++ '"' :: (before ++ ':' :: (after ++ cs)))) = .ok (after ++ cs) :=
        skipToEntry_key spaceLater glyphs spaceBefore
      rw [List.append_assoc, resume, skipClosing, space.skipSpacing_append, List.cons_append,
        skipSpacing_cons comma]
      simp [Bracket.closing, key, ok_bind]

/-- Whether a text is passed over as a value, with a token at least and no more tokens than it has
characters. -/
def Passed (t : Input) : Prop :=
  ∃ tokens, tokens < t.length ∧ ∀ fuel brackets rest, Ends t rest →
    skipLoop (fuel + (tokens + 1)) brackets (t ++ rest) = resume fuel true brackets rest

def PassedEntry (bracket : Bracket) (t : Input) : Prop :=
  ∃ tokens, tokens < t.length ∧ ∀ fuel first lead brackets rest, Lead first lead → Delimits rest →
    resume (fuel + (tokens + 1)) (!first) (bracket :: brackets) (lead ++ (t ++ rest)) =
      resume fuel true (bracket :: brackets) rest

theorem passedEntry_element (valid : Valid t) (passed : Passed t) : PassedEntry .list t := by
  obtain ⟨tokens, few, passes⟩ := passed
  refine ⟨tokens, few, fun fuel first lead brackets rest leads delimits => ?_⟩
  rw [← Nat.add_assoc, resume_element leads (valid.element rest), Nat.add_assoc]
  exact passes fuel _ rest delimits.ends

theorem passedEntry_member (is : ValidMember Valid t)
    (each : ∀ s, s.length ≤ t.length → Valid s → Passed s) : PassedEntry .object t := by
  obtain @⟨w, before, after, s, glyphs, spaceBefore, spaceAfter, valid⟩ := is
  have longer : s.length ≤ ('"' :: w ++ '"' :: before ++ ':' :: after ++ s).length := by
    simp only [List.length_append]
    omega
  obtain ⟨tokens, few, passes⟩ := each s longer valid
  refine ⟨tokens, Nat.lt_of_lt_of_le few longer, ?_⟩
  intro fuel first lead brackets rest leads delimits
  simp only [List.append_assoc, List.cons_append, ← Nat.add_assoc]
  rw [resume_member leads glyphs spaceBefore spaceAfter, Nat.add_assoc]
  exact passes fuel _ rest delimits.ends

theorem passed_entries (bracket : Bracket) {entry : Input → Prop}
    (entries : Entries bracket.closing (fun _ => entry) first count t)
    (each : ∀ s, s.length ≤ t.length → entry s → PassedEntry bracket s) :
    ∃ tokens, tokens ≤ t.length ∧ ∀ fuel brackets rest,
      resume (fuel + tokens) (!first) (bracket :: brackets) (t ++ rest) =
        resume fuel true brackets rest := by
  have closing : bracket.closing = ']' ∨ bracket.closing = '}' := by
    cases bracket with
    | list => exact Or.inl rfl
    | object => exact Or.inr rfl
  induction entries with
  | @close first w space =>
      refine ⟨0, Nat.zero_le _, fun fuel brackets rest => ?_⟩
      rw [List.append_assoc]
      exact resume_close space
  | @more first _ count lead t ts leads is later ih =>
      have longer : t.length + ts.length ≤ (lead ++ t ++ ts).length := by
        simp only [List.length_append]
        omega
      obtain ⟨n, few, passes⟩ := each t (by omega) is
      obtain ⟨m, others, goesOn⟩ := ih fun s short => each s (by omega)
      refine ⟨m + (n + 1), by omega, fun fuel brackets rest => ?_⟩
      have delimits : Delimits (ts ++ rest) := later.delimits closing
      rw [List.append_assoc, List.append_assoc, ← Nat.add_assoc, passes _ _ _ _ _ leads delimits]
      exact goesOn fuel brackets rest

theorem passed_of_token (some_length : 0 < t.length)
    (token : ∀ rest, Ends t rest → skipToken (t ++ rest) = .ok (none, rest)) : Passed t :=
  ⟨0, some_length, fun _ _ rest ends => skipLoop_scalar (token rest ends)⟩

theorem skipToken_digit (digit : c.isDigit = true) :
    skipToken (c :: rest) = (skipNumeral (c :: rest) >>= fun rest => .ok (none, rest)) := by
  rw [skipToken, skipSpacing_cons (isSpacing_of_isDigit digit)]
  split
  case h_9 same =>
    cases same
    rw [if_pos digit]
    rfl
  all_goals
    rename_i same
    cases same
  all_goals cases digit

theorem skipToken_text {m : Numeral} (wf : m.WellFormed) (ends : m.EndsBefore rest) :
    skipToken (m.text ++ rest) = .ok (none, rest) := by
  have skipped := wf.skipNumeral_body ends
  rcases sign : m.negative with _ | _
  · obtain ⟨c, ds, digit, is⟩ := wf.exists_digit
    rw [is] at skipped
    rw [Numeral.text, sign, is]
    show skipToken (c :: (ds ++ rest)) = _
    rw [skipToken_digit digit]
    show (skipNumeral (c :: ds ++ rest) >>= _) = _
    rw [skipped]
    rfl
  · rw [Numeral.text, sign]
    show (skipNumeral (m.body ++ rest) >>= _) = _
    rw [skipped]
    rfl

theorem Valid.passed (valid : Valid t) : Passed t := by
  -- by the length of the text: values inside brackets are shorter, and `induction` does not go into
  -- the entries
  generalize length : t.length = n
  induction n using Nat.strongRecOn generalizing t with
  | _ n ih =>
      cases valid with
      | null => exact passed_of_token (by decide) fun _ _ => rfl
      | true => exact passed_of_token (by decide) fun _ _ => rfl
      | false => exact passed_of_token (by decide) fun _ _ => rfl
      | @number m wf =>
          obtain ⟨c, ds, is, -, -⟩ := wf.element []
          rw [List.append_nil] at is
          refine passed_of_token (by rw [is]; exact Nat.succ_pos _) fun rest ends => ?_
          exact skipToken_text wf (ends m wf rfl)
      | @string w glyphs =>
          refine passed_of_token (Nat.succ_pos _) fun rest _ => ?_
          have skipped : skipString (w ++ '"' :: rest) = .ok rest := skipString_glyphs glyphs
          show (skipString (w ++ ['"'] ++ rest) >>= _) = _
          rw [List.append_assoc]
          show (skipString (w ++ '"' :: rest) >>= _) = _
          rw [skipped]
          rfl
      | @array count t elements =>
          rw [List.length_cons] at length
          have each : ∀ s, s.length ≤ t.length → Valid s → PassedEntry .list s :=
            fun s short valid => passedEntry_element valid (ih s.length (by omega) valid rfl)
          obtain ⟨tokens, few, passes⟩ := passed_entries .list elements each
          refine ⟨tokens, Nat.lt_succ_of_le few, fun fuel brackets rest _ => ?_⟩
          have opens : skipToken ('[' :: t ++ rest) = .ok (some .list, t ++ rest) := rfl
          rw [← Nat.add_assoc, skipLoop_opening opens]
          exact passes fuel brackets rest
      | @object count t members =>
          rw [List.length_cons] at length
          have each : ∀ s, s.length ≤ t.length → ValidMember Valid s → PassedEntry .object s :=
            fun s short is => passedEntry_member is fun r shorter valid =>
              ih r.length (by omega) valid rfl
          obtain ⟨tokens, few, passes⟩ := passed_entries .object members each
          refine ⟨tokens, Nat.lt_succ_of_le few, fun fuel brackets rest _ => ?_⟩
          have opens : skipToken ('{' :: t ++ rest) = .ok (some .object, t ++ rest) := rfl
          rw [← Nat.add_assoc, skipLoop_opening opens]
          exact passes fuel brackets rest

/-- Passing over a value ends where its text does. -/
theorem skipValue_valid (space : Spacing w) (valid : Valid t) (ends : Ends t rest) :
    skipValue (w ++ (t ++ rest)) = .ok rest := by
  obtain ⟨tokens, few, passes⟩ := valid.passed
  have enough : ∃ fuel, (w ++ (t ++ rest)).length + 1 = fuel + (tokens + 1) := by
    refine ⟨(w ++ (t ++ rest)).length - tokens, ?_⟩
    simp only [List.length_append]
    omega
  obtain ⟨fuel, enough⟩ := enough
  rw [skipValue, enough, ← Nat.add_assoc, skipLoop_append space, Nat.add_assoc,
    passes fuel [] rest ends]
  rfl

theorem Valid.rest_unique {w' t' rest' : Input} (space : Spacing w) (valid : Valid t)
    (ends : Ends t rest) (space' : Spacing w') (valid' : Valid t') (ends' : Ends t' rest')
    (same : w ++ (t ++ rest) = w' ++ (t' ++ rest')) : rest = rest' := by
  have passed := skipValue_valid space valid ends
  rw [same, skipValue_valid space' valid' ends'] at passed
  exact (Except.ok.inj passed).symm

end SeccompBootstrap.Json
