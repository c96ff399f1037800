import SeccompBootstrap.Proofs.Json.Grammar
import SeccompBootstrap.Proofs.Text.Utf8

/-!
Reading a string literal. `readString` reads exactly the spellings of a text up to the closing
quote: one step of it takes one spelling of one character, and no other character or escape lets it
go on.
-/

set_option autoImplicit false
set_option relaxedAutoImplicit false

namespace SeccompBootstrap.Json

open Text.Utf8 (toNat_ofNat)

variable {c : Char} {n : Nat} {s : String} {w cs rest : Input}

instance (n : Nat) (c : Char) : Decidable (HexDigit n c) :=
  inferInstanceAs (Decidable (_ ∨ _))

theorem HexDigit.lt {n : Nat} {c : Char} (digit : HexDigit n c) : n < 16 := by
  rcases digit with small | capital
  · exact (List.getElem?_eq_some_iff.mp small).1
  · exact (List.getElem?_eq_some_iff.mp capital).1

theorem ascii_of_hexDigit? (digit : hexDigit? c = some n) : c.toNat < 128 := by
  have bounds : c ≤ '9' ∨ c ≤ 'f' ∨ c ≤ 'F' := by
    unfold hexDigit? at digit
    split at digit
    · simp_all
    · split at digit
      · simp_all
      · split at digit <;> simp_all
  have value : c.val.toNat = c.toNat := rfl
  simp only [Char.le_def, UInt32.le_iff_toNat_le, value] at bounds
  have nine : '9'.val.toNat = 57 := rfl
  have small : 'f'.val.toNat = 102 := rfl
  have capital : 'F'.val.toNat = 70 := rfl
  omega

theorem hexDigit?_eq_some_iff : hexDigit? c = some n ↔ HexDigit n c := by
  constructor
  · intro digit
    have all : ∀ k < 128, ∀ n ∈ hexDigit? (Char.ofNat k), HexDigit n (Char.ofNat k) := by
      decide
    have here := all c.toNat (ascii_of_hexDigit? digit)
    rw [Char.ofNat_toNat] at here
    exact here n digit
  · intro digit
    have small : ∀ n < 16, smallDigits[n]?.bind hexDigit? = some n := by decide
    have capital : ∀ n < 16, capitalDigits[n]?.bind hexDigit? = some n := by decide
    rcases digit.lt, digit with ⟨bound, is | is⟩
    · have read := small n bound
      rwa [is] at read
    · have read := capital n bound
      rwa [is] at read

theorem hexUnit?_eq_some_iff {a b c d : Char} :
    hexUnit? a b c d = some n ↔ HexUnit n [a, b, c, d] := by
  constructor
  · intro unit
    simp only [hexUnit?, Option.bind_eq_bind, Option.bind_eq_some_iff, hexDigit?_eq_some_iff]
      at unit
    obtain ⟨i, first, j, second, k, third, l, fourth, same⟩ := unit
    cases same
    exact .digits first second third fourth
  · rintro ⟨first, second, third, fourth⟩
    simp only [← hexDigit?_eq_some_iff] at first second third fourth
    simp [hexUnit?, first, second, third, fourth]

theorem HexUnit.lt {ds : Input} (unit : HexUnit n ds) : n < 0x10000 := by
  obtain ⟨first, second, third, fourth⟩ := unit
  have i := first.lt
  have j := second.lt
  have k := third.lt
  have l := fourth.lt
  omega

theorem readHexUnit_eq_ok_iff :
    readHexUnit cs = .ok (n, rest) ↔ ∃ ds, HexUnit n ds ∧ cs = ds ++ rest := by
  constructor
  · intro read
    unfold readHexUnit at read
    split at read
    next a b c d after =>
      split at read
      next m unit =>
        cases read
        exact ⟨[a, b, c, d], hexUnit?_eq_some_iff.mp unit, rfl⟩
      next => cases read
    next => split at read <;> cases read
  · rintro ⟨ds, unit, rfl⟩
    obtain ⟨first, second, third, fourth⟩ := unit
    have unit := hexUnit?_eq_some_iff.mpr (.digits first second third fourth)
    simp only [readHexUnit, List.cons_append, List.nil_append, unit]

theorem isTrailingSurrogate_iff : isTrailingSurrogate n = true ↔ 0xDC00 ≤ n ∧ n ≤ 0xDFFF := by
  simp [isTrailingSurrogate]

theorem isLeadingSurrogate_iff : isLeadingSurrogate n = true ↔ 0xD800 ≤ n ∧ n ≤ 0xDBFF := by
  simp [isLeadingSurrogate]

theorem readTrailingSurrogate_append {high low : Nat} {es : Input} (trailing : HexUnit low es)
    (isTrailing : 0xDC00 ≤ low ∧ low ≤ 0xDFFF)
    (denoted : c.toNat = 0x10000 + (high - 0xD800) * 0x400 + (low - 0xDC00)) :
    readTrailingSurrogate high ('\\' :: 'u' :: es ++ rest) = .ok (c, rest) := by
  have read : readHexUnit (es ++ rest) = .ok (low, rest) :=
    readHexUnit_eq_ok_iff.mpr ⟨es, trailing, rfl⟩
  have second := isTrailingSurrogate_iff.mpr isTrailing
  have made : surrogatePair high low = c := by
    rw [surrogatePair, ← denoted, Char.ofNat_toNat]
  simp only [readTrailingSurrogate, List.cons_append, read, ok_bind, second, made, if_pos]

theorem readUnicodeEscape_unit {ds : Input} (digits : HexUnit c.toNat ds) :
    readUnicodeEscape (ds ++ rest) = .ok (c, rest) := by
  have read : readHexUnit (ds ++ rest) = .ok (c.toNat, rest) :=
    readHexUnit_eq_ok_iff.mpr ⟨ds, digits, rfl⟩
  have scalar : c.toNat < 0xD800 ∨ 0xDFFF < c.toNat ∧ c.toNat < 0x110000 := c.valid
  have second : ¬ isTrailingSurrogate c.toNat = true := by
    rw [isTrailingSurrogate_iff]
    omega
  have first : ¬ isLeadingSurrogate c.toNat = true := by
    rw [isLeadingSurrogate_iff]
    omega
  rw [readUnicodeEscape, read, ok_bind]
  dsimp only
  rw [if_neg second, if_neg first, Char.ofNat_toNat]

theorem readUnicodeEscape_pair {high low : Nat} {ds es : Input} (leading : HexUnit high ds)
    (trailing : HexUnit low es) (isLeading : 0xD800 ≤ high ∧ high ≤ 0xDBFF)
    (isTrailing : 0xDC00 ≤ low ∧ low ≤ 0xDFFF)
    (denoted : c.toNat = 0x10000 + (high - 0xD800) * 0x400 + (low - 0xDC00)) :
    readUnicodeEscape (ds ++ ('\\' :: 'u' :: es ++ rest)) = .ok (c, rest) := by
  have read : readHexUnit (ds ++ ('\\' :: 'u' :: es ++ rest)) =
      .ok (high, '\\' :: 'u' :: es ++ rest) :=
    readHexUnit_eq_ok_iff.mpr ⟨ds, leading, rfl⟩
  have second : ¬ isTrailingSurrogate high = true := by
    rw [isTrailingSurrogate_iff]
    omega
  rw [readUnicodeEscape, read, ok_bind]
  dsimp only
  rw [if_neg second, if_pos (isLeadingSurrogate_iff.mpr isLeading)]
  exact readTrailingSurrogate_append trailing isTrailing denoted

theorem exists_of_readTrailingSurrogate {high : Nat} (isLeading : 0xD800 ≤ high ∧ high ≤ 0xDBFF)
    (read : readTrailingSurrogate high cs = .ok (c, rest)) :
    ∃ low es, HexUnit low es ∧ (0xDC00 ≤ low ∧ low ≤ 0xDFFF) ∧
      c.toNat = 0x10000 + (high - 0xD800) * 0x400 + (low - 0xDC00) ∧
      cs = '\\' :: 'u' :: es ++ rest := by
  unfold readTrailingSurrogate at read
  split at read
  · cases read
  · cases read
  · obtain ⟨⟨low, after⟩, unit, ended⟩ := bind_eq_ok.mp read
    obtain ⟨es, trailing, rfl⟩ := readHexUnit_eq_ok_iff.mp unit
    dsimp only at ended
    split at ended
    next second =>
      simp only [Except.ok.injEq, Prod.mk.injEq] at ended
      obtain ⟨rfl, rfl⟩ := ended
      have isTrailing := isTrailingSurrogate_iff.mp second
      refine ⟨low, es, trailing, isTrailing, ?_, rfl⟩
      have valid : (0x10000 + (high - 0xD800) * 0x400 + (low - 0xDC00)).isValidChar := by
        right
        omega
      rw [surrogatePair, toNat_ofNat valid]
    next => cases ended
  · cases read
  · cases read

theorem exists_of_readUnicodeEscape (read : readUnicodeEscape cs = .ok (c, rest)) :
    ∃ e, Letter c ('\\' :: 'u' :: e) ∧ cs = e ++ rest := by
  obtain ⟨⟨n, after⟩, unit, ended⟩ := bind_eq_ok.mp read
  obtain ⟨ds, digits, rfl⟩ := readHexUnit_eq_ok_iff.mp unit
  dsimp only at ended
  split at ended
  next => cases ended
  next other =>
    split at ended
    next leading =>
      have isLeading := isLeadingSurrogate_iff.mp leading
      obtain ⟨low, es, trailing, isTrailing, denoted, rfl⟩ :=
        exists_of_readTrailingSurrogate isLeading ended
      exact ⟨ds ++ '\\' :: 'u' :: es, .pair digits trailing isLeading isTrailing denoted, by simp⟩
    next single =>
      cases ended
      have bound := digits.lt
      rw [isTrailingSurrogate_iff] at other
      rw [isLeadingSurrogate_iff] at single
      have valid : n.isValidChar := by
        unfold Nat.isValidChar
        omega
      exact ⟨ds, .unit (by rwa [toNat_ofNat valid]), rfl⟩

theorem plainEscape?_eq_some_iff {e : Char} :
    plainEscape? e = some c ↔ (e, c) ∈ shortEscapes := by
  constructor
  · intro escape
    unfold plainEscape? at escape
    split at escape <;> cases escape <;> decide
  · intro escape
    have all : ∀ pair ∈ shortEscapes, plainEscape? pair.1 = some pair.2 := by decide
    exact all _ escape

theorem readEscape_short {e : Char} (escape : (e, c) ∈ shortEscapes) :
    readEscape (e :: rest) = .ok (c, rest) := by
  have made := plainEscape?_eq_some_iff.mpr escape
  have other : e ≠ 'u' := by
    rintro rfl
    cases made
  simp only [readEscape, made]

theorem exists_of_readEscape (read : readEscape cs = .ok (c, rest)) :
    ∃ e, Letter c ('\\' :: e) ∧ cs = e ++ rest := by
  unfold readEscape at read
  split at read
  · cases read
  · obtain ⟨e, letter, rfl⟩ := exists_of_readUnicodeEscape read
    exact ⟨'u' :: e, letter, rfl⟩
  next e after other =>
    split at read
    next escape =>
      cases read
      exact ⟨[e], .short (plainEscape?_eq_some_iff.mp escape), rfl⟩
    next => cases read

theorem Letter.length_pos (letter : Letter c w) : 0 < w.length := by
  cases letter <;> simp

theorem stringLoop_letter (letter : Letter c w) (fuel : Nat) (read : List Char) :
    stringLoop (fuel + 1) read (w ++ rest) = stringLoop fuel (c :: read) rest := by
  cases letter with
  | plain visible noQuote noBackslash =>
      have shown : isControl c = false := by
        simpa [isControl] using visible
      simp [stringLoop, shown]
  | short escape =>
      simp only [List.cons_append, List.nil_append, stringLoop, readEscape_short escape, ok_bind]
  | @unit ds digits =>
      have step : readUnicodeEscape (ds ++ rest) = .ok (c, rest) := readUnicodeEscape_unit digits
      simp only [List.cons_append, stringLoop, readEscape, step, ok_bind]
  | @pair _ _ ds es leading trailing isLeading isTrailing denoted =>
      have step : readUnicodeEscape (ds ++ ('\\' :: 'u' :: (es ++ rest))) = .ok (c, rest) :=
        readUnicodeEscape_pair leading trailing isLeading isTrailing denoted
      simp only [List.cons_append, List.append_assoc, stringLoop, readEscape, step, ok_bind]

theorem stringLoop_letters {chars : List Char} (letters : Letters chars w)
    {fuel : Nat} (enough : w.length < fuel) (read : List Char) :
    stringLoop fuel read (w ++ '"' :: rest) =
      .ok (String.ofList (read.reverse ++ chars), rest) := by
  induction letters generalizing fuel read with
  | nil =>
      obtain ⟨fuel, rfl⟩ := Nat.exists_eq_add_one_of_ne_zero (Nat.ne_of_gt enough)
      simp [stringLoop]
  | cons first more ih =>
      have some_length := first.length_pos
      rw [List.length_append] at enough
      obtain ⟨fuel, rfl⟩ := Nat.exists_eq_add_one_of_ne_zero (Nat.ne_of_gt (by omega : 0 < fuel))
      rw [List.append_assoc, stringLoop_letter first, ih (by omega)]
      simp

theorem step_of_stringLoop {fuel : Nat} {read : List Char}
    (ended : stringLoop (fuel + 1) read cs = .ok (s, rest)) :
    (cs = '"' :: rest ∧ s = String.ofList read.reverse) ∨
      ∃ c w after, Letter c w ∧ cs = w ++ after ∧
        stringLoop fuel (c :: read) after = .ok (s, rest) := by
  unfold stringLoop at ended
  split at ended
  next => cases ended
  next after =>
    cases ended
    exact Or.inl ⟨rfl, rfl⟩
  next after =>
    obtain ⟨⟨c, left⟩, escape, later⟩ := bind_eq_ok.mp ended
    obtain ⟨e, letter, rfl⟩ := exists_of_readEscape escape
    exact Or.inr ⟨c, '\\' :: e, left, letter, rfl, later⟩
  next c after noQuote noBackslash =>
    split at ended
    next => cases ended
    next shown =>
      have visible : 0x20 ≤ c.toNat := by
        simpa [isControl] using shown
      exact Or.inr ⟨c, [c], after, .plain visible noQuote noBackslash, rfl, ended⟩

theorem exists_of_stringLoop {fuel : Nat} {read : List Char}
    (ended : stringLoop fuel read cs = .ok (s, rest)) :
    ∃ chars w, Letters chars w ∧ cs = w ++ '"' :: rest ∧
      s = String.ofList (read.reverse ++ chars) := by
  induction fuel generalizing cs read with
  | zero => cases ended
  | succ fuel ih =>
      rcases step_of_stringLoop ended with ⟨rfl, rfl⟩ | ⟨c, w, after, letter, rfl, later⟩
      · exact ⟨[], [], .nil, rfl, by rw [List.append_nil]⟩
      · obtain ⟨chars, ws, letters, rfl, rfl⟩ := ih later
        exact ⟨c :: chars, w ++ ws, .cons letter letters, by simp, by simp⟩

/-- A literal is read exactly as the text that its characters spell up to the closing quote. -/
theorem readString_eq_ok_iff :
    readString cs = .ok (s, rest) ↔ ∃ w, Letters s.toList w ∧ cs = w ++ '"' :: rest := by
  constructor
  · intro read
    obtain ⟨chars, w, letters, same, rfl⟩ := exists_of_stringLoop read
    refine ⟨w, ?_, same⟩
    simpa using letters
  · rintro ⟨w, letters, rfl⟩
    have enough : w.length < (w ++ '"' :: rest).length + 1 := by
      simp only [List.length_append]
      omega
    rw [readString, stringLoop_letters letters enough]
    simp

def isPlain (c : Char) : Bool :=
  !isControl c && c ≠ '"' && c ≠ '\\'

theorem Letters.of_plain {chars : List Char} (plain : chars.all isPlain = true) :
    Letters chars chars := by
  induction chars with
  | nil => exact .nil
  | cons c chars ih =>
      rw [List.all_cons, Bool.and_eq_true] at plain
      obtain ⟨here, later⟩ := plain
      simp only [isPlain, isControl, Bool.and_eq_true, Bool.not_eq_true', decide_eq_false_iff_not,
        decide_eq_true_eq, Nat.not_lt] at here
      obtain ⟨⟨visible, noQuote⟩, noBackslash⟩ := here
      exact .cons (.plain visible noQuote noBackslash) (ih later)

theorem exists_hexUnit {n : Nat} (bound : n < 0x10000) : ∃ ds, HexUnit n ds := by
  have digit (k : Nat) (bound : k < 16) : ∃ c, HexDigit k c := by
    have short : k < smallDigits.length := bound
    exact ⟨smallDigits[k], Or.inl (List.getElem?_eq_getElem short)⟩
  obtain ⟨a, first⟩ := digit (n / 16 / 16 / 16) (by omega)
  obtain ⟨b, second⟩ := digit (n / 16 / 16 % 16) (by omega)
  obtain ⟨c, third⟩ := digit (n / 16 % 16) (by omega)
  obtain ⟨d, fourth⟩ := digit (n % 16) (by omega)
  have unit := HexUnit.digits first second third fourth
  have same :
      ((n / 16 / 16 / 16 * 16 + n / 16 / 16 % 16) * 16 + n / 16 % 16) * 16 + n % 16 = n := by
    omega
  rw [same] at unit
  exact ⟨[a, b, c, d], unit⟩

theorem exists_letter (c : Char) : ∃ w, Letter c w := by
  by_cases visible : 0x20 ≤ c.toNat
  · by_cases quote : c = '"'
    · exact ⟨_, .short (e := '"') (by rw [quote]; decide)⟩
    by_cases backslash : c = '\\'
    · exact ⟨_, .short (e := '\\') (by rw [backslash]; decide)⟩
    exact ⟨_, .plain visible quote backslash⟩
  · obtain ⟨ds, digits⟩ := exists_hexUnit (n := c.toNat) (by omega)
    exact ⟨_, .unit digits⟩

theorem exists_letters (chars : List Char) : ∃ w, Letters chars w := by
  induction chars with
  | nil => exact ⟨[], .nil⟩
  | cons c chars ih =>
      obtain ⟨w, letter⟩ := exists_letter c
      obtain ⟨ws, letters⟩ := ih
      exact ⟨w ++ ws, .cons letter letters⟩

theorem Letters.append {chars more : List Char} {v : Input} (letters : Letters chars w)
    (others : Letters more v) : Letters (chars ++ more) (w ++ v) := by
  induction letters with
  | nil => exact others
  | cons first rest ih =>
      rw [List.append_assoc]
      exact .cons first ih

theorem Glyphs.append (glyphs : Glyphs w) (more : Glyphs cs) : Glyphs (w ++ cs) := by
  induction glyphs with
  | nil => exact more
  | cons first rest ih =>
      rw [List.append_assoc]
      exact .cons first ih

theorem Glyph.glyphs (glyph : Glyph w) : Glyphs w := by
  have single := Glyphs.cons glyph .nil
  rwa [List.append_nil] at single

theorem Letter.glyphs (letter : Letter c w) : Glyphs w := by
  cases letter with
  | plain visible noQuote noBackslash => exact (Glyph.plain visible noQuote noBackslash).glyphs
  | short escape => exact (Glyph.short escape).glyphs
  | unit digits => exact (Glyph.unit digits).glyphs
  | pair leading trailing => exact .cons (.unit leading) (Glyph.unit trailing).glyphs

theorem Letters.glyphs {chars : List Char} (letters : Letters chars w) : Glyphs w := by
  induction letters with
  | nil => exact .nil
  | cons first rest ih => exact first.glyphs.append ih

end SeccompBootstrap.Json
