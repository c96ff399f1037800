import Mathlib.Tactic.IntervalCases
import SeccompBootstrap.Text.Characters

/-!
Texts survive their UTF-8 form. Reading the bytes of a text gives its characters back, whatever
follows them, so both ways of decoding undo the encoding. Bytes that are read as a text without an
ill-formed unit are the bytes of that text. An ASCII character is one byte, which occurs in no other
character, so the bytes of a text are searched and cut at it just as the text itself.
-/

set_option autoImplicit false
set_option relaxedAutoImplicit false

namespace SeccompBootstrap.Text.Utf8

def trailing (q : Nat) : UInt8 := .ofNat (q + 0x80)

private theorem trailing_bits {q : Nat} (bound : q < 0x40) : (trailing q).toNat % 0x40 = q := by
  have value : (trailing q).toNat = (q + 0x80) % 2 ^ 8 := UInt8.toNat_ofNat'
  omega

private theorem admits_trailing {q : Nat} (bound : q < 0x40) (bounds : Bounds) :
    bounds.admits (trailing q) = true ↔
      bounds.low.toNat ≤ q + 0x80 ∧ q + 0x80 ≤ bounds.high.toNat := by
  have value : (trailing q).toNat = (q + 0x80) % 2 ^ 8 := UInt8.toNat_ofNat'
  have small : (trailing q).toNat = q + 0x80 := by omega
  simp [Bounds.admits, UInt8.le_iff_toNat_le, small]

private theorem continuation_trailing {q acc : Nat} {bound : Bounds} (small : q < 0x40)
    (low : bound.low.toNat ≤ q + 0x80) (high : q + 0x80 ≤ bound.high.toNat)
    (bounds : List Bounds) (bs : List UInt8) :
    continuation (bound :: bounds) acc (trailing q :: bs) =
      continuation bounds (acc * 0x40 + q) bs := by
  have admitted := (admits_trailing small bound).mpr ⟨low, high⟩
  rw [continuation, if_pos admitted, trailing_bits small]

private theorem continuation_tail {q acc : Nat} (small : q < 0x40) (bounds : List Bounds)
    (bs : List UInt8) :
    continuation (tail :: bounds) acc (trailing q :: bs) =
      continuation bounds (acc * 0x40 + q) bs :=
  continuation_trailing small (by simp [tail]) (by simp [tail]; omega) bounds bs

/-- The bounds of the second byte of three, given the bits of the first. -/
private def secondOfThree (q : Nat) : Bounds :=
  if q = 0 then ⟨0xA0, 0xBF⟩ else if q = 13 then ⟨0x80, 0x9F⟩ else tail

/-- The bounds of the second byte of four, given the bits of the first. -/
private def secondOfFour (q : Nat) : Bounds :=
  if q = 0 then ⟨0x90, 0xBF⟩ else if q = 4 then ⟨0x80, 0x8F⟩ else tail

private theorem lead_one {v : Nat} (bound : v ≤ 0x7F) :
    followers (.ofNat v) = some [] ∧ leadBits (.ofNat v) = v := by
  have value : (UInt8.ofNat v).toNat = v % 2 ^ 8 := UInt8.toNat_ofNat'
  have small : (UInt8.ofNat v).toNat = v := by omega
  have leads : UInt8.ofNat v ≤ 0x7F := by
    rw [UInt8.le_iff_toNat_le, small]
    exact bound
  exact ⟨if_pos leads, (if_pos leads).trans small⟩

private theorem lead_two {q : Nat} (low : 2 ≤ q) (high : q < 0x20) :
    followers (.ofNat (q + 0xC0)) = some [tail] ∧ leadBits (.ofNat (q + 0xC0)) = q := by
  interval_cases q <;> exact ⟨rfl, rfl⟩

private theorem lead_three {q : Nat} (high : q < 0x10) :
    followers (.ofNat (q + 0xE0)) = some [secondOfThree q, tail] ∧
      leadBits (.ofNat (q + 0xE0)) = q := by
  interval_cases q <;> exact ⟨rfl, rfl⟩

private theorem lead_four {q : Nat} (high : q ≤ 4) :
    followers (.ofNat (q + 0xF0)) = some [secondOfFour q, tail, tail] ∧
      leadBits (.ofNat (q + 0xF0)) = q := by
  interval_cases q <;> exact ⟨rfl, rfl⟩

variable {v : Nat} (rest : List UInt8)

private theorem unit_of_lead {b : UInt8} {bounds : List Bounds} {bs : List UInt8}
    (follows : followers b = some bounds)
    (continues : continuation bounds (leadBits b) bs = (some v, rest)) :
    unit b bs = (some (Char.ofNat v), rest) := by
  simp [unit, follows, continues]

private theorem unit_one (high : v ≤ 0x7F) :
    unit (.ofNat v) rest = (some (Char.ofNat v), rest) := by
  obtain ⟨follows, bits⟩ := lead_one high
  refine unit_of_lead rest follows ?_
  rw [bits]
  rfl

private theorem unit_two (low : 0x80 ≤ v) (high : v ≤ 0x7FF) :
    unit (.ofNat (v / 0x40 + 0xC0)) (trailing (v % 0x40) :: rest) =
      (some (Char.ofNat v), rest) := by
  obtain ⟨follows, bits⟩ := lead_two (q := v / 0x40) (by omega) (by omega)
  refine unit_of_lead rest follows ?_
  have joined : v / 0x40 * 0x40 + v % 0x40 = v := by omega
  rw [bits, continuation_tail (by omega), joined]
  rfl

private theorem unit_three (low : 0x800 ≤ v) (high : v ≤ 0xFFFF)
    (scalar : v < 0xD800 ∨ 0xDFFF < v) :
    unit (.ofNat (v / 0x1000 + 0xE0)) (trailing (v / 0x40 % 0x40) :: trailing (v % 0x40) :: rest) =
      (some (Char.ofNat v), rest) := by
  obtain ⟨follows, bits⟩ := lead_three (q := v / 0x1000) (by omega)
  refine unit_of_lead rest follows ?_
  -- the bounds leave out overlong forms and surrogates, which no character has
  have admitted : (secondOfThree (v / 0x1000)).low.toNat ≤ v / 0x40 % 0x40 + 0x80 ∧
      v / 0x40 % 0x40 + 0x80 ≤ (secondOfThree (v / 0x1000)).high.toNat := by
    unfold secondOfThree
    split
    · simp
      omega
    · split
      · simp
        omega
      · simp [tail]
        omega
  have joined : (v / 0x1000 * 0x40 + v / 0x40 % 0x40) * 0x40 + v % 0x40 = v := by omega
  rw [bits, continuation_trailing (by omega) admitted.1 admitted.2, continuation_tail (by omega),
    joined]
  rfl

private theorem unit_four (low : 0x10000 ≤ v) (high : v ≤ 0x10FFFF) :
    unit (.ofNat (v / 0x40000 + 0xF0))
        (trailing (v / 0x1000 % 0x40) :: trailing (v / 0x40 % 0x40) :: trailing (v % 0x40) ::
          rest) =
      (some (Char.ofNat v), rest) := by
  obtain ⟨follows, bits⟩ := lead_four (q := v / 0x40000) (by omega)
  refine unit_of_lead rest follows ?_
  have admitted : (secondOfFour (v / 0x40000)).low.toNat ≤ v / 0x1000 % 0x40 + 0x80 ∧
      v / 0x1000 % 0x40 + 0x80 ≤ (secondOfFour (v / 0x40000)).high.toNat := by
    unfold secondOfFour
    split
    · simp
      omega
    · split
      · simp
        omega
      · simp [tail]
        omega
  have joined :
      ((v / 0x40000 * 0x40 + v / 0x1000 % 0x40) * 0x40 + v / 0x40 % 0x40) * 0x40 + v % 0x40 =
        v := by
    omega
  rw [bits, continuation_trailing (by omega) admitted.1 admitted.2, continuation_tail (by omega),
    continuation_tail (by omega), joined]
  rfl

section Encoding

variable {c : Char}

private theorem utf8EncodeChar_one (high : c.toNat ≤ 0x7F) :
    String.utf8EncodeChar c = [.ofNat c.toNat] :=
  if_pos high

private theorem utf8EncodeChar_two (low : 0x80 ≤ c.toNat) (high : c.toNat ≤ 0x7FF) :
    String.utf8EncodeChar c = [.ofNat (c.toNat / 0x40 + 0xC0), trailing (c.toNat % 0x40)] := by
  have value : c.val.toNat = c.toNat := rfl
  have one : ¬ c.toNat ≤ 0x7F := by omega
  have lead : c.toNat / 0x40 % 0x20 = c.toNat / 0x40 := by omega
  simp only [String.utf8EncodeChar, value, one, high, if_true, if_false, lead, trailing]

private theorem utf8EncodeChar_three (low : 0x800 ≤ c.toNat) (high : c.toNat ≤ 0xFFFF) :
    String.utf8EncodeChar c =
      [.ofNat (c.toNat / 0x1000 + 0xE0), trailing (c.toNat / 0x40 % 0x40),
        trailing (c.toNat % 0x40)] := by
  have value : c.val.toNat = c.toNat := rfl
  have one : ¬ c.toNat ≤ 0x7F := by omega
  have two : ¬ c.toNat ≤ 0x7FF := by omega
  have lead : c.toNat / 0x1000 % 0x10 = c.toNat / 0x1000 := by omega
  simp only [String.utf8EncodeChar, value, one, two, high, if_true, if_false, lead, trailing]

private theorem utf8EncodeChar_four (low : 0x10000 ≤ c.toNat) (high : c.toNat ≤ 0x10FFFF) :
    String.utf8EncodeChar c =
      [.ofNat (c.toNat / 0x40000 + 0xF0), trailing (c.toNat / 0x1000 % 0x40),
        trailing (c.toNat / 0x40 % 0x40), trailing (c.toNat % 0x40)] := by
  have value : c.val.toNat = c.toNat := rfl
  have one : ¬ c.toNat ≤ 0x7F := by omega
  have two : ¬ c.toNat ≤ 0x7FF := by omega
  have three : ¬ c.toNat ≤ 0xFFFF := by omega
  have lead : c.toNat / 0x40000 % 0x08 = c.toNat / 0x40000 := by omega
  simp only [String.utf8EncodeChar, value, one, two, three, if_false, lead, trailing]

end Encoding

/-- The bytes of a character are one unit, whatever follows them. -/
theorem unit_encodeChar (c : Char) :
    ∃ b bs, String.utf8EncodeChar c = b :: bs ∧ unit b (bs ++ rest) = (some c, rest) := by
  have scalar : c.toNat < 0xD800 ∨ 0xDFFF < c.toNat ∧ c.toNat < 0x110000 := c.valid
  have back : Char.ofNat c.toNat = c := Char.ofNat_toNat c
  by_cases one : c.toNat ≤ 0x7F
  · refine ⟨_, _, utf8EncodeChar_one one, ?_⟩
    rw [List.nil_append, unit_one rest one, back]
  · by_cases two : c.toNat ≤ 0x7FF
    · refine ⟨_, _, utf8EncodeChar_two (by omega) two, ?_⟩
      rw [List.singleton_append, unit_two rest (by omega) two, back]
    · by_cases three : c.toNat ≤ 0xFFFF
      · refine ⟨_, _, utf8EncodeChar_three (by omega) three, ?_⟩
        rw [List.cons_append, List.singleton_append,
          unit_three rest (by omega) three (by omega), back]
      · refine ⟨_, _, utf8EncodeChar_four (by omega) (by omega), ?_⟩
        rw [List.cons_append, List.cons_append, List.singleton_append,
          unit_four rest (by omega) (by omega), back]

/-- The leading bytes by the bits that they carry, with the bounds of what must follow. -/
private inductive Lead (b : UInt8) : List Bounds → Prop
  | one (high : b.toNat ≤ 0x7F) : Lead b []
  | two {q : Nat} (value : b.toNat = q + 0xC0) (low : 2 ≤ q) (high : q < 0x20) : Lead b [tail]
  | three {q : Nat} (value : b.toNat = q + 0xE0) (high : q < 0x10) : Lead b [secondOfThree q, tail]
  | four {q : Nat} (value : b.toNat = q + 0xF0) (high : q ≤ 4) :
      Lead b [secondOfFour q, tail, tail]

private theorem lead_of_followers {b : UInt8} {bounds : List Bounds}
    (follows : followers b = some bounds) : Lead b bounds := by
  unfold followers at follows
  simp only [← UInt8.toNat_inj, UInt8.le_iff_toNat_le, Bool.and_eq_true, decide_eq_true_eq,
    UInt8.reduceToNat] at follows
  split at follows
  next high =>
    cases follows
    exact .one high
  split at follows
  next range =>
    cases follows
    exact .two (q := b.toNat - 0xC0) (by omega) (by omega) (by omega)
  split at follows
  next overlong =>
    cases follows
    exact .three (q := 0) (by omega) (by decide)
  split at follows
  next surrogates =>
    cases follows
    exact .three (q := 13) (by omega) (by decide)
  split at follows
  next range =>
    cases follows
    have second : secondOfThree (b.toNat - 0xE0) = tail := by
      rw [secondOfThree, if_neg (by omega), if_neg (by omega)]
    have lead : Lead b [secondOfThree (b.toNat - 0xE0), tail] := .three (by omega) (by omega)
    rwa [second] at lead
  split at follows
  next overlong =>
    cases follows
    exact .four (q := 0) (by omega) (by decide)
  split at follows
  next range =>
    cases follows
    have second : secondOfFour (b.toNat - 0xF0) = tail := by
      rw [secondOfFour, if_neg (by omega), if_neg (by omega)]
    have lead : Lead b [secondOfFour (b.toNat - 0xF0), tail, tail] := .four (by omega) (by omega)
    rwa [second] at lead
  split at follows
  next last =>
    cases follows
    exact .four (q := 4) (by omega) (by decide)
  next => cases follows

private theorem eq_ofNat {b : UInt8} {n : Nat} (value : b.toNat = n) : b = .ofNat n := by
  rw [← value, UInt8.ofNat_toNat]

private theorem exists_of_continuation {acc : Nat} {bound : Bounds} {bounds : List Bounds}
    {bs : List UInt8} (trails : 0x80 ≤ bound.low.toNat ∧ bound.high.toNat ≤ 0xBF)
    (read : continuation (bound :: bounds) acc bs = (some v, rest)) :
    ∃ q more, bs = trailing q :: more ∧
      bound.low.toNat ≤ q + 0x80 ∧ q + 0x80 ≤ bound.high.toNat ∧
      continuation bounds (acc * 0x40 + q) more = (some v, rest) := by
  rcases bs with _ | ⟨x, more⟩
  · cases read
  rw [continuation] at read
  split at read
  next admitted =>
    have range : bound.low.toNat ≤ x.toNat ∧ x.toNat ≤ bound.high.toNat := by
      simpa [Bounds.admits, UInt8.le_iff_toNat_le] using admitted
    have form : x = trailing (x.toNat - 0x80) := eq_ofNat (by omega)
    have bits : x.toNat % 0x40 = x.toNat - 0x80 := by omega
    rw [bits] at read
    refine ⟨x.toNat - 0x80, more, ?_, by omega, by omega, read⟩
    rw [← form]
  next => cases read

private theorem exists_of_continuation_tail {acc : Nat} {bounds : List Bounds} {bs : List UInt8}
    (read : continuation (tail :: bounds) acc bs = (some v, rest)) :
    ∃ q more, bs = trailing q :: more ∧ q < 0x40 ∧
      continuation bounds (acc * 0x40 + q) more = (some v, rest) := by
  obtain ⟨q, more, rfl, -, high, next⟩ := exists_of_continuation rest ⟨by decide, by decide⟩ read
  have high : q + 0x80 ≤ 0xBF := high
  exact ⟨q, more, rfl, by omega, next⟩

theorem toNat_ofNat (valid : v.isValidChar) : (Char.ofNat v).toNat = v := by
  rw [Char.ofNat, dif_pos valid]
  rfl

private theorem bounds_secondOfThree (q : Nat) :
    (0x80 ≤ (secondOfThree q).low.toNat ∧ (secondOfThree q).high.toNat ≤ 0xBF) ∧
      (q = 0 → (secondOfThree q).low.toNat = 0xA0) ∧
      (q = 13 → (secondOfThree q).high.toNat = 0x9F) := by
  refine ⟨?_, ?_, ?_⟩
  · unfold secondOfThree
    split
    · decide
    · split <;> decide
  · rintro rfl
    rfl
  · rintro rfl
    rfl

private theorem bounds_secondOfFour (q : Nat) :
    (0x80 ≤ (secondOfFour q).low.toNat ∧ (secondOfFour q).high.toNat ≤ 0xBF) ∧
      (q = 0 → (secondOfFour q).low.toNat = 0x90) ∧
      (q = 4 → (secondOfFour q).high.toNat = 0x8F) := by
  refine ⟨?_, ?_, ?_⟩
  · unfold secondOfFour
    split
    · decide
    · split <;> decide
  · rintro rfl
    rfl
  · rintro rfl
    rfl

private theorem Lead.eq_encodeChar_append {b : UInt8} {bounds : List Bounds} {bs : List UInt8}
    (lead : Lead b bounds) (read : continuation bounds (leadBits b) bs = (some v, rest)) :
    b :: bs = String.utf8EncodeChar (Char.ofNat v) ++ rest := by
  cases lead with
  | one high =>
      obtain ⟨u, lead⟩ : ∃ u, b.toNat = u := ⟨_, rfl⟩
      obtain rfl := eq_ofNat lead
      rw [lead] at high
      rw [(lead_one high).2] at read
      obtain ⟨rfl, rfl⟩ : u = v ∧ bs = rest := by simpa [continuation] using read
      have value : (Char.ofNat u).toNat = u := toNat_ofNat (Or.inl (by omega))
      rw [utf8EncodeChar_one (by omega), value, List.singleton_append]
  | @two q lead low high =>
      obtain rfl := eq_ofNat lead
      rw [(lead_two low high).2] at read
      obtain ⟨r, more, rfl, small, read⟩ := exists_of_continuation_tail rest read
      obtain ⟨rfl, rfl⟩ : q * 0x40 + r = v ∧ more = rest := by simpa [continuation] using read
      have value : (Char.ofNat (q * 0x40 + r)).toNat = q * 0x40 + r :=
        toNat_ofNat (Or.inl (by omega))
      have first : (q * 0x40 + r) / 0x40 = q := by omega
      have second : (q * 0x40 + r) % 0x40 = r := by omega
      rw [utf8EncodeChar_two (by omega) (by omega), value, first, second]
      rfl
  | @three q lead high =>
      obtain rfl := eq_ofNat lead
      rw [(lead_three high).2] at read
      obtain ⟨range, long, before⟩ := bounds_secondOfThree q
      obtain ⟨r, more, rfl, low, top, read⟩ := exists_of_continuation rest range read
      obtain ⟨t, more, rfl, small, read⟩ := exists_of_continuation_tail rest read
      obtain ⟨rfl, rfl⟩ : (q * 0x40 + r) * 0x40 + t = v ∧ more = rest := by
        simpa [continuation] using read
      have valid : ((q * 0x40 + r) * 0x40 + t).isValidChar := by
        unfold Nat.isValidChar
        omega
      have value := toNat_ofNat valid
      have first : ((q * 0x40 + r) * 0x40 + t) / 0x1000 = q := by omega
      have second : ((q * 0x40 + r) * 0x40 + t) / 0x40 % 0x40 = r := by omega
      have third : ((q * 0x40 + r) * 0x40 + t) % 0x40 = t := by omega
      rw [utf8EncodeChar_three (by omega) (by omega), value, first, second, third]
      rfl
  | @four q lead high =>
      obtain rfl := eq_ofNat lead
      rw [(lead_four high).2] at read
      obtain ⟨range, long, inside⟩ := bounds_secondOfFour q
      obtain ⟨r, more, rfl, low, top, read⟩ := exists_of_continuation rest range read
      obtain ⟨t, more, rfl, small, read⟩ := exists_of_continuation_tail rest read
      obtain ⟨u, more, rfl, least, read⟩ := exists_of_continuation_tail rest read
      obtain ⟨rfl, rfl⟩ : ((q * 0x40 + r) * 0x40 + t) * 0x40 + u = v ∧ more = rest := by
        simpa [continuation] using read
      have valid : (((q * 0x40 + r) * 0x40 + t) * 0x40 + u).isValidChar := by
        unfold Nat.isValidChar
        omega
      have value := toNat_ofNat valid
      have first : (((q * 0x40 + r) * 0x40 + t) * 0x40 + u) / 0x40000 = q := by omega
      have second : (((q * 0x40 + r) * 0x40 + t) * 0x40 + u) / 0x1000 % 0x40 = r := by omega
      have third : (((q * 0x40 + r) * 0x40 + t) * 0x40 + u) / 0x40 % 0x40 = t := by omega
      have fourth : (((q * 0x40 + r) * 0x40 + t) * 0x40 + u) % 0x40 = u := by omega
      rw [utf8EncodeChar_four (by omega) (by omega), value, first, second, third, fourth]
      rfl

/-- A unit that is a character consists of that character's bytes. -/
theorem eq_encodeChar_append_of_unit {b : UInt8} {bs : List UInt8} {c : Char}
    (read : unit b bs = (some c, rest)) : b :: bs = String.utf8EncodeChar c ++ rest := by
  unfold unit at read
  rcases follows : followers b with _ | bounds
  · simp [follows] at read
  simp only [follows] at read
  rcases continues : continuation bounds (leadBits b) bs with ⟨_ | v, left⟩
  · simp [continues] at read
  obtain ⟨rfl, rfl⟩ : Char.ofNat v = c ∧ left = rest := by simpa [continues] using read
  exact (lead_of_followers follows).eq_encodeChar_append left continues

theorem units_encode_append (cs : List Char) (rest : List UInt8) :
    units (encode cs ++ rest) = cs.map some ++ units rest := by
  induction cs with
  | nil => rfl
  | cons c cs ih =>
      obtain ⟨b, bs, encoded, read⟩ := unit_encodeChar (encode cs ++ rest) c
      have split : encode (c :: cs) ++ rest = b :: (bs ++ (encode cs ++ rest)) := by
        simp [encode, encoded]
      rw [split, units, read, ih]
      rfl

theorem units_encode (cs : List Char) : units (encode cs) = cs.map some := by
  simpa [units] using units_encode_append cs []

theorem decodeLossyChars_encode (cs : List Char) : decodeLossyChars (encode cs) = cs := by
  simp [decodeLossyChars, units_encode]

private theorem mapM_id_eq_some_iff {found : List (Option Char)} {cs : List Char} :
    found.mapM id = some cs ↔ found = cs.map some := by
  induction found generalizing cs with
  | nil => cases cs <;> simp
  | cons first later ih =>
      cases cs with
      | nil => simp [List.mapM_cons, Option.bind_eq_some_iff]
      | cons c cs => simp [List.mapM_cons, Option.bind_eq_some_iff, ← ih]

theorem decodeChars?_encode (cs : List Char) : decodeChars? (encode cs) = some cs :=
  mapM_id_eq_some_iff.mpr (units_encode cs)

@[simp] theorem decodeLossy_bytes (s : String) : decodeLossy (bytes s) = s := by
  rw [decodeLossy, bytes, decodeLossyChars_encode, String.ofList_toList]

@[simp] theorem decode?_bytes (s : String) : decode? (bytes s) = some s := by
  rw [decode?, bytes, decodeChars?_encode, Option.map_some, String.ofList_toList]

theorem eq_encode_of_units {bs : List UInt8} {cs : List Char} (read : units bs = cs.map some) :
    bs = encode cs := by
  induction cs generalizing bs with
  | nil =>
      rcases bs with _ | ⟨b, bs⟩
      · rfl
      · simp [units] at read
  | cons c cs ih =>
      rcases bs with _ | ⟨b, bs⟩
      · simp [units] at read
      rw [units, List.map_cons, List.cons.injEq] at read
      obtain ⟨first, later⟩ := read
      have char : unit b bs = (some c, (unit b bs).2) := by rw [← first]
      rw [eq_encodeChar_append_of_unit _ char, ih later]
      simp [encode]

theorem exists_of_encode_append {ps cs : List Char} {rest : List UInt8}
    (same : encode ps ++ rest = encode cs) : ∃ ds, cs = ps ++ ds ∧ rest = encode ds := by
  have split := units_encode_append ps rest
  rw [same, units_encode] at split
  obtain ⟨qs, ds, rfl, front, back⟩ := List.map_eq_append_iff.mp split
  obtain rfl := (List.map_inj_right fun _ _ => Option.some.inj).mp front
  exact ⟨ds, rfl, eq_encode_of_units back.symm⟩

theorem decodeChars?_eq_some_iff {bs : List UInt8} {cs : List Char} :
    decodeChars? bs = some cs ↔ bs = encode cs := by
  constructor
  · intro read
    exact eq_encode_of_units (mapM_id_eq_some_iff.mp read)
  · rintro rfl
    exact decodeChars?_encode cs

theorem decode?_eq_some_iff {bs : List UInt8} {s : String} :
    decode? bs = some s ↔ bs = bytes s := by
  constructor
  · intro read
    obtain ⟨cs, chars, rfl⟩ := Option.map_eq_some_iff.mp read
    rw [bytes, String.toList_ofList, decodeChars?_eq_some_iff.mp chars]
  · rintro rfl
    exact decode?_bytes s

theorem head?_of_head?_encode {cs : List Char} {b : UInt8} (ascii : b ≤ 0x7F)
    (first : (encode cs).head? = some b) : cs.head? = some (Char.ofNat b.toNat) := by
  rcases cs with _ | ⟨c, cs⟩
  · simp [encode] at first
  · obtain ⟨lead, bs, encoded, read⟩ := unit_encodeChar (encode cs) c
    have begins : (encode (c :: cs)).head? = some lead := by
      simp [encode, encoded]
    obtain rfl : lead = b := Option.some.inj (begins.symm.trans first)
    have follows : followers lead = some [] := if_pos ascii
    have bits : leadBits lead = lead.toNat := if_pos ascii
    have unit_eq : unit lead (bs ++ encode cs) =
        (some (Char.ofNat lead.toNat), bs ++ encode cs) :=
      unit_of_lead _ follows (by rw [bits]; rfl)
    rw [unit_eq] at read
    exact (congrArg Prod.fst read).symm

@[simp] theorem encode_nil : encode [] = [] := rfl

@[simp] theorem encode_append (cs ds : List Char) : encode (cs ++ ds) = encode cs ++ encode ds :=
  List.flatMap_append

theorem encode_cons (c : Char) (cs : List Char) :
    encode (c :: cs) = String.utf8EncodeChar c ++ encode cs := rfl

@[simp] theorem bytes_append (s t : String) : bytes (s ++ t) = bytes s ++ bytes t := by
  simp [bytes]

theorem encode_injective {cs ds : List Char} (same : encode cs = encode ds) : cs = ds := by
  rw [← decodeLossyChars_encode cs, same, decodeLossyChars_encode]

theorem bytes_injective {s t : String} (same : bytes s = bytes t) : s = t := by
  rw [← decodeLossy_bytes s, same, decodeLossy_bytes]

def asciiByte (c : Char) : UInt8 := .ofNat c.toNat

variable {a c : Char} {cs : List Char}

theorem utf8EncodeChar_of_ascii (ascii : c.toNat ≤ 0x7F) :
    String.utf8EncodeChar c = [asciiByte c] :=
  if_pos ascii

theorem lt_toNat_of_mem (beyond : 0x7F < c.toNat) {b : UInt8}
    (member : b ∈ String.utf8EncodeChar c) : 0x7F < b.toNat := by
  have value : c.val.toNat = c.toNat := rfl
  unfold String.utf8EncodeChar at member
  simp only [value, if_neg (Nat.not_le.mpr beyond)] at member
  split at member
  · simp only [List.mem_cons, List.not_mem_nil, or_false] at member
    rcases member with rfl | rfl <;> rw [UInt8.toNat_ofNat'] <;> omega
  · split at member
    · simp only [List.mem_cons, List.not_mem_nil, or_false] at member
      rcases member with rfl | rfl | rfl <;> rw [UInt8.toNat_ofNat'] <;> omega
    · simp only [List.mem_cons, List.not_mem_nil, or_false] at member
      rcases member with rfl | rfl | rfl | rfl <;> rw [UInt8.toNat_ofNat'] <;> omega

theorem toNat_asciiByte (ascii : a.toNat ≤ 0x7F) : (asciiByte a).toNat = a.toNat :=
  UInt8.toNat_ofNat_of_lt' (Nat.lt_of_le_of_lt ascii (by decide))

/-- The byte of an ASCII character occurs in that character alone. -/
theorem asciiByte_mem_utf8EncodeChar (ascii : a.toNat ≤ 0x7F) :
    asciiByte a ∈ String.utf8EncodeChar c ↔ c = a := by
  have value := toNat_asciiByte ascii
  constructor
  · intro member
    by_cases other : c.toNat ≤ 0x7F
    · rw [utf8EncodeChar_of_ascii other, List.mem_singleton] at member
      have same := congrArg UInt8.toNat member
      rw [value, toNat_asciiByte other] at same
      exact (Char.toNat_inj.mp same).symm
    · have beyond := lt_toNat_of_mem (Nat.lt_of_not_le other) member
      omega
  · rintro rfl
    rw [utf8EncodeChar_of_ascii ascii]
    exact List.mem_singleton_self _

theorem asciiByte_mem_encode (ascii : a.toNat ≤ 0x7F) : asciiByte a ∈ encode cs ↔ a ∈ cs := by
  simp [encode, asciiByte_mem_utf8EncodeChar ascii]

private theorem ne_of_mem_utf8EncodeChar (ascii : a.toNat ≤ 0x7F) (other : c ≠ a) :
    ∀ b ∈ String.utf8EncodeChar c, (b != asciiByte a) = true := by
  intro b member
  rw [bne_iff_ne]
  rintro rfl
  exact other ((asciiByte_mem_utf8EncodeChar ascii).mp member)

theorem takeWhile_encode (ascii : a.toNat ≤ 0x7F) (cs : List Char) :
    (encode cs).takeWhile (· != asciiByte a) = encode (cs.takeWhile (· != a)) := by
  induction cs with
  | nil => rfl
  | cons c cs ih =>
      by_cases same : c = a
      · subst same
        simp [encode_cons, utf8EncodeChar_of_ascii ascii]
      · have passes : (c != a) = true := bne_iff_ne.mpr same
        rw [encode_cons, List.takeWhile_append_of_pos (ne_of_mem_utf8EncodeChar ascii same), ih,
          List.takeWhile_cons, if_pos passes, encode_cons]

theorem encode_intercalate (sep : List Char) (texts : List (List Char)) :
    encode (sep.intercalate texts) = (encode sep).intercalate (texts.map encode) := by
  induction texts with
  | nil => rfl
  | cons text texts ih =>
      cases texts with
      | nil => simp
      | cons next texts =>
          simp only [List.map_cons, List.intercalate_cons_cons, encode_append] at ih ⊢
          rw [ih]

private theorem splitOn_append_of_not_mem {b : UInt8} {front : List UInt8} (absent : b ∉ front)
    (bs : List UInt8) : (front ++ bs).splitOn b = (bs.splitOn b).modifyHead (front ++ ·) := by
  induction front with
  | nil =>
      rw [List.nil_append]
      cases bs.splitOn b <;> rfl
  | cons d front ih =>
      rw [List.mem_cons, not_or] at absent
      have other : ¬ (d == b) = true := by simpa using Ne.symm absent.1
      rw [List.cons_append, List.splitOn_cons_eq_if_modifyHead, if_neg other, ih absent.2,
        List.modifyHead_modifyHead]
      rfl

theorem splitOn_encode (ascii : a.toNat ≤ 0x7F) (cs : List Char) :
    (encode cs).splitOn (asciiByte a) = (cs.splitOn a).map encode := by
  induction cs with
  | nil => rfl
  | cons c cs ih =>
      rw [encode_cons, List.splitOn_cons_eq_if_modifyHead]
      by_cases same : c = a
      · subst same
        rw [utf8EncodeChar_of_ascii ascii, List.singleton_append,
          List.splitOn_cons_eq_if_modifyHead]
        simp [ih]
      · have absent : asciiByte a ∉ String.utf8EncodeChar c := fun member =>
          same ((asciiByte_mem_utf8EncodeChar ascii).mp member)
        rw [splitOn_append_of_not_mem absent, ih, if_neg (by simpa using same)]
        cases cs.splitOn a <;> simp [encode_cons]

end SeccompBootstrap.Text.Utf8
