import Mathlib.Data.List.Induction
import Mathlib.Data.Nat.Digits.Defs
import SeccompBootstrap.Proofs.Text.Utf8

/-!
Numbers survive their decimal form, which has nothing but digits. It is the only text of digits that
denotes the number and has no zero in front of others. An integer has that of its amount, behind a
minus sign if it is negative. A text is a numeral if all of its bytes are ASCII digits and there is
at least one; the number that it denotes is the sum of its digits by their places. Reading a text as
decimal digits gives this number, and nothing for a text that is no numeral.
-/

set_option autoImplicit false
set_option relaxedAutoImplicit false

namespace SeccompBootstrap.Text

theorem isDigit_iff {c : Char} : c.isDigit = true ↔ 0x30 ≤ c.toNat ∧ c.toNat ≤ 0x39 := by
  have value : c.val.toNat = c.toNat := rfl
  simp [Char.isDigit, UInt32.le_iff_toNat_le, value]

theorem valueOfDigits_eq_ofDigitChars (digits : List Char) :
    valueOfDigits digits = Nat.ofDigitChars 10 digits 0 := by
  rw [Nat.ofDigitChars_eq_foldl, valueOfDigits]
  congr 1
  funext n c
  rw [Nat.mul_comm, digitValue]

theorem ofDigits?_toDigits (n : Nat) : ofDigits? (Nat.toDigits 10 n) = some n := by
  have present : (Nat.toDigits 10 n).isEmpty = false :=
    List.isEmpty_eq_false_iff.mpr Nat.toDigits_ne_nil
  have digits : (Nat.toDigits 10 n).all Char.isDigit = true := by
    rw [List.all_eq_true]
    intro c member
    exact Nat.isDigit_of_mem_toDigits (by omega) (by omega) member
  rw [ofDigits?, present, digits, valueOfDigits_eq_ofDigitChars, Nat.ofDigitChars_ten_toDigits]
  rfl

theorem not_mem_toString {c : Char} (other : c.isDigit = false) (n : Nat) :
    c ∉ (toString n).toList := by
  rw [Nat.toString_eq_repr, Nat.toList_repr]
  intro member
  have digit := Nat.isDigit_of_mem_toDigits (by omega) (by omega) member
  simp [other] at digit

theorem exists_toDigits_eq_cons (n : Nat) :
    ∃ c digits, Nat.toDigits 10 n = c :: digits ∧ c.isDigit = true := by
  rcases form : Nat.toDigits 10 n with _ | ⟨c, digits⟩
  · exact absurd form Nat.toDigits_ne_nil
  have member : c ∈ Nat.toDigits 10 n := by
    rw [form]
    exact List.mem_cons_self
  exact ⟨c, digits, rfl, Nat.isDigit_of_mem_toDigits (by decide) (by decide) member⟩

theorem exists_toString_eq_cons (n : Nat) :
    ∃ c digits, (toString n).toList = c :: digits ∧ c.isDigit = true := by
  rw [Nat.toString_eq_repr, Nat.toList_repr]
  exact exists_toDigits_eq_cons n

def withDigits (n : Nat) (digits : List Char) : Nat :=
  digits.foldl (fun n c => n * 10 + digitValue c) n

theorem withDigits_cons (n : Nat) (c : Char) (digits : List Char) :
    withDigits n (c :: digits) = withDigits (n * 10 + digitValue c) digits := by
  rw [withDigits, List.foldl_cons, withDigits]

theorem valueOfDigits_eq_withDigits (digits : List Char) :
    valueOfDigits digits = withDigits 0 digits := rfl

theorem le_withDigits (n : Nat) (digits : List Char) : n ≤ withDigits n digits := by
  induction digits generalizing n with
  | nil => exact Nat.le_refl n
  | cons c digits ih =>
      have next := ih (n * 10 + digitValue c)
      rw [withDigits_cons]
      omega

theorem digitChar_digitValue {c : Char} (digit : c.isDigit = true) :
    digitValue c < 10 ∧ Nat.digitChar (digitValue c) = c := by
  have bounds := isDigit_iff.mp digit
  have zero : '0'.toNat = 48 := rfl
  have small : digitValue c < 10 := by
    rw [digitValue]
    omega
  refine ⟨small, Char.toNat_inj.mp ?_⟩
  rw [Nat.toNat_digitChar_of_lt_ten small, digitValue]
  omega

theorem toDigits_withDigits {n : Nat} (positive : 0 < n) {digits : List Char}
    (each : ∀ c ∈ digits, c.isDigit = true) :
    Nat.toDigits 10 (withDigits n digits) = Nat.toDigits 10 n ++ digits := by
  induction digits generalizing n with
  | nil => exact (List.append_nil _).symm
  | cons c digits ih =>
      obtain ⟨here, later⟩ := List.forall_mem_cons.mp each
      obtain ⟨small, char⟩ := digitChar_digitValue here
      have next := Nat.toDigits_append_toDigits (b := 10) (by decide) positive small
      rw [Nat.toDigits_of_lt_base small, char] at next
      rw [withDigits_cons, Nat.mul_comm, ih (by omega) later, ← next, List.append_assoc,
        List.singleton_append]

theorem toDigits_valueOfDigits {c : Char} {digits : List Char} (nonzero : c ≠ '0')
    (each : ∀ d ∈ c :: digits, d.isDigit = true) :
    Nat.toDigits 10 (valueOfDigits (c :: digits)) = c :: digits := by
  obtain ⟨here, later⟩ := List.forall_mem_cons.mp each
  obtain ⟨small, char⟩ := digitChar_digitValue here
  have positive : 0 < digitValue c := by
    rcases Nat.eq_zero_or_pos (digitValue c) with zero | positive
    · rw [zero] at char
      exact absurd char.symm nonzero
    · exact positive
  rw [valueOfDigits_eq_withDigits, withDigits_cons, Nat.zero_mul, Nat.zero_add,
    toDigits_withDigits positive later, Nat.toDigits_of_lt_base small, char,
    List.singleton_append]

theorem toDigits_eq_cons {n : Nat} (positive : 0 < n) :
    ∃ c digits, Nat.toDigits 10 n = c :: digits ∧ c ≠ '0' := by
  induction n using Nat.strongRecOn with
  | _ n ih =>
      by_cases small : n < 10
      · refine ⟨n.digitChar, [], Nat.toDigits_of_lt_base small, ?_⟩
        intro zero
        have code := congrArg Char.toNat zero
        rw [Nat.toNat_digitChar_of_lt_ten small] at code
        have zero : '0'.toNat = 48 := rfl
        omega
      · have front : 0 < n / 10 := by omega
        obtain ⟨c, digits, form, nonzero⟩ := ih (n / 10) (by omega) front
        have whole := Nat.toDigits_append_toDigits (b := 10) (by decide) front
          (Nat.mod_lt n (by decide))
        rw [Nat.div_add_mod, form, List.cons_append] at whole
        exact ⟨c, _, whole.symm, nonzero⟩

@[simp] theorem ofDigits?_toString (n : Nat) : ofDigits? (toString n).toList = some n := by
  rw [Nat.toString_eq_repr, Nat.toList_repr, ofDigits?_toDigits]

theorem toString_int_toList (negative : Bool) (v : Nat) (signed : negative = true → v ≠ 0) :
    (toString (if negative then -(v : Int) else v)).toList =
      (if negative then ['-'] else []) ++ Nat.toDigits 10 v := by
  cases negative with
  | false =>
      have plain : toString (v : Int) = v.repr := rfl
      simp [plain]
  | true =>
      obtain ⟨k, rfl⟩ := Nat.exists_eq_succ_of_ne_zero (signed rfl)
      have minus : toString (-((k + 1 : Nat) : Int)) = "-" ++ (k + 1).repr := rfl
      rw [if_pos rfl, minus, String.toList_append, Nat.toList_repr]
      rfl

open Utf8 (asciiByte bytes encode)

def isDigitByte (b : UInt8) : Bool :=
  0x30 ≤ b && b ≤ 0x39

def IsNumeral (bs : List UInt8) : Prop :=
  bs ≠ [] ∧ ∀ b ∈ bs, isDigitByte b = true

/-- The number that digits denote by their places, of which the last one counts single. -/
def placeValue (digits : List UInt8) : Nat :=
  Nat.ofDigits 10 (digits.reverse.map fun b => b.toNat - 0x30)

variable {c : Char} {cs : List Char} {s : String}

theorem isDigitByte_iff {b : UInt8} :
    isDigitByte b = true ↔ 0x30 ≤ b.toNat ∧ b.toNat ≤ 0x39 := by
  simp [isDigitByte, UInt8.le_iff_toNat_le]

theorem forall_isDigitByte_iff :
    (∀ b ∈ String.utf8EncodeChar c, isDigitByte b = true) ↔ c.isDigit = true := by
  rw [isDigit_iff]
  by_cases ascii : c.toNat ≤ 0x7F
  · rw [Utf8.utf8EncodeChar_of_ascii ascii, List.forall_mem_singleton, isDigitByte_iff,
      Utf8.toNat_asciiByte ascii]
  · obtain ⟨b, more, encoded, -⟩ := Utf8.unit_encodeChar [] c
    have member : b ∈ String.utf8EncodeChar c := by
      rw [encoded]
      exact List.mem_cons_self
    have beyond := Utf8.lt_toNat_of_mem (Nat.lt_of_not_le ascii) member
    constructor
    · intro digits
      have digit := isDigitByte_iff.mp (digits b member)
      omega
    · intro digit
      omega

theorem forall_isDigitByte_encode_iff :
    (∀ b ∈ encode cs, isDigitByte b = true) ↔ cs.all Char.isDigit = true := by
  induction cs with
  | nil => simp
  | cons c cs ih =>
      rw [Utf8.encode_cons, List.forall_mem_append, ih, forall_isDigitByte_iff, List.all_cons,
        Bool.and_eq_true]

theorem encode_eq_nil_iff : encode cs = [] ↔ cs = [] := by
  constructor
  · intro empty
    exact Utf8.encode_injective (empty.trans Utf8.encode_nil.symm)
  · rintro rfl
    rfl

theorem isNumeral_bytes_iff :
    IsNumeral (bytes s) ↔ (!s.toList.isEmpty && s.toList.all Char.isDigit) = true := by
  rw [IsNumeral, bytes, forall_isDigitByte_encode_iff, ne_eq, encode_eq_nil_iff, Bool.and_eq_true,
    Bool.not_eq_true', List.isEmpty_eq_false_iff]

theorem placeValue_append_singleton (digits : List UInt8) (b : UInt8) :
    placeValue (digits ++ [b]) = placeValue digits * 10 + (b.toNat - 0x30) := by
  rw [placeValue, List.reverse_append, List.reverse_singleton, List.singleton_append,
    List.map_cons, Nat.ofDigits_cons, ← placeValue]
  exact (Nat.add_comm _ _).trans (by rw [Nat.mul_comm])

theorem valueOfDigits_append_singleton (digits : List Char) (c : Char) :
    valueOfDigits (digits ++ [c]) = valueOfDigits digits * 10 + digitValue c := by
  rw [valueOfDigits, List.foldl_append]
  rfl

theorem valueOfDigits_eq_placeValue (digits : ∀ c ∈ cs, c.isDigit = true) :
    valueOfDigits cs = placeValue (encode cs) := by
  induction cs using List.reverseRecOn with
  | nil => rfl
  | append_singleton earlier c ih =>
      obtain ⟨before, last⟩ := List.forall_mem_append.mp digits
      have digit : c.isDigit = true := last c List.mem_cons_self
      have ascii : c.toNat ≤ 0x7F := Nat.le_trans (isDigit_iff.mp digit).2 (by decide)
      have encoded : encode [c] = [asciiByte c] := by
        rw [Utf8.encode_cons, Utf8.utf8EncodeChar_of_ascii ascii, Utf8.encode_nil,
          List.append_nil]
      have zero : '0'.toNat = 0x30 := by decide
      rw [valueOfDigits_append_singleton, ih before, Utf8.encode_append, encoded,
        placeValue_append_singleton, Utf8.toNat_asciiByte ascii, digitValue, zero]

theorem ofDigits?_of_isNumeral (numeral : IsNumeral (bytes s)) :
    ofDigits? s.toList = some (placeValue (bytes s)) := by
  have digits : ∀ c ∈ s.toList, c.isDigit = true :=
    List.all_eq_true.mp (forall_isDigitByte_encode_iff.mp numeral.2)
  rw [ofDigits?, if_pos (isNumeral_bytes_iff.mp numeral), valueOfDigits_eq_placeValue digits]
  rfl

theorem ofDigits?_of_not_isNumeral (other : ¬ IsNumeral (bytes s)) : ofDigits? s.toList = none := by
  rw [ofDigits?, if_neg (mt isNumeral_bytes_iff.mpr other)]

theorem isNumeral_toString (n : Nat) : IsNumeral (bytes (toString n)) := by
  by_contra other
  have unread := ofDigits?_of_not_isNumeral other
  rw [ofDigits?_toString] at unread
  cases unread

theorem placeValue_toString (n : Nat) : placeValue (bytes (toString n)) = n := by
  have read := ofDigits?_of_isNumeral (isNumeral_toString n)
  rw [ofDigits?_toString] at read
  exact (Option.some.inj read).symm

theorem isNumeral_zeros_append (zeros : Nat) {digits : List UInt8} (numeral : IsNumeral digits) :
    IsNumeral (List.replicate zeros 0x30 ++ digits) := by
  refine ⟨fun empty => numeral.1 (List.append_eq_nil_iff.mp empty).2, ?_⟩
  refine List.forall_mem_append.mpr ⟨?_, numeral.2⟩
  intro b member
  rw [List.eq_of_mem_replicate member]
  decide

theorem placeValue_zeros_append (zeros : Nat) (digits : List UInt8) :
    placeValue (List.replicate zeros 0x30 ++ digits) = placeValue digits := by
  have zero : (0x30 : UInt8).toNat - 0x30 = 0 := by decide
  rw [placeValue, List.reverse_append, List.map_append, List.reverse_replicate,
    List.map_replicate, zero, Nat.ofDigits_append_replicate_zero, placeValue]

end SeccompBootstrap.Text
