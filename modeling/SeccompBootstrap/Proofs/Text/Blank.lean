import Mathlib.Data.List.DropRight
import SeccompBootstrap.Text.Characters

/-!
Dropping the white space at both ends of a text, and all of it but single spaces.
-/

set_option autoImplicit false
set_option relaxedAutoImplicit false

namespace SeccompBootstrap.Text

theorem trimChars_map {f : Char → Char} (kept : ∀ c, isBlank (f c) = isBlank c) (cs : List Char) :
    trimChars (cs.map f) = (trimChars cs).map f := by
  have same : isBlank ∘ f = isBlank := funext kept
  simp only [trimChars, List.dropWhile_map, ← List.map_reverse, same]

/-- Whether a text is another one with white space around it, which has none at its own ends. -/
structure Trims (cs inner : List Char) : Prop where
  around : ∃ front back, cs = front ++ inner ++ back ∧ (∀ c ∈ front, isBlank c = true) ∧
    ∀ c ∈ back, isBlank c = true
  first : ∀ c ∈ inner.head?, isBlank c = false
  last : ∀ c ∈ inner.getLast?, isBlank c = false

variable {cs inner : List Char}

theorem head?_dropWhile_isBlank (cs : List Char) :
    ∀ c ∈ (cs.dropWhile isBlank).head?, isBlank c = false := by
  intro c first
  have plain := List.head?_dropWhile_not isBlank cs
  rwa [Option.mem_def.mp first] at plain

theorem dropWhile_isBlank_of_plain (first : ∀ c ∈ inner.head?, isBlank c = false) :
    inner.dropWhile isBlank = inner := by
  rcases inner with _ | ⟨c, rest⟩
  · rfl
  · exact List.dropWhile_cons_of_neg (by simpa using first)

theorem Trims.trimChars_eq (trims : Trims cs inner) : trimChars cs = inner := by
  obtain ⟨⟨front, back, rfl, blankFront, blankBack⟩, first, last⟩ := trims
  have backward : ∀ c ∈ back.reverse, isBlank c = true := by simpa using blankBack
  have lastFirst : ∀ c ∈ inner.reverse.head?, isBlank c = false := by simpa using last
  rw [trimChars, List.append_assoc, List.dropWhile_append_of_pos blankFront]
  rcases inner with _ | ⟨c, rest⟩
  · rw [List.nil_append, List.dropWhile_eq_nil_iff.mpr blankBack]
    rfl
  · have kept : (c :: rest ++ back).dropWhile isBlank = c :: rest ++ back :=
      dropWhile_isBlank_of_plain first
    rw [kept, List.reverse_append, List.dropWhile_append_of_pos backward,
      dropWhile_isBlank_of_plain lastFirst, List.reverse_reverse]

theorem trims_trimChars (cs : List Char) : Trims cs (trimChars cs) := by
  let rest := cs.dropWhile isBlank
  have split : trimChars cs ++ rest.rtakeWhile isBlank = rest := List.rdropWhile_append_rtakeWhile
  refine ⟨⟨cs.takeWhile isBlank, rest.rtakeWhile isBlank, ?_, ?_, ?_⟩, ?_, ?_⟩
  · rw [List.append_assoc, split, List.takeWhile_append_dropWhile]
  · exact fun c member => List.mem_takeWhile_imp member
  · exact fun c member => List.mem_rtakeWhile_imp member
  · intro c first
    have begins : c ∈ (trimChars cs ++ rest.rtakeWhile isBlank).head? :=
      List.mem_head?_append_of_mem_head? first
    rw [split] at begins
    exact head?_dropWhile_isBlank cs c begins
  · simpa [trimChars] using head?_dropWhile_isBlank (cs.dropWhile isBlank).reverse

/-- Trimming leaves the one text that stands between the white space. -/
theorem trimChars_eq_iff : trimChars cs = inner ↔ Trims cs inner := by
  constructor
  · rintro rfl
    exact trims_trimChars cs
  · exact Trims.trimChars_eq

theorem trimChars_trimChars (cs : List Char) : trimChars (trimChars cs) = trimChars cs := by
  obtain ⟨-, first, last⟩ := trims_trimChars cs
  exact Trims.trimChars_eq ⟨⟨[], [], by simp, by simp, by simp⟩, first, last⟩

theorem forall_mem_extendFirst {P : List Char → Prop} {c : Char} {ws : List (List Char)}
    (alone : P [c]) (longer : ∀ w, P w → P (c :: w)) (each : ∀ w ∈ ws, P w) :
    ∀ w ∈ extendFirst c ws, P w := by
  cases ws with
  | nil => simpa [extendFirst] using alone
  | cons first more =>
      obtain ⟨head, rest⟩ := List.forall_mem_cons.mp each
      simpa [extendFirst] using ⟨longer first head, rest⟩

theorem isBlank_of_mem_words (cs : List Char) :
    ∀ w ∈ words cs, ∀ c ∈ w, isBlank c = false := by
  fun_induction words cs with
  | case1 => simp
  | case2 c rest blank ih => exact ih
  | case3 c plain => simpa using plain
  | case4 c plain next rest blank ih =>
      refine List.forall_mem_cons.mpr ⟨?_, ih⟩
      simpa using plain
  | case5 c plain next rest more ih =>
      refine forall_mem_extendFirst (by simpa using plain) ?_ ih
      intro w unbroken
      exact List.forall_mem_cons.mpr ⟨by simpa using plain, unbroken⟩

private theorem mem_intercalate {sep : List Char} {ws : List (List Char)} {c : Char}
    (member : c ∈ sep.intercalate ws) : c ∈ sep ∨ ∃ w ∈ ws, c ∈ w := by
  induction ws with
  | nil => simp at member
  | cons first more ih =>
      cases more with
      | nil => exact .inr ⟨first, List.mem_cons_self, by simpa using member⟩
      | cons second later =>
          rw [List.intercalate_cons_cons, List.append_assoc, List.mem_append, List.mem_append]
            at member
          rcases member with inFirst | inSep | inLater
          · exact .inr ⟨first, List.mem_cons_self, inFirst⟩
          · exact .inl inSep
          · obtain inSep | ⟨w, word, inside⟩ := ih inLater
            · exact .inl inSep
            · exact .inr ⟨w, List.mem_cons_of_mem _ word, inside⟩

theorem eq_space_of_mem_singleLineChars {cs : List Char} {c : Char}
    (member : c ∈ singleLineChars cs) (blank : isBlank c = true) : c = ' ' := by
  rcases mem_intercalate member with space | ⟨w, word, inside⟩
  · exact List.mem_singleton.mp space
  · have plain := isBlank_of_mem_words cs w word c inside
    simp [plain] at blank

theorem lineFeed_not_mem_singleLine (s : String) : '\n' ∉ (singleLine s).toList := by
  intro member
  rw [singleLine, String.toList_ofList] at member
  exact absurd (eq_space_of_mem_singleLineChars member (by decide)) (by decide)

end SeccompBootstrap.Text
