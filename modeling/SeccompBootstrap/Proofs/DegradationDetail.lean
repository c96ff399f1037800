import Mathlib.Data.List.Chain
import SeccompBootstrap.Proofs.Session
import SeccompBootstrap.Proofs.Text.Blank

/-!
What a guarded step that ends in trouble tells. The words of a text are its maximal runs of
characters that are not white space, in order. Putting a text on a single line keeps the words and
has one space between neighbours; from there on it stays as it is. The detail that a guarded step
hands on is the message of its error or of its panic on a single line, so that all of it but white
space is kept.
-/

set_option autoImplicit false
set_option relaxedAutoImplicit false

namespace SeccompBootstrap.Text

variable {c d : Char} {cs gap w rest : List Char} {ws : List (List Char)}

def Blank (cs : List Char) : Prop :=
  ∀ c ∈ cs, isBlank c = true

structure Solid (w : List Char) : Prop where
  some_char : w ≠ []
  plain : ∀ c ∈ w, isBlank c = false

/-- The maximal runs of characters that are not white space: white space may lead each of them, and
where one ends the text ends or white space follows. -/
inductive Runs : List Char → List (List Char) → Prop
  | none {gap : List Char} (blank : Blank gap) : Runs gap []
  | run {gap w rest : List Char} {ws : List (List Char)} (blank : Blank gap) (solid : Solid w)
      (ends : ∀ c ∈ rest.head?, isBlank c = true) (later : Runs rest ws) :
      Runs (gap ++ w ++ rest) (w :: ws)

theorem words_cons_of_blank (blank : isBlank c = true) : words (c :: cs) = words cs := by
  simp [words, blank]

theorem words_cons_cons_of_plain (here : isBlank c = false) (next : isBlank d = false) :
    words (c :: d :: cs) = extendFirst c (words (d :: cs)) := by
  rw [words.eq_def]
  simp only [here, next, Bool.false_eq_true, if_false]

theorem words_append_of_blank (blank : Blank gap) : words (gap ++ cs) = words cs := by
  induction gap with
  | nil => rfl
  | cons c gap ih =>
      obtain ⟨here, later⟩ := List.forall_mem_cons.mp blank
      rw [List.cons_append, words_cons_of_blank here]
      exact ih later

theorem words_append_of_solid (solid : Solid w) (ends : ∀ c ∈ rest.head?, isBlank c = true) :
    words (w ++ rest) = w :: words rest := by
  obtain ⟨some_char, plain⟩ := solid
  induction w with
  | nil => exact absurd rfl some_char
  | cons c w ih =>
      obtain ⟨here, later⟩ := List.forall_mem_cons.mp plain
      cases w with
      | nil =>
          cases rest with
          | nil => simp [words, here]
          | cons d rest =>
              have blank := ends d rfl
              simp [words, here, blank]
      | cons d w =>
          have next := ih (List.cons_ne_nil d w) later
          have inside : isBlank d = false := later d List.mem_cons_self
          rw [List.cons_append] at next
          rw [List.cons_append, List.cons_append, words_cons_cons_of_plain here inside, next,
            extendFirst]

theorem Runs.words_eq (runs : Runs cs ws) : words cs = ws := by
  induction runs with
  | @none gap blank =>
      have skipped : words (gap ++ []) = [] := words_append_of_blank blank
      rwa [List.append_nil] at skipped
  | run blank solid ends later ih =>
      rw [List.append_assoc, words_append_of_blank blank, words_append_of_solid solid ends, ih]

theorem Runs.cons_blank (blank : isBlank c = true) (runs : Runs cs ws) : Runs (c :: cs) ws := by
  cases runs with
  | none gap => exact .none (List.forall_mem_cons.mpr ⟨blank, gap⟩)
  | run gap solid ends later =>
      exact .run (List.forall_mem_cons.mpr ⟨blank, gap⟩) solid ends later

theorem Runs.cons_end (plain : isBlank c = false) (ends : ∀ d ∈ cs.head?, isBlank d = true)
    (runs : Runs cs ws) : Runs (c :: cs) ([c] :: ws) := by
  have solid : Solid [c] := ⟨List.cons_ne_nil c [], List.forall_mem_singleton.mpr plain⟩
  have nothing : Blank [] := fun d member => absurd member List.not_mem_nil
  exact .run nothing solid ends runs

theorem Runs.cons_plain (plain : isBlank c = false) (next : isBlank d = false)
    (runs : Runs (d :: cs) ws) : Runs (c :: d :: cs) (extendFirst c ws) := by
  generalize text : d :: cs = ds at runs
  cases runs with
  | none blank =>
      have here := blank d (text ▸ List.mem_cons_self)
      rw [next] at here
      cases here
  | @run gap w rest ws blank solid ends later =>
      cases gap with
      | nil =>
          have longer : Solid (c :: w) :=
            ⟨List.cons_ne_nil c w, List.forall_mem_cons.mpr ⟨plain, solid.plain⟩⟩
          exact .run blank longer ends later
      | cons b gap =>
          obtain ⟨rfl, -⟩ := List.cons.inj text
          have here := blank d List.mem_cons_self
          rw [next] at here
          cases here

theorem runs_words (cs : List Char) : Runs cs (words cs) := by
  fun_induction words cs with
  | case1 => exact .none fun c member => absurd member List.not_mem_nil
  | case2 c rest blank ih => exact ih.cons_blank blank
  | case3 c plain =>
      have nothing : Runs [] [] := .none fun d member => absurd member List.not_mem_nil
      exact nothing.cons_end (Bool.eq_false_iff.mpr plain) (by simp)
  | case4 c plain d rest blank ih =>
      exact ih.cons_end (Bool.eq_false_iff.mpr plain) (by simpa using blank)
  | case5 c plain d rest inside ih =>
      exact ih.cons_plain (Bool.eq_false_iff.mpr plain) (Bool.eq_false_iff.mpr inside)

theorem Runs.solid (runs : Runs cs ws) : ∀ w ∈ ws, Solid w := by
  induction runs with
  | none => exact fun w member => absurd member List.not_mem_nil
  | run _ solid _ _ ih => exact List.forall_mem_cons.mpr ⟨solid, ih⟩

theorem Runs.flatten_eq (runs : Runs cs ws) : ws.flatten = cs.filter fun c => !isBlank c := by
  induction runs with
  | none blank =>
      symm
      rw [List.flatten_nil, List.filter_eq_nil_iff]
      intro c member
      simp [blank c member]
  | @run gap w rest ws blank solid ends later ih =>
      have dropped : gap.filter (fun c => !isBlank c) = [] := by
        rw [List.filter_eq_nil_iff]
        intro c member
        simp [blank c member]
      have kept : w.filter (fun c => !isBlank c) = w := by
        rw [List.filter_eq_self]
        intro c member
        simp [solid.plain c member]
      rw [List.flatten_cons, List.filter_append, List.filter_append, dropped, kept, ih,
        List.nil_append]

def spaced (ws : List (List Char)) : List Char :=
  [' '].intercalate ws

theorem spaced_cons_cons (v w : List Char) (ws : List (List Char)) :
    spaced (v :: w :: ws) = v ++ ' ' :: spaced (w :: ws) := by
  simp [spaced, List.intercalate_cons_cons]

theorem runs_spaced (solid : ∀ w ∈ ws, Solid w) : Runs (spaced ws) ws := by
  have nothing : Blank [] := fun c member => absurd member List.not_mem_nil
  induction ws with
  | nil => exact .none nothing
  | cons v ws ih =>
      obtain ⟨here, later⟩ := List.forall_mem_cons.mp solid
      cases ws with
      | nil =>
          have single : Runs ([] ++ v ++ []) [v] := .run nothing here (by simp) (.none nothing)
          simpa [spaced] using single
      | cons w ws =>
          have space : isBlank ' ' = true := by decide
          rw [spaced_cons_cons]
          exact .run nothing here (by simp [space]) ((ih later).cons_blank space)

/-- Whether the only white space of a text are single spaces inside of it. -/
structure Tidy (cs : List Char) : Prop where
  spaces : ∀ c ∈ cs, isBlank c = true → c = ' '
  first : ∀ c ∈ cs.head?, isBlank c = false
  last : ∀ c ∈ cs.getLast?, isBlank c = false
  single : cs.IsChain fun c d => isBlank c = false ∨ isBlank d = false

theorem Solid.tidy (solid : Solid w) : Tidy w := by
  obtain ⟨-, plain⟩ := solid
  refine ⟨?_, ?_, ?_, ?_⟩
  · intro c member blank
    rw [plain c member] at blank
    cases blank
  · intro c first
    exact plain c (List.mem_of_mem_head? first)
  · intro c last
    exact plain c (List.mem_of_mem_getLast? last)
  · apply List.Pairwise.isChain
    apply List.pairwise_of_forall_mem_list
    intro c member d _
    exact Or.inl (plain c member)

theorem Tidy.word_space (tidy : Tidy cs) (solid : Solid w) (some_char : cs ≠ []) :
    Tidy (w ++ ' ' :: cs) := by
  have word := solid.tidy
  refine ⟨?_, ?_, ?_, ?_⟩
  · intro c member blank
    rcases List.mem_append.mp member with inWord | behind
    · exact word.spaces c inWord blank
    · rcases List.mem_cons.mp behind with space | inRest
      · exact space
      · exact tidy.spaces c inRest blank
  · intro c first
    rw [List.head?_append_of_ne_nil _ solid.some_char] at first
    exact word.first c first
  · intro c last
    rw [List.getLast?_append, List.getLast?_cons, List.getLast?_eq_some_getLast some_char] at last
    apply tidy.last
    rw [List.getLast?_eq_some_getLast some_char]
    exact last
  · rw [List.isChain_append, List.isChain_cons]
    refine ⟨word.single, ⟨?_, tidy.single⟩, ?_⟩
    · intro d first
      exact Or.inr (tidy.first d first)
    · intro c last d _
      exact Or.inl (word.last c last)

theorem spaced_ne_nil (solid : Solid w) : spaced (w :: ws) ≠ [] := by
  cases ws with
  | nil => simpa [spaced] using solid.some_char
  | cons v ws => simp [spaced_cons_cons]

theorem tidy_spaced (solid : ∀ w ∈ ws, Solid w) : Tidy (spaced ws) := by
  induction ws with
  | nil => exact ⟨by simp [spaced], by simp [spaced], by simp [spaced], by simp [spaced]⟩
  | cons v ws ih =>
      obtain ⟨here, later⟩ := List.forall_mem_cons.mp solid
      cases ws with
      | nil => simpa [spaced] using here.tidy
      | cons w ws =>
          rw [spaced_cons_cons]
          exact (ih later).word_space here (spaced_ne_nil (later w List.mem_cons_self))

theorem singleLineChars_of_runs (runs : Runs cs ws) : singleLineChars cs = spaced ws := by
  rw [singleLineChars, runs.words_eq, spaced]

theorem singleLineChars_singleLineChars (cs : List Char) :
    singleLineChars (singleLineChars cs) = singleLineChars cs := by
  have runs := runs_words cs
  rw [singleLineChars_of_runs runs, singleLineChars_of_runs (runs_spaced runs.solid)]

theorem filter_singleLineChars (cs : List Char) :
    (singleLineChars cs).filter (fun c => !isBlank c) = cs.filter fun c => !isBlank c := by
  have runs := runs_words cs
  rw [singleLineChars_of_runs runs, ← (runs_spaced runs.solid).flatten_eq, runs.flatten_eq]

theorem tidy_singleLineChars (cs : List Char) : Tidy (singleLineChars cs) := by
  have runs := runs_words cs
  rw [singleLineChars_of_runs runs]
  exact tidy_spaced runs.solid

end SeccompBootstrap.Text

namespace SeccompBootstrap

/-- The message of a trouble: that of its error, or what a panic carries behind a word that names it
as a panic. -/
inductive MessageOf {ε : Type} (describe : ε → String) : Trouble ε → String → Prop
  | failure (error : ε) : MessageOf describe (.failure error) (describe error)
  | panic (message : String) : MessageOf describe (.panic (.text message)) ("panicked: " ++ message)
  | foreign : MessageOf describe (.panic .foreign) "panicked: unknown panic payload"

/-- Whether a detail is a message on a single line, its words in order and nothing else of it lost.
-/
structure Tells (detail message : String) : Prop where
  words : ∃ ws, Text.Runs message.toList ws ∧ detail.toList = [' '].intercalate ws
  tidy : Text.Tidy detail.toList
  kept : detail.toList.filter (fun c => !Text.isBlank c) =
    message.toList.filter fun c => !Text.isBlank c
  stable : Text.singleLine detail = detail

theorem tells_singleLine (message : String) : Tells (Text.singleLine message) message := by
  have line : (Text.singleLine message).toList = Text.singleLineChars message.toList :=
    String.toList_ofList
  refine ⟨⟨Text.words message.toList, Text.runs_words _, line⟩, ?_, ?_, ?_⟩
  · rw [line]
    exact Text.tidy_singleLineChars _
  · rw [line]
    exact Text.filter_singleLineChars _
  · rw [Text.singleLine, line, Text.singleLineChars_singleLineChars]
    rfl

variable {σ ε α : Type} {describe : ε → String} {step : Action σ ε α} {s : Session σ}
  {trouble : Trouble ε} {message : String}

theorem MessageOf.detail_eq (is : MessageOf describe trouble message) :
    trouble.detail describe = Text.singleLine message := by
  cases is with
  | failure | panic | foreign => rfl

/-- A guarded step that ends in trouble hands its message on as a detail on a single line, whatever
outcome is made of it. -/
theorem absorb_tells_message (ended : (step.run { s with quiet := true }).1 = .error trouble)
    (is : MessageOf describe trouble message) :
    ∃ detail, Tells detail message ∧
      ∀ degrade, (absorb describe degrade step s).1 = .stop (degrade detail) := by
  refine ⟨Text.singleLine message, tells_singleLine message, ?_⟩
  intro degrade
  rw [absorb_apply, ended, ← is.detail_eq]
  rfl

theorem absorb_tells_message_of_panic :
    let message := "\u0085a\r\n\u2028 b\u00a0"
    let step : Action Unit String Unit := Action.panic (.text message)
    (absorb id .loadFailure step (.start ())).1 = .stop (.loadFailure "panicked: a b") ∧
      Tells "panicked: a b" ("panicked: " ++ message) := by
  intro message step
  have told : (absorb id .loadFailure step (.start ())).1 =
      .stop (.loadFailure "panicked: a b") := by
    decide +kernel
  have panics : (step.run { Session.start () with quiet := true }).1 =
      .error (.panic (.text message)) := rfl
  have is : MessageOf id (.panic (.text message)) ("panicked: " ++ message) := .panic message
  obtain ⟨detail, tells, stops⟩ := absorb_tells_message panics is
  have same := stops .loadFailure
  rw [told] at same
  cases same
  exact ⟨told, tells⟩

end SeccompBootstrap
