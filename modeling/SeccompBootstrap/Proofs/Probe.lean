import SeccompBootstrap.Probe
import SeccompBootstrap.Proofs.Text.Blank
import SeccompBootstrap.Proofs.Text.Decimal

/-!
What a probe reads from a host. Of a kernel release three numbers between dots are read whatever
follows them, the third one only if what follows is set apart by a dot or a hyphen; any other suffix
is taken for a part of the patch level, which then does not read as a number and counts as zero. If
each line of a status file is UTF-8, the first one that begins with `Seccomp:` decides alone,
whatever stands in front of it and behind it. If some line is not, the file is unreadable as a
whole, also where that is another line than the one with the mode.
-/

set_option autoImplicit false
set_option relaxedAutoImplicit false

namespace SeccompBootstrap

def KernelVersion.dotted (version : KernelVersion) : String :=
  toString version.major.toNat ++ "." ++ toString version.minor.toNat ++ "." ++
    toString version.patch.toNat

namespace Probe

/-- Whether a suffix does not go on with the number in front of it. -/
def EndsNumber (suffix : String) : Prop :=
  ∀ c ∈ suffix.toList.head?, c.isDigit = false

/-- Whether nothing stands between a number and the dot or hyphen after it, or the end. -/
def SetApart (suffix : String) : Prop :=
  ∀ c ∈ suffix.toList.head?, c = '.' ∨ c = '-'

instance (suffix : String) : Decidable (EndsNumber suffix) :=
  Option.decidableForallMem suffix.toList.head?

instance (suffix : String) : Decidable (SetApart suffix) :=
  Option.decidableForallMem suffix.toList.head?

theorem number?_of_isDigit {c : Char} {cs : List Char} (digit : c.isDigit = true) :
    number? (c :: cs) = match Text.ofDigits? (c :: cs) with
      | none => none
      | some n => if n < UInt32.size then some (.ofNat n) else none := by
  unfold number?
  split
  next same =>
    obtain ⟨rfl, -⟩ := List.cons.inj same
    cases digit
  next => rfl

theorem number?_toString (n : UInt32) : number? (toString n.toNat).toList = some n := by
  obtain ⟨c, digits, form, digit⟩ := Text.exists_toString_eq_cons n.toNat
  have value := Text.ofDigits?_toString n.toNat
  rw [form] at value
  rw [form, number?_of_isDigit digit, value]
  simp [n.toNat_lt_size]

theorem number?_toString_append (n : Nat) {c : Char} (other : c.isDigit = false) (cs : List Char) :
    number? ((toString n).toList ++ c :: cs) = none := by
  obtain ⟨first, digits, form, digit⟩ := Text.exists_toString_eq_cons n
  rw [form, List.cons_append, number?_of_isDigit digit]
  simp [Text.ofDigits?, other]

theorem bne_of_mem_toString (stop : Char) (other : stop.isDigit = false) (n : Nat) :
    ∀ c ∈ (toString n).toList, (c != stop) = true := by
  intro c member
  rw [bne_iff_ne]
  rintro rfl
  exact Text.not_mem_toString other n member

theorem headD_splitOnP (stop : Char) (cs : List Char) :
    (cs.splitOnP (· == stop)).headD [] = cs.takeWhile (· != stop) := by
  induction cs with
  | nil => rfl
  | cons c cs ih =>
      rw [List.splitOnP_cons_eq_if_modifyHead]
      by_cases stops : c = stop
      · simp [stops]
      · rcases parts : cs.splitOnP (· == stop) with _ | ⟨part, parts⟩
        · exact absurd parts (List.splitOnP_ne_nil _ cs)
        rw [parts] at ih
        simpa [stops] using ih

theorem takeWhile_of_setApart {suffix : String} (apart : SetApart suffix) :
    (suffix.toList.takeWhile (· != '.')).takeWhile (· != '-') = [] := by
  unfold SetApart at apart
  generalize suffix.toList = chars at apart ⊢
  rcases chars with _ | ⟨c, cs⟩
  · rfl
  · rcases apart c rfl with rfl | rfl <;> simp

theorem takeWhile_of_not_setApart {suffix : String} (joined : ¬ SetApart suffix) :
    ∃ c cs, c ∈ suffix.toList.head? ∧
      (suffix.toList.takeWhile (· != '.')).takeWhile (· != '-') = c :: cs := by
  unfold SetApart at joined
  generalize suffix.toList = chars at joined ⊢
  rcases chars with _ | ⟨c, cs⟩
  · simp at joined
  · obtain ⟨noDot, noHyphen⟩ : c ≠ '.' ∧ c ≠ '-' := by simpa using joined
    exact ⟨c, (cs.takeWhile (· != '.')).takeWhile (· != '-'), rfl, by simp [noDot, noHyphen]⟩

/-- The part after the second dot gives the patch level if the suffix is set apart from it. Otherwise the
first character of the suffix stays with the digits, and they are no number. -/
theorem patchLevel_toString_append (n : UInt32) {suffix : String} (ends : EndsNumber suffix) :
    patchLevel ((toString n.toNat).toList ++ suffix.toList.takeWhile (· != '.')) =
      if SetApart suffix then n else 0 := by
  have digitsKept := bne_of_mem_toString '-' (by decide) n.toNat
  rw [patchLevel, List.takeWhile_append_of_pos digitsKept]
  by_cases apart : SetApart suffix
  · rw [if_pos apart, takeWhile_of_setApart apart, List.append_nil, number?_toString,
      Option.getD_some]
  · obtain ⟨c, cs, first, kept⟩ := takeWhile_of_not_setApart apart
    rw [if_neg apart, kept, number?_toString_append _ (ends c first), Option.getD_none]

theorem splitOnP_dotted_append (version : KernelVersion) (suffix : String) :
    (version.dotted ++ suffix).toList.splitOnP (· == '.') =
      (toString version.major.toNat).toList :: (toString version.minor.toNat).toList ::
        ((toString version.patch.toNat).toList ++ suffix.toList).splitOnP (· == '.') := by
  have noDot (n : Nat) : ∀ c ∈ (toString n).toList, (c == '.') = false := by
    intro c member
    simpa using bne_of_mem_toString '.' (by decide) n c member
  have dot : (".".toList : List Char) = ['.'] := rfl
  simp only [KernelVersion.dotted, String.toList_append, dot, List.append_assoc, List.cons_append,
    List.nil_append]
  rw [List.splitOnP_append_cons_of_forall_mem (noDot _) '.' rfl,
    List.splitOnP_append_cons_of_forall_mem (noDot _) '.' rfl]

/-- A version in front of a suffix that does not begin with a digit is read with its first two
numbers, and with its patch level too if the suffix is empty or begins with a dot or a hyphen. In
front of any other suffix the patch level counts as zero, whatever it is. -/
theorem versionOfChars_dotted_append (version : KernelVersion) (suffix : String)
    (ends : EndsNumber suffix) :
    versionOfChars (version.dotted ++ suffix).toList =
      some { version with patch := if SetApart suffix then version.patch else 0 } := by
  have digitsKept := bne_of_mem_toString '.' (by decide) version.patch.toNat
  rw [versionOfChars, splitOnP_dotted_append]
  simp only [number?_toString, headD_splitOnP, List.takeWhile_append_of_pos digitsKept,
    patchLevel_toString_append _ ends]
  rfl

theorem versionOfChars_of_distribution_suffix :
    EndsNumber "-150-generic" ∧
      versionOfChars (KernelVersion.dotted ⟨5, 4, 17⟩ ++ "-150-generic").toList =
        some ⟨5, 4, 17⟩ := by
  have ends : EndsNumber "-150-generic" := by decide
  have apart : SetApart "-150-generic" := by decide
  have read := versionOfChars_dotted_append ⟨5, 4, 17⟩ "-150-generic" ends
  rw [if_pos apart] at read
  exact ⟨ends, read⟩

/-- A plus sign is taken for a part of the patch level, which is lost: the release reads as if its
patch level were zero. -/
theorem versionOfChars_of_plus_suffix :
    EndsNumber "+" ∧ KernelVersion.dotted ⟨6, 1, 5⟩ ++ "+" = "6.1.5+" ∧
      versionOfChars "6.1.5+".toList = some ⟨6, 1, 0⟩ ∧
      versionOfChars "6.1.5+".toList ≠ some ⟨6, 1, 5⟩ := by
  decide +kernel

end Probe

def SeccompMode.digit : SeccompMode → List Char
  | .disabled => ['0']
  | .strict => ['1']
  | .filter => ['2']

namespace Probe

open Text.Utf8 (bytes encode)

def linesOf (content : List UInt8) : List (List UInt8) :=
  content.splitOn 0x0A

def IsText (bs : List UInt8) : Prop :=
  ∃ text, bs = encode text

def HasMode (line : List UInt8) : Prop :=
  bytes "Seccomp:" <+: line

instance (line : List UInt8) : Decidable (HasMode line) :=
  inferInstanceAs (Decidable (_ <+: line))

/-- What a value means: a mode if nothing but white space is around the mode's digit, otherwise
nothing that is known. -/
inductive Means (value : List Char) : Except ProbeError SeccompMode → Prop
  | known (mode : SeccompMode) (trims : Text.Trims value mode.digit) : Means value (.ok mode)
  | unknown {text : List Char} (trims : Text.Trims value text)
      (other : ∀ mode : SeccompMode, text ≠ mode.digit) :
      Means value (.error (.unknownMode (.ofList text)))

/-- What a file of some lines shows. The value of the first line that has the mode decides if all
lines are UTF-8. -/
inductive Shows (lines : List (List UInt8)) : Except ProbeError SeccompMode → Prop
  | value {before after : List (List UInt8)} {value : List Char}
      {answer : Except ProbeError SeccompMode} (texts : ∀ line ∈ lines, IsText line)
      (whole : lines = before ++ (bytes "Seccomp:" ++ encode value) :: after)
      (first : ∀ line ∈ before, ¬ HasMode line) (means : Means value answer) : Shows lines answer
  | missing (texts : ∀ line ∈ lines, IsText line) (absent : ∀ line ∈ lines, ¬ HasMode line) :
      Shows lines (.error .modeMissing)
  | unreadable {line : List UInt8} (member : line ∈ lines) (broken : ¬ IsText line) :
      Shows lines (.error (.statusUnreadable "stream did not contain valid UTF-8"))

theorem linesOf_encode (status : List Char) :
    linesOf (encode status) = (status.splitOn '\n').map encode :=
  Text.Utf8.splitOn_encode (a := '\n') (by decide) status

theorem exists_of_linesOf_encode {status : List Char} {before after : List (List UInt8)}
    {line : List UInt8} (whole : linesOf (encode status) = before ++ line :: after) :
    ∃ front piece back, status.splitOn '\n' = front ++ piece :: back ∧
      before = front.map encode ∧ encode piece = line := by
  rw [linesOf_encode] at whole
  obtain ⟨front, rest, split, rfl, tail⟩ := List.map_eq_append_iff.mp whole
  obtain ⟨piece, back, rfl, rfl, -⟩ := List.map_eq_cons_iff.mp tail
  exact ⟨front, piece, back, split, rfl, rfl⟩

theorem exists_of_forall_isText {lines : List (List UInt8)} (texts : ∀ line ∈ lines, IsText line) :
    ∃ pieces : List (List Char), lines = pieces.map encode := by
  induction lines with
  | nil => exact ⟨[], rfl⟩
  | cons line lines ih =>
      obtain ⟨⟨piece, rfl⟩, later⟩ := List.forall_mem_cons.mp texts
      obtain ⟨pieces, rfl⟩ := ih later
      exact ⟨piece :: pieces, rfl⟩

/-- A file is UTF-8 exactly if each of its lines is: no character contains a line feed. -/
theorem isText_iff_forall_linesOf {content : List UInt8} :
    IsText content ↔ ∀ line ∈ linesOf content, IsText line := by
  constructor
  · rintro ⟨status, rfl⟩
    rw [linesOf_encode, List.forall_mem_map]
    exact fun piece _ => ⟨piece, rfl⟩
  · intro texts
    obtain ⟨pieces, split⟩ := exists_of_forall_isText texts
    refine ⟨['\n'].intercalate pieces, ?_⟩
    have feed : encode ['\n'] = [0x0A] := by decide
    rw [Text.Utf8.encode_intercalate, feed, ← split, linesOf, List.intercalate_splitOn]

theorem hasMode_encode_iff {line : List Char} : HasMode (encode line) ↔ modeField <+: line := by
  constructor
  · rintro ⟨rest, same⟩
    obtain ⟨value, rfl, -⟩ := Text.Utf8.exists_of_encode_append same
    exact List.prefix_append modeField value
  · rintro ⟨value, rfl⟩
    exact ⟨encode value, (Text.Utf8.encode_append modeField value).symm⟩

theorem Means.modeOfValue_eq {value : List Char} {answer : Except ProbeError SeccompMode}
    (means : Means value answer) : modeOfValue (Text.trimChars value) = answer := by
  cases means with
  | known mode trims =>
      rw [trims.trimChars_eq]
      cases mode <;> rfl
  | @unknown text trims other =>
      rw [trims.trimChars_eq]
      unfold modeOfValue
      split
      · exact absurd rfl (other .disabled)
      · exact absurd rfl (other .strict)
      · exact absurd rfl (other .filter)
      · rfl

theorem exists_means (value : List Char) : ∃ answer, Means value answer := by
  have trims := Text.trims_trimChars value
  by_cases known : ∃ mode : SeccompMode, Text.trimChars value = mode.digit
  · obtain ⟨mode, same⟩ := known
    exact ⟨_, .known mode (same ▸ trims)⟩
  · exact ⟨_, .unknown trims (not_exists.mp known)⟩

theorem modeValue?_of_first {status value : List Char} {before after : List (List Char)}
    (whole : status.splitOn '\n' = before ++ (modeField ++ value) :: after)
    (first : ∀ line ∈ before, ¬ modeField <+: line) :
    modeValue? status = some (Text.trimChars value) := by
  rw [modeValue?, ← List.splitOn_eq_splitOnP, List.findSome?_eq_some_iff]
  refine ⟨before, modeField ++ value, after, whole, ?_, ?_⟩
  · simp
  · simpa [List.isPrefixOf_iff_prefix] using first

theorem modeValue?_of_absent {status : List Char}
    (absent : ∀ line ∈ status.splitOn '\n', ¬ modeField <+: line) : modeValue? status = none := by
  rw [modeValue?, ← List.splitOn_eq_splitOnP, List.findSome?_eq_none_iff]
  simpa [List.isPrefixOf_iff_prefix] using absent

theorem currentMode_encode (status : List Char) :
    currentMode (.ok (encode status)) = modeOfStatus status := by
  rw [currentMode, Text.Utf8.decodeChars?_encode]

theorem currentMode_of_not_isText {content : List UInt8} (broken : ¬ IsText content) :
    currentMode (.ok content) =
      .error (.statusUnreadable "stream did not contain valid UTF-8") := by
  rw [currentMode]
  rcases decoded : Text.Utf8.decodeChars? content with _ | status
  · rfl
  · exact absurd ⟨status, Text.Utf8.decodeChars?_eq_some_iff.mp decoded⟩ broken

theorem Shows.currentMode_eq {content : List UInt8} {answer : Except ProbeError SeccompMode}
    (shown : Shows (linesOf content) answer) : currentMode (.ok content) = answer := by
  cases shown with
  | @value before after value _ texts whole first means =>
      obtain ⟨status, rfl⟩ := isText_iff_forall_linesOf.mpr texts
      obtain ⟨front, line, back, split, rfl, same⟩ := exists_of_linesOf_encode whole
      have field : line = modeField ++ value := Text.Utf8.encode_injective (by
        rw [same, Text.Utf8.encode_append]
        rfl)
      rw [field] at split
      rw [List.forall_mem_map] at first
      have absent : ∀ piece ∈ front, ¬ modeField <+: piece := fun piece member starts =>
        first piece member (hasMode_encode_iff.mpr starts)
      rw [currentMode_encode, modeOfStatus, modeValue?_of_first split absent]
      exact means.modeOfValue_eq
  | missing texts absent =>
      obtain ⟨status, rfl⟩ := isText_iff_forall_linesOf.mpr texts
      rw [linesOf_encode, List.forall_mem_map] at absent
      rw [currentMode_encode, modeOfStatus, modeValue?_of_absent]
      exact fun line member field => absent line member (hasMode_encode_iff.mpr field)
  | unreadable member broken =>
      exact currentMode_of_not_isText fun text =>
        broken (isText_iff_forall_linesOf.mp text _ member)

theorem exists_first_or_absent (lines : List (List UInt8)) :
    (∃ before line after, lines = before ++ line :: after ∧ HasMode line ∧
      ∀ earlier ∈ before, ¬ HasMode earlier) ∨ ∀ line ∈ lines, ¬ HasMode line := by
  rcases found : lines.find? (HasMode ·) with _ | line
  · right
    simpa using List.find?_eq_none.mp found
  · left
    obtain ⟨field, before, after, whole, first⟩ := List.find?_eq_some_iff_append.mp found
    exact ⟨before, line, after, whole, by simpa using field, by simpa using first⟩

theorem exists_shows (lines : List (List UInt8)) : ∃ answer, Shows lines answer := by
  by_cases texts : ∀ line ∈ lines, IsText line
  · rcases exists_first_or_absent lines with ⟨before, line, after, whole, field, first⟩ | absent
    · obtain ⟨text, encoded⟩ := texts line (by simp [whole])
      obtain ⟨rest, rfl⟩ := field
      obtain ⟨value, -, rfl⟩ := Text.Utf8.exists_of_encode_append encoded
      obtain ⟨answer, means⟩ := exists_means value
      exact ⟨answer, .value texts whole first means⟩
    · exact ⟨_, .missing texts absent⟩
  · push Not at texts
    obtain ⟨line, member, broken⟩ := texts
    exact ⟨_, .unreadable member broken⟩

/-- The mode of a process is what its status file shows. Where all lines are UTF-8, that is told by
the first line with the mode alone: the mode of its digit, or its value without the white space
around it as an unknown one. -/
theorem currentMode_eq_iff_shows (content : List UInt8) (answer : Except ProbeError SeccompMode) :
    currentMode (.ok content) = answer ↔ Shows (linesOf content) answer := by
  constructor
  · rintro rfl
    obtain ⟨answer, shown⟩ := exists_shows (linesOf content)
    rwa [shown.currentMode_eq]
  · exact Shows.currentMode_eq

/-- A process name that is cut within a character hides the mode: the line with the mode says that a
filter is active, and the file is unreadable all the same. -/
theorem currentMode_of_cut_name :
    let name := bytes "Name:\tgatehouse-test" ++ [0xC3]
    let mode := bytes "Seccomp:\t2"
    let content := name ++ 0x0A :: (mode ++ [0x0A])
    linesOf content = [name, bytes "Seccomp:" ++ encode ['\t', '2'], []] ∧ ¬ HasMode name ∧
      Means ['\t', '2'] (.ok .filter) ∧
      currentMode (.ok content) =
        .error (.statusUnreadable "stream did not contain valid UTF-8") ∧
      currentMode (.ok content) ≠ .ok .filter := by
  intro name mode content
  have unread : currentMode (.ok content) =
      .error (.statusUnreadable "stream did not contain valid UTF-8") := by decide +kernel
  have trims : Text.Trims ['\t', '2'] SeccompMode.filter.digit :=
    Text.trimChars_eq_iff.mp (by decide +kernel)
  refine ⟨by decide +kernel, by decide +kernel, .known .filter trims, unread, ?_⟩
  rw [unread]
  exact nofun

end Probe

end SeccompBootstrap
