import SeccompBootstrap.Launch.Handoff
import SeccompBootstrap.Proofs.Json.Typed

/-!
Launch settings from the text of an object. Every setting that a member gives is the value that the
member spells, in whatever order, spelling and company the members stand; every other setting keeps
its default. A text that gives one setting twice, or any setting a value of another type, gives no
settings at all.
-/

set_option autoImplicit false
set_option relaxedAutoImplicit false

namespace SeccompBootstrap

namespace Json

/-- The text of a value as it stands, whatever the value is. -/
structure Written (raw t : Input) : Prop where
  same : t = raw
  valid : Valid raw

/-- The texts of an object with these members in this order, each a key and the text of a value. -/
inductive ObjectText (ms : List (String × Input)) : String → Prop
  | text {before t after : Input} (spaceBefore : Spacing before) (spaceAfter : Spacing after)
      (members : Entries '}' (Member Written) true ms t) :
      ObjectText ms (String.ofList (before ++ '{' :: t ++ after))

/-- The texts of the values that members give to a key, in their order. -/
def textsOf (key : String) (ms : List (String × Input)) : List Input :=
  (ms.filter fun m => m.1 = key).map Prod.snd

variable {key : String} {raw : Input} {m : String × Input} {ms : List (String × Input)}

theorem textsOf_append {more : List (String × Input)} :
    textsOf key (ms ++ more) = textsOf key ms ++ textsOf key more := by
  simp only [textsOf, List.map_append, List.filter_append]

theorem textsOf_cons : textsOf key (m :: ms) = textsOf key [m] ++ textsOf key ms := by
  rw [← textsOf_append, List.singleton_append]

theorem textsOf_map {other : String} {raws : List Input} :
    textsOf key (raws.map (Prod.mk other)) = if other = key then raws else [] := by
  by_cases same : other = key
  · simp [textsOf, same, List.filter_map, Function.comp_def]
  · simp [textsOf, same, List.filter_map, Function.comp_def]

theorem textsOf_singleton : textsOf key [m] = if m.1 = key then [m.2] else [] := by
  by_cases same : m.1 = key
  · simp [textsOf, same]
  · simp [textsOf, same]

theorem mem_textsOf_iff : raw ∈ textsOf key ms ↔ (key, raw) ∈ ms := by
  simp [textsOf]

theorem exists_objectText (valid : ∀ m ∈ ms, Valid m.2) : ∃ text, ObjectText ms text := by
  have each : ∀ m ∈ ms, ∃ t, Member Written m t := by
    rintro ⟨key, raw⟩ member
    obtain ⟨w, letters⟩ := exists_letters key.toList
    exact ⟨_, .pair letters .nil .nil ⟨rfl, valid _ member⟩⟩
  obtain ⟨t, members⟩ := Entries.exists_of_forall each true
  exact ⟨_, .text .nil .nil members⟩

end Json

open Json

/-- What texts make of a setting: it stays as it was without any, and a single one gives it the
value that the text spells, if it had none before. -/
inductive Settles {α : Type} (spells : α → Input → Prop) :
    Option α → List Input → Option α → Prop
  | kept {earlier : Option α} : Settles spells earlier [] earlier
  | given {a : α} {raw : Input} (spelled : spells a raw) : Settles spells none [raw] (some a)

namespace Settles

variable {α : Type} {spells : α → Input → Prop} {earlier last : Option α} {raw : Input}
  {raws more : List Input}

@[simp, grind =] theorem nil_iff : Settles spells earlier [] last ↔ last = earlier := by
  constructor
  · rintro ⟨⟩
    rfl
  · rintro rfl
    exact .kept

@[simp, grind =] theorem singleton_iff :
    Settles spells earlier [raw] last ↔ earlier = none ∧ ∃ a, spells a raw ∧ last = some a := by
  constructor
  · rintro ⟨⟩
    next spelled => exact ⟨rfl, _, spelled, rfl⟩
  · rintro ⟨rfl, a, spelled, rfl⟩
    exact .given spelled

theorem append_iff :
    Settles spells earlier (raws ++ more) last ↔
      ∃ between, Settles spells earlier raws between ∧ Settles spells between more last := by
  constructor
  · intro settles
    cases raws with
    | nil => exact ⟨earlier, .kept, settles⟩
    | cons raw raws =>
        generalize same : raw :: raws ++ more = all at settles
        cases settles with
        | kept => cases same
        | given spelled =>
            obtain ⟨rfl, nothing⟩ := List.cons.inj same
            obtain ⟨rfl, rfl⟩ := List.append_eq_nil_iff.mp nothing
            exact ⟨_, .given spelled, .kept⟩
  · rintro ⟨between, first, second⟩
    cases first with
    | kept => exact second
    | given spelled =>
        cases second with
        | kept => exact .given spelled

theorem length_le (settles : Settles spells earlier raws last) : raws.length ≤ 1 := by
  cases settles with
  | kept => exact Nat.zero_le 1
  | given => exact Nat.le_refl 1

theorem exists_of_mem (settles : Settles spells earlier raws last) (member : raw ∈ raws) :
    ∃ a, spells a raw := by
  cases settles with
  | kept => cases member
  | given spelled => exact ⟨_, List.mem_singleton.mp member ▸ spelled⟩

end Settles

namespace LaunchConfig

/-- What members make of the settings given before them: each setting is settled by the texts of its
own key, and members of other keys have no part in it. -/
@[mk_iff]
structure Given.Becomes (given : Given) (ms : List (String × Input)) (last : Given) : Prop where
  runtime : Settles (fun s => Spells (.string s)) given.runtime (textsOf "runtime" ms) last.runtime
  disableSeccomp : Settles (fun b => Spells (.boolean b)) given.disableSeccomp
    (textsOf "disable_seccomp" ms) last.disableSeccomp
  allowedSyscalls : Settles SpellsInt64s given.allowedSyscalls (textsOf "allowed_syscalls" ms)
    last.allowedSyscalls
  enableNetwork : Settles (fun b => Spells (.boolean b)) given.enableNetwork
    (textsOf "enable_network" ms) last.enableNetwork

variable {given next last : Given} {key text : String} {raw t w cs rest left : Input}
  {before after : Input} {m : String × Input} {ms : List (String × Input)} {first : Bool}
  {fuel : Nat} {config : LaunchConfig}

theorem Given.becomes_nil_iff : given.Becomes [] last ↔ last = given := by
  constructor
  · rintro ⟨runtime, disableSeccomp, allowedSyscalls, enableNetwork⟩
    obtain ⟨_, _, _, _⟩ := last
    rw [Given.mk.injEq]
    exact ⟨Settles.nil_iff.mp runtime, Settles.nil_iff.mp disableSeccomp,
      Settles.nil_iff.mp allowedSyscalls, Settles.nil_iff.mp enableNetwork⟩
  · rintro rfl
    exact ⟨.kept, .kept, .kept, .kept⟩

theorem Given.becomes_cons_iff :
    given.Becomes (m :: ms) last ↔ ∃ next, given.Becomes [m] next ∧ next.Becomes ms last := by
  constructor
  · rintro ⟨runtime, disableSeccomp, allowedSyscalls, enableNetwork⟩
    rw [textsOf_cons, Settles.append_iff] at runtime disableSeccomp allowedSyscalls enableNetwork
    obtain ⟨_, runtime, runtime'⟩ := runtime
    obtain ⟨_, disableSeccomp, disableSeccomp'⟩ := disableSeccomp
    obtain ⟨_, allowedSyscalls, allowedSyscalls'⟩ := allowedSyscalls
    obtain ⟨_, enableNetwork, enableNetwork'⟩ := enableNetwork
    exact ⟨⟨_, _, _, _⟩, ⟨runtime, disableSeccomp, allowedSyscalls, enableNetwork⟩,
      ⟨runtime', disableSeccomp', allowedSyscalls', enableNetwork'⟩⟩
  · rintro ⟨next, here, later⟩
    constructor <;> rw [textsOf_cons, Settles.append_iff]
    · exact ⟨_, here.runtime, later.runtime⟩
    · exact ⟨_, here.disableSeccomp, later.disableSeccomp⟩
    · exact ⟨_, here.allowedSyscalls, later.allowedSyscalls⟩
    · exact ⟨_, here.enableNetwork, later.enableNetwork⟩

section Member

variable (spaceBefore : Spacing before) (spaceAfter : Spacing after) (valid : Valid raw)
  (delimits : Delimits rest)

include spaceBefore spaceAfter valid delimits

theorem readOnce_eq_ok_iff {α : Type} {value : Input → Except Fault (α × Input)}
    {spells : α → Input → Prop} (exact : Exact value spells) {earlier : Option α}
    (put : α → Given) :
    (readOnce earlier key value (before ++ ':' :: (after ++ (raw ++ rest))) >>=
        fun read => .ok (put read.1, read.2)) = .ok (next, left) ↔
      (∃ a, Settles spells earlier [raw] (some a) ∧ next = put a) ∧ left = rest := by
  cases earlier with
  | some a =>
      constructor
      · intro read
        obtain ⟨_, repeated, -⟩ := bind_eq_ok.mp read
        simp only [readOnce, Option.isSome_some, if_true, refuseRepeated] at repeated
        split at repeated
        · cases repeated
        · cases repeated
      · rintro ⟨⟨_, ⟨⟩, -⟩, -⟩
  | none =>
      simp only [readOnce, Option.isSome_none, Bool.false_eq_true, if_false]
      rw [spaceBefore.colon_append, ok_bind, bind_eq_ok]
      constructor
      · rintro ⟨⟨a, _⟩, read, same⟩
        obtain ⟨spelled, rfl⟩ := (exact.eq_ok_iff spaceAfter valid delimits.ends).mp read
        cases same
        exact ⟨⟨a, .given spelled, rfl⟩, rfl⟩
      · rintro ⟨⟨a, settles, rfl⟩, rfl⟩
        obtain ⟨-, _, spelled, ⟨⟩⟩ := Settles.singleton_iff.mp settles
        exact ⟨(a, left), (exact.eq_ok_iff spaceAfter valid delimits.ends).mpr ⟨spelled, rfl⟩, rfl⟩

theorem readMember_eq_ok_iff :
    readMember given key (before ++ ':' :: (after ++ (raw ++ rest))) = .ok (next, left) ↔
      given.Becomes [(key, raw)] next ∧ left = rest := by
  obtain ⟨_, _, _, _⟩ := next
  rw [Given.becomes_iff]
  simp only [textsOf_singleton]
  unfold readMember
  split
  · refine (readOnce_eq_ok_iff spaceBefore spaceAfter valid delimits exact_readText
      fun s => { given with runtime := some s }).trans ?_
    grind
  · refine (readOnce_eq_ok_iff spaceBefore spaceAfter valid delimits exact_readBoolean
      fun b => { given with disableSeccomp := some b }).trans ?_
    grind
  · refine (readOnce_eq_ok_iff spaceBefore spaceAfter valid delimits exact_readInt64List
      fun is => { given with allowedSyscalls := some is }).trans ?_
    grind
  · refine (readOnce_eq_ok_iff spaceBefore spaceAfter valid delimits exact_readBoolean
      fun b => { given with enableNetwork := some b }).trans ?_
    grind
  · rw [spaceBefore.colon_append, ok_bind, skipValue_valid spaceAfter valid delimits.ends, ok_bind]
    obtain ⟨_, _, _, _⟩ := given
    simp only [pure, Except.pure, Except.ok.injEq, Prod.mk.injEq]
    grind

end Member

/-- The loop over the members of an object ends well exactly if they settle what they give. -/
theorem objectLoop_eq_ok_iff (members : Entries '}' (Member Written) first ms t)
    (enough : ms.length < fuel) :
    objectLoop readMember fuel first given (t ++ rest) = .ok (last, left) ↔
      given.Becomes ms last ∧ left = rest := by
  induction members generalizing fuel given with
  | close space =>
      obtain ⟨fuel, rfl⟩ := Nat.exists_eq_add_one_of_ne_zero (Nat.ne_zero_of_lt enough)
      rw [objectLoop_close (.close space (List.append_assoc _ ['}'] rest)),
        Given.becomes_nil_iff, Except.ok.injEq, Prod.mk.injEq]
      exact and_congr eq_comm eq_comm
  | @more first m ms lead t ts leads is later ih =>
      obtain ⟨fuel, rfl⟩ := Nat.exists_eq_add_one_of_ne_zero (Nat.ne_zero_of_lt enough)
      obtain @⟨key, _, w, before, after, raw, letters, spaceBefore, spaceAfter, ⟨rfl, valid⟩⟩ := is
      have delimits : Delimits (ts ++ rest) := later.delimits (Or.inr rfl)
      have same : lead ++ ('"' :: w ++ '"' :: before ++ ':' :: after ++ raw) ++ ts ++ rest =
          lead ++ '"' :: (w ++ '"' :: (before ++ ':' :: (after ++ (raw ++ (ts ++ rest))))) := by
        simp only [List.append_assoc, List.cons_append]
      rw [same, objectLoop_key leads letters, bind_eq_ok, Given.becomes_cons_iff]
      constructor
      · rintro ⟨⟨next, _⟩, read, ended⟩
        obtain ⟨here, rfl⟩ :=
          (readMember_eq_ok_iff spaceBefore spaceAfter valid delimits).mp read
        obtain ⟨others, rfl⟩ := (ih (Nat.lt_of_succ_lt_succ enough)).mp ended
        exact ⟨⟨next, here, others⟩, rfl⟩
      · rintro ⟨⟨next, here, others⟩, rfl⟩
        exact ⟨(next, ts ++ left),
          (readMember_eq_ok_iff spaceBefore spaceAfter valid delimits).mpr ⟨here, rfl⟩,
          (ih (Nat.lt_of_succ_lt_succ enough)).mpr ⟨others, rfl⟩⟩

theorem ofJson_eq_ok_iff (written : ObjectText ms text) :
    ofJson text = .ok config ↔
      ∃ given, Given.nothing.Becomes ms given ∧ config = given.complete := by
  obtain @⟨before, t, after, spaceBefore, spaceAfter, members⟩ := written
  have brace : isSpacing '{' = false := rfl
  have opens : skipSpacing (String.ofList (before ++ '{' :: t ++ after)).toList =
      '{' :: (t ++ after) := by
    rw [String.toList_ofList, List.append_assoc, spaceBefore.skipSpacing_append, List.cons_append,
      skipSpacing_cons brace]
  have enough : ms.length < (t ++ after).length + 1 := by
    have short := members.length_le
    rw [List.length_append]
    omega
  rw [ofJson, readDocument_eq_ok_iff]
  unfold read
  rw [opens]
  constructor
  · rintro ⟨rest, ended, -⟩
    obtain ⟨⟨given, _⟩, read, same⟩ := bind_eq_ok.mp ended
    cases same
    obtain ⟨becomes, -⟩ := (objectLoop_eq_ok_iff members enough).mp read
    exact ⟨given, becomes, rfl⟩
  · rintro ⟨given, becomes, rfl⟩
    have read : readObject readMember .nothing (t ++ after) = .ok (given, after) :=
      (objectLoop_eq_ok_iff members enough).mpr ⟨becomes, rfl⟩
    exact ⟨after, bind_eq_ok.mpr ⟨(given, after), read, rfl⟩, spaceAfter⟩

def keys : List String :=
  ["runtime", "disable_seccomp", "allowed_syscalls", "enable_network"]

/-- Whether a text spells a value of the type that a key asks for, if it is the key of a setting. -/
structure Admits (key : String) (raw : Input) : Prop where
  runtime : key = "runtime" → ∃ s, Spells (.string s) raw
  disableSeccomp : key = "disable_seccomp" → ∃ b, Spells (.boolean b) raw
  allowedSyscalls : key = "allowed_syscalls" → ∃ is, SpellsInt64s is raw
  enableNetwork : key = "enable_network" → ∃ b, Spells (.boolean b) raw

def Refused (text : String) : Prop :=
  ∃ failure, (ofJson text).mapError LaunchError.config = .error (.config failure)

theorem refused_of_ne_ok (never : ∀ config, ofJson text ≠ .ok config) : Refused text := by
  cases result : ofJson text with
  | error failure => exact ⟨failure, by rw [result]; rfl⟩
  | ok config => exact absurd result (never config)

theorem Given.Becomes.length_le (becomes : given.Becomes ms last) (known : key ∈ keys) :
    (textsOf key ms).length ≤ 1 := by
  simp only [keys, List.mem_cons, List.not_mem_nil, or_false] at known
  rcases known with rfl | rfl | rfl | rfl
  · exact becomes.runtime.length_le
  · exact becomes.disableSeccomp.length_le
  · exact becomes.allowedSyscalls.length_le
  · exact becomes.enableNetwork.length_le

theorem Given.Becomes.admits (becomes : given.Becomes ms last) (member : (key, raw) ∈ ms) :
    Admits key raw := by
  rw [← mem_textsOf_iff] at member
  constructor
  · rintro rfl
    exact becomes.runtime.exists_of_mem member
  · rintro rfl
    exact becomes.disableSeccomp.exists_of_mem member
  · rintro rfl
    exact becomes.allowedSyscalls.exists_of_mem member
  · rintro rfl
    exact becomes.enableNetwork.exists_of_mem member

def Given.Fits (given : Given) : Prop :=
  ∀ is, given.allowedSyscalls = some is → ∀ i ∈ is, IsInt64 i

theorem exists_settles {α : Type} {spells : α → Input → Prop} {setting : Option α}
    (each : ∀ a, setting = some a → ∃ raw, spells a raw)
    (valid : ∀ a raw, spells a raw → Valid raw) :
    ∃ raws, Settles spells none raws setting ∧ ∀ raw ∈ raws, Valid raw := by
  cases setting with
  | none => exact ⟨[], .kept, by simp⟩
  | some a =>
      obtain ⟨raw, spelled⟩ := each a rfl
      exact ⟨[raw], .given spelled, by simpa using valid a raw spelled⟩

theorem Given.Fits.exists_becomes (fits : given.Fits) :
    ∃ ms, (∀ m ∈ ms, Valid m.2) ∧ Given.nothing.Becomes ms given := by
  obtain ⟨runtimes, runtime, validRuntime⟩ := exists_settles
    (fun s (_ : given.runtime = some s) => exists_spells_string s) exact_readText.valid
  obtain ⟨disabled, disableSeccomp, validDisabled⟩ := exists_settles
    (fun b (_ : given.disableSeccomp = some b) => exists_spells_boolean b) exact_readBoolean.valid
  obtain ⟨allowed, allowedSyscalls, validAllowed⟩ := exists_settles
    (fun is given => exists_spellsInt64s (fits is given)) exact_readInt64List.valid
  obtain ⟨enabled, enableNetwork, validEnabled⟩ := exists_settles
    (fun b (_ : given.enableNetwork = some b) => exists_spells_boolean b) exact_readBoolean.valid
  refine ⟨runtimes.map (Prod.mk "runtime") ++ disabled.map (Prod.mk "disable_seccomp") ++
    allowed.map (Prod.mk "allowed_syscalls") ++ enabled.map (Prod.mk "enable_network"), ?_, ?_⟩
  · simp only [List.forall_mem_append, List.forall_mem_map]
    exact ⟨⟨⟨validRuntime, validDisabled⟩, validAllowed⟩, validEnabled⟩
  · constructor
    · simpa [textsOf_append, textsOf_map, nothing] using runtime
    · simpa [textsOf_append, textsOf_map, nothing] using disableSeccomp
    · simpa [textsOf_append, textsOf_map, nothing] using allowedSyscalls
    · simpa [textsOf_append, textsOf_map, nothing] using enableNetwork

/-- From the text of an object, with white space, escapes, unknown members and an order as they may
be, each setting that a member gives is the value that the member spells, and each other one has its
default. A text that gives a setting twice or a value of another type is refused. Any members in any
order have a text, and there are members for any settings, whatever the runtime and whichever system
calls of 64 bits. -/
theorem ofJson_reads_settings :
    (∀ ms text given, ObjectText ms text → Given.nothing.Becomes ms given →
      ofJson text = .ok
        { runtime := given.runtime.getD defaultRuntime
          disableSeccomp := given.disableSeccomp.getD false
          allowedSyscalls := given.allowedSyscalls.getD []
          enableNetwork := given.enableNetwork.getD false }) ∧
    (∀ ms text key, ObjectText ms text → key ∈ keys → 1 < (textsOf key ms).length →
      Refused text) ∧
    (∀ ms text key raw, ObjectText ms text → (key, raw) ∈ ms → ¬ Admits key raw → Refused text) ∧
    (∀ ms, (∀ m ∈ ms, Valid m.2) → ∃ text, ObjectText ms text) ∧
    ∀ given : Given, given.Fits →
      ∃ ms, (∀ m ∈ ms, Valid m.2) ∧ Given.nothing.Becomes ms given := by
  refine ⟨?_, ?_, ?_, ?_, ?_⟩
  · intro ms text given written becomes
    exact (ofJson_eq_ok_iff written).mpr ⟨given, becomes, rfl⟩
  · intro ms text key written known repeated
    apply refused_of_ne_ok
    intro config read
    obtain ⟨given, becomes, -⟩ := (ofJson_eq_ok_iff written).mp read
    exact Nat.not_lt.mpr (becomes.length_le known) repeated
  · intro ms text key raw written member other
    apply refused_of_ne_ok
    intro config read
    obtain ⟨given, becomes, -⟩ := (ofJson_eq_ok_iff written).mp read
    exact other (becomes.admits member)
  · intro ms valid
    exact exists_objectText valid
  · intro given fits
    exact fits.exists_becomes

theorem ofJson_reads_settings_of_text :
    ofJson ("\x7b\"allowed_syscalls\":[-9223372036854775808, 9223372036854775807]," ++
        "\"x\":[[null]],\"\\u0072untime\":\"\\n\\ud83d\\ude00\"\x7d") = .ok
      { runtime := "\n😀"
        disableSeccomp := false
        allowedSyscalls := [-9223372036854775808, 9223372036854775807]
        enableNetwork := false } ∧
      Refused "\x7b\"enable_network\":true,\"enable_network\":true\x7d" ∧
      Refused "\x7b\"disable_seccomp\":null\x7d" ∧
      Refused "\x7b\"allowed_syscalls\":[1.5]\x7d" ∧
      Refused "\x7b\"allowed_syscalls\":[9223372036854775808]\x7d" ∧
      ∃ ms text, ObjectText ms text ∧
        Given.nothing.Becomes ms ⟨some "\n😀", none, some [-9223372036854775808], none⟩ := by
  obtain ⟨reads, refusesRepeated, refusesOther, writes, gives⟩ := ofJson_reads_settings
  have network : Letters "enable_network".toList "enable_network".toList := .of_plain (by decide)
  have seccomp : Letters "disable_seccomp".toList "disable_seccomp".toList := .of_plain (by decide)
  have syscalls : Letters "allowed_syscalls".toList "allowed_syscalls".toList :=
    .of_plain (by decide)
  have single {key : String} {w raw : Input} (letters : Letters key.toList w) (valid : Valid raw) :
      ObjectText [(key, raw)]
        (String.ofList ('{' :: '"' :: (w ++ '"' :: ':' :: (raw ++ ['}'])))) := by
    have members : Entries '}' (Member Written) true [(key, raw)] _ :=
      .more (.first .nil) (.pair letters .nil .nil ⟨rfl, valid⟩) (.close .nil)
    have written := ObjectText.text .nil .nil members
    simpa using written
  have list {t : Input} (valid : Valid t) : Valid ('[' :: ([] ++ t ++ ([] ++ [']']))) :=
    @Valid.array [()] _ (.more (.first .nil) valid (.close .nil))
  have refusesList {text : String} {raw : Input} (valid : Valid raw) (opens : raw.head? = some '[')
      (written : ObjectText [("allowed_syscalls", raw)] text)
      (refused : (readInt64List raw).toOption = none) : Refused text := by
    refine refusesOther _ _ "allowed_syscalls" raw written List.mem_cons_self fun admits => ?_
    obtain ⟨is, spelled⟩ := admits.allowedSyscalls rfl
    have read : readInt64List ([] ++ (raw ++ [])) = .ok (is, []) :=
      (exact_readInt64List.eq_ok_iff .nil valid (ends_of_opening opens rfl (by decide))).mpr
        ⟨spelled, rfl⟩
    rw [List.append_nil, List.nil_append] at read
    rw [read] at refused
    cases refused
  refine ⟨?_, ?_, ?_, ?_, ?_, ?_⟩
  · have least : SpellsInt64 (-9223372036854775808) "-9223372036854775808".toList :=
      ⟨by unfold IsInt64; omega, by decide⟩
    have greatest : SpellsInt64 9223372036854775807 "9223372036854775807".toList :=
      ⟨by unfold IsInt64; omega, by decide⟩
    have blank : Spacing [' '] := by simp [Spacing]
    have allowed : SpellsInt64s [-9223372036854775808, 9223372036854775807]
        "[-9223372036854775808, 9223372036854775807]".toList :=
      .list (.more (.first .nil) least (.more (.later .nil blank) greatest (.close .nil)))
    have unknown : Letters "x".toList "x".toList := .of_plain (by decide)
    have nested : Valid ['[', '[', 'n', 'u', 'l', 'l', ']', ']'] := list (list .null)
    have escaped : Letters "runtime".toList "\\u0072untime".toList := by
      have digits : HexUnit 'r'.toNat ['0', '0', '7', '2'] :=
        .digits (i := 0) (j := 0) (k := 7) (l := 2) (by decide) (by decide) (by decide) (by decide)
      have plain : Letters "untime".toList "untime".toList := .of_plain (by decide)
      exact .cons (.unit digits) plain
    have runtime : Spells (.string "\n😀") "\"\\n\\ud83d\\ude00\"".toList := by
      have high : HexUnit 0xD83D ['d', '8', '3', 'd'] :=
        .digits (i := 13) (j := 8) (k := 3) (l := 13)
          (by decide) (by decide) (by decide) (by decide)
      have low : HexUnit 0xDE00 ['d', 'e', '0', '0'] :=
        .digits (i := 13) (j := 14) (k := 0) (l := 0)
          (by decide) (by decide) (by decide) (by decide)
      exact @Spells.string "\n😀" _ (.cons (.short (e := 'n') (by decide))
        (.cons (.pair high low (by decide) (by decide) (by decide)) .nil))
    have written : ObjectText
        [("allowed_syscalls", "[-9223372036854775808, 9223372036854775807]".toList),
          ("x", ['[', '[', 'n', 'u', 'l', 'l', ']', ']']),
          ("runtime", "\"\\n\\ud83d\\ude00\"".toList)]
        ("\x7b\"allowed_syscalls\":[-9223372036854775808, 9223372036854775807]," ++
          "\"x\":[[null]],\"\\u0072untime\":\"\\n\\ud83d\\ude00\"\x7d") :=
      @ObjectText.text _ [] _ [] .nil .nil
        (.more (.first .nil) (.pair syscalls .nil .nil ⟨rfl, exact_readInt64List.valid _ _ allowed⟩)
          (.more (.later .nil .nil) (.pair unknown .nil .nil ⟨rfl, nested⟩)
            (.more (.later .nil .nil) (.pair escaped .nil .nil ⟨rfl, runtime.valid⟩)
              (.close .nil))))
    exact reads _ _ ⟨some _, none, some _, none⟩ written
      ⟨.given runtime, .kept, .given allowed, .kept⟩
  · have written : ObjectText [("enable_network", "true".toList), ("enable_network", "true".toList)]
        "\x7b\"enable_network\":true,\"enable_network\":true\x7d" :=
      @ObjectText.text _ [] _ [] .nil .nil
        (.more (.first .nil) (.pair network .nil .nil ⟨rfl, .true⟩)
          (.more (.later .nil .nil) (.pair network .nil .nil ⟨rfl, .true⟩) (.close .nil)))
    exact refusesRepeated _ _ "enable_network" written (by decide) (by decide)
  · have written : ObjectText [("disable_seccomp", "null".toList)]
        "\x7b\"disable_seccomp\":null\x7d" := single seccomp .null
    refine refusesOther _ _ "disable_seccomp" _ written List.mem_cons_self fun admits => ?_
    obtain ⟨b, spelled⟩ := admits.disableSeccomp rfl
    cases spelled
  · have half : (Numeral.mk false ['1'] ['5'] none).WellFormed :=
      ⟨⟨by simp [Digits], Or.inr ⟨'1', [], rfl, by decide⟩⟩, by simp [Digits], by simp⟩
    have valid : Valid ['[', '1', '.', '5', ']'] := list (.number half)
    have written : ObjectText [("allowed_syscalls", ['[', '1', '.', '5', ']'])]
        "\x7b\"allowed_syscalls\":[1.5]\x7d" := single syscalls valid
    exact refusesList valid rfl written rfl
  · have beyond : (Numeral.mk false "9223372036854775808".toList [] none).WellFormed :=
      ⟨Numeral.whole_toDigits 9223372036854775808, by simp [Digits], by simp⟩
    have valid := list (.number beyond)
    have written : ObjectText [("allowed_syscalls", _)]
        "\x7b\"allowed_syscalls\":[9223372036854775808]\x7d" := single syscalls valid
    exact refusesList valid rfl written rfl
  · have fits : Given.Fits ⟨some "\n😀", none, some [-9223372036854775808], none⟩ := by
      rintro _ ⟨⟩ i member
      rw [List.mem_singleton.mp member, IsInt64]
      omega
    obtain ⟨ms, valid, becomes⟩ := gives _ fits
    obtain ⟨text, written⟩ := writes ms valid
    exact ⟨ms, text, written, becomes⟩

end LaunchConfig

end SeccompBootstrap
