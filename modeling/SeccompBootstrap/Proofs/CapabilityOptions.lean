import SeccompBootstrap.Parameters
import SeccompBootstrap.Proofs.Json.Skip

/-!
Capability options by the last value of their key. From a JSON text of an object the toggles are
what the last member with the key says; members with other keys and earlier ones with the same key
say nothing. No other text is read, neither that of another value nor one that goes on behind its
value.
-/

set_option autoImplicit false
set_option relaxedAutoImplicit false

namespace SeccompBootstrap

namespace Json

variable {key : String} {ms after : List (String × Value)} {found : Option Value}

/-- The value of the last member with a key, none if no member has it. -/
inductive Last (key : String) : List (String × Value) → Option Value → Prop
  | absent {ms : List (String × Value)} (without : ∀ m ∈ ms, m.1 ≠ key) : Last key ms none
  | present {before after : List (String × Value)} {v : Value} (without : ∀ m ∈ after, m.1 ≠ key) :
      Last key (before ++ (key, v) :: after) (some v)

theorem lastMember?_append_singleton (ms : List (String × Value)) (m : String × Value) :
    lastMember? (ms ++ [m]) key = if m.1 = key then some m.2 else lastMember? ms key := by
  rw [lastMember?, List.foldl_append]
  rfl

theorem lastMember?_append_of_without (without : ∀ m ∈ after, m.1 ≠ key) :
    lastMember? (ms ++ after) key = lastMember? ms key := by
  induction after using List.reverseRecOn with
  | nil => rw [List.append_nil]
  | append_singleton after m ih =>
      obtain ⟨earlier, here⟩ := List.forall_mem_append.mp without
      rw [← List.append_assoc, lastMember?_append_singleton, if_neg (here m List.mem_cons_self),
        ih earlier]

theorem last_lastMember? (ms : List (String × Value)) : Last key ms (lastMember? ms key) := by
  induction ms using List.reverseRecOn with
  | nil => exact .absent fun m member => absurd member List.not_mem_nil
  | append_singleton ms m ih =>
      rw [lastMember?_append_singleton]
      split
      next same =>
        obtain ⟨_, v⟩ := m
        cases same
        exact .present fun m member => absurd member List.not_mem_nil
      next other =>
        have last : ∀ n ∈ [m], n.1 ≠ key := List.forall_mem_singleton.mpr other
        generalize lastMember? ms key = found at ih ⊢
        cases ih with
        | absent without => exact .absent (List.forall_mem_append.mpr ⟨without, last⟩)
        | present without =>
            rw [List.append_assoc, List.cons_append]
            exact .present (List.forall_mem_append.mpr ⟨without, last⟩)

theorem last_iff : Last key ms found ↔ lastMember? ms key = found := by
  constructor
  · intro last
    cases last with
    | absent without =>
        have nothing : lastMember? ([] ++ ms) key = lastMember? [] key :=
          lastMember?_append_of_without without
        exact nothing
    | @present before after v without =>
        have here : lastMember? (before ++ [(key, v)] ++ after) key =
            lastMember? (before ++ [(key, v)]) key :=
          lastMember?_append_of_without without
        rw [lastMember?_append_singleton, if_pos rfl, List.append_assoc] at here
        exact here
  · rintro rfl
    exact last_lastMember? ms

end Json

namespace Capabilities

open Json (Document Last Spacing Valid Value depthLimit)

variable {c : Capabilities} {ms : List (String × Value)} {text : String}

/-- Whether toggles are what the members of an object say: the truth value of the last member with
the key, and off where no member has it. -/
def SetBy (c : Capabilities) (ms : List (String × Value)) : Prop :=
  Last "enable_network" ms (some (.boolean c.enableNetwork)) ∨
    Last "enable_network" ms Option.none ∧ c.enableNetwork = false

theorem ofMembers_eq_ok_iff : ofMembers ms = .ok c ↔ c.SetBy ms := by
  rw [SetBy, Json.last_iff, Json.last_iff, ofMembers]
  have key : Capability.network.key = "enable_network" := rfl
  rw [key]
  obtain ⟨enabled⟩ := c
  split
  next absent => simp [absent, none, eq_comm]
  next b present => simp [present, eq_comm]
  next value other present => simpa [present] using other enabled

theorem ofJson_of_document (document : Document (.object ms) text)
    (shallow : (Value.object ms).DepthAtMost depthLimit) :
    ofJson text = (ofMembers ms).mapError Json.Failure.message := by
  rw [ofJson, Json.parse_eq_ok_iff.mpr ⟨document, shallow⟩]

theorem ofJson_eq_ok_iff (document : Document (.object ms) text)
    (shallow : (Value.object ms).DepthAtMost depthLimit) : ofJson text = .ok c ↔ c.SetBy ms := by
  rw [ofJson_of_document document shallow, ← ofMembers_eq_ok_iff]
  cases ofMembers ms <;> simp [Except.mapError]

theorem exists_document_of_ofJson (read : ofJson text = .ok c) :
    ∃ ms, Document (.object ms) text ∧ (Value.object ms).DepthAtMost depthLimit := by
  unfold ofJson at read
  split at read
  · cases read
  next ms parsed => exact ⟨ms, Json.parse_eq_ok_iff.mp parsed⟩
  · cases read

theorem opens_and_ends_of_ofJson {before t rest : Json.Input} (space : Spacing before)
    (valid : Valid t) (read : ofJson (String.ofList (before ++ t ++ rest)) = .ok c) :
    t.head? = some '{' ∧ Spacing rest := by
  obtain ⟨ms, document, -⟩ := exists_document_of_ofJson read
  -- the document has a spelling of its own, which must begin and end where the given text does
  generalize is : String.ofList _ = text at document
  obtain @⟨before', t', after, space', spaceAfter, spelled⟩ := document
  have same := String.ofList_injective is
  rw [List.append_assoc, List.append_assoc] at same
  have opens' : t'.head? = some '{' := by
    cases spelled
    rfl
  have opens : t.head? = some '{' := by
    have tokens := congrArg Json.skipSpacing same
    rw [space.skipSpacing_append, space'.skipSpacing_append, (valid.element rest).skipSpacing,
      (spelled.valid.element after).skipSpacing] at tokens
    obtain ⟨c, more, begins, -, -⟩ := valid.element []
    rw [List.append_nil] at begins
    cases spelled
    rw [begins] at tokens ⊢
    exact congrArg some (List.cons.inj tokens).1
  have ended := Valid.rest_unique space valid (Json.ends_of_brace opens) space' spelled.valid
    (Json.ends_of_brace opens') same
  exact ⟨opens, ended ▸ spaceAfter⟩

/-- Toggles are read from the text of an object by the last value of their key and by nothing else:
objects in which it is the same give the same result. A text whose value is no object, and one in
which anything but white space follows its value, is refused, and only documents of objects are
read. -/
theorem ofJson_reads_last_value :
    (∀ text ms, Document (.object ms) text → (Value.object ms).DepthAtMost depthLimit →
      ∀ c, ofJson text = .ok c ↔ c.SetBy ms) ∧
    (∀ text ms text' ms' found,
      Document (.object ms) text → (Value.object ms).DepthAtMost depthLimit →
      Document (.object ms') text' → (Value.object ms').DepthAtMost depthLimit →
      Last "enable_network" ms found → Last "enable_network" ms' found →
        ofJson text = ofJson text') ∧
    (∀ before t rest, Spacing before → Valid t → t.head? ≠ some '{' ∨ ¬ Spacing rest →
      ∃ reason, ofJson (String.ofList (before ++ t ++ rest)) = .error reason) ∧
    ∀ text c, ofJson text = .ok c → ∃ ms, Document (.object ms) text ∧ c.SetBy ms := by
  refine ⟨?_, ?_, ?_, ?_⟩
  · intro text ms document shallow c
    exact ofJson_eq_ok_iff document shallow
  · intro text ms text' ms' found document shallow document' shallow' last last'
    have value := Json.last_iff.mp last
    have value' := Json.last_iff.mp last'
    have same : ofMembers ms = ofMembers ms' := by
      have key : Capability.network.key = "enable_network" := rfl
      rw [ofMembers, ofMembers, key, value, value']
    rw [ofJson_of_document document shallow, ofJson_of_document document' shallow', same]
  · intro before t rest space valid other
    cases result : ofJson (String.ofList (before ++ t ++ rest)) with
    | error reason => exact ⟨reason, rfl⟩
    | ok c =>
        obtain ⟨opens, ends⟩ := opens_and_ends_of_ofJson space valid result
        rcases other with unopened | goesOn
        · exact absurd opens unopened
        · exact absurd ends goesOn
  · intro text c read
    obtain ⟨ms, document, shallow⟩ := exists_document_of_ofJson read
    exact ⟨ms, document, (ofJson_eq_ok_iff document shallow).mp read⟩

theorem ofJson_of_escaped_key :
    ofJson "\x7b\"enable_network\":false,\"enable\\u005fnetwork\":true\x7d" = .ok ⟨true⟩ ∧
      ofJson "\x7b\"enable_network\":false,\"enable\\u005fnetwork\":true\x7d" =
        ofJson "\x7b\"enable_network\":true\x7d" ∧
      (∃ reason, ofJson "[true]" = .error reason) ∧
      ∃ reason, ofJson "\x7b\x7d," = .error reason := by
  obtain ⟨reads, agree, refuses, -⟩ := ofJson_reads_last_value
  have plain : Json.Letters "enable_network".toList "enable_network".toList :=
    .of_plain (by decide)
  have escaped : Json.Letters "enable_network".toList "enable\\u005fnetwork".toList := by
    have enable : Json.Letters "enable".toList "enable".toList := .of_plain (by decide)
    have network : Json.Letters "network".toList "network".toList := .of_plain (by decide)
    have digits : Json.HexUnit '_'.toNat ['0', '0', '5', 'f'] :=
      .digits (i := 0) (j := 0) (k := 5) (l := 15) (by decide) (by decide) (by decide) (by decide)
    exact enable.append (.cons (.unit digits) network)
  have repeated : Document
      (.object [("enable_network", .boolean false), ("enable_network", .boolean true)])
      "\x7b\"enable_network\":false,\"enable\\u005fnetwork\":true\x7d" :=
    @Document.text _ [] _ [] .nil .nil (.object
      (.more (.first .nil) (.pair plain .nil .nil .false)
        (.more (.later .nil .nil) (.pair escaped .nil .nil .true) (.close .nil))))
  have single : Document (.object [("enable_network", .boolean true)])
      "\x7b\"enable_network\":true\x7d" :=
    @Document.text _ [] _ [] .nil .nil (.object
      (.more (.first .nil) (.pair plain .nil .nil .true) (.close .nil)))
  have shallow (ms : List (String × Value)) (flat : ∀ m ∈ ms, ∃ b, m.2 = .boolean b) :
      (Value.object ms).DepthAtMost depthLimit := by
    refine .object fun m member => ?_
    obtain ⟨b, is⟩ := flat m member
    rw [is]
    exact .boolean
  have lastOfTwo : Last "enable_network"
      [("enable_network", .boolean false), ("enable_network", .boolean true)]
      (some (.boolean true)) :=
    @Last.present _ [("enable_network", .boolean false)] [] _ (by simp)
  have lastOfOne : Last "enable_network" [("enable_network", .boolean true)]
      (some (.boolean true)) :=
    @Last.present _ [] [] _ (by simp)
  have flatTwo := shallow [("enable_network", .boolean false), ("enable_network", .boolean true)]
    (by simp)
  have flatOne := shallow [("enable_network", .boolean true)] (by simp)
  refine ⟨?_, ?_, ?_, ?_⟩
  · exact (reads _ _ repeated flatTwo ⟨true⟩).mpr (Or.inl lastOfTwo)
  · exact agree _ _ _ _ _ repeated flatTwo single flatOne lastOfTwo lastOfOne
  · have element : Json.Entries ']' (fun _ => Valid) true [()]
        ([] ++ ['t', 'r', 'u', 'e'] ++ ([] ++ [']'])) :=
      .more (.first .nil) .true (.close .nil)
    exact refuses [] _ [] .nil (.array element) (Or.inl (by decide))
  · have empty : Valid ['{', '}'] := @Valid.object [] _ (.close .nil)
    exact refuses [] _ [','] .nil empty (Or.inr fun space => by simpa using space ',')

end Capabilities

end SeccompBootstrap
