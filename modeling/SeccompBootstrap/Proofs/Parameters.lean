import SeccompBootstrap.Parameters
import SeccompBootstrap.Proofs.Text.Decimal

/-!
The grammar of an argument vector. An id is a decimal numeral, with zeros in front of it or
without, below `2 ^ 31`. One that is no numeral, or denotes `2 ^ 32` or more, is invalid as a text,
and one between these bounds is out of range as a number. The fields are judged in their order, so
that an error is about the first field that is not as it should be, whatever the later ones hold.
Reading succeeds exactly where each of the three fields is there and spells what the parameters
hold.
-/

set_option autoImplicit false
set_option relaxedAutoImplicit false

namespace SeccompBootstrap

theorem Capabilities.ofJson_toJson (c : Capabilities) : ofJson c.toJson = .ok c := by
  have read : (ofJson c.toJson).toOption = some c := by
    obtain ⟨_ | _⟩ := c
    · decide +kernel
    · decide +kernel
  rcases result : ofJson c.toJson with reason | given
  · rw [result] at read
    cases read
  · rw [result] at read
    exact congrArg Except.ok (Option.some.inj read)

namespace Parameters

variable {argv : List String} {position : Nat} {name text : String} {id : UInt32}
  {capabilities : Capabilities} {p : Parameters}

theorem readId_eq_ok_iff :
    readId name text = .ok id ↔
      Text.ofDigits? text.toList = some id.toNat ∧ fitsInt32 id = true := by
  have bound : greatestId < UInt32.size := by decide
  unfold readId fitsInt32
  rcases spelled : Text.ofDigits? text.toList with _ | n
  · simp
  · simp only [Option.some.injEq, decide_eq_true_eq]
    constructor
    · intro read
      have small : ¬ UInt32.size ≤ n := fun large => by simp [large] at read
      have fits : ¬ greatestId < n := fun great => by simp [small, great] at read
      rw [if_neg small, if_neg fits] at read
      have given : UInt32.ofNat n = id := Except.ok.inj read
      have same : id.toNat = n := by
        rw [← given]
        exact UInt32.toNat_ofNat_of_lt' (by omega)
      exact ⟨same.symm, by omega⟩
    · rintro ⟨rfl, fits⟩
      rw [if_neg (by omega), if_neg (by omega), UInt32.ofNat_toNat]

theorem readId_toString (name : String) (fits : fitsInt32 id = true) :
    readId name (toString id.toNat) = .ok id :=
  readId_eq_ok_iff.mpr ⟨Text.ofDigits?_toString id.toNat, fits⟩

theorem idAt_of_present (present : argv[position]? = some text) :
    idAt argv position name = readId name text := by
  rw [idAt, argument, present]
  rfl

theorem idAt_of_short (short : argv.length ≤ position) :
    idAt argv position name = .error (.missing position name) := by
  rw [idAt, argument, List.getElem?_eq_none short]
  rfl

theorem idAt_eq_ok_iff :
    idAt argv position name = .ok id ↔
      ∃ text, argv[position]? = some text ∧ readId name text = .ok id := by
  rcases present : argv[position]? with _ | text
  · rw [idAt_of_short (List.getElem?_eq_none_iff.mp present)]
    simp
  · rw [idAt_of_present present]
    simp

theorem capabilitiesAt_of_present (present : argv[capabilitiesPosition]? = some text) :
    capabilitiesAt argv = (Capabilities.ofJson text).mapError .invalidCapabilities := by
  rw [capabilitiesAt, argument, present]
  rfl

theorem capabilitiesAt_of_short (short : argv.length ≤ capabilitiesPosition) :
    capabilitiesAt argv = .error (.missing capabilitiesPosition "capabilities") := by
  rw [capabilitiesAt, argument, List.getElem?_eq_none short]
  rfl

theorem capabilitiesAt_eq_ok_iff :
    capabilitiesAt argv = .ok capabilities ↔
      ∃ text, argv[capabilitiesPosition]? = some text ∧
        Capabilities.ofJson text = .ok capabilities := by
  rcases present : argv[capabilitiesPosition]? with _ | text
  · rw [capabilitiesAt_of_short (List.getElem?_eq_none_iff.mp present)]
    simp
  · rw [capabilitiesAt_of_present present]
    rcases read : Capabilities.ofJson text with reason | given
    · simp [read, Except.mapError]
    · simp [read, Except.mapError]

theorem ofArguments_eq_ok_iff :
    ofArguments argv = .ok p ↔
      idAt argv uidPosition "uid" = .ok p.uid ∧ idAt argv gidPosition "gid" = .ok p.gid ∧
        capabilitiesAt argv = .ok p.capabilities := by
  simp only [ofArguments, bind_eq_ok]
  constructor
  · rintro ⟨uid, first, gid, second, capabilities, third, same⟩
    obtain rfl := Except.ok.inj same
    exact ⟨first, second, third⟩
  · rintro ⟨first, second, third⟩
    exact ⟨p.uid, first, p.gid, second, p.capabilities, third, rfl⟩

theorem fitsInt32_of_idAt (read : idAt argv position name = .ok id) : fitsInt32 id = true := by
  obtain ⟨text, -, spelled⟩ := idAt_eq_ok_iff.mp read
  exact (readId_eq_ok_iff.mp spelled).2

theorem fitsInt32_of_ofArguments (read : ofArguments argv = .ok p) :
    fitsInt32 p.uid = true ∧ fitsInt32 p.gid = true := by
  obtain ⟨uid, gid, -⟩ := ofArguments_eq_ok_iff.mp read
  exact ⟨fitsInt32_of_idAt uid, fitsInt32_of_idAt gid⟩

theorem ofArguments_written (p : Parameters) (uidFits : fitsInt32 p.uid = true)
    (gidFits : fitsInt32 p.gid = true) (program workload : String) (rest : List String) :
    ofArguments (program :: workload :: toString p.uid.toNat :: toString p.gid.toNat ::
      p.capabilities.toJson :: rest) = .ok p := by
  refine ofArguments_eq_ok_iff.mpr ⟨?_, ?_, ?_⟩
  · exact idAt_eq_ok_iff.mpr ⟨_, rfl, readId_toString "uid" uidFits⟩
  · exact idAt_eq_ok_iff.mpr ⟨_, rfl, readId_toString "gid" gidFits⟩
  · exact capabilitiesAt_eq_ok_iff.mpr ⟨_, rfl, Capabilities.ofJson_toJson p.capabilities⟩

open Text (IsNumeral isDigitByte placeValue)
open Text.Utf8 (bytes)

/-- What the text at a position says as an id, judged by its bytes. -/
inductive IdField (argv : List String) (position : Nat) (name : String) :
    Except ParameterError UInt32 → Prop
  | missing (short : argv.length ≤ position) :
      IdField argv position name (.error (.missing position name))
  | malformed {text : String} (present : argv[position]? = some text)
      (other : text = "" ∨ ∃ b ∈ bytes text, isDigitByte b = false) :
      IdField argv position name (.error (.invalidId name text))
  | tooLarge {text : String} (present : argv[position]? = some text)
      (numeral : IsNumeral (bytes text)) (large : 2 ^ 32 ≤ placeValue (bytes text)) :
      IdField argv position name (.error (.invalidId name text))
  | outOfRange {text : String} {value : UInt32} (present : argv[position]? = some text)
      (numeral : IsNumeral (bytes text)) (denoted : placeValue (bytes text) = value.toNat)
      (great : 2 ^ 31 ≤ value.toNat) :
      IdField argv position name (.error (.outOfRange name value))
  | valid {text : String} {id : UInt32} (present : argv[position]? = some text)
      (numeral : IsNumeral (bytes text)) (denoted : placeValue (bytes text) = id.toNat)
      (fits : id.toNat < 2 ^ 31) :
      IdField argv position name (.ok id)

/-- What the text at position 4 says as capability options. -/
inductive CapabilitiesField (argv : List String) : Except ParameterError Capabilities → Prop
  | missing (short : argv.length ≤ 4) :
      CapabilitiesField argv (.error (.missing 4 "capabilities"))
  | refused {text reason : String} (present : argv[4]? = some text)
      (read : Capabilities.ofJson text = .error reason) :
      CapabilitiesField argv (.error (.invalidCapabilities reason))
  | valid {text : String} {capabilities : Capabilities} (present : argv[4]? = some text)
      (read : Capabilities.ofJson text = .ok capabilities) :
      CapabilitiesField argv (.ok capabilities)

/-- What an argument vector says as parameters: all three fields, or the first error of one. -/
inductive Reading (argv : List String) : Except ParameterError Parameters → Prop
  | uid {error : ParameterError} (first : IdField argv 2 "uid" (.error error)) :
      Reading argv (.error error)
  | gid {uid : UInt32} {error : ParameterError} (first : IdField argv 2 "uid" (.ok uid))
      (second : IdField argv 3 "gid" (.error error)) :
      Reading argv (.error error)
  | capabilities {uid gid : UInt32} {error : ParameterError}
      (first : IdField argv 2 "uid" (.ok uid)) (second : IdField argv 3 "gid" (.ok gid))
      (third : CapabilitiesField argv (.error error)) :
      Reading argv (.error error)
  | parameters {uid gid : UInt32} {capabilities : Capabilities}
      (first : IdField argv 2 "uid" (.ok uid)) (second : IdField argv 3 "gid" (.ok gid))
      (third : CapabilitiesField argv (.ok capabilities)) :
      Reading argv (.ok ⟨uid, gid, capabilities⟩)

theorem not_isNumeral_iff :
    ¬ IsNumeral (bytes text) ↔ text = "" ∨ ∃ b ∈ bytes text, isDigitByte b = false := by
  have empty : bytes text = [] ↔ text = "" := by
    rw [bytes, Text.encode_eq_nil_iff, String.toList_eq_nil_iff]
  rw [IsNumeral, not_and_or, not_not, empty]
  simp only [not_forall, Bool.not_eq_true, exists_prop]

theorem readId_of_not_isNumeral (other : ¬ IsNumeral (bytes text)) :
    readId name text = .error (.invalidId name text) := by
  rw [readId, Text.ofDigits?_of_not_isNumeral other]

theorem readId_of_isNumeral (numeral : IsNumeral (bytes text)) :
    readId name text =
      if 2 ^ 32 ≤ placeValue (bytes text) then .error (.invalidId name text)
      else if 2 ^ 31 ≤ placeValue (bytes text) then
        .error (.outOfRange name (.ofNat (placeValue (bytes text))))
      else .ok (.ofNat (placeValue (bytes text))) := by
  rw [readId, Text.ofDigits?_of_isNumeral numeral]
  rfl

example : readId "uid" "0002147483647" = .ok 2147483647 ∧
    readId "uid" "2147483648" = .error (.outOfRange "uid" 2147483648) ∧
    readId "uid" "4294967296" = .error (.invalidId "uid" "4294967296") := by decide

theorem readId_of_denoted {value : UInt32} (numeral : IsNumeral (bytes text))
    (denoted : placeValue (bytes text) = value.toNat) :
    readId name text =
      if 2 ^ 31 ≤ value.toNat then .error (.outOfRange name value) else .ok value := by
  have bounded : ¬ 2 ^ 32 ≤ value.toNat := Nat.not_le_of_lt value.toNat_lt
  rw [readId_of_isNumeral numeral, denoted, if_neg bounded, UInt32.ofNat_toNat]

theorem IdField.eq_idAt {field : Except ParameterError UInt32}
    (given : IdField argv position name field) : idAt argv position name = field := by
  cases given with
  | missing short => exact idAt_of_short short
  | malformed present other =>
      rw [idAt_of_present present]
      exact readId_of_not_isNumeral (not_isNumeral_iff.mpr other)
  | tooLarge present numeral large =>
      rw [idAt_of_present present, readId_of_isNumeral numeral, if_pos large]
  | outOfRange present numeral denoted great =>
      rw [idAt_of_present present, readId_of_denoted numeral denoted, if_pos great]
  | valid present numeral denoted fits =>
      rw [idAt_of_present present, readId_of_denoted numeral denoted,
        if_neg (Nat.not_le_of_lt fits)]

theorem exists_idField (argv : List String) (position : Nat) (name : String) :
    ∃ field, IdField argv position name field := by
  rcases present : argv[position]? with _ | text
  · exact ⟨_, .missing (List.getElem?_eq_none_iff.mp present)⟩
  · by_cases numeral : IsNumeral (bytes text)
    · by_cases large : 2 ^ 32 ≤ placeValue (bytes text)
      · exact ⟨_, .tooLarge present numeral large⟩
      · have denoted : placeValue (bytes text) = (UInt32.ofNat (placeValue (bytes text))).toNat :=
          (UInt32.toNat_ofNat_of_lt' (Nat.lt_of_not_le large)).symm
        by_cases great : 2 ^ 31 ≤ placeValue (bytes text)
        · exact ⟨_, .outOfRange present numeral denoted (denoted ▸ great)⟩
        · exact ⟨_, .valid present numeral denoted (denoted ▸ Nat.lt_of_not_le great)⟩
    · exact ⟨_, .malformed present (not_isNumeral_iff.mp numeral)⟩

theorem idAt_eq_iff {field : Except ParameterError UInt32} :
    idAt argv position name = field ↔ IdField argv position name field := by
  constructor
  · rintro rfl
    obtain ⟨field, given⟩ := exists_idField argv position name
    rw [given.eq_idAt]
    exact given
  · exact IdField.eq_idAt

theorem readId_zeros_append {id : UInt32} (zeros : Nat) (read : readId name text = .ok id) :
    readId name (String.ofList (List.replicate zeros '0') ++ text) = .ok id := by
  have spelled : bytes (String.ofList (List.replicate zeros '0') ++ text) =
      List.replicate zeros 0x30 ++ bytes text := by
    rw [bytes, String.toList_append, Text.Utf8.encode_append, String.toList_ofList, bytes]
    congr 1
    induction zeros with
    | zero => rfl
    | succ zeros ih =>
        rw [List.replicate_succ, List.replicate_succ, Text.Utf8.encode_cons, ih]
        rfl
  have numeral : IsNumeral (bytes text) := by
    by_contra other
    rw [readId_of_not_isNumeral other] at read
    cases read
  have padded : IsNumeral (List.replicate zeros 0x30 ++ bytes text) :=
    Text.isNumeral_zeros_append zeros numeral
  rw [readId_eq_ok_iff, Text.ofDigits?_of_isNumeral numeral] at read
  rw [readId_eq_ok_iff, Text.ofDigits?_of_isNumeral (spelled ▸ padded), spelled,
    Text.placeValue_zeros_append]
  exact read

theorem CapabilitiesField.eq_capabilitiesAt {field : Except ParameterError Capabilities}
    (given : CapabilitiesField argv field) : capabilitiesAt argv = field := by
  cases given with
  | missing short => exact capabilitiesAt_of_short short
  | refused present read =>
      rw [capabilitiesAt_of_present present, read]
      rfl
  | valid present read =>
      rw [capabilitiesAt_of_present present, read]
      rfl

theorem exists_capabilitiesField (argv : List String) :
    ∃ field, CapabilitiesField argv field := by
  rcases present : argv[4]? with _ | text
  · exact ⟨_, .missing (List.getElem?_eq_none_iff.mp present)⟩
  · rcases read : Capabilities.ofJson text with reason | capabilities
    · exact ⟨_, .refused present read⟩
    · exact ⟨_, .valid present read⟩

theorem Reading.eq_ofArguments {result : Except ParameterError Parameters}
    (reading : Reading argv result) : ofArguments argv = result := by
  cases reading with
  | uid first =>
      rw [ofArguments, uidPosition, first.eq_idAt]
      rfl
  | gid first second =>
      rw [ofArguments, uidPosition, gidPosition, first.eq_idAt, second.eq_idAt]
      rfl
  | capabilities first second third =>
      rw [ofArguments, uidPosition, gidPosition, first.eq_idAt, second.eq_idAt,
        third.eq_capabilitiesAt]
      rfl
  | parameters first second third =>
      rw [ofArguments, uidPosition, gidPosition, first.eq_idAt, second.eq_idAt,
        third.eq_capabilitiesAt]
      rfl

/-- Every vector is one that the grammar describes, by the first of its fields that is an error. -/
theorem exists_reading (argv : List String) : ∃ result, Reading argv result := by
  obtain ⟨_ | uid, first⟩ := exists_idField argv 2 "uid"
  · exact ⟨_, .uid first⟩
  · obtain ⟨_ | gid, second⟩ := exists_idField argv 3 "gid"
    · exact ⟨_, .gid first second⟩
    · obtain ⟨_ | capabilities, third⟩ := exists_capabilitiesField argv
      · exact ⟨_, .capabilities first second third⟩
      · exact ⟨_, .parameters first second third⟩

/-- Parameters are read exactly by the grammar, each id exactly as its bytes say, with any count of
zeros in front of it. -/
theorem ofArguments_eq_iff_reading (argv : List String) :
    (∀ result, ofArguments argv = result ↔ Reading argv result) ∧
      (∀ position name field,
        idAt argv position name = field ↔ IdField argv position name field) ∧
      ∀ zeros name text id, readId name text = .ok id →
        readId name (String.ofList (List.replicate zeros '0') ++ text) = .ok id := by
  refine ⟨?_, fun position name field => idAt_eq_iff, fun zeros name text id read =>
    readId_zeros_append zeros read⟩
  intro result
  constructor
  · rintro rfl
    obtain ⟨result, reading⟩ := exists_reading argv
    rw [reading.eq_ofArguments]
    exact reading
  · exact Reading.eq_ofArguments

end Parameters

end SeccompBootstrap
