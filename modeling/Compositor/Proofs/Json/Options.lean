import Compositor.Json.EngineOptions
import Compositor.Proofs.Json.Reading
import Compositor.Proofs.Json.Writing
import Mathlib.Data.List.Nodup

/-!
# Engine options in JSON

An object describes engine options if it gives some of the five fields, each of them once and with
a value of its type. Any other object has a fault of one of a few kinds. So a text is accepted or
rejected by what it says, however it is written down.
-/

set_option autoImplicit false

namespace Compositor

namespace Json

/-! ## Values of fields -/

/-- A value is a whole number of at most 64 bits, without a sign, a point or an exponent. -/
inductive IsWord : Value → UInt64 → Prop where
  | digits {whole : List Digit} {word : UInt64} : digitsValue whole = word.toNat →
      IsWord (.number ⟨false, whole, none, none⟩) word

inductive IsFlag : Value → Bool → Prop where
  | bool {value : Bool} : IsFlag (.bool value) value

/-- The ways in which a value is not such a number. -/
inductive NoWord : Value → Prop where
  | null : NoWord .null
  | bool {value : Bool} : NoWord (.bool value)
  | string {text : Option String} : NoWord (.string text)
  | array {items : List Value} : NoWord (.array items)
  | object {members : List Member} : NoWord (.object members)
  | negative {numeral : Numeral} : numeral.negative = true → NoWord (.number numeral)
  | fraction {numeral : Numeral} : numeral.fraction ≠ none → NoWord (.number numeral)
  | exponent {numeral : Numeral} : numeral.exponent ≠ none → NoWord (.number numeral)
  | large {numeral : Numeral} : UInt64.size ≤ digitsValue numeral.whole →
      NoWord (.number numeral)

inductive NoFlag : Value → Prop where
  | null : NoFlag .null
  | number {numeral : Numeral} : NoFlag (.number numeral)
  | string {text : Option String} : NoFlag (.string text)
  | array {items : List Value} : NoFlag (.array items)
  | object {members : List Member} : NoFlag (.object members)

variable {value : Value}

theorem word64?_number (numeral : Numeral) :
    (Value.number numeral).word64? =
      if numeral.negative = false ∧ numeral.fraction = none ∧ numeral.exponent = none ∧
        digitsValue numeral.whole < UInt64.size
      then some (UInt64.ofNat (digitsValue numeral.whole)) else none := by
  obtain ⟨_ | _, whole, _ | _, _ | _⟩ := numeral
  · by_cases small : digitsValue whole < UInt64.size
    · simp [Value.word64?, Value.natBelow?, Numeral.natBelow?, Numeral.magnitude?, wordLimit, small]
    · simp [Value.word64?, Value.natBelow?, Numeral.natBelow?, Numeral.magnitude?, wordLimit, small]
  all_goals rfl

theorem IsWord.read {word : UInt64} (is : IsWord value word) : value.word64? = some word := by
  cases is with
  | digits same =>
      have small : word.toNat < UInt64.size := word.toNat_lt_size
      simp [word64?_number, same, small]

theorem IsFlag.read {flag : Bool} (is : IsFlag value flag) : value.bool? = some flag := by
  cases is with
  | bool => rfl

theorem NoWord.read (no : NoWord value) : value.word64? = none := by
  cases no with
  | negative minus => simp [word64?_number, minus]
  | fraction point => simp [word64?_number, point]
  | exponent mark => simp [word64?_number, mark]
  | large large => simp [word64?_number, Nat.not_lt.mpr large]
  | _ => rfl

theorem NoFlag.read (no : NoFlag value) : value.bool? = none := by
  cases no <;> rfl

theorem isWord_or_noWord (value : Value) : (∃ word, IsWord value word) ∨ NoWord value := by
  cases value with
  | number numeral =>
      obtain ⟨_ | _, whole, _ | fraction, _ | exponent⟩ := numeral
      · rcases Nat.lt_or_ge (digitsValue whole) UInt64.size with small | large
        · have same := UInt64.toNat_ofNat_of_lt small
          exact .inl ⟨_, .digits same.symm⟩
        · exact .inr (.large large)
      · exact .inr (.exponent (Option.some_ne_none exponent))
      · exact .inr (.fraction (Option.some_ne_none fraction))
      · exact .inr (.fraction (Option.some_ne_none fraction))
      all_goals exact .inr (.negative rfl)
  | null => exact .inr .null
  | bool => exact .inr .bool
  | string => exact .inr .string
  | array => exact .inr .array
  | object => exact .inr .object

theorem isFlag_or_noFlag (value : Value) : (∃ flag, IsFlag value flag) ∨ NoFlag value := by
  cases value with
  | bool value => exact .inl ⟨value, .bool⟩
  | null => exact .inr .null
  | number => exact .inr .number
  | string => exact .inr .string
  | array => exact .inr .array
  | object => exact .inr .object

/-! ## Records -/

theorem namedMembers?_eq_some_iff {members : List Member} {record : Record} :
    Value.namedMembers? members = some record ↔
      members = record.map fun field => (some field.1, field.2) := by
  unfold Value.namedMembers?
  constructor
  · intro named
    induction members generalizing record with
    | nil =>
        cases named
        rfl
    | cons member rest ih =>
        simp only [List.mapM_cons, Option.bind_eq_bind, Option.bind_eq_some_iff,
          Option.map_eq_some_iff] at named
        obtain ⟨field, ⟨name, key, rfl⟩, others, named, same⟩ := named
        cases same
        rw [List.map_cons, ← ih named, ← key]
  · rintro rfl
    induction record with
    | nil => rfl
    | cons field rest ih => simp [List.mapM_cons, ih]

/-- Objects in which all keys are known and different are records, and if no other keys are
allowed, no other objects are. -/
theorem record?_eq_some_iff {names : List String} {members : List Member} {record : Record} :
    (Value.object members).record? .refused names = some record ↔
      (members = record.map fun field => (some field.1, field.2)) ∧
        (∀ field ∈ record, field.1 ∈ names) ∧ (record.map (·.1)).Nodup := by
  rw [← namedMembers?_eq_some_iff]
  simp only [Value.record?, Option.bind_eq_bind, Option.bind_eq_some_iff]
  constructor
  · rintro ⟨named, found, read⟩
    split at read
    · cases read
    · next all =>
      have long := List.length_filter_le (fun field => names.contains field.1) named
      have known : ∀ field ∈ named, names.contains field.1 = true := by
        rw [← List.length_filter_eq_length_iff]
        exact Nat.le_antisymm long (Nat.le_of_not_lt fun fewer => all ⟨trivial, fewer⟩)
      have kept := List.filter_eq_self.mpr known
      rw [kept] at read
      obtain ⟨distinct, same⟩ := Option.ite_none_right_eq_some.mp read
      cases same
      exact ⟨found, fun field member => by simpa using known field member, distinct⟩
  · rintro ⟨named, known, distinct⟩
    have known : ∀ field ∈ record, names.contains field.1 = true := by simpa using known
    have kept := List.filter_eq_self.mpr known
    exact ⟨record, named, by rw [kept]; simp [distinct]⟩

variable {record : Record} {name : String}

theorem lookup_of_absent (absent : ∀ value, (name, value) ∉ record) :
    record.lookup name = none := by
  rw [List.lookup_eq_none_iff]
  intro field member
  simp only [bne_iff_ne]
  rintro rfl
  exact absent field.2 member

theorem lookup_of_mem (distinct : (record.map (·.1)).Nodup) (member : (name, value) ∈ record) :
    record.lookup name = some value := by
  induction record with
  | nil => cases member
  | cons field rest ih =>
      obtain ⟨apart, distinct⟩ := List.nodup_cons.mp distinct
      rcases List.mem_cons.mp member with rfl | later
      · simp
      · have other : name ≠ field.1 := by
          rintro rfl
          exact apart (List.mem_map_of_mem (f := (·.1)) later)
        have skipped : (name == field.1) = false := by simpa using other
        rw [List.lookup_cons, skipped]
        exact ih distinct later

/-- What an object says about a field. -/
inductive Field {α : Type} (Is : Value → α → Prop) (members : List Member) (name : String) :
    Option α → Prop where
  | missing : (∀ value, (some name, value) ∉ members) → Field Is members name none
  | given {value : Value} {meant : α} : (some name, value) ∈ members → Is value meant →
      Field Is members name (some meant)

/-- A field that is given is read, and one that is missing has its default. -/
theorem Field.optional {α : Type} {Is : Value → α → Prop} {read : Value → Option α}
    {given : Option α}
    (field : Field Is (record.map fun field => (some field.1, field.2)) name given)
    (reads : ∀ value meant, Is value meant → read value = some meant)
    (distinct : (record.map (·.1)).Nodup) (default : α) :
    record.optional name default read = some (given.getD default) := by
  cases field with
  | missing absent =>
      have absent : ∀ value, (name, value) ∉ record := by
        intro value member
        exact absent value (List.mem_map_of_mem (f := fun field => (some field.1, field.2)) member)
      simp [Record.optional, lookup_of_absent absent]
  | @given value meant member is =>
      have member : (name, value) ∈ record := by simpa using member
      simp [Record.optional, lookup_of_mem distinct member, reads value meant is]

/-- A value that cannot be read is not replaced by the default. -/
theorem optional_of_misfit {α : Type} {read : Value → Option α}
    (distinct : (record.map (·.1)).Nodup) (member : (name, value) ∈ record)
    (unread : read value = none) (default : α) : record.optional name default read = none := by
  simp [Record.optional, lookup_of_mem distinct member, unread]

theorem Field.perm {α : Type} {Is : Value → α → Prop} {members reordered : List Member}
    {given : Option α} (field : Field Is members name given) (perm : members.Perm reordered) :
    Field Is reordered name given := by
  cases field with
  | missing absent => exact .missing fun value member => absent value (perm.mem_iff.mpr member)
  | given member is => exact .given (perm.mem_iff.mp member) is

/-- A field is missing or has a value of its type, unless it has another value. -/
theorem field_or_misfit {α : Type} {Is : Value → α → Prop} {No : Value → Prop}
    (total : ∀ value, (∃ meant, Is value meant) ∨ No value) (members : List Member)
    (name : String) :
    (∃ given, Field Is members name given) ∨
      ∃ value, (some name, value) ∈ members ∧ No value := by
  by_cases absent : ∀ value, (some name, value) ∉ members
  · exact .inl ⟨none, .missing absent⟩
  · obtain ⟨value, member⟩ := not_forall_not.mp absent
    rcases total value with ⟨meant, is⟩ | no
    · exact .inl ⟨some meant, .given member is⟩
    · exact .inr ⟨value, member, no⟩

/-- An object whose keys are texts is that of a record. -/
theorem exists_record {members : List Member}
    (named : ∀ member ∈ members, ∃ name, member.1 = some name) :
    ∃ record : Record, members = record.map fun field => (some field.1, field.2) := by
  induction members with
  | nil => exact ⟨[], rfl⟩
  | cons member rest ih =>
      obtain ⟨⟨name, key⟩, others⟩ := List.forall_mem_cons.mp named
      obtain ⟨record, rfl⟩ := ih others
      exact ⟨(name, member.2) :: record, by simp [← key]⟩

/-- The keys of a record are different if they are so as keys of its object. -/
theorem nodup_keys_iff :
    ((record.map fun field => (some field.1, field.2)).map (·.1)).Nodup ↔
      (record.map (·.1)).Nodup := by
  have same : (record.map fun field => (some field.1, field.2)).map (·.1) =
      (record.map (·.1)).map some := by simp
  rw [same]
  exact List.nodup_map_iff fun _ _ same => Option.some.inj same

end Json

namespace EngineOptions

open Json

/-! ## What an object says -/

/-- The fields that are given. -/
structure Given where
  outputCacheSize : Option UInt64
  traceCompletion : Option Bool
  enableSecure : Option Bool
  fenceTimeout : Option UInt64
  tracerTimeout : Option UInt64

namespace Given

def options (given : Given) : EngineOptions where
  outputCacheSize := given.outputCacheSize.getD 0
  traceCompletion := given.traceCompletion.getD false
  enableSecure := given.enableSecure.getD false
  fenceTimeout := given.fenceTimeout.getD 3000
  tracerTimeout := given.tracerTimeout.getD 3000

def outcome (given : Given) : Except ValidationError EngineOptions :=
  if given.fenceTimeout = some 0 then .error .zeroFenceTimeout
  else if given.tracerTimeout = some 0 then .error .zeroTracerTimeout
  else .ok given.options

end Given

/-- An object gives some fields and nothing else, in any order. -/
structure Gives (members : List Member) (given : Given) : Prop where
  known : ∀ member ∈ members, ∃ name ∈ fieldNames, member.1 = some name
  distinct : (members.map (·.1)).Nodup
  outputCacheSize : Field IsWord members "output_cache_size" given.outputCacheSize
  traceCompletion : Field IsFlag members "trace_gpu_completion" given.traceCompletion
  enableSecure : Field IsFlag members "enable_protected_context" given.enableSecure
  fenceTimeout : Field IsWord members "fence_timeout_ms" given.fenceTimeout
  tracerTimeout : Field IsWord members "tracer_wait_timeout_ms" given.tracerTimeout

/-- What can be wrong with an object. -/
inductive Faulty (members : List Member) : Prop where
  | unknown {key : Option String} {value : Value} : (key, value) ∈ members →
      (∀ name ∈ fieldNames, key ≠ some name) → Faulty members
  | repeated : ¬(members.map (·.1)).Nodup → Faulty members
  | word {name : String} {value : Value} :
      name ∈ ["output_cache_size", "fence_timeout_ms", "tracer_wait_timeout_ms"] →
      (some name, value) ∈ members → NoWord value → Faulty members
  | flag {name : String} {value : Value} :
      name ∈ ["trace_gpu_completion", "enable_protected_context"] →
      (some name, value) ∈ members → NoFlag value → Faulty members

variable {members : List Member} {given : Given}

theorem ofJson?_of_gives (gives : Gives members given) :
    ofJson? (.object members) = some given.options := by
  obtain ⟨known, distinct, size, trace, secure, fence, tracer⟩ := gives
  obtain ⟨record, rfl⟩ : ∃ record : Record,
      members = record.map fun field => (some field.1, field.2) := by
    apply exists_record
    intro member among
    obtain ⟨name, _, key⟩ := known member among
    exact ⟨name, key⟩
  have distinct := nodup_keys_iff.mp distinct
  have known : ∀ field ∈ record, field.1 ∈ fieldNames := by
    intro field member
    obtain ⟨name, among, key⟩ := known _
      (List.mem_map_of_mem (f := fun field => (some field.1, field.2)) member)
    cases key
    exact among
  have read := record?_eq_some_iff.mpr ⟨rfl, known, distinct⟩
  have size := size.optional (fun _ _ => IsWord.read) distinct standard.outputCacheSize
  have trace := trace.optional (fun _ _ => IsFlag.read) distinct standard.traceCompletion
  have secure := secure.optional (fun _ _ => IsFlag.read) distinct standard.enableSecure
  have fence := fence.optional (fun _ _ => IsWord.read) distinct standard.fenceTimeout
  have tracer := tracer.optional (fun _ _ => IsWord.read) distinct standard.tracerTimeout
  simp only [ofJson?, read, size, trace, secure, fence, tracer, Option.bind_eq_bind,
    Option.bind_some]
  rfl

theorem ofJson?_of_faulty (faulty : Faulty members) : ofJson? (.object members) = none := by
  cases result : ofJson? (.object members) with
  | none => rfl
  | some options =>
      simp only [ofJson?, Option.bind_eq_bind, Option.bind_eq_some_iff] at result
      obtain ⟨record, read, size, sizeRead, trace, traceRead, secure, secureRead, fence, fenceRead,
        tracer, tracerRead, _⟩ := result
      obtain ⟨rfl, known, distinct⟩ := record?_eq_some_iff.mp read
      exfalso
      -- The record could not have been read, or not the field with the misfit.
      cases faulty with
      | unknown member other =>
          obtain ⟨field, among, same⟩ := List.mem_map.mp member
          cases same
          exact other field.1 (known field among) rfl
      | repeated again => exact again (nodup_keys_iff.mpr distinct)
      | @word name value among member no =>
          have member : (name, value) ∈ record := by simpa using member
          have unread := optional_of_misfit distinct member no.read
          simp only [List.mem_cons, List.not_mem_nil, or_false] at among
          rcases among with rfl | rfl | rfl
          · cases (unread _).symm.trans sizeRead
          · cases (unread _).symm.trans fenceRead
          · cases (unread _).symm.trans tracerRead
      | @flag name value among member no =>
          have member : (name, value) ∈ record := by simpa using member
          have unread := optional_of_misfit distinct member no.read
          simp only [List.mem_cons, List.not_mem_nil, or_false] at among
          rcases among with rfl | rfl
          · cases (unread _).symm.trans traceRead
          · cases (unread _).symm.trans secureRead

theorem gives_or_faulty (members : List Member) :
    (∃ given, Gives members given) ∨ Faulty members := by
  by_cases faulty : Faulty members
  · exact .inr faulty
  · have known : ∀ member ∈ members, ∃ name ∈ fieldNames, member.1 = some name := by
      intro member among
      by_contra unknown
      exact faulty (.unknown among fun name field key => unknown ⟨name, field, key⟩)
    have distinct : (members.map (·.1)).Nodup := by
      by_contra again
      exact faulty (.repeated again)
    have words : ∀ name ∈ ["output_cache_size", "fence_timeout_ms", "tracer_wait_timeout_ms"],
        ∃ given, Field IsWord members name given := by
      intro name among
      rcases field_or_misfit isWord_or_noWord members name with field | ⟨value, member, no⟩
      · exact field
      · exact absurd (.word among member no) faulty
    have flags : ∀ name ∈ ["trace_gpu_completion", "enable_protected_context"],
        ∃ given, Field IsFlag members name given := by
      intro name among
      rcases field_or_misfit isFlag_or_noFlag members name with field | ⟨value, member, no⟩
      · exact field
      · exact absurd (.flag among member no) faulty
    obtain ⟨size, sizeField⟩ := words "output_cache_size" (by simp)
    obtain ⟨trace, traceField⟩ := flags "trace_gpu_completion" (by simp)
    obtain ⟨secure, secureField⟩ := flags "enable_protected_context" (by simp)
    obtain ⟨fence, fenceField⟩ := words "fence_timeout_ms" (by simp)
    obtain ⟨tracer, tracerField⟩ := words "tracer_wait_timeout_ms" (by simp)
    exact .inl ⟨⟨size, trace, secure, fence, tracer⟩,
      ⟨known, distinct, sizeField, traceField, secureField, fenceField, tracerField⟩⟩

/-! ## What a text says -/

/-- Only a timeout that is given can be zero. -/
theorem Given.check_options (given : Given) :
    (given.options.check.map fun _ => given.options) = given.outcome := by
  unfold check outcome
  have fence : given.options.fenceTimeout = 0 ↔ given.fenceTimeout = some 0 := by
    cases same : given.fenceTimeout <;> simp [options, same]
  have tracer : given.options.tracerTimeout = 0 ↔ given.tracerTimeout = some 0 := by
    cases same : given.tracerTimeout <;> simp [options, same]
  simp only [fence, tracer]
  split
  · rfl
  · split <;> rfl

variable {text : String}

theorem ofText_of_gives (spells : Spells text (.object members)) (gives : Gives members given) :
    ofText text = given.outcome := by
  have read := Value.ofText?_eq_some_iff.mpr spells
  simp only [ofText, read, Option.bind_some, ofJson?_of_gives gives]
  exact given.check_options

theorem ofText_of_faulty (spells : Spells text (.object members)) (faulty : Faulty members) :
    ofText text = .error .malformedOptions := by
  have read := Value.ofText?_eq_some_iff.mpr spells
  simp only [ofText, read, Option.bind_some, ofJson?_of_faulty faulty]

/-- What is written for options gives all of them. -/
theorem text_gives (options : EngineOptions) :
    ∃ members, Spells options.text (.object members) ∧
      Gives members ⟨some options.outputCacheSize, some options.traceCompletion,
        some options.enableSecure, some options.fenceTimeout, some options.tracerTimeout⟩ := by
  have word (word : UInt64) : IsWord (.number (.ofNat word.toNat)) word :=
    .digits (digitsValue_decimal word.toNat)
  refine ⟨_, options.document.text_spells, ?_⟩
  constructor
  · simp [fieldNames]
  · simp
  · exact .given (by simp [Document.value]) (word options.outputCacheSize)
  · exact .given (by simp [Document.value]) .bool
  · exact .given (by simp [Document.value]) .bool
  · exact .given (by simp [Document.value]) (word options.fenceTimeout)
  · exact .given (by simp [Document.value]) (word options.tracerTimeout)

/-- The order of the members does not matter. -/
theorem Gives.perm {reordered : List Member} (gives : Gives members given)
    (perm : members.Perm reordered) : Gives reordered given where
  known member among := gives.known member (perm.mem_iff.mpr among)
  distinct := (perm.map _).nodup_iff.mp gives.distinct
  outputCacheSize := gives.outputCacheSize.perm perm
  traceCompletion := gives.traceCompletion.perm perm
  enableSecure := gives.enableSecure.perm perm
  fenceTimeout := gives.fenceTimeout.perm perm
  tracerTimeout := gives.tracerTimeout.perm perm

theorem Faulty.perm {reordered : List Member} (faulty : Faulty members)
    (perm : members.Perm reordered) : Faulty reordered := by
  cases faulty with
  | unknown member other => exact .unknown (perm.mem_iff.mp member) other
  | repeated again => exact .repeated (mt (perm.map _).nodup_iff.mpr again)
  | word among member no => exact .word among (perm.mem_iff.mp member) no
  | flag among member no => exact .flag among (perm.mem_iff.mp member) no

/-- Options that can be used are read back from what is written for them. The text of an object is
read as the options with the given fields, and the defaults elsewhere, unless a given timeout is
zero, and not at all if the object is faulty. There are no other objects, and neither the order of
the members nor the way they are written matters. What is not JSON is not read. -/
theorem decodes_exactly :
    (∀ options : EngineOptions, options.fenceTimeout ≠ 0 → options.tracerTimeout ≠ 0 →
      ofText options.text = .ok options) ∧
    (∀ text members, Spells text (.object members) →
      (∀ given, Gives members given → ofText text = given.outcome) ∧
      (Faulty members → ofText text = .error .malformedOptions) ∧
      ((∃ given, Gives members given) ∨ Faulty members) ∧
      ∀ other reordered, Spells other (.object reordered) → members.Perm reordered →
        ofText other = ofText text) ∧
    ∀ text, (∀ value, ¬Spells text value) → ofText text = .error .malformedOptions := by
  refine ⟨?_, ?_, ?_⟩
  · intro options fence tracer
    obtain ⟨members, spells, gives⟩ := text_gives options
    rw [ofText_of_gives spells gives]
    simp [Given.outcome, Given.options, fence, tracer]
  · intro text members spells
    refine ⟨fun _ => ofText_of_gives spells, ofText_of_faulty spells, gives_or_faulty members, ?_⟩
    intro other reordered again perm
    rcases gives_or_faulty members with ⟨given, gives⟩ | faulty
    · rw [ofText_of_gives spells gives, ofText_of_gives again (gives.perm perm)]
    · rw [ofText_of_faulty spells faulty, ofText_of_faulty again (faulty.perm perm)]
  · intro text foreign
    cases read : Value.ofText? text with
    | none => simp [ofText, read]
    | some value => exact absurd (Value.ofText?_eq_some_iff.mp read) (foreign value)

/-- Two fields in another order, with blanks of all kinds. -/
private def twoFields : String :=
  " \x7b\t\"tracer_wait_timeout_ms\" : 7,\r\n\"output_cache_size\":2 \x7d\n"

private def twoMembers : List Member :=
  [(some "tracer_wait_timeout_ms", .number ⟨false, [digitOf (ascii '7')], none, none⟩),
    (some "output_cache_size", .number ⟨false, [digitOf (ascii '2')], none, none⟩)]

/-- The fields can come in any order and with any blanks. A `null` is no value of a field, and an
object has to be closed. -/
theorem decodes_exactly_fields :
    ofText twoFields = .ok ⟨2, false, false, 3000, 7⟩ ∧
      ofText "\x7b\"fence_timeout_ms\":null\x7d" = .error .malformedOptions ∧
      ofText "\x7b" = .error .malformedOptions ∧
      ofText (EngineOptions.text ⟨2, true, false, 1, 0xffffffffffffffff⟩) =
        .ok ⟨2, true, false, 1, 0xffffffffffffffff⟩ := by
  obtain ⟨written, objects, foreign⟩ := decodes_exactly
  have spells (text : String) (value : Value) (plain : text.toList.all (·.toNat < 128))
      (scanned : Token.scanAll? (asciiBytes text) = some value.tokens) : Spells text value := by
    have spelled := Token.spelled_of_scanUpTo scanned
    rwa [← textBytes_ascii text plain] at spelled
  refine ⟨?_, ?_, ?_, ?_⟩
  · have spelled := spells twoFields (.object twoMembers) (by decide) (by decide +kernel)
    have two : IsWord (.number ⟨false, [digitOf (ascii '2')], none, none⟩) 2 := .digits rfl
    have seven : IsWord (.number ⟨false, [digitOf (ascii '7')], none, none⟩) 7 := .digits rfl
    refine (objects _ _ spelled).1 ⟨some 2, none, none, none, some 7⟩ ?_
    constructor
    · decide
    · decide
    · exact .given (by simp [twoMembers]) two
    · exact .missing (by simp [twoMembers])
    · exact .missing (by simp [twoMembers])
    · exact .missing (by simp [twoMembers])
    · exact .given (by simp [twoMembers]) seven
  · have spelled := spells "\x7b\"fence_timeout_ms\":null\x7d"
      (.object [(some "fence_timeout_ms", .null)]) (by decide) (by decide +kernel)
    exact (objects _ _ spelled).2.1 (.word (by simp) List.mem_cons_self .null)
  · apply foreign
    intro value spelled
    have read := Value.ofText?_eq_some_iff.mpr spelled
    have unread : (Value.ofBytes? (asciiBytes "\x7b")).isNone = true := by decide +kernel
    rw [← textBytes_ascii _ (by decide)] at unread
    have read : Value.ofBytes? (textBytes "\x7b") = some value := read
    simp [read] at unread
  · exact written ⟨2, true, false, 1, 0xffffffffffffffff⟩ (by decide) (by decide)

end EngineOptions

end Compositor
