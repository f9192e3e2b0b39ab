import Compositor.Proofs.Json.Grammar
import Mathlib.Data.List.Chain
import Mathlib.Data.List.TakeWhile

/-!
# Scanning is exact

The scanner finds the tokens that a text spells, and only those. What has to be said beyond the
grammar is where a numeral ends, which is where nothing follows that would make it longer.
-/

set_option autoImplicit false

namespace Compositor.Json

variable {bytes rest : List UInt8} {digits : List Digit}

/-! ## Digits -/

theorem isDigit_digitByte : ∀ digit : Digit, isDigit (digitByte digit) = true := by decide

theorem digitOf_digitByte : ∀ digit : Digit, digitOf (digitByte digit) = digit := by decide

theorem digitByte_digitOf {byte : UInt8} (digit : isDigit byte = true) :
    digitByte (digitOf byte) = byte := by
  simp only [isDigit, Bool.and_eq_true, decide_eq_true_eq, UInt8.le_iff_toNat_le] at digit
  have low : 48 ≤ byte.toNat := digit.1
  have high : byte.toNat ≤ 57 := digit.2
  apply UInt8.toNat_inj.mp
  have zero : (ascii '0').toNat = 48 := rfl
  simp [digitByte, digitOf, zero, Fin.ofNat]
  omega

/-- The next byte is none of those, or there is none. -/
def NoneNext (those : UInt8 → Bool) (rest : List UInt8) : Prop :=
  ∀ byte, rest.head? = some byte → those byte = false

@[simp] theorem noneNext_cons {those : UInt8 → Bool} {byte : UInt8} :
    NoneNext those (byte :: rest) ↔ those byte = false := by
  simp [NoneNext]

theorem spanDigits_written (digits : List Digit) (ends : NoneNext isDigit rest) :
    spanDigits (digitBytes digits ++ rest) = (digits, rest) := by
  have all : ∀ byte ∈ digitBytes digits, isDigit byte = true := by
    simp [digitBytes, isDigit_digitByte]
  have stops : rest.takeWhile isDigit = [] ∧ rest.dropWhile isDigit = rest := by
    cases rest with
    | nil => exact ⟨rfl, rfl⟩
    | cons byte rest => simp [ends byte rfl]
  have back : digitOf ∘ digitByte = id := funext digitOf_digitByte
  unfold spanDigits
  rw [List.takeWhile_append_of_pos all, List.dropWhile_append_of_pos all, stops.1, stops.2]
  simp [digitBytes, back]

theorem spanDigits_sound (bytes : List UInt8) :
    bytes = digitBytes (spanDigits bytes).1 ++ (spanDigits bytes).2 := by
  have back : (bytes.takeWhile isDigit).map (digitByte ∘ digitOf) =
      (bytes.takeWhile isDigit).map id := by
    apply List.map_congr_left
    intro byte member
    exact digitByte_digitOf (List.all_eq_true.mp List.all_takeWhile byte member)
  simp [spanDigits, digitBytes, back]

theorem scanDigits?_written (nonempty : digits ≠ []) (ends : NoneNext isDigit rest) :
    scanDigits? (digitBytes digits ++ rest) = some (digits, rest) := by
  unfold scanDigits?
  rw [spanDigits_written digits ends]
  cases digits with
  | nil => exact absurd rfl nonempty
  | cons => rfl

theorem scanDigits?_sound (scanned : scanDigits? bytes = some (digits, rest)) :
    digits ≠ [] ∧ bytes = digitBytes digits ++ rest := by
  have sound := spanDigits_sound bytes
  unfold scanDigits? at scanned
  generalize spanDigits bytes = spanned at scanned sound
  obtain ⟨_ | ⟨digit, others⟩, left⟩ := spanned
  · cases scanned
  · cases scanned
    exact ⟨List.cons_ne_nil digit others, sound⟩

/-! ## Numerals -/

theorem scanWhole?_written {numeral : Numeral} (formed : numeral.WellFormed)
    (ends : NoneNext isDigit rest) :
    scanWhole? (digitBytes numeral.whole ++ rest) = some (numeral.whole, rest) := by
  obtain ⟨nonempty, leading⟩ := formed
  unfold scanWhole?
  rw [scanDigits?_written nonempty ends]
  by_cases zero : numeral.whole.head? = some 0
  · simp [leading zero]
  · simp [zero]

theorem scanWhole?_sound (scanned : scanWhole? bytes = some (digits, rest)) :
    digits ≠ [] ∧ (digits.head? = some 0 → digits = [0]) ∧ bytes = digitBytes digits ++ rest := by
  obtain ⟨found, allowed⟩ := Option.filter_eq_some_iff.mp scanned
  obtain ⟨nonempty, rfl⟩ := scanDigits?_sound found
  refine ⟨nonempty, ?_, rfl⟩
  intro zero
  obtain ⟨digit, others, rfl⟩ := List.exists_cons_of_ne_nil nonempty
  cases others with
  | nil => simpa using zero
  | cons => simp [Option.some.inj zero] at allowed

theorem scanFraction?_written {fraction : Option (List Digit)}
    (written : Numeral.FractionWritten fraction bytes) (ends : NoneNext isDigit rest)
    (point : rest.head? ≠ some (ascii '.')) :
    scanFraction? (bytes ++ rest) = some (fraction, rest) := by
  cases written with
  | absent =>
      cases rest with
      | nil => rfl
      | cons byte rest =>
          have other : byte ≠ ascii '.' := by simpa using point
          simp [scanFraction?, other]
  | digits nonempty => simp [scanFraction?, scanDigits?_written nonempty ends]

theorem scanFraction?_sound {fraction : Option (List Digit)}
    (scanned : scanFraction? bytes = some (fraction, rest)) :
    ∃ part, Numeral.FractionWritten fraction part ∧ bytes = part ++ rest := by
  cases bytes with
  | nil => cases scanned; exact ⟨[], .absent, rfl⟩
  | cons first others =>
      simp only [scanFraction?] at scanned
      split at scanned
      · next point =>
        obtain ⟨⟨digits, left⟩, found, same⟩ := Option.map_eq_some_iff.mp scanned
        obtain ⟨nonempty, rfl⟩ := scanDigits?_sound found
        cases same
        exact ⟨_, .digits nonempty, by simp [point]⟩
      · cases scanned
        exact ⟨[], .absent, rfl⟩

/-- A digit is not a sign. -/
theorem digitByte_ne_sign : ∀ digit : Digit,
    digitByte digit ≠ ascii '-' ∧ digitByte digit ≠ ascii '+' := by decide

theorem scanSign_written {negative : Bool} {sign : List UInt8}
    (written : Numeral.SignWritten negative sign) (nonempty : digits ≠ []) :
    scanSign (sign ++ (digitBytes digits ++ rest)) = (negative, digitBytes digits ++ rest) := by
  cases written with
  | absent =>
      obtain ⟨digit, others, rfl⟩ := List.exists_cons_of_ne_nil nonempty
      simp [scanSign, digitBytes, digitByte_ne_sign digit]
  | plus => rfl
  | minus => rfl

theorem scanSign_sound (bytes : List UInt8) :
    ∃ sign, Numeral.SignWritten (scanSign bytes).1 sign ∧ bytes = sign ++ (scanSign bytes).2 := by
  cases bytes with
  | nil => exact ⟨[], .absent, rfl⟩
  | cons first rest =>
      simp only [scanSign]
      split
      · next minus => exact ⟨[ascii '-'], .minus, by simp [minus]⟩
      · split
        · next plus => exact ⟨[ascii '+'], .plus, by simp [plus]⟩
        · exact ⟨[], .absent, rfl⟩

theorem scanExponent?_written {exponent : Option (Bool × List Digit)}
    (written : Numeral.ExponentWritten exponent bytes) (ends : NoneNext isDigit rest)
    (small : rest.head? ≠ some (ascii 'e')) (large : rest.head? ≠ some (ascii 'E')) :
    scanExponent? (bytes ++ rest) = some (exponent, rest) := by
  cases written with
  | absent =>
      cases rest with
      | nil => rfl
      | cons byte rest =>
          have other : ¬(byte = ascii 'e' ∨ byte = ascii 'E') := by simp_all
          simp [scanExponent?, other]
  | digits mark sign nonempty =>
      simp [scanExponent?, mark, scanSign_written sign nonempty, scanDigits?_written nonempty ends]

theorem scanExponent?_sound {exponent : Option (Bool × List Digit)}
    (scanned : scanExponent? bytes = some (exponent, rest)) :
    ∃ part, Numeral.ExponentWritten exponent part ∧ bytes = part ++ rest := by
  cases bytes with
  | nil => cases scanned; exact ⟨[], .absent, rfl⟩
  | cons first others =>
      simp only [scanExponent?] at scanned
      split at scanned
      · next mark =>
        obtain ⟨sign, signed, split⟩ := scanSign_sound others
        obtain ⟨⟨digits, left⟩, found, same⟩ := Option.map_eq_some_iff.mp scanned
        obtain ⟨nonempty, after⟩ := scanDigits?_sound found
        cases same
        refine ⟨_, .digits mark signed nonempty, ?_⟩
        rw [split, after]
        simp
      · cases scanned
        exact ⟨[], .absent, rfl⟩

/-- A byte that makes a numeral longer. -/
def lengthens (byte : UInt8) : Bool := isDigit byte || (asciiBytes ".eE").contains byte

theorem NoneNext.digit (ends : NoneNext lengthens rest) : NoneNext isDigit rest := by
  intro byte next
  have plain := ends byte next
  simp only [lengthens, Bool.or_eq_false_iff] at plain
  exact plain.1

theorem NoneNext.letter (ends : NoneNext lengthens rest) {letter : Char}
    (lengthening : lengthens (ascii letter) = true) : rest.head? ≠ some (ascii letter) := by
  intro next
  simp [ends _ next] at lengthening

/-- An exponent begins with neither a digit nor a point. -/
theorem NoneNext.exponent {exponent : Option (Bool × List Digit)}
    (ends : NoneNext lengthens rest) (written : Numeral.ExponentWritten exponent bytes) :
    NoneNext isDigit (bytes ++ rest) ∧ (bytes ++ rest).head? ≠ some (ascii '.') := by
  cases written with
  | absent => exact ⟨ends.digit, ends.letter rfl⟩
  | digits mark =>
      rcases mark with rfl | rfl
      · exact ⟨noneNext_cons.mpr rfl, by simp; decide⟩
      · exact ⟨noneNext_cons.mpr rfl, by simp; decide⟩

theorem NoneNext.fraction {fraction : Option (List Digit)} (ends : NoneNext isDigit rest)
    (written : Numeral.FractionWritten fraction bytes) : NoneNext isDigit (bytes ++ rest) := by
  cases written with
  | absent => exact ends
  | digits => exact noneNext_cons.mpr rfl

theorem scanMinus_written (negative : Bool) (nonempty : digits ≠ []) :
    scanMinus (Numeral.minusBytes negative ++ (digitBytes digits ++ rest)) =
      (negative, digitBytes digits ++ rest) := by
  obtain ⟨digit, others, rfl⟩ := List.exists_cons_of_ne_nil nonempty
  cases negative with
  | false => simp [scanMinus, Numeral.minusBytes, digitBytes, digitByte_ne_sign digit]
  | true => rfl

theorem scanMinus_sound (bytes : List UInt8) :
    bytes = Numeral.minusBytes (scanMinus bytes).1 ++ (scanMinus bytes).2 := by
  cases bytes with
  | nil => rfl
  | cons first rest =>
      simp only [scanMinus]
      split
      · next minus => simp [Numeral.minusBytes, minus]
      · simp [Numeral.minusBytes]

namespace Numeral

variable {numeral : Numeral}

/-- A numeral begins with a minus sign or a digit. -/
theorem Written.first (written : numeral.Written bytes) :
    ∃ first others, bytes = first :: others ∧
      (first = ascii '-' ∨ ∃ digit, first = digitByte digit) := by
  cases written with
  | @parts fraction exponent formed =>
      obtain ⟨digit, others, whole⟩ := List.exists_cons_of_ne_nil formed.nonempty
      cases negative : numeral.negative with
      | true => exact ⟨_, _, rfl, .inl rfl⟩
      | false =>
          refine ⟨digitByte digit, digitBytes others ++ (fraction ++ exponent), ?_, ?_⟩
          · simp [whole, minusBytes, digitBytes]
          · exact .inr ⟨digit, rfl⟩

theorem scan?_written (written : numeral.Written bytes) (ends : NoneNext lengthens rest) :
    scan? (bytes ++ rest) = some (numeral, rest) := by
  cases written with
  | @parts fraction exponent formed fractionWritten exponentWritten =>
      obtain ⟨first, point⟩ := ends.exponent exponentWritten
      have whole := scanWhole?_written formed (first.fraction fractionWritten)
      have fractional := scanFraction?_written fractionWritten first point
      have exponential :=
        scanExponent?_written exponentWritten ends.digit (ends.letter rfl) (ends.letter rfl)
      unfold scan?
      simp only [List.append_assoc]
      rw [scanMinus_written numeral.negative formed.nonempty]
      simp [whole, fractional, exponential]

theorem scan?_sound (scanned : scan? bytes = some (numeral, rest)) :
    ∃ part, numeral.Written part ∧ bytes = part ++ rest := by
  have signed := scanMinus_sound bytes
  unfold scan? at scanned
  generalize scanMinus bytes = minus at scanned signed
  obtain ⟨negative, unsigned⟩ := minus
  simp only [Option.bind_eq_bind, Option.bind_eq_some_iff, Prod.exists] at scanned
  obtain ⟨whole, afterWhole, wholeScanned, fraction, afterFraction, fractionScanned, exponent,
    afterExponent, exponentScanned, same⟩ := scanned
  obtain ⟨nonempty, leading, rfl⟩ := scanWhole?_sound wholeScanned
  obtain ⟨fractionPart, fractionWritten, rfl⟩ := scanFraction?_sound fractionScanned
  obtain ⟨exponentPart, exponentWritten, rfl⟩ := scanExponent?_sound exponentScanned
  cases same
  refine ⟨_, .parts ⟨nonempty, leading⟩ fractionWritten exponentWritten, ?_⟩
  rw [signed]
  simp

end Numeral

/-! ## Strings -/

theorem scanPieces?_written {pieces : List StringPiece}
    (written : InSequence StringPiece.Written pieces bytes) (rest : List UInt8) :
    scanPieces? (bytes ++ (ascii '"' :: rest)) = some (pieces, rest) := by
  have different : ascii '\\' ≠ ascii '"' := by decide
  induction written with
  | nil => simp [scanPieces?.eq_def]
  | cons piece _ ih =>
      cases piece with
      | @plain byte quote backslash printable =>
          have visible : ¬byte < 0x20 := by simpa using printable
          rw [List.singleton_append, List.cons_append, scanPieces?.eq_def]
          simp [quote, backslash, visible, ih]
      | @letter letter byte escaped =>
          have named : letter ≠ ascii 'u' := by
            rintro rfl
            cases escaped
          rw [List.append_assoc, List.cons_append, scanPieces?.eq_def]
          simp [different, named, escaped, ih]
      | number numbered => simp [scanPieces?, different, numbered, ih]

theorem scanPieces?_sound {pieces : List StringPiece}
    (scanned : scanPieces? bytes = some (pieces, rest)) :
    ∃ part, InSequence StringPiece.Written pieces part ∧ bytes = part ++ (ascii '"' :: rest) := by
  fun_induction scanPieces? bytes generalizing pieces rest with
  | case1 => cases scanned
  | case2 others =>
      cases scanned
      exact ⟨[], .nil, rfl⟩
  | case3 => cases scanned
  | case4 a b c d others _ ih =>
      simp only [Option.bind_eq_bind, Option.bind_eq_some_iff, Prod.exists] at scanned
      obtain ⟨unit, numbered, later, left, found, same⟩ := scanned
      obtain ⟨part, written, rfl⟩ := ih found
      cases same
      exact ⟨_, .cons (.number numbered) written, by simp⟩
  | case5 => cases scanned
  | case6 letter others _ _ ih =>
      simp only [Option.bind_eq_bind, Option.bind_eq_some_iff, Prod.exists] at scanned
      obtain ⟨byte, escaped, later, left, found, same⟩ := scanned
      obtain ⟨part, written, rfl⟩ := ih found
      cases same
      exact ⟨_, .cons (.letter escaped) written, by simp⟩
  | case7 => cases scanned
  | case8 first others quote backslash visible ih =>
      simp only [Option.bind_eq_bind, Option.bind_eq_some_iff, Prod.exists] at scanned
      obtain ⟨later, left, found, same⟩ := scanned
      obtain ⟨part, written, rfl⟩ := ih found
      cases same
      exact ⟨_, .cons (.plain quote backslash (by simpa using visible)) written, by simp⟩

/-! ## Tokens -/

namespace Token

variable {token : Token}

def isNumber : Token → Bool
  | number _ => true
  | _ => false

/-- A word begins with one of three letters. -/
theorem ofWord?_other {first : UInt8} (other : first ∉ asciiBytes "ntf") (rest : List UInt8) :
    ofWord? (first :: rest) = none := by
  have apart : ∀ letter ∈ asciiBytes "ntf", (letter == first) = false := by
    rintro letter member
    simp only [beq_eq_false_iff_ne]
    rintro rfl
    exact other member
  simp_all [ofWord?, asciiBytes, List.isPrefixOf?]

/-- What a numeral begins with is neither a mark, a quote nor the beginning of a word. -/
theorem scan?_numeral {numeral : Numeral} (written : numeral.Written bytes) (rest : List UInt8) :
    scan? (bytes ++ rest) =
      (Numeral.scan? (bytes ++ rest)).map fun (numeral, rest) => (.number numeral, rest) := by
  obtain ⟨first, others, rfl, begins⟩ := written.first
  have digits : ∀ digit : Digit, ofMark? (digitByte digit) = none ∧
      digitByte digit ≠ ascii '"' ∧ digitByte digit ∉ asciiBytes "ntf" := by decide
  have other : ofMark? first = none ∧ first ≠ ascii '"' ∧ first ∉ asciiBytes "ntf" := by
    rcases begins with rfl | ⟨digit, rfl⟩
    · decide
    · exact digits digit
  obtain ⟨unmarked, unquoted, wordless⟩ := other
  simp [scan?, unmarked, unquoted, ofWord?_other wordless]

theorem scan?_written (written : token.Written bytes)
    (ends : token.isNumber = true → NoneNext lengthens rest) :
    scan? (bytes ++ rest) = some (token, rest) := by
  cases written with
  | beginArray | endArray | beginObject | endObject | colon | comma => rfl
  | null | yes | no => rfl
  | number written => simp [scan?_numeral written, Numeral.scan?_written written (ends rfl)]
  | string pieces =>
      have scanned := scanPieces?_written pieces rest
      have unmarked : ofMark? (ascii '"') = none := rfl
      simp [scan?, unmarked, scanned]

theorem written_of_ofMark? {byte : UInt8} (marks : ofMark? byte = some token) :
    token.Written [byte] := by
  obtain ⟨⟨mark, marked⟩, member, same⟩ := List.exists_of_findSome?_eq_some marks
  obtain ⟨rfl, marked⟩ := Option.ite_none_right_eq_some.mp same
  obtain rfl := Option.some.inj marked
  simp only [List.mem_cons, Prod.mk.injEq, List.not_mem_nil, or_false] at member
  rcases member with ⟨rfl, rfl⟩ | ⟨rfl, rfl⟩ | ⟨rfl, rfl⟩ | ⟨rfl, rfl⟩ | ⟨rfl, rfl⟩ | ⟨rfl, rfl⟩
  · exact .beginArray
  · exact .endArray
  · exact .beginObject
  · exact .endObject
  · exact .colon
  · exact .comma

theorem written_of_ofWord? (found : ofWord? bytes = some (token, rest)) :
    ∃ part, token.Written part ∧ bytes = part ++ rest := by
  obtain ⟨⟨word, meant⟩, member, same⟩ := List.exists_of_findSome?_eq_some found
  obtain ⟨left, begins, same⟩ := Option.map_eq_some_iff.mp same
  cases same
  have split := (List.isPrefixOf?_eq_some_iff_append_eq.mp begins).symm
  simp only [List.mem_cons, Prod.mk.injEq, List.not_mem_nil, or_false] at member
  rcases member with ⟨rfl, rfl⟩ | ⟨rfl, rfl⟩ | ⟨rfl, rfl⟩
  · exact ⟨_, .null, split⟩
  · exact ⟨_, .yes, split⟩
  · exact ⟨_, .no, split⟩

theorem scan?_sound (scanned : scan? bytes = some (token, rest)) :
    ∃ part, token.Written part ∧ bytes = part ++ rest := by
  cases bytes with
  | nil => cases scanned
  | cons first others =>
      simp only [scan?] at scanned
      split at scanned
      · next mark marks =>
        cases scanned
        exact ⟨[first], written_of_ofMark? marks, rfl⟩
      · split at scanned
        · next quote =>
          obtain ⟨⟨pieces, left⟩, found, same⟩ := Option.map_eq_some_iff.mp scanned
          obtain ⟨part, written, rfl⟩ := scanPieces?_sound found
          cases same
          exact ⟨_, .string written, by simp [quote]⟩
        · rw [Option.orElse_eq_orElse, Option.orElse_eq_or] at scanned
          rcases Option.or_eq_some_iff.mp scanned with word | ⟨_, number⟩
          · exact written_of_ofWord? word
          · obtain ⟨⟨numeral, left⟩, found, same⟩ := Option.map_eq_some_iff.mp number
            obtain ⟨part, written, split⟩ := Numeral.scan?_sound found
            cases same
            exact ⟨part, .number written, split⟩

/-- No number comes right after another one. -/
def Apart (tokens : List Token) : Prop :=
  tokens.IsChain fun first second => first.isNumber = true → second.isNumber = false

/-- A token does not begin with a blank, and only numbers begin like a number goes on. -/
theorem Written.first (written : token.Written bytes) :
    ∃ first others, bytes = first :: others ∧ isBlank first = false ∧
      (token.isNumber = false → lengthens first = false) := by
  cases written with
  | number written =>
      obtain ⟨first, others, rfl, begins⟩ := written.first
      refine ⟨first, others, rfl, ?_, fun other => by cases other⟩
      have digits : ∀ digit : Digit, isBlank (digitByte digit) = false := by decide
      rcases begins with rfl | ⟨digit, rfl⟩
      · rfl
      · exact digits digit
  | _ => exact ⟨_, _, rfl, rfl, fun _ => rfl⟩

theorem lengthens_blank {byte : UInt8} (blank : isBlank byte = true) : lengthens byte = false := by
  simp only [isBlank, List.contains_eq_mem, decide_eq_true_eq] at blank
  have blanks : (asciiBytes " \n\t\r").all (!lengthens ·) := by decide
  simpa using List.all_eq_true.mp blanks byte blank

/-- A numeral ends where the next token is not a number. -/
theorem Spelled.noneNext {tokens : List Token} (spelled : Spelled tokens bytes)
    (other : ∀ token, tokens.head? = some token → token.isNumber = false) :
    NoneNext lengthens bytes := by
  cases spelled with
  | blank blank =>
      intro byte next
      exact lengthens_blank (blank byte (List.mem_of_mem_head? next))
  | @token token tokens blanks bytes rest blank written =>
      obtain ⟨first, others, rfl, _, plain⟩ := written.first
      cases blanks with
      | nil => exact noneNext_cons.mpr (plain (other token rfl))
      | cons byte blanks =>
          exact noneNext_cons.mpr (lengthens_blank (blank byte List.mem_cons_self))

theorem scanUpTo_spelled {tokens : List Token} (spelled : Spelled tokens bytes)
    (apart : Apart tokens) (limit : Nat) (long : tokens.length ≤ limit) :
    scanUpTo limit bytes = some tokens := by
  induction spelled generalizing limit with
  | @blank blanks blank =>
      have skipped : blanks.dropWhile isBlank = [] := List.dropWhile_eq_nil_iff.mpr blank
      cases limit with
      | zero => simpa [scanUpTo] using blank
      | succ limit => simp only [scanUpTo, skipped]
  | @token token tokens blanks bytes rest blank written spelled ih =>
      cases limit with
      | zero => simp at long
      | succ limit =>
          obtain ⟨first, others, rfl, visible, _⟩ := written.first
          -- Only a numeral depends on what comes next, which is no number.
          have scanned : scan? (first :: others ++ rest) = some (token, rest) := by
            apply scan?_written written
            intro number
            apply spelled.noneNext
            intro next follows
            exact apart.rel_head? follows number
          have later := ih apart.tail limit (by simpa using long)
          have skipped : (blanks ++ (first :: others ++ rest)).dropWhile isBlank =
              (first :: others ++ rest).dropWhile isBlank := List.dropWhile_append_of_pos blank
          simp only [List.cons_append] at scanned skipped
          simp [scanUpTo, skipped, visible, scanned, later]

theorem Spelled.length_le {tokens : List Token} (spelled : Spelled tokens bytes) :
    tokens.length ≤ bytes.length := by
  induction spelled with
  | blank => simp
  | token _ written _ ih =>
      obtain ⟨first, others, rfl, _⟩ := written.first
      simp
      omega

theorem scanAll?_spelled {tokens : List Token} (spelled : Spelled tokens bytes)
    (apart : Apart tokens) : scanAll? bytes = some tokens :=
  scanUpTo_spelled spelled apart bytes.length spelled.length_le

theorem spelled_of_scanUpTo {tokens : List Token} {limit : Nat}
    (scanned : scanUpTo limit bytes = some tokens) : Spelled tokens bytes := by
  induction limit generalizing bytes tokens with
  | zero =>
      obtain ⟨blank, same⟩ := Option.ite_none_right_eq_some.mp scanned
      obtain rfl := Option.some.inj same
      exact .blank (List.all_eq_true.mp blank)
  | succ limit ih =>
      have blank : ∀ byte ∈ bytes.takeWhile isBlank, isBlank byte = true :=
        List.all_eq_true.mp List.all_takeWhile
      have split := (List.takeWhile_append_dropWhile (p := isBlank) (l := bytes)).symm
      simp only [scanUpTo] at scanned
      generalize bytes.dropWhile isBlank = left at scanned split
      rw [split]
      cases left with
      | nil =>
          cases scanned
          simpa using Spelled.blank blank
      | cons first others =>
          simp only [Option.bind_eq_bind, Option.bind_eq_some_iff, Prod.exists] at scanned
          obtain ⟨token, rest, read, later, scanned, same⟩ := scanned
          obtain ⟨part, written, after⟩ := scan?_sound read
          cases same
          rw [after]
          exact .token blank written (ih scanned)

theorem scanAll?_eq_some_iff {tokens : List Token} (apart : Apart tokens) :
    scanAll? bytes = some tokens ↔ Spelled tokens bytes :=
  ⟨spelled_of_scanUpTo, fun spelled => scanAll?_spelled spelled apart⟩

end Token

end Compositor.Json
