import Compositor.Json.Document
import Compositor.Proofs.Json.Grammar
import Mathlib.Data.List.Forall2

/-!
# Written documents are JSON

The written form of a document spells the value of the document, whatever strings it holds and
however deep it is.
-/

set_option autoImplicit false

namespace Compositor.Json

/-! ## The bytes of texts -/

theorem toList_loop (bytes : ByteArray) (index : Nat) (read : List UInt8) :
    ByteArray.toList.loop bytes index read = read.reverse ++ bytes.data.toList.drop index := by
  fun_induction ByteArray.toList.loop bytes index read with
  | case1 index read inside ih =>
      have inside : index < bytes.data.toList.length := inside
      have byte : bytes.get! index = bytes.data.toList[index] := by
        simp only [ByteArray.get!]
        exact getElem!_pos bytes.data index inside
      rw [ih, byte, List.drop_eq_getElem_cons inside]
      simp
  | case2 index read outside =>
      have outside : bytes.data.toList.length ≤ index := Nat.le_of_not_lt outside
      simp [List.drop_eq_nil_of_le outside]

theorem textBytes_eq (text : String) : textBytes text = text.toByteArray.data.toList := by
  simp [textBytes, ByteArray.toList, toList_loop]

@[simp] theorem textBytes_append (first rest : String) :
    textBytes (first ++ rest) = textBytes first ++ textBytes rest := by
  simp [textBytes_eq, String.toByteArray_append]

@[simp] theorem textBytes_ofList (chars : List Char) :
    textBytes (String.ofList chars) = chars.flatMap String.utf8EncodeChar := by
  simp [textBytes_eq, List.utf8Encode]

theorem textBytes_ascii (text : String) (plain : text.toList.all (·.toNat < 128)) :
    textBytes text = asciiBytes text := by
  have bytes := textBytes_ofList text.toList
  rw [String.ofList_toList] at bytes
  rw [bytes, asciiBytes]
  generalize text.toList = chars at plain
  induction chars with
  | nil => rfl
  | cons char rest ih =>
      obtain ⟨first, others⟩ := Bool.and_eq_true_iff.mp plain
      have first : char.val.toNat ≤ 0x7f := Nat.le_of_lt_succ (of_decide_eq_true first)
      have single : String.utf8EncodeChar char = [ascii char] := if_pos first
      rw [List.flatMap_cons, single, ih others]
      rfl

theorem textOfBytes?_textBytes (text : String) : textOfBytes? (textBytes text) = some text := by
  have same : (⟨(textBytes text).toArray⟩ : ByteArray) = text.toByteArray := by
    simp [textBytes_eq]
  unfold textOfBytes? String.fromUTF8?
  rw [same]
  simp [text.isValidUTF8]
  rfl

/-! ## Decimal numbers -/

def decimal (number : Nat) : List Digit :=
  if number < 10 then [Fin.ofNat 10 number] else decimal (number / 10) ++ [Fin.ofNat 10 number]

theorem digitsValue_concat (digits : List Digit) (last : Digit) :
    digitsValue (digits ++ [last]) = digitsValue digits * 10 + last.val := by
  simp [digitsValue]

theorem digitsValue_decimal (number : Nat) : digitsValue (decimal number) = number := by
  fun_induction decimal number with
  | case1 number small => simp [digitsValue, Nat.mod_eq_of_lt small]
  | case2 number large ih =>
      rw [digitsValue_concat, ih]
      simp
      omega

theorem utf8EncodeChar_digitChar (digit : Digit) :
    String.utf8EncodeChar (Nat.digitChar digit.val) = [digitByte digit] := by
  revert digit
  decide

theorem textBytes_repr (number : Nat) :
    textBytes (Nat.repr number) = digitBytes (decimal number) := by
  rw [Nat.repr_eq_ofList_toDigits, textBytes_ofList]
  fun_induction decimal number with
  | case1 number small =>
      have written := utf8EncodeChar_digitChar (Fin.ofNat 10 number)
      rw [Fin.val_ofNat, Nat.mod_eq_of_lt small] at written
      simp [Nat.toDigits_of_lt_base small, written, digitBytes]
  | case2 number large ih =>
      have large : 10 ≤ number := Nat.le_of_not_lt large
      rw [Nat.toDigits_of_base_le (by decide) large, List.flatMap_append, ih]
      have written := utf8EncodeChar_digitChar (Fin.ofNat 10 number)
      rw [Fin.val_ofNat] at written
      simp [written, digitBytes]

theorem decimal_ne_nil (number : Nat) : decimal number ≠ [] := by
  unfold decimal
  split
  · exact List.cons_ne_nil _ _
  · simp

/-- Only zero begins with a zero. -/
theorem decimal_leading (number : Nat) (zero : (decimal number).head? = some 0) :
    decimal number = [0] := by
  fun_induction decimal number with
  | case1 number small => simpa using zero
  | case2 number large ih =>
      obtain ⟨first, others, begun⟩ := List.exists_cons_of_ne_nil (decimal_ne_nil (number / 10))
      have zero : (decimal (number / 10)).head? = some 0 := by simpa [begun] using zero
      have value := digitsValue_decimal (number / 10)
      rw [ih zero] at value
      have none : number / 10 = 0 := value.symm
      omega

/-- A number without point and exponent. -/
def Numeral.ofNat (number : Nat) : Numeral := ⟨false, decimal number, none, none⟩

theorem Numeral.ofNat_written (number : Nat) :
    (Numeral.ofNat number).Written (textBytes (Nat.repr number)) := by
  have formed : (Numeral.ofNat number).WellFormed :=
    ⟨decimal_ne_nil number, decimal_leading number⟩
  rw [textBytes_repr]
  simpa [Numeral.ofNat, Numeral.minusBytes] using
    Numeral.Written.parts formed .absent .absent

/-! ## Strings -/

/-- Bytes that spell the character, wherever it stands in a string. -/
structure SpellsChar (bytes : List UInt8) (char : Char) (pieces : List StringPiece) : Prop where
  written : InSequence StringPiece.Written pieces bytes
  spelled : ∀ rest, pieceBytes? (pieces ++ rest) =
    (pieceBytes? rest).map (String.utf8EncodeChar char ++ ·)

/-- A character that is named by a letter. -/
theorem spellsChar_letter {char letter : Char}
    (named : escapedByte? (ascii letter) = some (ascii char))
    (same : String.utf8EncodeChar char = [ascii char])
    (short : String.utf8EncodeChar letter = [ascii letter]) :
    SpellsChar (['\\', letter].flatMap String.utf8EncodeChar) char [.byte (ascii char)] := by
  constructor
  · have written : ['\\', letter].flatMap String.utf8EncodeChar = [ascii '\\', ascii letter] := by
      simp only [List.flatMap_cons, short]
      rfl
    rw [written]
    exact .singleton (.letter named)
  · intro rest
    simp [pieceBytes?, same]

/-- Small numbers are not surrogates. -/
theorem pieceBytes?_unit {unit : Nat} (small : unit < 0x20) (rest : List StringPiece) :
    pieceBytes? (.unit unit :: rest) =
      (pieceBytes? rest).map (String.utf8EncodeChar (Char.ofNat unit) ++ ·) := by
  have high : isHighSurrogate unit = false := by
    simp [isHighSurrogate]
    omega
  have low : isLowSurrogate unit = false := by
    simp [isLowSurrogate]
    omega
  cases rest with
  | nil => simp [pieceBytes?, high, low]
  | cons piece rest => cases piece <;> simp [pieceBytes?, high, low]

theorem spellsChar_control {char : Char} (control : char.toNat < 0x20) :
    SpellsChar ((['\\', 'u', '0', '0'] ++ Document.twoHexDigits char.toNat).flatMap
      String.utf8EncodeChar) char [.unit char.toNat] := by
  have digits : ∀ unit : Fin 0x20, ∃ high low,
      (Document.twoHexDigits unit).flatMap String.utf8EncodeChar = [high, low] ∧
        hexNumber? [ascii '0', ascii '0', high, low] = some unit := by
    intro unit
    refine ⟨ascii (Nat.digitChar (unit / 16)), ascii (Nat.digitChar (unit % 16)), ?_⟩
    revert unit
    decide
  obtain ⟨high, low, written, number⟩ := digits ⟨char.toNat, control⟩
  constructor
  · rw [List.flatMap_append, written]
    exact .singleton (.number number)
  · intro rest
    rw [List.singleton_append, pieceBytes?_unit control, Char.ofNat_toNat]

/-- A byte that is visible or not ASCII. -/
theorem plain_ofNat {number : Nat} (quote : number ≠ 34) (backslash : number ≠ 92)
    (visible : 0x20 ≤ number) (small : number < 256) :
    StringPiece.Written (.byte (UInt8.ofNat number)) [UInt8.ofNat number] := by
  have value : (UInt8.ofNat number).toNat = number := by
    simp
    omega
  refine .plain ?_ ?_ ?_
  · intro same
    exact quote (value.symm.trans (congrArg UInt8.toNat same))
  · intro same
    exact backslash (value.symm.trans (congrArg UInt8.toNat same))
  · rw [UInt8.le_iff_toNat_le, value]
    exact visible

theorem plain_utf8 {char : Char} (quote : char ≠ '"') (backslash : char ≠ '\\')
    (visible : 0x20 ≤ char.toNat) :
    ∀ byte ∈ String.utf8EncodeChar char, StringPiece.Written (.byte byte) [byte] := by
  have quote : char.val.toNat ≠ 34 := fun same => quote (Char.toNat_inj.mp same)
  have backslash : char.val.toNat ≠ 92 := fun same => backslash (Char.toNat_inj.mp same)
  have visible : 0x20 ≤ char.val.toNat := visible
  unfold String.utf8EncodeChar
  generalize char.val.toNat = number at *
  -- All bytes of a longer encoding are beyond ASCII.
  have beyond : ∀ number, 128 ≤ number → number < 256 →
      StringPiece.Written (.byte (UInt8.ofNat number)) [UInt8.ofNat number] := by
    intro number large small
    apply plain_ofNat <;> omega
  simp only
  split
  · exact List.forall_mem_singleton.mpr (plain_ofNat quote backslash visible (by omega))
  · split
    · simp only [List.forall_mem_cons, List.not_mem_nil, false_implies, implies_true, and_true]
      refine ⟨?_, ?_⟩
      all_goals exact beyond _ (by omega) (by omega)
    · split
      · simp only [List.forall_mem_cons, List.not_mem_nil, false_implies, implies_true, and_true]
        refine ⟨?_, ?_, ?_⟩
        all_goals exact beyond _ (by omega) (by omega)
      · simp only [List.forall_mem_cons, List.not_mem_nil, false_implies, implies_true, and_true]
        refine ⟨?_, ?_, ?_, ?_⟩
        all_goals exact beyond _ (by omega) (by omega)

theorem spellsChar_plain {char : Char} (quote : char ≠ '"') (backslash : char ≠ '\\')
    (visible : 0x20 ≤ char.toNat) :
    SpellsChar (String.utf8EncodeChar char) char ((String.utf8EncodeChar char).map .byte) := by
  have plain := plain_utf8 quote backslash visible
  constructor
  · generalize String.utf8EncodeChar char = bytes at plain
    induction bytes with
    | nil => exact .nil
    | cons byte rest ih =>
        obtain ⟨first, others⟩ := List.forall_mem_cons.mp plain
        exact .cons first (ih others)
  · intro rest
    generalize String.utf8EncodeChar char = bytes
    induction bytes with
    | nil => simp
    | cons byte bytes ih => simp [pieceBytes?, ih, Function.comp_def]

theorem spellsChar_stringChar (char : Char) :
    ∃ pieces,
      SpellsChar ((Document.stringChar char).flatMap String.utf8EncodeChar) char pieces := by
  unfold Document.stringChar
  split
  · exact ⟨_, spellsChar_letter rfl rfl rfl⟩
  · exact ⟨_, spellsChar_letter rfl rfl rfl⟩
  · exact ⟨_, spellsChar_letter rfl rfl rfl⟩
  · exact ⟨_, spellsChar_letter rfl rfl rfl⟩
  · exact ⟨_, spellsChar_letter rfl rfl rfl⟩
  · exact ⟨_, spellsChar_letter rfl rfl rfl⟩
  · exact ⟨_, spellsChar_letter rfl rfl rfl⟩
  · next quote backslash _ _ _ _ _ =>
    split
    · next control => exact ⟨_, spellsChar_control control⟩
    · next visible =>
      have plain := spellsChar_plain quote backslash (Nat.le_of_not_lt visible)
      exact ⟨_, by simpa using plain⟩

/-- The pieces of written characters spell the characters. -/
theorem written_chars (chars : List Char) :
    ∃ pieces, InSequence StringPiece.Written pieces
        ((chars.flatMap Document.stringChar).flatMap String.utf8EncodeChar) ∧
      pieceBytes? pieces = some (chars.flatMap String.utf8EncodeChar) := by
  induction chars with
  | nil => exact ⟨[], .nil, rfl⟩
  | cons char rest ih =>
      obtain ⟨first, spells⟩ := spellsChar_stringChar char
      obtain ⟨others, written, spelled⟩ := ih
      refine ⟨first ++ others, ?_, ?_⟩
      · rw [List.flatMap_cons, List.flatMap_append]
        exact spells.written.append written
      · rw [spells.spelled, spelled]
        rfl

theorem stringText_written (text : String) :
    (Token.string (some text)).Written (textBytes (Document.stringText text)) := by
  obtain ⟨pieces, written, spelled⟩ := written_chars text.toList
  have same : pieceText? pieces = some text := by
    unfold pieceText?
    rw [spelled, ← textBytes_ofList, String.ofList_toList]
    exact textOfBytes?_textBytes text
  have bytes : textBytes (Document.stringText text) = ascii '"' ::
      ((text.toList.flatMap Document.stringChar).flatMap String.utf8EncodeChar ++ [ascii '"']) := by
    have quote : String.utf8EncodeChar '"' = [ascii '"'] := rfl
    simp only [Document.stringText, textBytes_ofList, List.flatMap_cons, List.flatMap_append,
      List.flatMap_nil, quote]
    simp
  rw [bytes, ← same]
  exact .string written

/-! ## Documents -/

namespace Document

mutual

def value : Document → Value
  | .null => .null
  | .bool value => .bool value
  | .number count => .number (.ofNat count)
  | .string text => .string (some text)
  | .array items => .array (itemValues items)
  | .object members => .object (memberValues members)

def itemValues : List Document → List Value
  | [] => []
  | item :: rest => item.value :: itemValues rest

def memberValues : List (String × Document) → List Member
  | [] => []
  | (key, item) :: rest => (some key, item.value) :: memberValues rest

end

/-- Induction on documents, with hypotheses about all that an array or object holds. -/
theorem induction {motive : Document → Prop} (null : motive .null)
    (bool : ∀ value, motive (.bool value)) (number : ∀ number, motive (.number number))
    (string : ∀ text, motive (.string text))
    (array : ∀ items, (∀ item ∈ items, motive item) → motive (.array items))
    (object : ∀ members : List (String × Document), (∀ member ∈ members, motive member.2) →
      motive (.object members)) : (document : Document) → motive document
  | .null => null
  | .bool value => bool value
  | .number value => number value
  | .string text => string text
  | .array items => array items fun item _ =>
    induction null bool number string array object item
  | .object members => object members fun member among =>
    have smaller : sizeOf member.2 < sizeOf members :=
      Nat.lt_trans (by cases member; simp only [Prod.mk.sizeOf_spec]; omega) (List.sizeOf_lt_of_mem among)
    induction null bool number string array object member.2

@[simp] theorem itemValues_eq (items : List Document) : itemValues items = items.map value := by
  induction items with
  | nil => rfl
  | cons item rest ih => simp [itemValues, ih]

@[simp] theorem memberValues_eq (members : List (String × Document)) :
    memberValues members = members.map fun member => (some member.1, member.2.value) := by
  induction members with
  | nil => rfl
  | cons member rest ih => simp [memberValues, ih]

theorem itemTexts_eq (depth : Nat) (items : List Document) :
    itemTexts depth items = items.map (textAt depth) := by
  induction items with
  | nil => rfl
  | cons item rest ih => simp [itemTexts, ih]

theorem memberTexts_eq (depth : Nat) (members : List (String × Document)) :
    memberTexts depth members =
      members.map fun member => stringText member.1 ++ ": " ++ textAt depth member.2 := by
  induction members with
  | nil => rfl
  | cons member rest ih => simp [memberTexts, ih]

/-- A text spells some tokens, whatever follows. -/
def Spelling (tokens : List Token) (text : String) : Prop :=
  ∀ others rest, Token.Spelled others rest →
    Token.Spelled (tokens ++ others) (textBytes text ++ rest)

namespace Spelling

theorem token {token : Token} {text : String} (written : token.Written (textBytes text)) :
    Spelling [token] text := by
  intro others rest spelled
  exact .token (List.forall_mem_nil _) written spelled

theorem append {first second : List Token} {text more : String} (before : Spelling first text)
    (after : Spelling second more) : Spelling (first ++ second) (text ++ more) := by
  intro others rest spelled
  rw [textBytes_append, List.append_assoc, List.append_assoc]
  exact before _ _ (after _ _ spelled)

theorem blank {text : String} (blank : ∀ byte ∈ textBytes text, isBlank byte = true) :
    Spelling [] text := by
  intro others rest spelled
  cases spelled with
  | blank later => exact .blank (List.forall_mem_append.mpr ⟨blank, later⟩)
  | @token token tokens blanks bytes rest later written spelled =>
      rw [← List.append_assoc]
      exact .token (List.forall_mem_append.mpr ⟨blank, later⟩) written spelled

theorem newLine (depth : Nat) : Spelling [] (newLine depth) := by
  apply blank
  have bytes : textBytes (Document.newLine depth) =
      ascii '\n' :: List.replicate (2 * depth) (ascii ' ') := by
    have mark : String.utf8EncodeChar '\n' = [ascii '\n'] := rfl
    have space : String.utf8EncodeChar ' ' = [ascii ' '] := rfl
    unfold Document.newLine
    rw [textBytes_ofList, List.flatMap_cons, mark, List.flatMap_replicate, space]
    simp
  rw [bytes]
  intro byte member
  rcases List.mem_cons.mp member with rfl | space
  · rfl
  · rw [List.eq_of_mem_replicate space]
    rfl

/-- A token that is written in ASCII. -/
theorem ascii (text : String) {token : Token} (written : token.Written (asciiBytes text))
    (plain : text.toList.all (·.toNat < 128)) : Spelling [token] text :=
  .token (textBytes_ascii text plain ▸ written)

/-- Lines with a comma after each of them but the last. -/
theorem joinLines {parts : List (List Token)} {texts : List String}
    (spell : List.Forall₂ Spelling parts texts) (depth : Nat) :
    Spelling (separated parts) (joinLines depth texts) := by
  have comma : Spelling [.comma] "," := .ascii "," .comma (by decide)
  induction spell with
  | nil => exact .blank (by simp [Document.joinLines, textBytes_ascii, asciiBytes])
  | cons first others ih =>
      cases others with
      | nil => simpa [Document.joinLines] using first
      | cons =>
          have line := (first.append comma).append (newLine depth)
          simpa [Document.joinLines] using line.append ih

theorem bracketed {opening closing : Token} {before after : String} {parts : List (List Token)}
    {texts : List String} (opens : Spelling [opening] before) (closes : Spelling [closing] after)
    (spell : List.Forall₂ Spelling parts texts) (depth : Nat) :
    Spelling (opening :: (separated parts ++ [closing])) (bracketed before after depth texts) := by
  cases spell with
  | nil => exact opens.append closes
  | cons first others =>
      have lines := joinLines (.cons first others) (depth + 1)
      have opened := (opens.append (newLine (depth + 1))).append lines
      simpa [Document.bracketed] using (opened.append (newLine depth)).append closes

end Spelling

theorem textAt_spelling (document : Document) (depth : Nat) :
    Spelling document.value.tokens (document.textAt depth) := by
  induction document using induction generalizing depth with
  | null => exact .ascii "null" .null (by decide)
  | bool value =>
      cases value with
      | false => exact .ascii "false" .no (by decide)
      | true => exact .ascii "true" .yes (by decide)
  | number count => exact .token (.number (Numeral.ofNat_written count))
  | string text => exact .token (stringText_written text)
  | array items ih =>
      have parts : List.Forall₂ Spelling (items.map fun item => item.value.tokens)
          (items.map (textAt (depth + 1))) := by
        simp only [List.forall₂_map_left_iff, List.forall₂_map_right_iff, List.forall₂_same]
        exact fun item member => ih item member (depth + 1)
      simpa [value, Value.tokens, textAt, itemTexts_eq, Function.comp_def] using
        Spelling.bracketed (.ascii "[" .beginArray (by decide)) (.ascii "]" .endArray (by decide))
          parts depth
  | object members ih =>
      have space : Spelling [] " " := .blank (by simp [textBytes_ascii, asciiBytes]; decide)
      have colon : Spelling [.colon] (":" ++ " ") :=
        (Spelling.ascii ":" .colon (by decide)).append space
      have parts : List.Forall₂ Spelling
          (members.map fun member => .string (some member.1) :: .colon :: member.2.value.tokens)
          (members.map fun member =>
            stringText member.1 ++ ": " ++ textAt (depth + 1) member.2) := by
        simp only [List.forall₂_map_left_iff, List.forall₂_map_right_iff, List.forall₂_same]
        intro member among
        exact ((Spelling.token (stringText_written member.1)).append colon).append
          (ih member among (depth + 1))
      simpa [value, Value.tokens, textAt, memberTexts_eq, Function.comp_def] using
        Spelling.bracketed (.ascii "\x7b" .beginObject (by decide))
          (.ascii "\x7d" .endObject (by decide)) parts depth

/-- What is written for a document is JSON, and spells the value of the document. -/
theorem text_spells (document : Document) : Spells document.text document.value := by
  have spelled := document.textAt_spelling 0 [] [] (.blank (List.forall_mem_nil _))
  simpa [text, Spells] using spelled

end Document

end Compositor.Json
