import Compositor.Json.Value

/-!
# The JSON grammar

How JSON values are written, as rules that do not say how to read them: tokens are written in one
way or another, with blanks around them, and values are certain sequences of tokens.
-/

set_option autoImplicit false

namespace Compositor.Json

/-- Things written one after the other. -/
inductive InSequence {α : Type} (Written : α → List UInt8 → Prop) : List α → List UInt8 → Prop where
  | nil : InSequence Written [] []
  | cons {first : α} {rest : List α} {bytes others : List UInt8} :
      Written first bytes → InSequence Written rest others →
      InSequence Written (first :: rest) (bytes ++ others)

namespace InSequence

variable {α : Type} {Written : α → List UInt8 → Prop} {bytes others : List UInt8}

theorem singleton {thing : α} (written : Written thing bytes) :
    InSequence Written [thing] bytes := by
  simpa using cons written .nil

theorem append {first rest : List α} (before : InSequence Written first bytes)
    (after : InSequence Written rest others) :
    InSequence Written (first ++ rest) (bytes ++ others) := by
  induction before with
  | nil => exact after
  | cons written _ ih =>
      rw [List.append_assoc]
      exact .cons written ih

end InSequence

/-! ## Strings -/

/-- A piece of a string stands for itself, is named by a letter, or is numbered. -/
inductive StringPiece.Written : StringPiece → List UInt8 → Prop where
  | plain {byte : UInt8} : byte ≠ ascii '"' → byte ≠ ascii '\\' → 0x20 ≤ byte →
      Written (.byte byte) [byte]
  | letter {letter byte : UInt8} : escapedByte? letter = some byte →
      Written (.byte byte) [ascii '\\', letter]
  | number {a b c d : UInt8} {unit : Nat} : hexNumber? [a, b, c, d] = some unit →
      Written (.unit unit) [ascii '\\', ascii 'u', a, b, c, d]

/-! ## Numerals -/

def digitByte (digit : Digit) : UInt8 := (48 + digit.val).toUInt8

def digitBytes (digits : List Digit) : List UInt8 := digits.map digitByte

namespace Numeral

/-- There are digits before the point, and they start with a zero only if it is all there is. -/
structure WellFormed (numeral : Numeral) : Prop where
  nonempty : numeral.whole ≠ []
  leading : numeral.whole.head? = some 0 → numeral.whole = [0]

inductive FractionWritten : Option (List Digit) → List UInt8 → Prop where
  | absent : FractionWritten none []
  | digits {digits : List Digit} : digits ≠ [] →
      FractionWritten (some digits) (ascii '.' :: digitBytes digits)

/-- The sign of an exponent, where no sign and a plus mean the same. -/
inductive SignWritten : Bool → List UInt8 → Prop where
  | absent : SignWritten false []
  | plus : SignWritten false [ascii '+']
  | minus : SignWritten true [ascii '-']

inductive ExponentWritten : Option (Bool × List Digit) → List UInt8 → Prop where
  | absent : ExponentWritten none []
  | digits {mark : UInt8} {negative : Bool} {sign : List UInt8} {digits : List Digit} :
      mark = ascii 'e' ∨ mark = ascii 'E' → SignWritten negative sign → digits ≠ [] →
      ExponentWritten (some (negative, digits)) (mark :: sign ++ digitBytes digits)

def minusBytes (negative : Bool) : List UInt8 := if negative then [ascii '-'] else []

inductive Written : Numeral → List UInt8 → Prop where
  | parts {numeral : Numeral} {fraction exponent : List UInt8} : numeral.WellFormed →
      FractionWritten numeral.fraction fraction → ExponentWritten numeral.exponent exponent →
      Written numeral (minusBytes numeral.negative ++
        (digitBytes numeral.whole ++ (fraction ++ exponent)))

end Numeral

/-! ## Tokens -/

namespace Token

inductive Written : Token → List UInt8 → Prop where
  | beginArray : Written beginArray (asciiBytes "[")
  | endArray : Written endArray (asciiBytes "]")
  | beginObject : Written beginObject (asciiBytes "\x7b")
  | endObject : Written endObject (asciiBytes "\x7d")
  | colon : Written colon (asciiBytes ":")
  | comma : Written comma (asciiBytes ",")
  | null : Written null (asciiBytes "null")
  | yes : Written (bool true) (asciiBytes "true")
  | no : Written (bool false) (asciiBytes "false")
  | number {numeral : Numeral} {bytes : List UInt8} : numeral.Written bytes →
      Written (number numeral) bytes
  | string {pieces : List StringPiece} {bytes : List UInt8} :
      InSequence StringPiece.Written pieces bytes →
      Written (string (pieceText? pieces)) (ascii '"' :: (bytes ++ [ascii '"']))

/-- Tokens with blanks before, between and after them. -/
inductive Spelled : List Token → List UInt8 → Prop where
  | blank {blanks : List UInt8} : (∀ byte ∈ blanks, isBlank byte = true) → Spelled [] blanks
  | token {token : Token} {tokens : List Token} {blanks bytes rest : List UInt8} :
      (∀ byte ∈ blanks, isBlank byte = true) → token.Written bytes → Spelled tokens rest →
      Spelled (token :: tokens) (blanks ++ (bytes ++ rest))

end Token

/-! ## Values -/

/-- Parts with commas between them. -/
def separated (parts : List (List Token)) : List Token := List.intercalate [.comma] parts

@[simp] theorem separated_nil : separated [] = [] := rfl

@[simp] theorem separated_singleton (part : List Token) : separated [part] = part := by
  simp [separated, List.intercalate, List.intersperse]

@[simp] theorem separated_cons_cons (first second : List Token) (rest : List (List Token)) :
    separated (first :: second :: rest) = first ++ .comma :: separated (second :: rest) := by
  simp [separated, List.intercalate, List.intersperse]

mutual

/-- The tokens of a value, between which there can be blanks. -/
def Value.tokens : Value → List Token
  | .null => [.null]
  | .bool value => [.bool value]
  | .number numeral => [.number numeral]
  | .string text => [.string text]
  | .array items => .beginArray :: (separated (itemTokens items) ++ [.endArray])
  | .object members => .beginObject :: (separated (memberTokens members) ++ [.endObject])

def itemTokens : List Value → List (List Token)
  | [] => []
  | item :: rest => item.tokens :: itemTokens rest

def memberTokens : List Member → List (List Token)
  | [] => []
  | (key, value) :: rest => (.string key :: .colon :: value.tokens) :: memberTokens rest

end

@[simp] theorem itemTokens_eq (items : List Value) : itemTokens items = items.map Value.tokens := by
  induction items with
  | nil => rfl
  | cons item rest ih => simp [itemTokens, ih]

@[simp] theorem memberTokens_eq (members : List Member) :
    memberTokens members =
      members.map fun member => .string member.1 :: .colon :: member.2.tokens := by
  induction members with
  | nil => rfl
  | cons member rest ih => simp [memberTokens, ih]

/-- The bytes of a text in UTF-8. -/
def textBytes (text : String) : List UInt8 := text.toUTF8.toList

/-- A text is a JSON text of a value. -/
def Spells (text : String) (value : Value) : Prop := Token.Spelled value.tokens (textBytes text)

end Compositor.Json
