import Compositor.Json.Numeral

/-!
# JSON tokens

The tokens of a JSON text, scanned off its bytes. A text need not be valid UTF-8 as a whole: only
strings can hold anything but ASCII, and whether a string spells text is left to whoever uses it.
-/

set_option autoImplicit false

namespace Compositor.Json

inductive Token where
  | beginArray
  | endArray
  | beginObject
  | endObject
  | colon
  | comma
  | null
  | bool (value : Bool)
  | number (numeral : Numeral)
  /-- A string, and the text that it spells if it spells one. -/
  | string (text : Option String)
  deriving DecidableEq, Repr

def ascii (char : Char) : UInt8 := char.toNat.toUInt8

def asciiBytes (text : String) : List UInt8 := text.toList.map ascii

def isBlank (byte : UInt8) : Bool := (asciiBytes " \n\t\r").contains byte

/-! ## Numerals -/

def isDigit (byte : UInt8) : Bool := ascii '0' ≤ byte && byte ≤ ascii '9'

def digitOf (byte : UInt8) : Digit := Fin.ofNat 10 (byte.toNat - (ascii '0').toNat)

def spanDigits (bytes : List UInt8) : List Digit × List UInt8 :=
  ((bytes.takeWhile isDigit).map digitOf, bytes.dropWhile isDigit)

def scanDigits? (bytes : List UInt8) : Option (List Digit × List UInt8) :=
  match spanDigits bytes with
  | ([], _) => none
  | scanned => some scanned

/-- The digits before the point: a zero, or digits of which the first is not zero. -/
def scanWhole? (bytes : List UInt8) : Option (List Digit × List UInt8) :=
  (scanDigits? bytes).filter fun (digits, _) => digits.length = 1 || digits.head? ≠ some 0

def scanFraction? : List UInt8 → Option (Option (List Digit) × List UInt8)
  | [] => some (none, [])
  | first :: rest =>
    if first = ascii '.' then
      (scanDigits? rest).map fun (digits, rest) => (some digits, rest)
    else some (none, first :: rest)

def scanSign : List UInt8 → Bool × List UInt8
  | [] => (false, [])
  | first :: rest =>
    if first = ascii '-' then (true, rest)
    else if first = ascii '+' then (false, rest)
    else (false, first :: rest)

def scanExponent? : List UInt8 → Option (Option (Bool × List Digit) × List UInt8)
  | [] => some (none, [])
  | first :: rest =>
    if first = ascii 'e' ∨ first = ascii 'E' then
      let (negative, rest) := scanSign rest
      (scanDigits? rest).map fun (digits, rest) => (some (negative, digits), rest)
    else some (none, first :: rest)

def scanMinus : List UInt8 → Bool × List UInt8
  | [] => (false, [])
  | first :: rest => if first = ascii '-' then (true, rest) else (false, first :: rest)

def Numeral.scan? (bytes : List UInt8) : Option (Numeral × List UInt8) := do
  let (negative, rest) := scanMinus bytes
  let (whole, rest) ← scanWhole? rest
  let (fraction, rest) ← scanFraction? rest
  let (exponent, rest) ← scanExponent? rest
  return (⟨negative, whole, fraction, exponent⟩, rest)

/-! ## Strings -/

/-- What a string is made of: bytes that stand for themselves, and numbered UTF-16 units. -/
inductive StringPiece where
  | byte (value : UInt8)
  | unit (value : Nat)
  deriving DecidableEq, Repr

def escapedByte? (letter : UInt8) : Option UInt8 :=
  [('"', '"'), ('\\', '\\'), ('/', '/'), ('b', '\x08'), ('f', '\x0c'), ('n', '\n'), ('r', '\r'),
    ('t', '\t')].findSome? fun (written, meant) =>
      if letter = ascii written then some (ascii meant) else none

def hexValue? (byte : UInt8) : Option Nat :=
  if isDigit byte then some (byte.toNat - (ascii '0').toNat)
  else if ascii 'a' ≤ byte ∧ byte ≤ ascii 'f' then some (byte.toNat - (ascii 'a').toNat + 10)
  else if ascii 'A' ≤ byte ∧ byte ≤ ascii 'F' then some (byte.toNat - (ascii 'A').toNat + 10)
  else none

def hexNumber? (digits : List UInt8) : Option Nat :=
  digits.foldlM (fun value digit => (hexValue? digit).map (value * 16 + ·)) 0

/-- The pieces of a string up to its closing quote, and the rest. Control characters cannot stand in
a string. -/
def scanPieces? : List UInt8 → Option (List StringPiece × List UInt8)
  | [] => none
  | first :: rest =>
    if first = ascii '"' then some ([], rest)
    else if first = ascii '\\' then
      match rest with
      | [] => none
      | letter :: rest =>
        if letter = ascii 'u' then
          match rest with
          | a :: b :: c :: d :: rest => do
            let unit ← hexNumber? [a, b, c, d]
            let (pieces, rest) ← scanPieces? rest
            return (.unit unit :: pieces, rest)
          | _ => none
        else do
          let byte ← escapedByte? letter
          let (pieces, rest) ← scanPieces? rest
          return (.byte byte :: pieces, rest)
    else if first < 0x20 then none
    else do
      let (pieces, rest) ← scanPieces? rest
      return (.byte first :: pieces, rest)

def isHighSurrogate (unit : Nat) : Bool := 0xd800 ≤ unit && unit < 0xdc00

def isLowSurrogate (unit : Nat) : Bool := 0xdc00 ≤ unit && unit < 0xe000

def pairedChar (high low : Nat) : Char :=
  Char.ofNat (0x10000 + (high - 0xd800) * 0x400 + (low - 0xdc00))

/-- The bytes that pieces spell. Surrogates count only in pairs, both written as numbers. -/
def pieceBytes? : List StringPiece → Option (List UInt8)
  | [] => some []
  | .byte value :: rest => (pieceBytes? rest).map (value :: ·)
  | .unit high :: .unit low :: rest =>
    if isHighSurrogate high then
      if isLowSurrogate low then
        (pieceBytes? rest).map (String.utf8EncodeChar (pairedChar high low) ++ ·)
      else none
    else if isLowSurrogate high then none
    else (pieceBytes? (.unit low :: rest)).map (String.utf8EncodeChar (Char.ofNat high) ++ ·)
  | .unit value :: rest =>
    if isHighSurrogate value || isLowSurrogate value then none
    else (pieceBytes? rest).map (String.utf8EncodeChar (Char.ofNat value) ++ ·)

def textOfBytes? (bytes : List UInt8) : Option String := String.fromUTF8? ⟨bytes.toArray⟩

def pieceText? (pieces : List StringPiece) : Option String :=
  (pieceBytes? pieces).bind textOfBytes?

/-! ## Tokens -/

namespace Token

def ofMark? (byte : UInt8) : Option Token :=
  [('[', beginArray), (']', endArray), ('\x7b', beginObject), ('\x7d', endObject), (':', colon),
    (',', comma)].findSome? fun (mark, token) => if byte = ascii mark then some token else none

def ofWord? (bytes : List UInt8) : Option (Token × List UInt8) :=
  [("null", null), ("true", bool true), ("false", bool false)].findSome? fun (word, token) =>
    (List.isPrefixOf? (asciiBytes word) bytes).map fun rest => (token, rest)

def scan? : List UInt8 → Option (Token × List UInt8)
  | [] => none
  | first :: rest =>
    match ofMark? first with
    | some token => some (token, rest)
    | none =>
      if first = ascii '"' then
        (scanPieces? rest).map fun (pieces, rest) => (.string (pieceText? pieces), rest)
      else
        ofWord? (first :: rest) <|>
          (Numeral.scan? (first :: rest)).map fun (numeral, rest) => (.number numeral, rest)

def scanUpTo : Nat → List UInt8 → Option (List Token)
  | 0, bytes => if bytes.all isBlank then some [] else none
  | limit + 1, bytes =>
    match bytes.dropWhile isBlank with
    | [] => some []
    | first :: rest => do
      let (token, rest) ← scan? (first :: rest)
      let tokens ← scanUpTo limit rest
      return token :: tokens

/-- The tokens of a text, if it consists of tokens. No token is empty, so there are at most as many
as there are bytes. -/
def scanAll? (bytes : List UInt8) : Option (List Token) := scanUpTo bytes.length bytes

end Token

end Compositor.Json
