/-!
# Text forms

How numbers, durations and quoted texts are written in messages and names.
-/

set_option autoImplicit false

namespace Compositor.Text

/-! ## Hexadecimal numbers

Lower-case hexadecimal, without leading zeros, behind the marker `0x`. -/

/-- Zero is `0x0`; every other number starts with its first non-zero digit. -/
def hexadecimal (number : Nat) : String := "0x" ++ String.ofList (Nat.toDigits 16 number)

/-! ## Durations

A duration is written in the largest unit that it fills: whole milliseconds below one second, and
from there on seconds, with the milliseconds as decimals and no trailing zeros. The empty duration
counts as nanoseconds. -/

/-- The decimals of a number of thousandths: none for zero, else a point and up to three digits. -/
def thousandths (count : Nat) : String :=
  let digits := [count / 100 % 10, count / 10 % 10, count % 10]
  let kept := (digits.reverse.dropWhile (· == 0)).reverse
  if kept.isEmpty then "" else "." ++ String.join (kept.map Nat.repr)

def duration (milliseconds : Nat) : String :=
  if milliseconds = 0 then "0ns"
  else if milliseconds < 1000 then Nat.repr milliseconds ++ "ms"
  else Nat.repr (milliseconds / 1000) ++ thousandths (milliseconds % 1000) ++ "s"

/-! ## Quotations

Text between double quotes, with the characters that would end or disturb the quotation written as
escapes. -/

/-- A character inside a quotation. -/
def quotedChar (char : Char) : List Char :=
  match char with
  | '"' => ['\\', '"']
  | '\\' => ['\\', '\\']
  | '\n' => ['\\', 'n']
  | '\r' => ['\\', 'r']
  | '\t' => ['\\', 't']
  | _ => [char]

def quoted (text : String) : String :=
  String.ofList ('"' :: text.toList.flatMap quotedChar ++ ['"'])

end Compositor.Text
