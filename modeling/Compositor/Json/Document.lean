/-!
# Written JSON

The documents that the program writes, and their one written form: two spaces of indentation for
each level, one item or member a line, and nothing between the brackets of an empty one.
-/

set_option autoImplicit false

namespace Compositor.Json

/-- A document to be written. Numbers are whole and not negative. -/
inductive Document where
  | null
  | bool (value : Bool)
  | number (value : Nat)
  | string (text : String)
  | array (items : List Document)
  | object (members : List (String × Document))

namespace Document

def twoHexDigits (number : Nat) : List Char :=
  [Nat.digitChar (number / 16), Nat.digitChar (number % 16)]

/-- A character inside a string. Only quotes, backslashes and the 32 control characters of ASCII
are escaped, the latter by a letter where there is one. -/
def stringChar (char : Char) : List Char :=
  match char with
  | '"' => ['\\', '"']
  | '\\' => ['\\', '\\']
  | '\x08' => ['\\', 'b']
  | '\x0c' => ['\\', 'f']
  | '\n' => ['\\', 'n']
  | '\r' => ['\\', 'r']
  | '\t' => ['\\', 't']
  | _ => if char.toNat < 0x20 then ['\\', 'u', '0', '0'] ++ twoHexDigits char.toNat else [char]

def stringText (text : String) : String :=
  String.ofList ('"' :: text.toList.flatMap stringChar ++ ['"'])

def newLine (depth : Nat) : String := String.ofList ('\n' :: List.replicate (2 * depth) ' ')

def joinLines (depth : Nat) : List String → String
  | [] => ""
  | [last] => last
  | first :: rest => first ++ "," ++ newLine depth ++ joinLines depth rest

def bracketed (opening closing : String) (depth : Nat) (pieces : List String) : String :=
  if pieces.isEmpty then opening ++ closing
  else opening ++ newLine (depth + 1) ++ joinLines (depth + 1) pieces ++ newLine depth ++ closing

mutual

def textAt (depth : Nat) : Document → String
  | .null => "null"
  | .bool true => "true"
  | .bool false => "false"
  | .number value => Nat.repr value
  | .string text => stringText text
  | .array items => bracketed "[" "]" depth (itemTexts (depth + 1) items)
  | .object members => bracketed "\x7b" "\x7d" depth (memberTexts (depth + 1) members)

def itemTexts (depth : Nat) : List Document → List String
  | [] => []
  | item :: rest => textAt depth item :: itemTexts depth rest

def memberTexts (depth : Nat) : List (String × Document) → List String
  | [] => []
  | (key, value) :: rest =>
    (stringText key ++ ": " ++ textAt depth value) :: memberTexts depth rest

end

def text (document : Document) : String := document.textAt 0

def ofNat? (value : Option Nat) : Document := value.elim .null .number

end Document

end Compositor.Json
