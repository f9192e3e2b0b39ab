import Compositor.Json.Token

/-!
# JSON values

The value that a JSON text stands for, read token by token with a stack of the arrays and objects
that are still open. There is no limit to how deep they are nested.
-/

set_option autoImplicit false

namespace Compositor.Json

/-- A JSON value. Objects keep their members in order, equal keys included. -/
inductive Value where
  | null
  | bool (value : Bool)
  | number (numeral : Numeral)
  | string (text : Option String)
  | array (items : List Value)
  | object (members : List (Option String × Value))
  deriving Repr

abbrev Member := Option String × Value

inductive OpenValue where
  /-- The items that are complete, the latest first. -/
  | array (items : List Value)
  /-- The members that are complete, the latest first, and the key of the next one. -/
  | object (members : List Member) (key : Option String)
  deriving Repr

/-- What can come next in a text. -/
inductive Expectation where
  | beforeValue (stack : List OpenValue)
  | beforeFirstItem (stack : List OpenValue)
  | beforeFirstKey (stack : List OpenValue)
  | beforeKey (members : List Member) (stack : List OpenValue)
  | beforeColon (members : List Member) (key : Option String) (stack : List OpenValue)
  | afterValue (value : Value) (stack : List OpenValue)
  deriving Repr

namespace Expectation

def startValue (stack : List OpenValue) : Token → Option Expectation
  | .null => some (.afterValue .null stack)
  | .bool value => some (.afterValue (.bool value) stack)
  | .number numeral => some (.afterValue (.number numeral) stack)
  | .string text => some (.afterValue (.string text) stack)
  | .beginArray => some (.beforeFirstItem stack)
  | .beginObject => some (.beforeFirstKey stack)
  | .endArray | .endObject | .colon | .comma => none

def continueWith (value : Value) : List OpenValue → Token → Option Expectation
  | .array items :: stack, .comma => some (.beforeValue (.array (value :: items) :: stack))
  | .array items :: stack, .endArray => some (.afterValue (.array (value :: items).reverse) stack)
  | .object members key :: stack, .comma => some (.beforeKey ((key, value) :: members) stack)
  | .object members key :: stack, .endObject =>
    some (.afterValue (.object ((key, value) :: members).reverse) stack)
  | _, _ => none

def next : Expectation → Token → Option Expectation
  | .beforeValue stack, token => startValue stack token
  | .beforeFirstItem stack, .endArray => some (.afterValue (.array []) stack)
  | .beforeFirstItem stack, token => startValue (.array [] :: stack) token
  | .beforeFirstKey stack, .endObject => some (.afterValue (.object []) stack)
  | .beforeFirstKey stack, .string text => some (.beforeColon [] text stack)
  | .beforeFirstKey _, _ => none
  | .beforeKey members stack, .string text => some (.beforeColon members text stack)
  | .beforeKey _ _, _ => none
  | .beforeColon members key stack, .colon => some (.beforeValue (.object members key :: stack))
  | .beforeColon _ _ _, _ => none
  | .afterValue value stack, token => continueWith value stack token

def result? : Expectation → Option Value
  | .afterValue value [] => some value
  | _ => none

end Expectation

namespace Value

def ofTokens? (tokens : List Token) : Option Value :=
  (tokens.foldlM Expectation.next (.beforeValue [])).bind Expectation.result?

def ofBytes? (bytes : List UInt8) : Option Value := (Token.scanAll? bytes).bind ofTokens?

def ofText? (text : String) : Option Value := ofBytes? text.toUTF8.toList

end Value

end Compositor.Json
