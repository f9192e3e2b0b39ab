import Compositor.Json.Value

/-!
# Reading typed data

How values of fixed types are read from JSON. A record is an object with known keys, or an array of
its fields in order. No key may come twice; a field may be missing only if it has a default; and
`null` is a value only for what may be absent.
-/

set_option autoImplicit false

namespace Compositor.Json

namespace Value

def bool? : Value → Option Bool
  | .bool value => some value
  | _ => none

def natBelow? (bound : Nat) : Value → Option Nat
  | .number numeral => numeral.natBelow? bound
  | _ => none

def word32? (value : Value) : Option UInt32 := (value.natBelow? UInt32.size).map UInt32.ofNat

def word64? (value : Value) : Option UInt64 := (value.natBelow? UInt64.size).map UInt64.ofNat

def single? : Value → Option Single
  | .number numeral => numeral.single?
  | _ => none

def double? : Value → Option Double
  | .number numeral => numeral.double?
  | _ => none

def list? {α : Type} (read : Value → Option α) : Value → Option (List α)
  | .array items => items.mapM read
  | _ => none

/-- Something that may be absent, which is written as `null`. -/
def nullable? {α : Type} (read : Value → Option α) : Value → Option (Option α)
  | .null => some none
  | value => (read value).map some

/-- One of several names: the name as a string, or an object with the name as its only key and
nothing as its value. -/
def named? {α : Type} (ofName? : String → Option α) : Value → Option α
  | .string text => text.bind ofName?
  | .object [(key, .null)] => key.bind ofName?
  | _ => none

end Value

inductive OtherKeys where
  | ignored
  | refused
  deriving DecidableEq, Repr

abbrev Record := List (String × Value)

namespace Value

def namedMembers? (members : List Member) : Option Record :=
  members.mapM fun (key, value) => key.map fun key => (key, value)

/-- The fields of a record with the given field names, in the order of the array form. -/
def record? (others : OtherKeys) (names : List String) : Value → Option Record
  | .array items => if items.length ≤ names.length then some (names.zip items) else none
  | .object members => do
    let named ← namedMembers? members
    let known := named.filter fun (key, _) => names.contains key
    if others = .refused ∧ known.length < named.length then none
    else if (known.map (·.1)).Nodup then some known
    else none
  | _ => none

end Value

namespace Record

def required {α : Type} (record : Record) (name : String) (read : Value → Option α) : Option α :=
  (record.lookup name).bind read

def optional {α : Type} (record : Record) (name : String) (default : α)
    (read : Value → Option α) : Option α :=
  match record.lookup name with
  | none => some default
  | some value => read value

end Record

end Compositor.Json
