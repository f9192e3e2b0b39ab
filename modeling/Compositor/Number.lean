/-!
# Floating-point numbers

Numbers in single and double precision are kept as their bit patterns. So two numbers are equal
exactly when they are the same bits, and the bits of a value that is not a number survive.
-/

set_option autoImplicit false

namespace Compositor

structure Single where
  bits : UInt32
  deriving DecidableEq, Repr

namespace Single

def zero : Single := ⟨0⟩

def one : Single := ⟨0x3f800000⟩

/-- Holds for the numbers from zero to one, negative zero among them. The patterns of numbers
without a sign are ordered like the numbers, and those that are not numbers lie above all of them. -/
def inUnitInterval (number : Single) : Bool :=
  number.bits ≤ one.bits || number.bits == 0x80000000

end Single

structure Double where
  bits : UInt64
  deriving DecidableEq, Repr

namespace Double

def zero : Double := ⟨0⟩

def ofWord (word : UInt32) : Double := ⟨word.toUInt64.toFloat.toBits⟩

end Double

end Compositor
