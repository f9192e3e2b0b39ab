import Compositor.Text

/-!
# External buffers

A buffer is allocated and owned by the caller. The compositor only reads its description: who it is,
how large it is, how its pixels are laid out, and whether it holds protected content.
-/

set_option autoImplicit false

namespace Compositor

/-- The identity that the caller gave to a buffer. The compositor never changes or reuses one. -/
structure BufferId where
  value : UInt64
  deriving DecidableEq, Repr

namespace BufferId

def text (id : BufferId) : String := Text.hexadecimal id.value.toNat

end BufferId

inductive PixelFormat where
  | rgba8888
  | rgbx8888
  | rgb565
  | rgba1010102
  | rgbaFp16
  deriving DecidableEq, Repr

namespace PixelFormat

def all : List PixelFormat := [.rgba8888, .rgbx8888, .rgb565, .rgba1010102, .rgbaFp16]

def name : PixelFormat → String
  | .rgba8888 => "rgba8888"
  | .rgbx8888 => "rgbx8888"
  | .rgb565 => "rgb565"
  | .rgba1010102 => "rgba1010102"
  | .rgbaFp16 => "rgba_fp16"

/-- Reads a written name back; no other spelling names a format. -/
def ofName? (text : String) : Option PixelFormat := all.find? fun format => format.name == text

def bytesPerPixel : PixelFormat → Nat
  | .rgb565 => 2
  | .rgba8888 | .rgbx8888 | .rgba1010102 => 4
  | .rgbaFp16 => 8

end PixelFormat

structure Buffer where
  id : BufferId
  width : UInt32
  height : UInt32
  format : PixelFormat
  isProtected : Bool
  nativeHandle : UInt64
  deriving DecidableEq, Repr

namespace Buffer

/-- An unprotected buffer of the default format, whose platform handle is its identity. -/
def plain (id : BufferId) (width height : UInt32) : Buffer :=
  ⟨id, width, height, .rgba8888, false, id.value⟩

def asProtected (buffer : Buffer) : Buffer := { buffer with isProtected := true }

def withFormat (buffer : Buffer) (format : PixelFormat) : Buffer := { buffer with format }

def largestByteLength : Nat := UInt64.size - 1

/-- The size of the backing storage. Sizes beyond 64 bits are reported as the largest one. -/
def byteLength (buffer : Buffer) : Nat :=
  min (buffer.width.toNat * buffer.height.toNat * buffer.format.bytesPerPixel) largestByteLength

end Buffer

end Compositor
