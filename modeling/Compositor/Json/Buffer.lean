import Compositor.Buffer
import Compositor.Json.Document
import Compositor.Json.Record
import Compositor.Mode

/-!
# Buffers in JSON

Buffers are records that ignore keys they do not know; pixel formats and modes are names.
-/

set_option autoImplicit false

namespace Compositor

namespace Mode

def ofJson? (value : Json.Value) : Option Mode := value.named? ofName?

end Mode

namespace PixelFormat

def ofJson? (value : Json.Value) : Option PixelFormat := value.named? ofName?

end PixelFormat

namespace BufferId

def ofJson? (value : Json.Value) : Option BufferId := value.word64?.map BufferId.mk

end BufferId

namespace Buffer

def fieldNames : List String := ["id", "width", "height", "format", "protected", "native_handle"]

def ofJson? (value : Json.Value) : Option Buffer := do
  let record ← value.record? .ignored fieldNames
  return {
    id := ← record.required "id" BufferId.ofJson?
    width := ← record.required "width" Json.Value.word32?
    height := ← record.required "height" Json.Value.word32?
    format := ← record.optional "format" .rgba8888 PixelFormat.ofJson?
    isProtected := ← record.optional "protected" false Json.Value.bool?
    nativeHandle := ← record.optional "native_handle" 0 Json.Value.word64? }

def ofText? (text : String) : Option Buffer := (Json.Value.ofText? text).bind ofJson?

def document (buffer : Buffer) : Json.Document :=
  .object
    [("id", .number buffer.id.value.toNat),
      ("width", .number buffer.width.toNat),
      ("height", .number buffer.height.toNat),
      ("format", .string buffer.format.name),
      ("protected", .bool buffer.isProtected),
      ("native_handle", .number buffer.nativeHandle.toNat)]

end Buffer

end Compositor
