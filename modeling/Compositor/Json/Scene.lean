import Compositor.Json.Buffer
import Compositor.Scene

/-!
# Scenes in JSON

The parts of a scene are records without any other keys. Buffers and rectangles in them ignore what
they do not know.
-/

set_option autoImplicit false

namespace Compositor

namespace Rect

def fieldNames : List String := ["x0", "y0", "x1", "y1"]

def ofJson? (value : Json.Value) : Option Rect := do
  let record ← value.record? .ignored fieldNames
  return {
    left := ← record.required "x0" Json.Value.double?
    top := ← record.required "y0" Json.Value.double?
    right := ← record.required "x1" Json.Value.double?
    bottom := ← record.required "y1" Json.Value.double? }

end Rect

namespace Color

def ofJson? (value : Json.Value) : Option Color := do
  match ← value.list? Json.Value.single? with
  | [red, green, blue, alpha] => return ⟨red, green, blue, alpha⟩
  | _ => none

end Color

namespace SceneDisplay

def fieldNames : List String := ["width", "height", "protected"]

def ofJson? (value : Json.Value) : Option SceneDisplay := do
  let record ← value.record? .refused fieldNames
  return {
    width := ← record.required "width" Json.Value.word32?
    height := ← record.required "height" Json.Value.word32?
    isProtected := ← record.optional "protected" false Json.Value.bool? }

end SceneDisplay

namespace SceneLayer

def fieldNames : List String := ["buffer", "color", "bounds", "alpha"]

/-- A layer is opaque unless it says otherwise. -/
def ofJson? (value : Json.Value) : Option SceneLayer := do
  let record ← value.record? .refused fieldNames
  return {
    buffer := ← record.optional "buffer" none (Json.Value.nullable? Buffer.ofJson?)
    color := ← record.optional "color" none (Json.Value.nullable? Color.ofJson?)
    bounds := ← record.optional "bounds" none (Json.Value.nullable? Rect.ofJson?)
    alpha := ← record.optional "alpha" .one Json.Value.single? }

end SceneLayer

namespace SceneFrame

def fieldNames : List String := ["layers"]

def ofJson? (value : Json.Value) : Option SceneFrame := do
  let record ← value.record? .refused fieldNames
  return { layers := ← record.optional "layers" [] (Json.Value.list? SceneLayer.ofJson?) }

end SceneFrame

namespace Scene

def fieldNames : List String := ["display", "targets", "frames"]

def ofJson? (value : Json.Value) : Option Scene := do
  let record ← value.record? .refused fieldNames
  return {
    display := ← record.required "display" SceneDisplay.ofJson?
    targets := ← record.required "targets" (Json.Value.list? Buffer.ofJson?)
    frames := ← record.required "frames" (Json.Value.list? SceneFrame.ofJson?) }

def ofBytes (bytes : List UInt8) : Except ValidationError Scene :=
  match (Json.Value.ofBytes? bytes).bind ofJson? with
  | none => .error .malformedScene
  | some scene => scene.check.map fun _ => scene

def ofText (text : String) : Except ValidationError Scene := ofBytes text.toUTF8.toList

end Scene

end Compositor
