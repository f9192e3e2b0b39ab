import Compositor.Engine.Options
import Compositor.Json.Document
import Compositor.Json.Record

/-!
# Engine options in JSON

Options are a record in which every field has a default and no other key may occur.
-/

set_option autoImplicit false

namespace Compositor.EngineOptions

def fieldNames : List String :=
  ["output_cache_size", "trace_gpu_completion", "enable_protected_context", "fence_timeout_ms",
    "tracer_wait_timeout_ms"]

def ofJson? (value : Json.Value) : Option EngineOptions := do
  let record ← value.record? .refused fieldNames
  return {
    outputCacheSize :=
      ← record.optional "output_cache_size" standard.outputCacheSize Json.Value.word64?
    traceCompletion :=
      ← record.optional "trace_gpu_completion" standard.traceCompletion Json.Value.bool?
    enableSecure :=
      ← record.optional "enable_protected_context" standard.enableSecure Json.Value.bool?
    fenceTimeout := ← record.optional "fence_timeout_ms" standard.fenceTimeout Json.Value.word64?
    tracerTimeout :=
      ← record.optional "tracer_wait_timeout_ms" standard.tracerTimeout Json.Value.word64? }

/-- The options that a JSON text describes, if an engine can run with them. -/
def ofText (text : String) : Except ValidationError EngineOptions :=
  match (Json.Value.ofText? text).bind ofJson? with
  | none => .error .malformedOptions
  | some options => options.check.map fun _ => options

def document (options : EngineOptions) : Json.Document :=
  .object
    [("output_cache_size", .number options.outputCacheSize.toNat),
      ("trace_gpu_completion", .bool options.traceCompletion),
      ("enable_protected_context", .bool options.enableSecure),
      ("fence_timeout_ms", .number options.fenceTimeout.toNat),
      ("tracer_wait_timeout_ms", .number options.tracerTimeout.toNat)]

def text (options : EngineOptions) : String := options.document.text

end Compositor.EngineOptions
