import Compositor.Proofs.Outline.Session

/-!
# Frames, apart from caching

What comes of a frame is settled by the limits of the engine, by the imports that are rejected and
by the frame itself, as long as each buffer is always described in the same way: an image is only
kept while a new import of its buffer would succeed, so finding it tells the same as importing
anew.
-/

set_option autoImplicit false

namespace Compositor

/-! ## Verdicts -/

/-- All that frames depend on besides their number. -/
structure Setting where
  patience : Nat
  limit : UInt32
  hasSecure : Bool
  rejecting : List BufferId

def FrameStatus.uncached (status : FrameStatus) : FrameStatus :=
  { status with outputCached := false }

namespace Setting

def refusal? (setting : Setting) (mode : Mode) (kind : ImageKind) (buffer : Buffer) :
    Option BindError :=
  ImportRequest.refusal? setting.rejecting mode kind buffer setting.limit

def offers (setting : Setting) : Mode → Bool
  | .normal => true
  | .secure => setting.hasSecure

/-- How a layer is left out, if so. -/
def omission? (setting : Setting) (signals : Nat → Bool) (mode : Mode) (entry : Layer × Nat) :
    Option SkippedLayer :=
  entry.1.buffer?.bind fun buffer =>
    match setting.refusal? mode .texture buffer with
    | some cause => some ⟨entry.2, some buffer.id, .importFailed cause⟩
    | none =>
      if signals (entry.2 + 1) then none else some ⟨entry.2, some buffer.id, .acquireTimeout⟩

def omissions (setting : Setting) (signals : Nat → Bool) (mode : Mode)
    (entries : List (Layer × Nat)) : List SkippedLayer :=
  entries.filterMap (setting.omission? signals mode)

theorem omissions_cons (setting : Setting) (signals : Nat → Bool) (mode : Mode)
    (entry : Layer × Nat) (entries : List (Layer × Nat)) :
    setting.omissions signals mode (entry :: entries) =
      setting.omissions signals mode [entry] ++ setting.omissions signals mode entries :=
  List.filterMap_append (l := [entry])

/-- What comes of a frame that has a context, and gets the number `frame`. -/
def composed (setting : Setting) (signals : Nat → Bool) (frame : FrameSeq)
    (request : FrameRequest) : Except EngineError FrameStatus :=
  match setting.refusal? request.mode .output request.target with
  | some cause => .error (.bind cause)
  | none =>
    let omitted := setting.omissions signals request.mode request.layers.zipIdx
    .ok ⟨frame, request.mode, request.layers.length - omitted.length, omitted, false⟩

/-- What comes of a frame, and the latest number handed out then. -/
def verdict (setting : Setting) (signals : Nat → Bool) (issued : FrameSeq)
    (request : FrameRequest) : Except EngineError FrameStatus × FrameSeq :=
  if signals 0 then
    if setting.offers request.mode then
      (setting.composed signals issued.next request, issued.next)
    else (.error .protectedUnavailable, issued)
  else (.error (.fenceTimeout setting.patience), issued)

end Setting

/-! ## Faithful caches -/

namespace Outline

def setting (outline : Outline) : Setting :=
  ⟨outline.patience, outline.limit, outline.contexts.hasSecure, outline.canvas.rejecting⟩

/-- What is cached would be imported again, with every buffer described in the same way. -/
structure Faithful (describe : BufferId → Buffer) (outline : Outline) : Prop where
  active : outline.contexts.has outline.contexts.active = true
  textures : ∀ image ∈ outline.textures,
    outline.setting.refusal? outline.contexts.active .texture (describe image.buffer) = none
  outputs : ∀ image ∈ outline.outputs,
    outline.setting.refusal? outline.contexts.active .output (describe image.buffer) = none

/-- The caches stay faithful, and nothing that frames depend on changes. -/
structure Follows (describe : BufferId → Buffer) (before after : Outline) : Prop where
  setting : after.setting = before.setting
  contexts : after.contexts = before.contexts
  issued : after.issued = before.issued
  faithful : after.Faithful describe

/-- Something was provided exactly if its buffer is not refused. -/
inductive Provided {failure given : Type} (describe : BufferId → Buffer) (before : Outline)
    (refusal : Option BindError) (fails : BindError → failure) :
    Except failure given × Outline → Prop where
  | refused {cause : BindError} {after : Outline} : refusal = some cause →
      Follows describe before after →
      Provided describe before refusal fails (.error (fails cause), after)
  | given {value : given} {after : Outline} : refusal = none →
      Follows describe before after → Provided describe before refusal fails (.ok value, after)

variable {describe : BufferId → Buffer} {outline : Outline}

theorem Faithful.refl (faithful : outline.Faithful describe) : Follows describe outline outline :=
  ⟨rfl, rfl, rfl, faithful⟩

theorem Follows.trans {first second third : Outline} (left : Follows describe first second)
    (right : Follows describe second third) : Follows describe first third :=
  ⟨right.setting.trans left.setting, right.contexts.trans left.contexts,
    right.issued.trans left.issued, right.faithful⟩

/-- Images left the caches, and those that came would be made again. -/
theorem Faithful.follows (faithful : outline.Faithful describe) {after : Outline}
    (setting : after.setting = outline.setting) (contexts : after.contexts = outline.contexts)
    (issued : after.issued = outline.issued)
    (textures : ∀ image ∈ after.textures, image ∈ outline.textures ∨
      outline.setting.refusal? outline.contexts.active .texture (describe image.buffer) = none)
    (outputs : ∀ image ∈ after.outputs, image ∈ outline.outputs ∨
      outline.setting.refusal? outline.contexts.active .output (describe image.buffer) = none) :
    Follows describe outline after := by
  refine ⟨setting, contexts, issued, ?_, ?_, ?_⟩
  · rw [contexts]
    exact faithful.active
  · rw [setting, contexts]
    exact fun image member => (textures image member).elim (faithful.textures image) id
  · rw [setting, contexts]
    exact fun image member => (outputs image member).elim (faithful.outputs image) id

theorem Faithful.make_refused (faithful : outline.Faithful describe) {kind : ImageKind}
    {buffer : Buffer} {cause : BindError}
    (refused : outline.setting.refusal? outline.contexts.active kind buffer = some cause) :
    outline.make kind buffer = (.error cause, outline.canvas) := by
  rw [make, Contexts.current_eq faithful.active]
  exact Canvas.make_refused refused

theorem Faithful.make_made (faithful : outline.Faithful describe) {kind : ImageKind}
    {buffer : Buffer}
    (accepted : outline.setting.refusal? outline.contexts.active kind buffer = none) :
    ∃ image canvas, outline.make kind buffer = (.ok image, canvas) ∧ image.buffer = buffer.id ∧
      canvas.rejecting = outline.canvas.rejecting := by
  rw [make, Contexts.current_eq faithful.active]
  exact ⟨_, _, Canvas.make_made accepted, rfl, rfl⟩

/-! ## Textures -/

theorem Faithful.unbind (faithful : outline.Faithful describe) (buffer : BufferId) :
    Follows describe outline (outline.unbind buffer) :=
  faithful.follows rfl rfl rfl (fun _ member => .inl (List.mem_of_mem_filter member))
    fun _ => .inl

theorem Faithful.invalidate (faithful : outline.Faithful describe) (buffer : BufferId) :
    Follows describe outline (outline.invalidate buffer) :=
  faithful.follows rfl rfl rfl (fun _ => .inl) fun _ member => .inl (List.mem_of_mem_eraseP member)

theorem Faithful.evict (faithful : outline.Faithful describe) (active : List BufferId) :
    Follows describe outline (outline.evict active) :=
  faithful.follows rfl rfl rfl (fun _ member => .inl (List.mem_of_mem_filter member))
    fun _ => .inl

theorem Faithful.bindTexture (faithful : outline.Faithful describe) {buffer : Buffer}
    (known : buffer = describe buffer.id) :
    Provided describe outline (outline.setting.refusal? outline.contexts.active .texture buffer) id
      (outline.bindTexture buffer) := by
  unfold Outline.bindTexture
  cases asked : outline.setting.refusal? outline.contexts.active .texture buffer with
  | some cause =>
      rw [faithful.make_refused asked]
      exact .refused rfl (faithful.unbind buffer.id)
  | none =>
      obtain ⟨image, canvas, made, same, rejecting⟩ := faithful.make_made asked
      rw [made]
      refine .given rfl (faithful.follows ?_ rfl rfl ?_ fun _ => .inl)
      · simp only [setting, rejecting]
        rfl
      · intro other member
        rcases List.mem_append.mp member with before | new
        · exact .inl (List.mem_of_mem_filter before)
        · rw [List.mem_singleton.mp new, same, ← known]
          exact .inr asked

/-- A texture that is found would be imported again. -/
theorem Faithful.textureFor (faithful : outline.Faithful describe) {buffer : Buffer}
    (known : buffer = describe buffer.id) :
    Provided describe outline (outline.setting.refusal? outline.contexts.active .texture buffer) id
      (outline.textureFor buffer) := by
  unfold Outline.textureFor
  cases found : outline.texture? buffer.id with
  | none => exact faithful.bindTexture known
  | some image =>
      have same : image.buffer = buffer.id := by simpa using List.find?_some found
      have accepted := faithful.textures image (List.mem_of_find?_eq_some found)
      rw [same, ← known] at accepted
      exact .given accepted faithful.refl

end Outline

/-! ## Layers -/

namespace Sketch

variable {describe : BufferId → Buffer} {signals : Nat → Bool}

/-- What looking at layers tells of them: each is either drawn or left out. -/
structure Looked (describe : BufferId → Buffer) (signals : Nat → Bool) (before : Sketch)
    (entries : List (Layer × Nat)) (after : Sketch) : Prop where
  outline : before.outline.Follows describe after.outline
  skipped : after.skipped = before.skipped ++
    before.outline.setting.omissions signals before.outline.contexts.active entries
  sources : after.sources.length + (before.outline.setting.omissions signals
      before.outline.contexts.active entries).length =
    before.sources.length + entries.length

theorem Looked.cons {first second third : Sketch} {entry : Layer × Nat}
    {entries : List (Layer × Nat)} (one : Looked describe signals first [entry] second)
    (rest : Looked describe signals second entries third) :
    Looked describe signals first (entry :: entries) third := by
  have skipped := rest.skipped
  have sources := rest.sources
  rw [one.outline.setting, one.outline.contexts] at skipped sources
  have before := one.sources
  refine ⟨one.outline.trans rest.outline, ?_, ?_⟩
  · rw [skipped, one.skipped, Setting.omissions_cons _ _ _ entry entries, List.append_assoc]
  · rw [Setting.omissions_cons _ _ _ entry entries, List.length_append, List.length_cons]
    simp only [List.length_singleton] at before
    omega

theorem look_looked {sketch : Sketch} (faithful : sketch.outline.Faithful describe) (index : Nat)
    {layer : Layer} (known : ∀ buffer ∈ layer.buffer?, buffer = describe buffer.id) :
    Looked describe signals sketch [(layer, index)] (sketch.look signals index layer) := by
  have told (setting : Setting) (mode : Mode) : setting.omissions signals mode [(layer, index)] =
    (setting.omission? signals mode (layer, index)).toList := by
      cases omission : setting.omission? signals mode (layer, index) <;>
        simp [Setting.omissions, omission]
  unfold look
  cases source : layer.buffer? with
  | none =>
      have drawn : sketch.outline.setting.omission? signals sketch.outline.contexts.active
          (layer, index) = none := by simp [Setting.omission?, source]
      refine ⟨faithful.refl, ?_, ?_⟩ <;> simp [told, drawn, draw]
  | some buffer =>
      have textured := faithful.textureFor (known buffer source)
      dsimp only
      generalize sketch.outline.textureFor buffer = result at textured
      cases textured with
      | @refused cause _ refused follows =>
          have omitted : sketch.outline.setting.omission? signals sketch.outline.contexts.active
              (layer, index) = some ⟨index, some buffer.id, .importFailed cause⟩ := by
            simp [Setting.omission?, source, refused]
          refine ⟨follows, ?_, ?_⟩ <;> simp [told, omitted, skip]
      | given accepted follows =>
          dsimp only
          cases signaled : signals (index + 1) with
          | true =>
              have drawn : sketch.outline.setting.omission? signals
                  sketch.outline.contexts.active (layer, index) = none := by
                simp [Setting.omission?, source, accepted, signaled]
              refine ⟨follows, ?_, ?_⟩ <;> simp [told, drawn, draw]
          | false =>
              have omitted : sketch.outline.setting.omission? signals
                  sketch.outline.contexts.active (layer, index) =
                    some ⟨index, some buffer.id, .acquireTimeout⟩ := by
                simp [Setting.omission?, source, accepted, signaled]
              refine ⟨follows, ?_, ?_⟩ <;> simp [told, omitted, skip]

/-- Layers are looked at one after another; what is cached in between changes nothing for those that
follow. -/
theorem looks_looked {entries : List (Layer × Nat)} {sketch : Sketch}
    (faithful : sketch.outline.Faithful describe)
    (known : ∀ entry ∈ entries, ∀ buffer ∈ entry.1.buffer?, buffer = describe buffer.id) :
    Looked describe signals sketch entries
      (entries.foldl (fun sketch (layer, index) => sketch.look signals index layer) sketch) := by
  induction entries generalizing sketch with
  | nil => exact ⟨faithful.refl, (List.append_nil _).symm, rfl⟩
  | cons entry entries ih =>
      have first : Looked describe signals sketch [entry] (sketch.look signals entry.2 entry.1) :=
        look_looked faithful entry.2 (known entry List.mem_cons_self)
      exact first.cons (ih first.outline.faithful
        fun other member => known other (List.mem_cons_of_mem _ member))

end Sketch

/-! ## Whole frames -/

/-- The frame and all that it shows are described as ever. -/
def FrameRequest.Described (describe : BufferId → Buffer) (request : FrameRequest) : Prop :=
  request.target = describe request.target.id ∧
    ∀ layer ∈ request.layers, ∀ buffer ∈ layer.buffer?, buffer = describe buffer.id

namespace Outline

variable {describe : BufferId → Buffer} {signals : Nat → Bool} {outline : Outline}
  {request : FrameRequest}

theorem Faithful.recanvas (faithful : outline.Faithful describe) {canvas : Canvas}
    (rejecting : canvas.rejecting = outline.canvas.rejecting) :
    Follows describe outline { outline with canvas } := by
  refine faithful.follows ?_ rfl rfl (fun _ => .inl) fun _ => .inl
  simp only [setting, rejecting]

theorem Faithful.keep (faithful : outline.Faithful describe) {image : LiveImage}
    (accepted : outline.setting.refusal? outline.contexts.active .output
      (describe image.buffer) = none) : Follows describe outline (outline.keep image) := by
  refine faithful.follows rfl rfl rfl (fun _ => .inl) fun other member => ?_
  rcases List.mem_append.mp (List.mem_of_mem_drop member) with before | new
  · exact .inl before
  · rw [List.mem_singleton.mp new]
    exact .inr accepted

/-- A target that is found would be made again. -/
theorem Faithful.targetFor (faithful : outline.Faithful describe) {target : Buffer}
    (known : target = describe target.id) (usesOutputCache : Bool) :
    Provided describe outline (outline.setting.refusal? outline.contexts.active .output target)
      EngineError.bind (outline.targetFor target usesOutputCache) := by
  unfold Outline.targetFor
  cases found : if usesOutputCache then outline.target? target.id else none with
  | some image =>
      have kept : outline.target? target.id = some image := by
        split at found
        · exact found
        · cases found
      obtain ⟨first, -⟩ := Option.filter_eq_some_iff.mp kept
      have same : image.buffer = target.id := by simpa using List.find?_some first
      have accepted := faithful.outputs image (List.mem_of_find?_eq_some first)
      rw [same, ← known] at accepted
      exact .given accepted faithful.refl
  | none =>
      dsimp only
      have cleared (canvas : Canvas) (rejecting : canvas.rejecting = outline.canvas.rejecting) :
          Follows describe outline
            { if usesOutputCache then outline.invalidate target.id else outline with canvas } := by
        cases usesOutputCache with
        | false => exact faithful.recanvas rejecting
        | true =>
            have invalidated := faithful.invalidate target.id
            exact invalidated.trans (invalidated.faithful.recanvas rejecting)
      cases asked : outline.setting.refusal? outline.contexts.active .output target with
      | some cause =>
          rw [faithful.make_refused asked]
          exact .refused rfl (cleared _ rfl)
      | none =>
          obtain ⟨image, canvas, made, same, rejecting⟩ := faithful.make_made asked
          have follows := cleared canvas rejecting
          rw [made]
          refine .given rfl ?_
          split
          · refine follows.trans (follows.faithful.keep ?_)
            rw [follows.setting, follows.contexts, same, ← known]
            exact asked
          · exact follows

theorem finishFrame_composed {begun : Outline} {sketch : Sketch}
    (looked : Sketch.Looked describe signals (.start begun) request.layers.zipIdx sketch)
    (described : request.Described describe) (active : begun.contexts.active = request.mode)
    (frame : FrameSeq) :
    (finishFrame request frame sketch).1.map FrameStatus.uncached =
        begun.setting.composed signals frame request ∧
      Follows describe begun (finishFrame request frame sketch).2 := by
  have evicted := looked.outline.trans (looked.outline.faithful.evict sketch.active)
  have targeted := evicted.faithful.targetFor described.1 request.usesOutputCache
  have setting : (sketch.outline.evict sketch.active).setting = begun.setting := evicted.setting
  have mode : (sketch.outline.evict sketch.active).contexts.active = request.mode :=
    (congrArg Contexts.active evicted.contexts).trans active
  rw [setting, mode] at targeted
  unfold finishFrame Setting.composed
  generalize (sketch.outline.evict sketch.active).targetFor request.target
    request.usesOutputCache = result at targeted
  cases targeted with
  | refused refused follows =>
      rw [refused]
      exact ⟨rfl, evicted.trans follows⟩
  | @given kept after accepted follows =>
      have skipped : sketch.skipped =
          begun.setting.omissions signals request.mode request.layers.zipIdx := by
        rw [← active]
        exact looked.skipped
      have sources : sketch.sources.length = request.layers.length -
          (begun.setting.omissions signals request.mode request.layers.zipIdx).length := by
        have counted := looked.sources
        rw [List.length_zipIdx] at counted
        simp only [Sketch.start, List.length_nil, active] at counted
        omega
      have last : after.contexts.active = request.mode :=
        (congrArg Contexts.active follows.contexts).trans mode
      rw [accepted]
      refine ⟨?_, (evicted.trans follows).trans (follows.faithful.recanvas rfl)⟩
      simp only [Except.map, FrameStatus.uncached, last, sources, skipped]

theorem Faithful.compose (faithful : outline.Faithful describe)
    (described : request.Described describe) (active : outline.contexts.active = request.mode) :
    (outline.compose signals request).1.map FrameStatus.uncached =
        outline.setting.composed signals outline.issued.next request ∧
      Follows describe { outline with issued := outline.issued.next }
        (outline.compose signals request).2 := by
  let begun : Outline := { outline with issued := outline.issued.next }
  have begunFaithful : begun.Faithful describe :=
    ⟨faithful.active, faithful.textures, faithful.outputs⟩
  have known : ∀ entry ∈ request.layers.zipIdx, ∀ buffer ∈ entry.1.buffer?,
      buffer = describe buffer.id :=
    fun entry member => described.2 entry.1 (List.fst_mem_of_mem_zipIdx member)
  exact finishFrame_composed (Sketch.looks_looked begunFaithful known) described active _

theorem setting_offers (outline : Outline) (mode : Mode) :
    outline.setting.offers mode = outline.contexts.has mode := by
  cases mode <;> rfl

/-- A switch comes about exactly if there is a context, and empties the caches. -/
theorem Faithful.switchTo (faithful : outline.Faithful describe) (mode : Mode) :
    (outline.switchTo mode).Faithful describe ∧
      (outline.switchTo mode).setting = outline.setting ∧
      (outline.switchTo mode).issued = outline.issued ∧
      ((outline.switchTo mode).contexts.active = mode ↔ outline.setting.offers mode = true) := by
  rw [setting_offers]
  unfold Outline.switchTo
  by_cases stays : outline.contexts.active = mode ∨ ¬outline.contexts.has mode = true
  · rw [if_pos stays]
    refine ⟨faithful, rfl, rfl, fun same => same ▸ faithful.active, fun offered => ?_⟩
    exact stays.resolve_right (not_not.mpr offered)
  · rw [if_neg stays]
    have offered : outline.contexts.has mode = true :=
      not_not.mp fun missing => stays (.inr missing)
    have active := Contexts.activate_active offered
    have secure : (outline.contexts.activate mode).hasSecure = outline.contexts.hasSecure := by
      rw [Contexts.activate, if_pos offered]
    refine ⟨⟨?_, by simp, by simp⟩, ?_, rfl, ⟨fun _ => offered, fun _ => active⟩⟩
    · rw [active, Contexts.activate_has]
      exact offered
    · simp only [setting, secure]

/-- What comes of a frame does not depend on what is cached. -/
theorem Faithful.draw (faithful : outline.Faithful describe)
    (described : request.Described describe) :
    ((outline.draw signals request).1.map FrameStatus.uncached,
        (outline.draw signals request).2.issued) =
        outline.setting.verdict signals outline.issued request ∧
      (outline.draw signals request).2.setting = outline.setting ∧
      (outline.draw signals request).2.Faithful describe := by
  obtain ⟨switched, setting, issued, active⟩ := faithful.switchTo request.mode
  unfold Outline.draw Setting.verdict
  cases signals 0 with
  | false => exact ⟨rfl, rfl, faithful⟩
  | true =>
      by_cases offered : outline.setting.offers request.mode = true
      · obtain ⟨composed, follows⟩ := @Faithful.compose describe signals
          (outline.switchTo request.mode) request switched described (active.mpr offered)
        rw [if_pos rfl, if_pos rfl, if_pos (active.mpr offered), if_pos offered, composed,
          follows.issued, setting, issued]
        exact ⟨rfl, follows.setting.trans setting, follows.faithful⟩
      · have refused : (outline.switchTo request.mode).contexts.active ≠ request.mode :=
          fun same => offered (active.mp same)
        rw [if_pos rfl, if_pos rfl, if_neg refused, if_neg offered, issued]
        exact ⟨rfl, setting, switched⟩

end Outline

/-! ## Requests for images -/

def ImageRequest.buffer? : ImageRequest → Option Buffer
  | .cache buffer => some buffer
  | .unbind _ => none

namespace Outline

variable {describe : BufferId → Buffer} {outline : Outline}

theorem Provided.follows {failure given : Type} {refusal : Option BindError}
    {fails : BindError → failure} {result : Except failure given × Outline}
    (provided : Provided describe outline refusal fails result) :
    Follows describe outline result.2 := by
  cases provided with
  | refused _ follows => exact follows
  | given _ follows => exact follows

theorem Faithful.apply (faithful : outline.Faithful describe) {request : ImageRequest}
    (known : ∀ buffer ∈ request.buffer?, buffer = describe buffer.id) :
    Follows describe outline (outline.apply request).2 := by
  cases request with
  | cache buffer => exact (faithful.bindTexture (known buffer rfl)).follows
  | unbind buffer => exact faithful.unbind buffer

theorem Faithful.applyAll (faithful : outline.Faithful describe)
    {waiting : List (Ticket × ImageRequest)}
    (known : ∀ entry ∈ waiting, ∀ buffer ∈ entry.2.buffer?, buffer = describe buffer.id) :
    Follows describe outline (Outline.applyAll waiting outline).2 := by
  induction waiting generalizing outline with
  | nil => exact faithful.refl
  | cons entry rest ih =>
      have first := faithful.apply (known entry List.mem_cons_self)
      exact first.trans (ih first.faithful fun other member =>
        known other (List.mem_cons_of_mem _ member))

end Outline

end Compositor
