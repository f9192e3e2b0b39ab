import Compositor.Proofs.Paths.Textures

/-!
# Planning a frame as a path of moves

Before a frame records anything, its layers get their textures, unused textures leave the cache, and
the target is made. The plan stays ready throughout: each planned source is a cached texture of a
buffer that some layer samples, and is known to be used by the frame.
-/

set_option autoImplicit false

namespace Compositor

variable {engine : Engine} {hand : List Image} {recorded : List ImageHandle} {frame : FrameSeq}

namespace Engine

theorem awaitAny_eq (engine : Engine) (fence : Option Fence) :
    (engine.awaitAny fence).2 = { engine with device := (engine.awaitAny fence).2.device } := by
  cases fence <;> rfl

theorem awaitAny_steps (engine : Engine) (fence : Option Fence) :
    Device.Steps engine.device (engine.awaitAny fence).2.device := by
  cases fence with
  | none => exact .refl
  | some fence => exact Device.await_steps engine.device fence

theorem awaitAny_stage (engine : Engine) (fence : Option Fence) :
    Stage engine (engine.awaitAny fence).2 [] := by
  rw [awaitAny_eq]
  exact ⟨.ofDevice (awaitAny_steps engine fence), rfl, rfl, rfl⟩

theorem Serves.awaitAny {buffer : BufferId} {handle : ImageHandle}
    (serves : engine.Serves frame buffer handle) (fence : Option Fence) :
    (engine.awaitAny fence).2.Serves frame buffer handle := by
  rw [awaitAny_eq]
  exact serves

end Engine

/-! ## Layers -/

/-- No layer was left out because its draw was refused. -/
def NoneRejected (skipped : List SkippedLayer) : Prop :=
  ∀ layer ∈ skipped, ∀ cause, layer.reason ≠ .drawRejected cause

namespace FramePlan

/-- What is planned can be drawn. -/
structure Ready (frame : FrameSeq) (plan : FramePlan) : Prop where
  /-- Every planned source is a texture that the frame uses. -/
  sources : ∀ planned ∈ plan.draws, ∀ handle ∈ planned.source,
    ∃ buffer ∈ plan.active, plan.engine.Serves frame buffer handle
  skipped : NoneRejected plan.skipped

theorem start_ready (engine : Engine) (frame : FrameSeq) : (start engine).Ready frame := by
  constructor
  · intro planned member
    cases member
  · intro layer member
    cases member

theorem Ready.mono {plan : FramePlan} (ready : plan.Ready frame) {later : Engine}
    {active : List BufferId} (more : plan.active ⊆ active)
    (kept : ∀ buffer handle, plan.engine.Serves frame buffer handle →
      later.Serves frame buffer handle) :
    ({ plan with engine := later, active } : FramePlan).Ready frame := by
  refine ⟨fun planned member handle source => ?_, ready.skipped⟩
  obtain ⟨buffer, inside, serves⟩ := ready.sources planned member handle source
  exact ⟨buffer, more inside, kept buffer handle serves⟩

theorem Ready.draw {plan : FramePlan} (ready : plan.Ready frame) (index : Nat) (layer : Layer)
    {source : Option ImageHandle}
    (served : ∀ handle ∈ source, ∃ buffer ∈ plan.active, plan.engine.Serves frame buffer handle) :
    (plan.draw index layer source).Ready frame := by
  refine ⟨fun planned member => ?_, ready.skipped⟩
  rcases List.mem_append.mp member with before | new
  · exact ready.sources planned before
  · rw [List.mem_singleton.mp new]
    exact served

theorem Ready.skip {plan : FramePlan} (ready : plan.Ready frame) (index : Nat) (layer : Layer)
    {reason : SkipReason} (drawable : ∀ cause, reason ≠ .drawRejected cause) :
    (plan.skip index layer reason).Ready frame := by
  refine ⟨ready.sources, fun missing member => ?_⟩
  rcases List.mem_append.mp member with before | new
  · exact ready.skipped missing before
  · rw [List.mem_singleton.mp new]
    exact drawable

/-- What looking at layers left behind. -/
inductive Planned (frame : FrameSeq) (engine : Engine) : Except Engine FramePlan → Prop where
  | lost {after : Engine} : Stage engine after [] → after.device.lost = true →
      Planned frame engine (.error after)
  | ready {plan : FramePlan} : Stage engine plan.engine [] → plan.Ready frame →
      Planned frame engine (.ok plan)

theorem Planned.after {earlier : Engine} {result : Except Engine FramePlan}
    (planned : Planned frame engine result) (stage : Stage earlier engine []) :
    Planned frame earlier result := by
  cases planned with
  | lost later unusable => exact .lost (stage.trans later) unusable
  | ready later ready => exact .ready (stage.trans later) ready

theorem look_planned {plan : FramePlan} (owned : Moment.Owned ⟨plan.engine, [], []⟩)
    (recording : plan.engine.progress.recording = some frame) (ready : plan.Ready frame)
    (index : Nat) (layer : Layer) : Planned frame plan.engine (plan.look frame index layer) := by
  unfold look
  cases layer.source with
  | solid color => exact .ready (.refl _) (ready.draw index layer (by simp))
  | sampled buffer fence =>
      have textured := Engine.textureFor_textured owned recording buffer
      dsimp only
      cases outcome : plan.engine.textureFor buffer frame with
      | mk result after =>
          rw [outcome] at textured
          cases result with
          | error cause =>
              dsimp only
              split
              · rename_i fatal
                exact .lost textured.stage (textured.fatal cause rfl fatal)
              · have kept : Ready frame { plan with engine := after } :=
                  ready.mono (List.Subset.refl _) textured.kept
                exact .ready textured.stage (kept.skip index layer fun _ => nofun)
          | ok handle =>
              have stage := textured.stage.trans (after.awaitAny_stage fence)
              have seen : Ready frame
                  { plan with
                    engine := (after.awaitAny fence).2
                    active := buffer.id :: plan.active } :=
                ready.mono (List.subset_cons_self _ _) fun other image serves =>
                  (textured.kept other image serves).awaitAny fence
              have served : (after.awaitAny fence).2.Serves frame buffer.id handle :=
                (textured.found handle rfl).awaitAny fence
              dsimp only
              split
              · refine .ready stage (seen.draw index layer ?_)
                intro source found
                cases found
                exact ⟨buffer.id, List.mem_cons_self, served⟩
              · exact .ready stage (seen.skip index layer fun _ => nofun)

/-- The layers of a frame are looked at one after another; the plan carries the readiness. -/
theorem looks_planned (plan : FramePlan) (owned : Moment.Owned ⟨plan.engine, [], []⟩)
    (recording : plan.engine.progress.recording = some frame) (ready : plan.Ready frame)
    (layers : List (Layer × Nat)) :
    Planned frame plan.engine
      (layers.foldlM (fun plan (layer, index) => plan.look frame index layer) plan) := by
  induction layers generalizing plan with
  | nil => exact .ready (.refl _) ready
  | cons entry layers ih =>
      obtain ⟨layer, index⟩ := entry
      have first := look_planned owned recording ready index layer
      rw [List.foldlM_cons]
      dsimp only
      cases outcome : plan.look frame index layer with
      | error after =>
          rw [outcome] at first
          exact first
      | ok next =>
          rw [outcome] at first
          cases first with
          | ready stage nextReady =>
              have open_ : next.engine.progress.recording = some frame := by
                rw [stage.progress]
                exact recording
              exact (ih next (stage.moves.owned owned) open_ nextReady).after stage

theorem lookAll_planned (owned : Moment.Owned ⟨engine, [], []⟩)
    (recording : engine.progress.recording = some frame) (layers : List Layer) :
    Planned frame engine (lookAll engine frame layers) :=
  looks_planned (start engine) owned recording (start_ready engine frame) layers.zipIdx

end FramePlan

/-! ## Eviction -/

namespace Engine

def evicted (engine : Engine) (active : List BufferId) : Engine :=
  { engine with textures := (engine.textures.evictStale active).2 }.retire
    (engine.textures.evictStale active).1

theorem evicted_stage (owned : Moment.Owned ⟨engine, [], []⟩) (active : List BufferId) :
    Stage engine (engine.evicted active) [] := by
  let keeps := fun image : Image => active.contains image.buffer
  have taken : Moves ⟨engine, [], []⟩
      ⟨{ engine with textures := (engine.textures.evictStale active).2 },
        (engine.textures.evictStale active).1 ++ [], []⟩ := by
    refine .single (.shift ?_ ?_)
    · exact owned.shelved.sublist (engine.textures.releaseUnless_sublist keeps)
        (List.Sublist.refl _)
    · have split := engine.textures.releaseUnless_perm keeps
      rw [List.perm_iff_count]
      intro image
      have same := split.count_eq image
      simp only [Engine.owned, TextureCache.evictStale, keeps, List.count_append] at same ⊢
      omega
  exact ⟨taken.trans (Moves.retire (taken.owned owned)), rfl, rfl, rfl⟩

theorem Serves.evicted {active : List BufferId} {buffer : BufferId} {handle : ImageHandle}
    (serves : engine.Serves frame buffer handle) (inside : buffer ∈ active) :
    (engine.evicted active).Serves frame buffer handle := by
  refine serves.mono fun image member same => List.mem_filter.mpr ⟨member, ?_⟩
  rw [same]
  simpa using inside

end Engine

/-! ## Stations of a frame -/

namespace Engine

/-- The engine that has begun a frame. -/
def begun (engine : Engine) : Engine :=
  { engine.poll with progress := engine.poll.progress.begin }

/-- What a frame does once all its layers were looked at. -/
def finishFrame (request : FrameRequest) (frame : FrameSeq) (plan : FramePlan) :
    Except EngineError FrameOutput × Engine :=
  match (plan.engine.evicted plan.active).targetFor request.target frame
      request.usesOutputCache with
  | (.error error, engine) => engine.dropFrame error
  | (.ok slot, engine) => engine.render request frame plan slot

theorem compose_eq (engine : Engine) (request : FrameRequest) :
    engine.compose request =
      match FramePlan.lookAll engine.begun engine.begun.progress.lastIssued request.layers with
      | .error after => after.dropFrame .contextLost
      | .ok plan => finishFrame request engine.begun.progress.lastIssued plan := rfl

end Engine

/-! ## The target -/

namespace Moment

/-- The engine holds an image and knows that it is used by `frame` or a later submission. -/
def Available (moment : Moment) (frame : FrameSeq) (handle : ImageHandle) : Prop :=
  ∃ image ∈ moment.held, image.handle = handle ∧ image.UsedSince frame

end Moment

/-- What making the target of a frame left behind. -/
inductive Targeted (frame : FrameSeq) (engine : Engine) :
    Except EngineError OutputSlot → Engine → Prop where
  | refused {error : EngineError} {after : Engine} : Stage engine after [] →
      (error.isFatal = true → after.device.lost = true) →
      (∀ cause, error ≠ .validation cause) →
      Targeted frame engine (.error error) after
  | given {slot : OutputSlot} {after : Engine} : Stage engine after slot.owned →
      after.textures = engine.textures →
      Moment.Available ⟨after, slot.owned, []⟩ frame slot.handle →
      Targeted frame engine (.ok slot) after

theorem OutputCache.invalidate_absent {cache : OutputCache}
    (distinct : (cache.entries.map (·.buffer)).Nodup) (buffer : BufferId) :
    ∀ image ∈ (cache.invalidate buffer).2.entries, image.buffer ≠ buffer := by
  intro image member same
  cases found : cache.find? buffer with
  | none =>
      have absent := List.find?_eq_none.mp found image (List.mem_of_mem_eraseP member)
      exact absent (by simpa using same)
  | some stale =>
      have staleBuffer : stale.buffer = buffer := by simpa using List.find?_some found
      have whole := (cache.invalidate_perm buffer).map (·.buffer)
      rw [show (cache.invalidate buffer).1 = some stale from found] at whole
      have apart := whole.nodup_iff.mpr distinct
      rw [Option.toList_some, List.singleton_append, List.map_cons, List.nodup_cons] at apart
      exact apart.1 (List.mem_map.mpr ⟨image, member, same.trans staleBuffer.symm⟩)

namespace Moves

theorem invalidate (owned : Moment.Owned ⟨engine, hand, recorded⟩) (buffer : BufferId) :
    Moves ⟨engine, hand, recorded⟩
      ⟨{ engine with outputs := (engine.outputs.invalidate buffer).2 },
        (engine.outputs.invalidate buffer).1.toList ++ hand, recorded⟩ := by
  refine .single (.shift ?_ ?_)
  · exact owned.shelved.sublist (List.Sublist.refl _) (engine.outputs.invalidate_sublist buffer)
  · have split := engine.outputs.invalidate_perm buffer
    rw [List.perm_iff_count]
    intro image
    have same := split.count_eq image
    simp only [Engine.owned, List.count_append] at same ⊢
    omega

/-- A new target of a buffer that has none is put into the cache, and what no longer fits is taken
out. -/
theorem insertOutput {image : Image} {stale : List Image}
    (owned : Moment.Owned ⟨engine, image :: stale, recorded⟩) (kind : image.kind = .output)
    (absent : ∀ other ∈ engine.outputs.entries, other.buffer ≠ image.buffer) :
    Moves ⟨engine, image :: stale, recorded⟩
      ⟨{ engine with outputs := (engine.outputs.insert image).2 },
        stale ++ (engine.outputs.insert image).1, recorded⟩ := by
  have grown := owned.shelved.insertOutput kind absent
  refine .single (.shift ?_ ?_)
  · exact grown.sublist (List.Sublist.refl _) (engine.outputs.insert_sublist image)
  · rw [List.perm_iff_count]
    intro other
    have same := congrArg (List.count other) (engine.outputs.insert_append image)
    simp only [Engine.owned, List.count_append, List.count_cons, List.count_nil] at same ⊢
    omega

theorem markOutput (owned : Moment.Owned ⟨engine, hand, recorded⟩)
    (recording : engine.progress.recording = some frame) (buffer : BufferId) :
    Moves ⟨engine, hand, recorded⟩
      ⟨{ engine with outputs := engine.outputs.markUsed buffer frame }, hand, recorded⟩ := by
  have marked := engine.outputs.markUsed_marked buffer frame
  have others := Image.markedBy_self frame
  refine .single (.mark recording (owned.shelved.marked (others _) marked) ?_)
  exact List.rel_append (List.rel_append (List.rel_append (others _) marked) (others _)) (others _)

theorem markHand {image : Image} {rest : List Image}
    (owned : Moment.Owned ⟨engine, image :: rest, recorded⟩)
    (recording : engine.progress.recording = some frame) :
    Moves ⟨engine, image :: rest, recorded⟩
      ⟨engine, rest ++ [image.markUsed frame], recorded⟩ := by
  have others := Image.markedBy_self frame
  have marked : Moves ⟨engine, image :: rest, recorded⟩
      ⟨engine, image.markUsed frame :: rest, recorded⟩ := by
    refine .single (.mark recording owned.shelved ?_)
    exact List.rel_append (others _) (.cons (.inr rfl) (others _))
  refine marked.tail (.shift owned.shelved ?_)
  exact .append_left _ List.perm_append_comm

end Moves

namespace Engine

theorem targetFor_uncached (owned : Moment.Owned ⟨engine, [], []⟩)
    (recording : engine.progress.recording = some frame) (target : Buffer) :
    Targeted frame engine (engine.targetFor target frame false).1
      (engine.targetFor target frame false).2 := by
  have provided := Device.createTarget_provides engine [] [] target engine.limit
  simp only [targetFor, Bool.false_eq_true, if_false]
  cases outcome : engine.device.createTarget engine.contexts.current target engine.limit with
  | mk result device =>
      rw [outcome] at provided
      cases provided with
      | refused fatal moves =>
          exact .refused ⟨moves, rfl, rfl, rfl⟩ fatal (Device.createTarget_error (by rw [outcome]))
      | made bufferEq kindEq moves =>
          have marked := Moves.markHand (moves.owned owned) recording
          refine .given ⟨moves.trans marked, rfl, rfl, rfl⟩ rfl ?_
          exact ⟨_, List.mem_append_right _ (List.mem_singleton.mpr rfl), rfl,
            Image.usedSince_markUsed _ _⟩

theorem targetFor_hit (owned : Moment.Owned ⟨engine, [], []⟩)
    (recording : engine.progress.recording = some frame) {target : Buffer} {image : Image}
    (hit : engine.outputs.hit? target.id engine.contexts.active = some image) :
    Targeted frame engine (engine.targetFor target frame true).1
      (engine.targetFor target frame true).2 := by
  simp only [targetFor, if_true]
  obtain ⟨member, same, -⟩ := OutputCache.hit?_some hit
  rw [OutputCache.getOrCreate_hit hit]
  refine .given ⟨.markOutput owned recording target.id, rfl, rfl, rfl⟩ rfl ?_
  refine ⟨image.markUsed frame, ?_, rfl, Image.usedSince_markUsed image frame⟩
  have marked := OutputCache.mem_markUsed member frame
  rw [same] at marked
  simp [Moment.held, Engine.owned, retire_nil, marked]

theorem targetFor_missed (owned : Moment.Owned ⟨engine, [], []⟩)
    (recording : engine.progress.recording = some frame) {target : Buffer}
    (miss : engine.outputs.hit? target.id engine.contexts.active = none) :
    Targeted frame engine (engine.targetFor target frame true).1
      (engine.targetFor target frame true).2 := by
  simp only [targetFor, if_true]
  have taken := Moves.invalidate owned target.id
  rw [List.append_nil] at taken
  have provided := Device.createTarget_provides
    { engine with outputs := (engine.outputs.invalidate target.id).2 }
    (engine.outputs.invalidate target.id).1.toList [] target engine.limit
  dsimp only at provided
  cases outcome : engine.device.createTarget engine.contexts.current target engine.limit with
  | mk result device =>
      rw [outcome] at provided
      cases provided with
      | refused fatal moves =>
          have path : Moves _ _ := taken.trans moves
          have retired := Moves.retireHand (path.owned owned)
          rw [OutputCache.getOrCreate_refused miss outcome]
          exact .refused ⟨path.trans retired, rfl, rfl, rfl⟩
            (fun isFatal => retired.continues.lost (fatal isFatal))
            (Device.createTarget_error (by rw [outcome]))
      | @made image _ bufferEq kindEq moves =>
          have path : Moves _ _ := taken.trans moves
          by_cases room : engine.outputs.capacity = 0
          · rw [OutputCache.getOrCreate_transient miss outcome room]
            have marked : Moves _ _ :=
              path.trans (Moves.markHand (path.owned owned) recording)
            have retired := Moves.retire (marked.owned owned)
            refine .given ⟨marked.trans retired, rfl, rfl, rfl⟩ rfl ?_
            exact ⟨_, List.mem_append_right _ (List.mem_singleton.mpr rfl), rfl,
              Image.usedSince_markUsed image frame⟩
          · rw [OutputCache.getOrCreate_cached miss outcome room]
            have placed : Moves _ _ :=
              path.trans (Moves.insertOutput (path.owned owned) kindEq fun other member => by
                rw [bufferEq]
                exact OutputCache.invalidate_absent owned.shelved.outputBuffers target.id other
                  member)
            have marked : Moves _ _ :=
              placed.trans (Moves.markOutput (placed.owned owned) recording target.id)
            have retired := Moves.retireHand (marked.owned owned)
            refine .given ⟨marked.trans retired, rfl, rfl, rfl⟩ rfl ?_
            have inserted :=
              OutputCache.mem_insert (engine.outputs.invalidate target.id).2 image room
            have kept := OutputCache.mem_markUsed inserted frame
            rw [bufferEq] at kept
            have cached := List.mem_append_right engine.textures.entries kept
            exact ⟨image.markUsed frame,
              List.mem_append_left _ (List.mem_append_left _ cached), rfl,
              Image.usedSince_markUsed image frame⟩

theorem targetFor_targeted (owned : Moment.Owned ⟨engine, [], []⟩)
    (recording : engine.progress.recording = some frame) (target : Buffer)
    (usesOutputCache : Bool) :
    Targeted frame engine (engine.targetFor target frame usesOutputCache).1
      (engine.targetFor target frame usesOutputCache).2 := by
  cases usesOutputCache with
  | false => exact targetFor_uncached owned recording target
  | true =>
      cases outcome : engine.outputs.hit? target.id engine.contexts.active with
      | some image => exact targetFor_hit owned recording outcome
      | none => exact targetFor_missed owned recording outcome

end Engine

end Compositor
