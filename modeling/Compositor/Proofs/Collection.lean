import Compositor.Proofs.Drainage

/-!
# Cleaning up forgets nothing

Cleaning up releases whatever the device is done with. An image that still waits afterwards was last
used by a submission that is not older than one whose fence was pending when the cleanup asked. So an
engine whose submissions have all settled keeps nothing but its caches.
-/

set_option autoImplicit false

namespace Compositor

variable {engine : Engine} {recorded : List ImageHandle} {ledger : List TracedFrame}

/-! ## Destroying settles nothing -/

namespace Device

theorem arrive_fences {device : Device} {call : ContextCall}
    (usable : (device.arrive call).lost = false) : (device.arrive call).fences = device.fences := by
  unfold arrive at usable ⊢
  dsimp only at usable ⊢
  split at usable
  · cases usable
  · rename_i kept
    rw [if_neg kept]
    rfl

end Device

namespace Contexts

theorem destroy_fences {contexts : Contexts} {device : Device} {image : Image}
    (usable : (contexts.destroy device image).lost = false) :
    (contexts.destroy device image).fences = device.fences := by
  unfold destroy Device.destroyImage at usable ⊢
  split at usable
  · rename_i owner
    rw [if_pos owner, Device.acceptDestroy_fences]
    exact Device.arrive_fences ((Device.acceptDestroy_lost _ _ _).symm.trans usable)
  · rename_i other
    rw [if_neg other]

theorem destroyAll_fences {contexts : Contexts} {images : List Image} {device : Device}
    (usable : (contexts.destroyAll device images).lost = false) :
    (contexts.destroyAll device images).fences = device.fences := by
  induction images generalizing device with
  | nil => rfl
  | cons image images ih =>
      have rest := contexts.destroyAll_plain images (contexts.destroy device image)
      exact (ih usable).trans (destroy_fences (rest.usable usable))

end Contexts

/-! ## What waits -/

theorem Progress.poll_waits {progress : Progress} {fences : Fences} {last : FrameSeq}
    (closed : progress.recording = none) (used : last ≤ progress.lastIssued)
    (incomplete : (progress.poll fences).isComplete (some last) = false) :
    ∃ entry ∈ progress.inFlight, entry.1 ≤ last ∧ fences.isPending entry.2 = true := by
  have beyond : (progress.poll fences).completed < last := by
    simpa [isComplete] using incomplete
  let settled := fun entry : FrameSeq × Fence => !fences.isPending entry.2
  have mark : ({ progress with inFlight := progress.inFlight.dropWhile settled } :
      Progress).watermark < last := Nat.lt_of_le_of_lt (Nat.le_max_right _ _) beyond
  have front := List.head?_dropWhile_not settled progress.inFlight
  cases left : progress.inFlight.dropWhile settled with
  | nil =>
      rw [left] at mark
      simp only [watermark, closed] at mark
      exact absurd mark (Nat.not_lt.mpr used)
  | cons oldest younger =>
      rw [left] at mark front
      have member : oldest ∈ progress.inFlight :=
        (List.dropWhile_suffix settled).subset (left ▸ List.mem_cons_self)
      have waits : fences.isPending oldest.2 = true := by simpa [settled] using front
      simp only [watermark] at mark
      exact ⟨oldest, member, Nat.le_of_pred_lt mark, waits⟩

/-- A submission that is not younger than the latest use of an image has a pending fence. -/
def Device.Detains (device : Device) (ledger : List TracedFrame) (image : Image) : Prop :=
  ∃ last ∈ image.lastUsed, ∃ entry ∈ ledger,
    entry.frame ≤ last ∧ device.fences.isPending entry.fence = true

theorem Device.Detains.of_fences {device later : Device} {image : Image}
    (detains : device.Detains ledger image) (same : later.fences = device.fences) :
    later.Detains ledger image := by
  obtain ⟨last, used, entry, inside, older, pending⟩ := detains
  exact ⟨last, used, entry, inside, older, same ▸ pending⟩

namespace Engine

/-- Only what the device may still use waits. -/
structure Tidy (engine : Engine) (ledger : List TracedFrame) (device : Device) : Prop where
  waits : ∀ image ∈ engine.retired.parked, device.Detains ledger image
  /-- Where every submission has settled, nothing is left but what is in the caches. -/
  settled : (∀ entry ∈ ledger, device.fences.isPending entry.fence = false) →
    engine.pendingDestructions = 0 ∧
      ((engine.textures.entries ++ engine.outputs.entries).map Image.asLive).Perm
        engine.device.live

theorem Tidy.of_waits (possesses : engine.Possesses) {device : Device}
    (waits : ∀ image ∈ engine.retired.parked, device.Detains ledger image) :
    engine.Tidy ledger device := by
  refine ⟨waits, fun settled => ?_⟩
  have nothing : engine.retired.parked = [] := by
    refine List.eq_nil_iff_forall_not_mem.mpr fun image member => ?_
    obtain ⟨_, _, entry, inside, _, pending⟩ := waits image member
    exact absurd (pending.symm.trans (settled entry inside)) (by simp)
  have live := possesses.live
  rw [owned, nothing, List.append_nil] at live
  refine ⟨?_, live⟩
  rw [pendingDestructions, RetireQueue.size, nothing]
  rfl

theorem Drained.collects_all {after : Engine} (drained : engine.Drained)
    (retired : after.retired = engine.retired)
    (rises : engine.progress.completed ≤ after.progress.completed) :
    after.collect.retired.parked = [] := by
  rw [collect_parked, retired, List.filter_eq_nil_iff]
  intro image member
  simp [Progress.isComplete_mono rises (drained.parked image member)]

/-- Without fences, nothing is left to wait; with them, cleaning up is asking and collecting. -/
theorem cleanup_collects (alive : engine.lost = false) (unfenced : engine.Unfenced) :
    engine.cleanup.2.retired.parked = [] ∨ ∃ cleaned, engine.cleanup.2 =
      ({ engine with progress := { engine.poll.progress with cleaned } } : Engine).collect := by
  have drained : engine.strategy = .blockingFinish → engine.Drained := fun blocking =>
    (unfenced blocking).resolve_left (by simp [alive])
  have cleaned := engine.strategy.cleanup_cleaned engine.device engine.progress
  unfold cleanup
  generalize engine.strategy.cleanup engine.device engine.progress = result at cleaned
  cases cleaned with
  | polled _ cleaned => exact .inr ⟨cleaned, rfl⟩
  | kept _ _ blocking =>
      refine .inl ((drained blocking).collects_all ?_ ?_)
      · rfl
      · exact Nat.le_refl _
  | drained blocking =>
      refine .inl ((drained blocking).collects_all ?_ ?_)
      · rfl
      · exact Nat.le_max_left _ _
  | failed blocking =>
      refine .inl ((drained blocking).collects_all ?_ ?_)
      · rfl
      · exact Nat.le_refl _

theorem poll_detains (rested : Moment.Rested ⟨engine, [], recorded⟩) (alive : engine.lost = false)
    (booked : engine.Booked ledger) {image : Image} (member : image ∈ engine.retired.parked)
    (incomplete : engine.poll.progress.isComplete image.lastUsed = false) :
    engine.device.Detains ledger image := by
  cases used : image.lastUsed with
  | none =>
      rw [used] at incomplete
      cases incomplete
  | some last =>
      rw [used] at incomplete
      have held : image ∈ engine.owned := List.mem_append_right _ member
      have issued := rested.paced.used image (List.mem_append_left [] held) last used
      obtain ⟨entry, flying, older, waits⟩ :=
        Progress.poll_waits (rested.closed alive).1 issued incomplete
      exact ⟨last, used, _, booked.inFlight entry flying, older, waits⟩

theorem cleanup_detains (rested : Moment.Rested ⟨engine, [], recorded⟩)
    (alive : engine.lost = false) (unfenced : engine.Unfenced) (booked : engine.Booked ledger)
    {image : Image} (member : image ∈ engine.cleanup.2.retired.parked) :
    engine.device.Detains ledger image ∧
      (engine.cleanup.2.device.lost = false →
        engine.cleanup.2.device.fences = engine.device.fences) := by
  rcases cleanup_collects alive unfenced with nothing | ⟨cleaned, collected⟩
  · rw [nothing] at member
    cases member
  · rw [collected] at member ⊢
    rw [collect_parked] at member
    obtain ⟨parked, incomplete⟩ := List.mem_filter.mp member
    have waits : engine.poll.progress.isComplete image.lastUsed = false :=
      (Bool.not_eq_true' _).mp incomplete
    refine ⟨poll_detains rested alive booked parked waits, fun usable => ?_⟩
    rw [collect_eq] at usable ⊢
    exact Contexts.destroyAll_fences usable

end Engine

namespace Session

/-- In every reachable state of an engine that is not lost, with fences or without. The fences are
those that the cleanup finds, and also those that it leaves, unless the device is lost while images
are destroyed. -/
theorem cleanup_forgets_nothing (options : DeviceOptions) (capabilities : Capabilities)
    (order : ReleaseOrder) (actions : List Action) :
    let start := Session.new (.new options) capabilities order
    let session := (start.run actions).2
    ∀ engine ∈ session.engine?, engine.lost = false →
      let after := engine.cleanup.2
      after.Tidy (start.ledger actions) engine.device ∧
        (after.device.lost = false → after.Tidy (start.ledger actions) after.device) := by
  intro start session engine occupied alive after
  have sound : start.Sound := new_sound options capabilities order
  have vacant : start.engine? = none := rfl
  obtain ⟨_, rested⟩ := (run_sound sound actions).rested occupied
  have unfenced := run_unfenced sound (by simp [vacant]) actions engine occupied
  have booked := ledger_booked sound vacant actions engine occupied
  obtain ⟨_, _, later⟩ := (Engine.cleanup_leads rested).reaches.rested rested
  refine ⟨.of_waits later.possesses fun image member => ?_, fun usable => ?_⟩
  · exact (Engine.cleanup_detains rested alive unfenced booked member).1
  · refine .of_waits later.possesses fun image member => ?_
    obtain ⟨detains, same⟩ := Engine.cleanup_detains rested alive unfenced booked member
    exact detains.of_fences (same usable)

/-- Two frames are in flight. The second one did without the texture of the first one, and a third
one was given up because its target was refused. -/
private def textureDropped : List Action :=
  [.start ⟨2, false, false, 3000, 3000⟩,
    .draw ⟨.ofSize 64 64, [.ofBuffer (.plain ⟨1⟩ 8 8) (.ofSize 8 8)], .plain ⟨2⟩ 64 64, true, none⟩,
    .draw ⟨.ofSize 64 64, [], .plain ⟨2⟩ 64 64, true, none⟩, .rejectImports ⟨3⟩,
    .draw ⟨.ofSize 64 64, [], .plain ⟨3⟩ 64 64, true, none⟩]

/-- The texture waits for the first frame, and only for it. -/
theorem cleanup_forgets_nothing_in_flight :
    let start := Session.new (.new ⟨true, true, false, 4096⟩)
      DeviceOptions.standard.capabilities .byArrival
    let session := (start.run textureDropped).2
    ∃ engine ∈ session.engine?, engine.lost = false ∧
      engine.cleanup.2.pendingDestructions = 1 ∧ engine.cleanup.2.device.lost = false ∧
        engine.cleanup.2.Tidy (start.ledger textureDropped) engine.cleanup.2.device := by
  intro start session
  have waits : session.engine?.any (fun engine =>
      !engine.lost && engine.cleanup.2.pendingDestructions == 1 &&
        !engine.cleanup.2.device.lost) = true := by decide
  obtain ⟨engine, found, facts⟩ := (Option.any_eq_true _ _).mp waits
  simp only [Bool.and_eq_true, Bool.not_eq_true', beq_iff_eq] at facts
  obtain ⟨⟨alive, parked⟩, usable⟩ := facts
  have tidies := cleanup_forgets_nothing ⟨true, true, false, 4096⟩
    DeviceOptions.standard.capabilities .byArrival textureDropped engine found alive
  exact ⟨engine, found, alive, parked, usable, tidies.2 usable⟩

end Session

end Compositor
