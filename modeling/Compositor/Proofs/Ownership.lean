import Compositor.Proofs.Moment

/-!
# Ownership of images

At every moment of an engine the live images of the device are exactly the images that the engine
holds, and all of them belong to the active context. So the engine always knows whom to ask to
destroy an image, and never names one that does not exist.
-/

set_option autoImplicit false

namespace Compositor

namespace Contexts

theorem current_eq {contexts : Contexts} (active : contexts.has contexts.active = true) :
    contexts.current = contexts.active := by
  rw [current, if_pos active]

theorem activate_active {contexts : Contexts} {mode : Mode} (exists_ : contexts.has mode = true) :
    (contexts.activate mode).active = mode := by
  rw [activate, if_pos exists_]

theorem activate_has (contexts : Contexts) (mode other : Mode) :
    (contexts.activate mode).has other = contexts.has other := by
  unfold activate
  split <;> cases other <;> rfl

end Contexts

namespace Moment

structure Owned (moment : Moment) : Prop where
  coherent : moment.engine.device.Coherent
  /-- Each live image is held exactly once, and each held image is live. -/
  live : (moment.held.map Image.asLive).Perm moment.engine.device.live
  shelved : Shelved moment.engine.textures.entries moment.engine.outputs.entries
  modes : ∀ image ∈ moment.held, image.mode = moment.engine.contexts.active
  active : moment.engine.contexts.has moment.engine.contexts.active = true

namespace Owned

variable {engine : Engine} {hand : List Image} {recorded : List ImageHandle}

theorem mem_live {moment : Moment} (owned : moment.Owned) {image : Image}
    (member : image ∈ moment.held) : image.asLive ∈ moment.engine.device.live :=
  owned.live.mem_iff.mp (List.mem_map.mpr ⟨image, member, rfl⟩)

/-- A device that serves nobody has no image. -/
theorem live_eq_nil {moment : Moment} (owned : moment.Owned) (empty : moment.held = []) :
    moment.engine.device.live = [] := by
  have live := owned.live
  rw [empty] at live
  exact live.nil_eq.symm

theorem holds {moment : Moment} (owned : moment.Owned) {image : Image}
    (member : image ∈ moment.held) :
    History.Holds moment.engine.contexts.current image.handle moment.engine.device.events := by
  rw [Contexts.current_eq owned.active, ← owned.modes image member]
  exact owned.coherent.holds_iff.mpr ⟨image.asLive, owned.mem_live member, rfl, rfl⟩

theorem usable {moment : Moment} (owned : moment.Owned) {image : Image}
    (member : image ∈ moment.held) :
    History.Usable moment.engine.contexts.current image.handle moment.engine.device.events :=
  owned.coherent.usable_of_holds (owned.holds member)

theorem hasOwner {moment : Moment} (owned : moment.Owned) {image : Image}
    (member : image ∈ moment.held) : moment.engine.contexts.has image.mode = true := by
  rw [owned.modes image member]
  exact owned.active

theorem handles_nodup {moment : Moment} (owned : moment.Owned) :
    (moment.held.map (·.handle)).Nodup := by
  have live := (owned.live.map (·.handle)).nodup_iff.mpr owned.coherent.live_nodup
  rw [List.map_map] at live
  exact live

/-! ## Moves that keep ownership -/

/-- The device may change as long as it stays coherent and keeps its images. -/
theorem onDevice (owned : Owned ⟨engine, hand, recorded⟩) {device : Device}
    (coherent : device.Coherent) (live : device.live = engine.device.live)
    (later : List ImageHandle) : Owned ⟨{ engine with device }, hand, later⟩ where
  coherent := coherent
  live := by
    have same := owned.live
    rw [← live] at same
    exact same
  shelved := owned.shelved
  modes := owned.modes
  active := owned.active

theorem onProgress (owned : Owned ⟨engine, hand, recorded⟩) (progress : Progress)
    (later : List ImageHandle) : Owned ⟨{ engine with progress }, hand, later⟩ :=
  ⟨owned.coherent, owned.live, owned.shelved, owned.modes, owned.active⟩

theorem shift (owned : Owned ⟨engine, hand, recorded⟩) {rest : List Image}
    {textures : TextureCache} {outputs : OutputCache} {retired : RetireQueue}
    (shelved : Shelved textures.entries outputs.entries)
    (same : (({ engine with textures, outputs, retired } : Engine).owned ++ rest).Perm
      (engine.owned ++ hand)) :
    Owned ⟨{ engine with textures, outputs, retired }, rest, recorded⟩ where
  coherent := owned.coherent
  live := (same.map Image.asLive).trans owned.live
  shelved := shelved
  modes := fun image member => owned.modes image (same.mem_iff.mp member)
  active := owned.active

theorem mark (owned : Owned ⟨engine, hand, recorded⟩) {later : List Image}
    {textures : TextureCache} {outputs : OutputCache} {frame : FrameSeq}
    (shelved : Shelved textures.entries outputs.entries)
    (marked : List.Forall₂ (Image.MarkedBy frame) (engine.owned ++ hand)
      (({ engine with textures, outputs } : Engine).owned ++ later)) :
    Owned ⟨{ engine with textures, outputs }, later, recorded⟩ where
  coherent := owned.coherent
  live := .trans (.of_eq (Image.map_asLive_of_marked marked)) owned.live
  shelved := shelved
  modes := fun image member => by
    obtain ⟨original, inside, rfl | rfl⟩ := Image.exists_of_marked marked member
    · exact owned.modes _ inside
    · exact owned.modes original inside
  active := owned.active

theorem issue (owned : Owned ⟨engine, hand, recorded⟩) (kind : ImageKind) (buffer : BufferId) :
    Owned ⟨{ engine with
        device := (engine.device.issue engine.contexts.current kind buffer).2 },
      .fresh (engine.device.issue engine.contexts.current kind buffer).1 buffer
        engine.contexts.current kind :: hand, recorded⟩ where
  coherent := owned.coherent.issue _ _ _
  live := by
    have added := owned.live.append_right
      [(⟨⟨engine.device.issued + 1⟩, engine.contexts.current, buffer, kind⟩ : LiveImage)]
    refine .trans ?_ added
    rw [held, held, List.map_append, List.map_append, List.append_assoc, List.map_cons]
    exact .append_left _ (List.perm_append_singleton _ _).symm
  shelved := owned.shelved
  modes := fun image member => by
    rcases List.mem_append.mp member with before | new
    · exact owned.modes image (List.mem_append_left _ before)
    · rcases List.mem_cons.mp new with rfl | before
      · exact Contexts.current_eq owned.active
      · exact owned.modes image (List.mem_append_right _ before)
  active := owned.active

theorem destroy {image : Image} (owned : Owned ⟨engine, image :: hand, recorded⟩) :
    Owned ⟨{ engine with device := engine.device.acceptDestroy image.mode image.handle },
      hand, recorded⟩ := by
  have front : (engine.owned ++ image :: hand).Perm (image :: (engine.owned ++ hand)) :=
    List.perm_middle
  have live : image.asLive ∈ engine.device.live := owned.mem_live (by simp [held])
  constructor
  · exact owned.coherent.acceptDestroy live
  · have split := (owned.live.symm.trans (front.map Image.asLive)).symm.trans
      (Device.live_perm_of_nodup owned.coherent.live_nodup live)
    have kept := (List.perm_cons _).mp split
    have device := owned.coherent.acceptDestroy_eq live
    simp only [Image.asLive] at device
    rw [held]
    simp only [device]
    exact kept
  · exact owned.shelved
  · intro other member
    exact owned.modes other (front.mem_iff.mpr (List.mem_cons_of_mem _ member))
  · exact owned.active

theorem log (owned : Owned ⟨engine, hand, recorded⟩) {event : DeviceEvent}
    (proper : event.Proper engine.device.events) (created : event.created? = none)
    (destroyed : event.destroyed? = none)
    (spares : ∀ mode handles, event ≠ .handed mode .destroy handles) (later : List ImageHandle) :
    Owned ⟨{ engine with device := engine.device.log event }, hand, later⟩ :=
  owned.onDevice (owned.coherent.log proper created destroyed spares) rfl later

theorem flush (owned : Owned ⟨engine, hand, recorded⟩) {fence : Option Fence} {device : Device}
    (flushes : Device.Flushes engine.device fence device) :
    Owned ⟨{ engine with device }, hand, []⟩ := by
  obtain ⟨added, events, inert⟩ := flushes.events
  have split : device.events = (added ++ [.flushed fence]) ++ engine.device.events := by
    simp [events]
  refine owned.onDevice (owned.coherent.of_inert flushes.issued flushes.live split ?_)
    flushes.live []
  intro event member
  rcases List.mem_append.mp member with late | flushed
  · exact (inert event late).1
  · rw [List.mem_singleton.mp flushed]
    rfl

theorem steps (owned : Owned ⟨engine, hand, recorded⟩) {device : Device}
    (steps : Device.Steps engine.device device) :
    Owned ⟨{ engine with device }, hand, recorded⟩ :=
  owned.onDevice (owned.coherent.of_extends steps.extends) steps.extends.live recorded

theorem activate {mode : Mode} (owned : Owned ⟨engine, [], recorded⟩)
    (exists_ : engine.contexts.has mode = true) (empty : engine.owned = []) :
    Owned ⟨{ engine with contexts := engine.contexts.activate mode }, [], recorded⟩ where
  coherent := owned.coherent
  live := owned.live
  shelved := owned.shelved
  modes := fun image member => by
    have inside : image ∈ engine.owned ++ [] := member
    rw [empty] at inside
    cases inside
  active := by
    rw [Contexts.activate_active exists_, Contexts.activate_has]
    exact exists_

end Owned

end Moment

theorem Move.owned {before after : Moment} (move : Move before after) (owned : before.Owned) :
    after.Owned := by
  cases move with
  | device step => exact owned.steps (.single step)
  | note | markLost => exact ⟨owned.coherent, owned.live, owned.shelved, owned.modes, owned.active⟩
  | poll | begin | abandon | idle => exact owned.onProgress _ _
  | shift shelved same => exact owned.shift shelved same
  | mark _ shelved marked => exact owned.mark shelved marked
  | issue => exact owned.issue _ _
  | destroy => exact owned.destroy
  | handOver spares held =>
      refine owned.log ?_ rfl rfl (by simp [spares]) _
      intro handle member
      obtain ⟨image, inside, rfl⟩ := held handle member
      exact owned.usable inside
  | bindTarget _ _ held =>
      obtain ⟨image, inside, rfl, -⟩ := held
      refine owned.log ?_ rfl rfl (by simp) _
      exact owned.usable inside
  | draw _ _ held =>
      refine owned.log ?_ rfl rfl (by simp) _
      intro handle member
      obtain ⟨image, inside, rfl, -⟩ := held handle member
      exact owned.usable inside
  | submitFenced _ flushes => exact (owned.flush flushes).onProgress _ _
  | submitDrained _ flushes same _ =>
      have ready := (owned.flush flushes).steps (.single (.quiet same))
      exact (ready.steps (.single .finish)).onProgress _ _
  | flushLost flushes steps _ => exact (owned.flush flushes).steps steps
  | activate exists_ empty => exact owned.activate exists_ empty

theorem Moves.owned {before after : Moment} (moves : Moves before after) (owned : before.Owned) :
    after.Owned := by
  induction moves with
  | refl => exact owned
  | tail _ move ih => exact move.owned ih

end Compositor
