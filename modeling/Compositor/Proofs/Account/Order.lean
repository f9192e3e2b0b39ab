import Compositor.Proofs.Account.Composition
import Compositor.Proofs.Exposure
import Compositor.Proofs.Reachable

/-!
# The order of skipped layers

A frame reports first the layers that planning left out and then those whose draw was refused. Each of
the two runs is in the order of the layers, but nothing merges them.
-/

set_option autoImplicit false

namespace Compositor

variable {frame : FrameSeq} {plan : FramePlan}

/-- The layer was handed to the context, which refused to draw it. -/
def SkipReason.isRejection : SkipReason → Bool
  | .drawRejected _ => true
  | _ => false

/-- The layers are in the order of their frame. -/
def SkippedLayer.InOrder (skipped : List SkippedLayer) : Prop :=
  skipped.Pairwise (·.index < ·.index)

/-! ## Planning -/

namespace FramePlan

/-- The layers before a position were looked at. -/
structure Ascends (position : Nat) (plan : FramePlan) : Prop where
  draws : plan.draws.Pairwise (·.index < ·.index)
  skipped : SkippedLayer.InOrder plan.skipped
  drawsBefore : ∀ planned ∈ plan.draws, planned.index < position
  skippedBefore : ∀ layer ∈ plan.skipped, layer.index < position
  omitted : ∀ layer ∈ plan.skipped, layer.reason.isRejection = false

namespace Ascends

variable {position : Nat} {layer : Layer}

theorem draw (ascends : plan.Ascends position) (source : Option ImageHandle) (engine : Engine)
    (active : List BufferId) :
    ({ plan with engine, active }.draw position layer source).Ascends (position + 1) where
  draws := List.pairwise_append.mpr ⟨ascends.draws, by simp, fun planned member last same => by
    rw [List.mem_singleton.mp same]
    exact ascends.drawsBefore planned member⟩
  skipped := ascends.skipped
  drawsBefore := fun planned member => by
    rcases List.mem_append.mp member with before | new
    · exact Nat.lt_succ_of_lt (ascends.drawsBefore planned before)
    · rw [List.mem_singleton.mp new]
      exact Nat.lt_succ_self position
  skippedBefore := fun layer member => Nat.lt_succ_of_lt (ascends.skippedBefore layer member)
  omitted := ascends.omitted

theorem skip (ascends : plan.Ascends position) {reason : SkipReason}
    (omits : reason.isRejection = false) (engine : Engine) (active : List BufferId) :
    ({ plan with engine, active }.skip position layer reason).Ascends (position + 1) where
  draws := ascends.draws
  skipped := List.pairwise_append.mpr ⟨ascends.skipped, by simp, fun other member last same => by
    rw [List.mem_singleton.mp same]
    exact ascends.skippedBefore other member⟩
  drawsBefore := fun planned member => Nat.lt_succ_of_lt (ascends.drawsBefore planned member)
  skippedBefore := fun other member => by
    rcases List.mem_append.mp member with before | new
    · exact Nat.lt_succ_of_lt (ascends.skippedBefore other before)
    · rw [List.mem_singleton.mp new]
      exact Nat.lt_succ_self position
  omitted := fun other member => by
    rcases List.mem_append.mp member with before | new
    · exact ascends.omitted other before
    · rw [List.mem_singleton.mp new]
      exact omits

theorem look (ascends : plan.Ascends position) {next : FramePlan}
    (looked : plan.look frame position layer = .ok next) : next.Ascends (position + 1) := by
  unfold FramePlan.look at looked
  split at looked
  · cases looked
    exact ascends.draw none plan.engine plan.active
  · split at looked
    · split at looked
      · cases looked
      · cases looked
        exact ascends.skip rfl _ plan.active
    · dsimp only at looked
      split at looked
      · cases looked
        exact ascends.draw _ _ _
      · cases looked
        exact ascends.skip rfl _ _

theorem looks {layers : List Layer} (ascends : plan.Ascends position) {last : FramePlan}
    (looked : (layers.zipIdx position).foldlM
      (fun plan (layer, index) => plan.look frame index layer) plan = .ok last) :
    last.Ascends (position + layers.length) := by
  induction layers generalizing plan position with
  | nil =>
      cases looked
      exact ascends
  | cons layer layers ih =>
      rw [List.zipIdx_cons, List.foldlM_cons] at looked
      dsimp only at looked
      cases outcome : plan.look frame position layer with
      | error after =>
          rw [outcome] at looked
          cases looked
      | ok next =>
          rw [outcome] at looked
          have rest := ih (ascends.look outcome) looked
          rwa [Nat.add_assoc, Nat.add_comm 1] at rest

end Ascends

theorem lookAll_ascends {engine : Engine} {layers : List Layer}
    (looked : lookAll engine frame layers = .ok plan) : plan.Ascends layers.length := by
  have start : (start engine).Ascends 0 := ⟨.nil, .nil, nofun, nofun, nofun⟩
  have whole := start.looks looked
  rwa [Nat.zero_add] at whole

end FramePlan

/-! ## Recording -/

namespace Recording

/-- The draws that were refused are some of those that were asked for, in the same order. -/
structure Follows (seen : List PlannedDraw) (recording : Recording) : Prop where
  indices : (recording.rejected.map (·.index)).Sublist (seen.map (·.index))
  rejections : ∀ layer ∈ recording.rejected, layer.reason.isRejection = true

namespace Follows

variable {seen : List PlannedDraw} {recording : Recording} {mode : Mode} {target : ImageHandle}

theorem add (follows : recording.Follows seen) {planned : PlannedDraw} {next : Recording}
    (added : recording.add mode target planned = .ok next) : next.Follows (seen ++ [planned]) := by
  unfold Recording.add at added
  split at added
  · cases added
    refine ⟨?_, follows.rejections⟩
    rw [List.map_append]
    exact follows.indices.trans (List.sublist_append_left _ _)
  · split at added
    · cases added
    · cases added
      refine ⟨?_, fun layer member => ?_⟩
      · rw [List.map_append, List.map_append]
        exact follows.indices.append (.refl _)
      · rcases List.mem_append.mp member with before | new
        · exact follows.rejections layer before
        · rw [List.mem_singleton.mp new]
          rfl

theorem adds {draws : List PlannedDraw} (follows : recording.Follows seen) {last : Recording}
    (added : draws.foldlM (Recording.add mode target) recording = .ok last) :
    last.Follows (seen ++ draws) := by
  induction draws generalizing recording seen with
  | nil =>
      cases added
      rwa [List.append_nil]
  | cons planned draws ih =>
      rw [List.foldlM_cons] at added
      cases outcome : recording.add mode target planned with
      | error failure =>
          rw [outcome] at added
          cases added
      | ok next =>
          rw [outcome] at added
          have whole := ih (follows.add outcome) added
          rwa [List.append_assoc] at whole

end Follows

theorem ofDraws_follows {device : Device} {mode : Mode} {target : ImageHandle} {display : Display}
    {draws : List PlannedDraw} {recording : Recording}
    (recorded : ofDraws device mode target display draws = .ok recording) :
    recording.Follows draws := by
  unfold ofDraws at recorded
  split at recorded
  · cases recorded
  · have start : ∀ begun : Device, Follows [] ⟨begun, 0, []⟩ := fun _ => ⟨.slnil, nofun⟩
    exact (start _).adds recorded

end Recording

/-! ## Finished frames -/

namespace FrameStatus

/-- The skipped layers that were left out by planning. -/
def omitted (status : FrameStatus) : List SkippedLayer :=
  status.skipped.filter (!·.reason.isRejection)

/-- The skipped layers whose draw was refused. -/
def refused (status : FrameStatus) : List SkippedLayer :=
  status.skipped.filter (·.reason.isRejection)

/-- What a frame reports as skipped: first what planning left out, then what the context refused. -/
structure SkipsInTurns (status : FrameStatus) : Prop where
  turns : status.skipped = status.omitted ++ status.refused
  omittedInOrder : SkippedLayer.InOrder status.omitted
  refusedInOrder : SkippedLayer.InOrder status.refused

variable {status : FrameStatus}

theorem skipsInTurns_of_runs {early late : List SkippedLayer}
    (runs : status.skipped = early ++ late)
    (omissions : ∀ layer ∈ early, layer.reason.isRejection = false)
    (rejections : ∀ layer ∈ late, layer.reason.isRejection = true)
    (earlyInOrder : SkippedLayer.InOrder early) (lateInOrder : SkippedLayer.InOrder late) :
    status.SkipsInTurns := by
  have omitted : status.omitted = early := by
    rw [FrameStatus.omitted, runs, List.filter_append,
      List.filter_eq_self.mpr fun layer member => by simp [omissions layer member],
      List.filter_eq_nil_iff.mpr fun layer member => by simp [rejections layer member],
      List.append_nil]
  have refused : status.refused = late := by
    rw [FrameStatus.refused, runs, List.filter_append,
      List.filter_eq_nil_iff.mpr fun layer member => by simp [omissions layer member],
      List.filter_eq_self.mpr fun layer member => by simp [rejections layer member],
      List.nil_append]
  exact ⟨by rw [omitted, refused, runs], omitted ▸ earlyInOrder, refused ▸ lateInOrder⟩

/-- The whole report is in order just if no layer was left out after one that was refused. -/
theorem SkipsInTurns.inOrder_iff (skips : status.SkipsInTurns) :
    SkippedLayer.InOrder status.skipped ↔
      ∀ layer ∈ status.omitted, ∀ refused ∈ status.refused, layer.index < refused.index := by
  rw [skips.turns, SkippedLayer.InOrder, List.pairwise_append]
  exact ⟨fun whole => whole.2.2,
    fun apart => ⟨skips.omittedInOrder, skips.refusedInOrder, apart⟩⟩

end FrameStatus

namespace Engine

variable {engine after : Engine} {request : FrameRequest} {output : FrameOutput}

theorem draw_skipsInTurns (finished : engine.draw request = (.ok output, after)) :
    output.status.SkipsInTurns := by
  obtain ⟨-, -, -, composed⟩ := draw_composition finished
  cases composed with
  | @staged plan slot targeted submitted recording fence planned given recorded final =>
      have ascends := FramePlan.lookAll_ascends planned
      have follows := Recording.ofDraws_follows recorded
      have refused : (recording.rejected.map (·.index)).Pairwise (· < ·) :=
        (List.pairwise_map.mpr ascends.draws).sublist follows.indices
      exact FrameStatus.skipsInTurns_of_runs rfl ascends.omitted follows.rejections ascends.skipped
        (List.pairwise_map.mp refused)

/-- Whatever its device does, a finished frame reports skipped layers in two runs, each in the order
of the layers; so all are in order just if none was left out after one that was refused. -/
theorem skipped_in_turns (engine : Engine) (request : FrameRequest) (output : FrameOutput)
    (finished : (engine.draw request).1 = .ok output) :
    output.status.SkipsInTurns ∧
      (SkippedLayer.InOrder output.status.skipped ↔
        ∀ layer ∈ output.status.omitted, ∀ refused ∈ output.status.refused,
          layer.index < refused.index) :=
  have skips := draw_skipsInTurns (Prod.ext finished rfl)
  ⟨skips, skips.inOrder_iff⟩

end Engine

namespace Session

/-- Nobody but the engine uses the device, so no draw is refused and all is in order. -/
theorem skipped_in_order_alone (options : DeviceOptions) (capabilities : Capabilities)
    (order : ReleaseOrder) (actions : List Action) {engine : Engine} {request : FrameRequest}
    {output : FrameOutput}
    (reached : ((new (.new options) capabilities order).run actions).2.engine? = some engine)
    (finished : (engine.draw request).1 = .ok output) :
    SkippedLayer.InOrder output.status.skipped := by
  obtain ⟨_, rested⟩ := (run_sound (new_sound options capabilities order) actions).rested reached
  have unrefused := (Engine.draw_ends rested request).2
  rw [finished] at unrefused
  refine (Engine.draw_skipsInTurns (Prod.ext finished rfl)).inOrder_iff.mpr ?_
  intro _ _ refused member
  obtain ⟨inside, rejection⟩ := List.mem_filter.mp member
  cases reason : refused.reason with
  | drawRejected cause => exact absurd reason (unrefused refused inside cause)
  | _ =>
      rw [reason] at rejection
      cases rejection

/-- The first layer samples a texture that is gone, and the second one cannot be imported. -/
private def disorderlyFrame : FrameRequest :=
  let sample := fun id : UInt64 => Layer.ofBuffer (.plain ⟨id⟩ 8 8) (.ofSize 8 8)
  ⟨.ofSize 64 64, [sample 1, sample 2], .plain ⟨9⟩ 64 64, true, none⟩

private def disordering : List Incident :=
  [.act (.start .standard), .act (.bind (.plain ⟨1⟩ 8 8)), .meddle .normal ⟨1⟩,
    .act (.rejectImports ⟨2⟩)]

private theorem disordering_draw :
    ∃ engine output,
      ((Session.new (.new .standard) DeviceOptions.standard.capabilities .byArrival).endure
        disordering).engine? = some engine ∧
      (engine.draw disorderlyFrame).1 = .ok output ∧
      output.status.skipped.map (·.index) = [1, 0] := by
  have drawn : ((Session.new (.new .standard) DeviceOptions.standard.capabilities
      .byArrival).endure disordering).engine?.any (fun engine =>
        (engine.draw disorderlyFrame).1.toOption.any fun output =>
          output.status.skipped.map (·.index) = [1, 0]) = true := by decide
  obtain ⟨engine, reached, facts⟩ := (Option.any_eq_true _ _).mp drawn
  obtain ⟨output, given, indices⟩ := (Option.any_eq_true _ _).mp facts
  refine ⟨engine, output, reached, ?_, of_decide_eq_true indices⟩
  cases outcome : (engine.draw disorderlyFrame).1 with
  | error error =>
      rw [outcome] at given
      cases given
  | ok made =>
      rw [outcome] at given
      cases given
      rfl

/-- The second layer is reported before the first one, in turns all the same. -/
theorem skipped_in_turns_of_both_kinds :
    ∃ engine output,
      (Engine.draw engine disorderlyFrame).1 = .ok output ∧
      output.status.skipped.map (·.index) = [1, 0] ∧ output.status.SkipsInTurns := by
  obtain ⟨engine, output, -, finished, indices⟩ := disordering_draw
  exact ⟨engine, output, finished, indices,
    (Engine.skipped_in_turns engine disorderlyFrame output finished).1⟩

/-- Where another user of the device destroys images, a frame may report out of order. -/
theorem skipped_not_in_order :
    ¬∀ (options : DeviceOptions) (capabilities : Capabilities) (order : ReleaseOrder)
      (incidents : List Incident) (engine : Engine) (request : FrameRequest) (output : FrameOutput),
      ((new (.new options) capabilities order).endure incidents).engine? = some engine →
      (engine.draw request).1 = .ok output → SkippedLayer.InOrder output.status.skipped := by
  intro always
  obtain ⟨engine, output, reached, finished, indices⟩ := disordering_draw
  have inOrder := always _ _ _ _ engine disorderlyFrame output reached finished
  have ascending : (output.status.skipped.map (·.index)).Pairwise (· < ·) :=
    List.pairwise_map.mpr inOrder
  rw [indices] at ascending
  exact absurd ascending (by decide)

end Session

end Compositor
