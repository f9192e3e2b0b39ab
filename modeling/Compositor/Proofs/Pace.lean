import Compositor.Proofs.Moment

/-!
# Submission numbers of an engine

No number in the book-keeping of an engine exceeds the latest one that was handed out. So once the
device is drained and nothing is being recorded, the watermark stands at the latest number, and
whatever the engine holds may be destroyed. As long as the numbers do not run out, those in flight
increase and lie above the watermark.
-/

set_option autoImplicit false

namespace Compositor

namespace Progress

variable {progress : Progress}

/-- Every number is at most the latest one handed out. -/
structure Bounded (progress : Progress) : Prop where
  issued : progress.lastIssued ≤ FrameSeq.last
  completed : progress.completed ≤ progress.lastIssued
  recording : ∀ frame ∈ progress.recording, frame = progress.lastIssued
  inFlight : ∀ entry ∈ progress.inFlight, entry.1 ≤ progress.lastIssued

theorem issued_le_begin (bounded : progress.lastIssued ≤ FrameSeq.last) :
    progress.lastIssued ≤ progress.begin.lastIssued :=
  Nat.le_min.mpr ⟨Nat.le_succ _, bounded⟩

namespace Bounded

theorem initial : Bounded Progress.initial :=
  ⟨Nat.zero_le _, Nat.le_refl _, by simp [Progress.initial], by simp [Progress.initial]⟩

theorem watermark_le (bounded : progress.Bounded) : progress.watermark ≤ progress.lastIssued := by
  unfold watermark
  split
  · rename_i entries
    have first := bounded.inFlight _ (by rw [entries]; exact List.mem_cons_self)
    exact Nat.le_trans (Nat.sub_le _ 1) first
  · rename_i frame _ found
    rw [bounded.recording frame found]
    exact Nat.sub_le _ 1
  · exact Nat.le_refl _

theorem refresh (bounded : progress.Bounded) : progress.refresh.Bounded :=
  ⟨bounded.issued, Nat.max_le.mpr ⟨bounded.completed, bounded.watermark_le⟩, bounded.recording,
    bounded.inFlight⟩

theorem onQueue (bounded : progress.Bounded) {inFlight : List (FrameSeq × Fence)}
    (fewer : inFlight ⊆ progress.inFlight) : ({ progress with inFlight } : Progress).Bounded :=
  ⟨bounded.issued, bounded.completed, bounded.recording, fun entry member =>
    bounded.inFlight entry (fewer member)⟩

theorem poll (bounded : progress.Bounded) (fences : Fences) : (progress.poll fences).Bounded :=
  (bounded.onQueue (List.dropWhile_suffix _).subset).refresh

theorem markIdle (bounded : progress.Bounded) : progress.markIdle.Bounded :=
  (bounded.onQueue (List.nil_subset _)).refresh

theorem abandon (bounded : progress.Bounded) : progress.abandon.Bounded :=
  ⟨bounded.issued, bounded.completed, by simp [Progress.abandon], bounded.inFlight⟩

theorem begin (bounded : progress.Bounded) : progress.begin.Bounded := by
  have grows := issued_le_begin bounded.issued
  refine ⟨Nat.min_le_right _ _, Nat.le_trans bounded.completed grows, ?_, ?_⟩
  · intro frame found
    exact (Option.some.inj (Option.mem_def.mp found)).symm
  · exact fun entry member => Nat.le_trans (bounded.inFlight entry member) grows

theorem submitted (bounded : progress.Bounded) {frame : FrameSeq}
    (recorded : progress.recording = some frame) (fence : Option Fence) :
    (progress.submitted frame fence).Bounded := by
  have closed : ({ progress with recording := none } : Progress).Bounded := bounded.abandon
  unfold Progress.submitted
  rw [if_pos recorded]
  cases fence with
  | none =>
      have idle := closed.markIdle
      exact ⟨idle.issued, idle.completed, idle.recording, idle.inFlight⟩
  | some name =>
      refine ⟨closed.issued, closed.completed, closed.recording, fun entry member => ?_⟩
      rcases List.mem_append.mp member with before | new
      · exact closed.inFlight entry before
      · rw [List.mem_singleton.mp new]
        exact Nat.le_of_eq (bounded.recording frame recorded)

theorem markIdle_completed (bounded : progress.Bounded) (closed : progress.recording = none) :
    progress.markIdle.completed = progress.lastIssued := by
  have mark : ({ progress with inFlight := [] } : Progress).watermark = progress.lastIssued := by
    simp [watermark, closed]
  simp only [Progress.markIdle, Progress.refresh, mark]
  exact Nat.max_eq_right bounded.completed

end Bounded

@[simp] theorem markIdle_lastIssued (progress : Progress) :
    progress.markIdle.lastIssued = progress.lastIssued := rfl

@[simp] theorem submitted_lastIssued (progress : Progress) (frame : FrameSeq)
    (fence : Option Fence) :
    (progress.submitted frame fence).lastIssued = progress.lastIssued := by
  unfold submitted
  split <;> cases fence <;> rfl

theorem submitted_recording {frame : FrameSeq} (recorded : progress.recording = some frame)
    (fence : Option Fence) : (progress.submitted frame fence).recording = none := by
  unfold submitted
  rw [if_pos recorded]
  cases fence <;> rfl

theorem submitted_inFlight {frame : FrameSeq} (recorded : progress.recording = some frame)
    (fence : Fence) :
    (progress.submitted frame (some fence)).inFlight = progress.inFlight ++ [(frame, fence)] := by
  unfold submitted
  rw [if_pos recorded]

/-- A watermark raised to just below the oldest submission stays below all that are not older. -/
private theorem raised_lt {completed oldest bound : Nat} (below : completed < oldest)
    (above : oldest ≤ bound) : max completed (oldest - 1) < bound := by
  omega

theorem next_eq {frame : Nat} (unsaturated : FrameSeq.next frame < FrameSeq.last) :
    FrameSeq.next frame = frame + 1 := by
  unfold FrameSeq.next at unsaturated ⊢
  rcases Nat.le_total (frame + 1) FrameSeq.last with fits | full
  · exact Nat.min_eq_left fits
  · rw [Nat.min_eq_right full] at unsaturated
    exact absurd unsaturated (Nat.lt_irrefl _)

/-- The submissions in flight are in order, with the watermark below and the submission being
recorded above them. -/
structure Ordered (progress : Progress) : Prop where
  completed : ∀ entry ∈ progress.inFlight, progress.completed < entry.1
  increasing : progress.inFlight.Pairwise fun left right => left.1 < right.1
  recording : ∀ frame ∈ progress.recording,
    progress.completed < frame ∧ ∀ entry ∈ progress.inFlight, entry.1 < frame

namespace Ordered

theorem initial : Ordered Progress.initial :=
  ⟨by simp [Progress.initial], .nil, by simp [Progress.initial]⟩

theorem refresh (ordered : progress.Ordered) : progress.refresh.Ordered := by
  cases entries : progress.inFlight with
  | nil =>
      refine ⟨by simp [Progress.refresh, entries], by simp [Progress.refresh, entries], ?_⟩
      intro frame found
      have above := (ordered.recording frame found).1
      have current : progress.recording = some frame := found
      have mark : progress.watermark = frame - 1 := by
        simp [watermark, entries, current]
      refine ⟨?_, by simp [Progress.refresh, entries]⟩
      simp only [Progress.refresh, mark]
      exact raised_lt above (Nat.le_refl _)
  | cons oldest younger =>
      have first := ordered.completed oldest (by rw [entries]; exact List.mem_cons_self)
      have mark : progress.watermark = oldest.1 - 1 := by
        simp [watermark, entries]
      have least : ∀ entry ∈ progress.inFlight, oldest.1 ≤ entry.1 := by
        intro entry member
        rw [entries] at member
        rcases List.mem_cons.mp member with rfl | later
        · exact Nat.le_refl _
        · have increasing := ordered.increasing
          rw [entries] at increasing
          exact Nat.le_of_lt (List.rel_of_pairwise_cons increasing later)
      refine ⟨?_, ordered.increasing, ?_⟩
      · intro entry member
        simp only [Progress.refresh, mark]
        exact raised_lt first (least entry member)
      · intro frame found
        obtain ⟨-, above⟩ := ordered.recording frame found
        refine ⟨?_, above⟩
        have bound := above oldest (by rw [entries]; exact List.mem_cons_self)
        simp only [Progress.refresh, mark]
        exact raised_lt first (Nat.le_of_lt bound)

theorem onQueue (ordered : progress.Ordered) {inFlight : List (FrameSeq × Fence)}
    (fewer : inFlight.Sublist progress.inFlight) :
    ({ progress with inFlight } : Progress).Ordered :=
  ⟨fun entry member => ordered.completed entry (fewer.subset member),
    ordered.increasing.sublist fewer, fun frame found =>
      ⟨(ordered.recording frame found).1, fun entry member =>
        (ordered.recording frame found).2 entry (fewer.subset member)⟩⟩

theorem poll (ordered : progress.Ordered) (fences : Fences) : (progress.poll fences).Ordered :=
  (ordered.onQueue (List.dropWhile_suffix _).sublist).refresh

theorem markIdle (ordered : progress.Ordered) : progress.markIdle.Ordered :=
  (ordered.onQueue (List.nil_sublist _)).refresh

theorem abandon (ordered : progress.Ordered) : progress.abandon.Ordered :=
  ⟨ordered.completed, ordered.increasing, by simp [Progress.abandon]⟩

theorem begin (ordered : progress.Ordered) (bounded : progress.Bounded)
    (unsaturated : progress.begin.lastIssued < FrameSeq.last) : progress.begin.Ordered := by
  have next : progress.begin.lastIssued = progress.lastIssued + 1 := next_eq unsaturated
  refine ⟨ordered.completed, ordered.increasing, ?_⟩
  intro frame found
  have same : frame = progress.lastIssued + 1 :=
    (Option.some.inj (Option.mem_def.mp found)).symm.trans next
  rw [same]
  exact ⟨Nat.lt_succ_of_le bounded.completed, fun entry member =>
    Nat.lt_succ_of_le (bounded.inFlight entry member)⟩

theorem submitted (ordered : progress.Ordered) {frame : FrameSeq}
    (recorded : progress.recording = some frame) (fence : Option Fence) :
    (progress.submitted frame fence).Ordered := by
  have closed : ({ progress with recording := none } : Progress).Ordered := ordered.abandon
  obtain ⟨above, last⟩ := ordered.recording frame recorded
  unfold Progress.submitted
  rw [if_pos recorded]
  cases fence with
  | none =>
      have idle := closed.markIdle
      exact ⟨idle.completed, idle.increasing, idle.recording⟩
  | some name =>
      refine ⟨fun entry member => ?_, ?_, by simp⟩
      · rcases List.mem_append.mp member with before | new
        · exact closed.completed entry before
        · rw [List.mem_singleton.mp new]
          exact above
      · refine List.pairwise_append.mpr ⟨closed.increasing, List.pairwise_singleton _ _, ?_⟩
        intro entry before new member
        rw [List.mem_singleton.mp member]
        exact last entry before

end Ordered

end Progress

namespace Moment

/-- The numbers of a moment are in bounds, and an engine is only lost with its device. -/
structure Paced (moment : Moment) : Prop where
  progress : moment.engine.progress.Bounded
  used : ∀ image ∈ moment.held, ∀ frame ∈ image.lastUsed,
    frame ≤ moment.engine.progress.lastIssued
  lost : moment.engine.lost = true → moment.engine.device.lost = true

namespace Paced

/-- On a drained device, with nothing being recorded, every held image may be destroyed. -/
theorem complete_of_idle {moment : Moment} (paced : moment.Paced)
    (idle : moment.engine.progress.completed = moment.engine.progress.lastIssued) {image : Image}
    (member : image ∈ moment.held) :
    moment.engine.progress.isComplete image.lastUsed = true := by
  cases used : image.lastUsed with
  | none => rfl
  | some frame =>
      have bound := paced.used image member frame used
      rw [← idle] at bound
      simpa [Progress.isComplete] using bound

end Paced

end Moment

theorem Image.lastUsed_markUsed_le {image : Image} {frame bound : FrameSeq}
    (used : ∀ previous ∈ image.lastUsed, previous ≤ bound) (current : frame ≤ bound) :
    ∀ latest ∈ (image.markUsed frame).lastUsed, latest ≤ bound := by
  intro latest found
  rw [← Option.some.inj (Option.mem_def.mp found)]
  cases previous : image.lastUsed with
  | none => exact current
  | some earlier => exact Nat.max_le.mpr ⟨used earlier previous, current⟩

theorem Move.paced {before after : Moment} (move : Move before after) (paced : before.Paced) :
    after.Paced := by
  have lost := move.continues.lost
  cases move with
  | device | handOver | bindTarget | draw | flushLost =>
      exact ⟨paced.progress, paced.used, fun unusable => lost (paced.lost unusable)⟩
  | note => exact ⟨⟨paced.progress.issued, paced.progress.completed, paced.progress.recording,
      paced.progress.inFlight⟩, paced.used, paced.lost⟩
  | markLost unusable => exact ⟨paced.progress, paced.used, fun _ => unusable⟩
  | poll => exact ⟨paced.progress.poll _, paced.used, paced.lost⟩
  | begin =>
      refine ⟨paced.progress.begin, fun image member frame used => ?_, paced.lost⟩
      exact Nat.le_trans (paced.used image member frame used)
        (Progress.issued_le_begin paced.progress.issued)
  | abandon => exact ⟨paced.progress.abandon, paced.used, paced.lost⟩
  | idle => exact ⟨paced.progress.markIdle, paced.used, paced.lost⟩
  | shift _ same =>
      exact ⟨paced.progress, fun image member => paced.used image (same.mem_iff.mp member),
        paced.lost⟩
  | mark recording _ marked =>
      refine ⟨paced.progress, fun image member => ?_, paced.lost⟩
      obtain ⟨original, inside, rfl | rfl⟩ := Image.exists_of_marked marked member
      · exact paced.used _ inside
      · refine Image.lastUsed_markUsed_le (paced.used original inside) ?_
        exact Nat.le_of_eq (paced.progress.recording _ recording)
  | issue =>
      refine ⟨paced.progress, fun image member => ?_, fun unusable => lost (paced.lost unusable)⟩
      rcases List.mem_append.mp member with before | new
      · exact paced.used image (List.mem_append_left _ before)
      · rcases List.mem_cons.mp new with rfl | before
        · simp [Image.fresh]
        · exact paced.used image (List.mem_append_right _ before)
  | destroy =>
      refine ⟨paced.progress, fun image member => ?_, fun unusable => lost (paced.lost unusable)⟩
      refine paced.used image ?_
      rcases List.mem_append.mp member with before | rest
      · exact List.mem_append_left _ before
      · exact List.mem_append_right _ (List.mem_cons_of_mem _ rest)
  | @submitFenced _ _ _ _ fence _ recording _ =>
      refine ⟨paced.progress.submitted recording (some fence), fun image member frame used => ?_,
        fun unusable => lost (paced.lost unusable)⟩
      have bound := paced.used image member frame used
      simpa using bound
  | submitDrained recording _ _ _ =>
      refine ⟨paced.progress.markIdle.submitted recording none, fun image member frame used => ?_,
        fun unusable => lost (paced.lost unusable)⟩
      have bound := paced.used image member frame used
      simpa using bound
  | activate => exact ⟨paced.progress, paced.used, paced.lost⟩

theorem Moves.paced {before after : Moment} (moves : Moves before after) (paced : before.Paced) :
    after.Paced := by
  induction moves with
  | refl => exact paced
  | tail _ move ih => exact move.paced ih

theorem Move.issued_le {before after : Moment} (move : Move before after) (paced : before.Paced) :
    before.engine.progress.lastIssued ≤ after.engine.progress.lastIssued := by
  cases move with
  | begin => exact Progress.issued_le_begin paced.progress.issued
  | submitFenced | submitDrained => simp
  | _ => exact Nat.le_refl _

end Compositor
