import Compositor.Proofs.Ledger

/-!
# The book-keeping of submissions, in use

The book-keeping sees the numbers that it hands out, the fences it is given, and what the fences say
when it polls them. What became of each number is told here by the calls alone: it is recorded beside
the book-keeping and never read by it. Measured against that record the watermark is sound at all
times, and right after a poll it is as high as it can be.
-/

set_option autoImplicit false

namespace Compositor

theorem Progress.completed_le_submitted (progress : Progress) (frame : FrameSeq)
    (fence : Option Fence) :
    progress.completed ≤ (progress.submitted frame fence).completed := by
  unfold submitted
  split <;> cases fence
  · exact Nat.le_max_left _ _
  · exact Nat.le_refl _
  · exact Nat.le_max_left _ _
  · exact Nat.le_refl _

/-- What became of a number that was handed out and is not being recorded any more. -/
inductive Fate where
  /-- Nothing of it reached the GPU. -/
  | abandoned
  /-- It was flushed, and the GPU was drained for it. -/
  | drained
  | fenced (fence : Fence)
  deriving DecidableEq, Repr

namespace Fate

/-- Nothing is left to do for the submission. A fence that failed will never signal. -/
def isOver (fences : Fences) : Fate → Bool
  | .abandoned => true
  | .drained => true
  | .fenced fence => !fences.isPending fence

end Fate

/-- A call of the book-keeping, or time that passes for the fences. -/
inductive Use where
  | begin
  | submitted (frame : FrameSeq) (fence : Option Fence)
  | abandon
  | poll
  | markIdle
  | elapse (fences : Fences)
  deriving DecidableEq, Repr

namespace Use

def isBegin : Use → Bool
  | .begin => true
  | _ => false

end Use

/-- The book-keeping, the fences as they are, and the record of what happened. -/
structure Usage where
  progress : Progress
  fences : Fences
  /-- The numbers that were handed out, the first one first. -/
  returned : List FrameSeq
  /-- The number that was handed out and neither submitted nor abandoned. -/
  opened : Option FrameSeq
  fates : List (FrameSeq × Fate)
  deriving DecidableEq, Repr

namespace Usage

def new (fences : Fences) : Usage := ⟨.initial, fences, [], none, []⟩

/-- The number that was open, if one was, meets its fate. -/
def close (usage : Usage) (fate : Fate) : Usage :=
  { usage with
    opened := none
    fates := usage.fates ++ usage.opened.toList.map fun frame => (frame, fate) }

def step (usage : Usage) : Use → Usage
  | .begin =>
    let progress := usage.progress.begin
    { usage with
      progress
      returned := usage.returned ++ [progress.lastIssued]
      opened := some progress.lastIssued }
  | .submitted frame fence =>
    { usage with progress := usage.progress.submitted frame fence }.close
      (fence.elim .drained .fenced)
  | .abandon => { usage with progress := usage.progress.abandon }.close .abandoned
  | .poll => { usage with progress := usage.progress.poll usage.fences }
  | .markIdle => { usage with progress := usage.progress.markIdle }
  | .elapse fences => { usage with fences }

def run (usage : Usage) (uses : List Use) : Usage := uses.foldl step usage

/-- Everything that was flushed has really completed. -/
def Drained (usage : Usage) : Prop :=
  ∀ entry ∈ usage.fates, entry.2.isOver usage.fences = true

/-- A number is closed before the next one is handed out, only a drained GPU is called idle, and a
fence that has settled stays as it is. -/
def Allows (usage : Usage) : Use → Prop
  | .begin => usage.opened = none
  | .submitted frame fence => usage.opened = some frame ∧ (fence = none → usage.Drained)
  | .markIdle => usage.Drained
  | .elapse fences => ∀ fence, usage.fences.isPending fence = false →
      fences.status fence = usage.fences.status fence
  | .abandon => True
  | .poll => True

/-- Every call is allowed when it is made. -/
def Lawful (usage : Usage) : List Use → Prop
  | [] => True
  | use :: rest => usage.Allows use ∧ (usage.step use).Lawful rest

/-- A number that is being recorded, or whose fence is pending. -/
def Outstanding (usage : Usage) (frame : FrameSeq) : Prop :=
  usage.opened = some frame ∨
    ∃ fence, (frame, Fate.fenced fence) ∈ usage.fates ∧ usage.fences.isPending fence = true

/-- What the book-keeping promises at all times. -/
structure Exact (usage : Usage) : Prop where
  /-- Each number that was handed out is open or has one fate. -/
  accounted : usage.fates.map Prod.fst ++ usage.opened.toList = usage.returned
  completed : usage.progress.completed ≤ usage.progress.lastIssued
  recording : usage.progress.recording = usage.opened
  increasing : usage.progress.inFlight.Pairwise fun left right => left.1 < right.1
  unfinished : ∀ entry ∈ usage.progress.inFlight, usage.progress.completed < entry.1
  newest : ∀ frame ∈ usage.progress.recording,
    usage.progress.completed < frame ∧ ∀ entry ∈ usage.progress.inFlight, entry.1 < frame
  sound : ∀ frame, 1 ≤ frame → usage.progress.isComplete (some frame) = true →
    frame ∈ usage.returned ∧ usage.progress.recording ≠ some frame ∧
      ∀ earlier, 1 ≤ earlier → earlier ≤ frame →
        ∃ fate, (earlier, fate) ∈ usage.fates ∧ fate.isOver usage.fences = true

/-- The watermark is just below the least number that is outstanding, and else at the latest one. -/
structure Tight (usage : Usage) : Prop where
  least : ∀ frame, usage.Outstanding frame →
    (∀ other, usage.Outstanding other → frame ≤ other) → usage.progress.completed + 1 = frame
  all : (∀ frame, ¬usage.Outstanding frame) →
    usage.progress.completed = usage.progress.lastIssued

/-! ## One call -/

variable {usage : Usage}

/-- The record and the book-keeping agree on what is outstanding. -/
structure Sound (usage : Usage) : Prop where
  bounded : usage.progress.Bounded
  ordered : usage.progress.Ordered
  accounted : usage.fates.map Prod.fst ++ usage.opened.toList = usage.returned
  numbers : usage.returned = List.range' 1 usage.progress.lastIssued
  recording : usage.progress.recording = usage.opened
  known : ∀ entry ∈ usage.progress.inFlight, (entry.1, Fate.fenced entry.2) ∈ usage.fates
  tracked : ∀ frame fence, (frame, Fate.fenced fence) ∈ usage.fates →
    usage.fences.isPending fence = true → (frame, fence) ∈ usage.progress.inFlight

namespace Sound

theorem new (fences : Fences) : (Usage.new fences).Sound where
  bounded := .initial
  ordered := .initial
  accounted := rfl
  numbers := rfl
  recording := rfl
  known := by simp [Usage.new, Progress.initial]
  tracked := by simp [Usage.new]

/-- Numbers that are open or in flight are the outstanding ones, apart from settled fences. -/
theorem outstanding (sound : usage.Sound) {frame : FrameSeq} (outstanding : usage.Outstanding frame) :
    usage.progress.recording = some frame ∨ ∃ fence, (frame, fence) ∈ usage.progress.inFlight := by
  rcases outstanding with opened | ⟨fence, fated, waits⟩
  · exact .inl (sound.recording.trans opened)
  · exact .inr ⟨fence, sound.tracked frame fence fated waits⟩

/-- The watermark is below every number that is outstanding. -/
theorem completed_lt (sound : usage.Sound) {frame : FrameSeq}
    (outstanding : usage.Outstanding frame) : usage.progress.completed < frame := by
  rcases sound.outstanding outstanding with recording | ⟨fence, flies⟩
  · exact (sound.ordered.recording frame recording).1
  · exact sound.ordered.completed _ flies

theorem begin (sound : usage.Sound) (closed : usage.opened = none)
    (room : usage.progress.lastIssued + 1 < FrameSeq.last) : (usage.step .begin).Sound := by
  have next : usage.progress.begin.lastIssued = usage.progress.lastIssued + 1 :=
    Nat.min_eq_left (Nat.le_of_lt room)
  refine ⟨sound.bounded.begin, sound.ordered.begin sound.bounded (by rwa [next]), ?_, ?_, rfl,
    sound.known, sound.tracked⟩
  · have accounted := sound.accounted
    rw [closed] at accounted
    simp only [step, Option.toList, ← accounted, List.append_nil]
  · simp only [step, next, List.range'_concat, ← sound.numbers, Nat.one_mul, Nat.add_comm]

theorem closed (sound : usage.Sound) (fate : Fate) :
    (usage.close fate).fates.map Prod.fst ++ (usage.close fate).opened.toList = usage.returned := by
  rw [← sound.accounted]
  cases opened : usage.opened <;> simp [close, opened]

theorem submittedFenced (sound : usage.Sound) {frame : FrameSeq} (opened : usage.opened = some frame)
    (fence : Fence) : (usage.step (.submitted frame (some fence))).Sound := by
  have recorded := sound.recording.trans opened
  have joined := Progress.submitted_inFlight recorded fence
  have fates : (usage.step (.submitted frame (some fence))).fates =
      usage.fates ++ [(frame, .fenced fence)] := by
    simp [step, close, opened]
  refine ⟨sound.bounded.submitted recorded (some fence), sound.ordered.submitted recorded (some fence),
    sound.closed _, ?_, Progress.submitted_recording recorded (some fence), ?_, ?_⟩
  · exact sound.numbers.trans (by simp [step, close])
  · intro entry flies
    rw [fates]
    rcases List.mem_append.mp (joined ▸ flies : entry ∈ _ ++ _) with before | new
    · exact List.mem_append_left _ (sound.known entry before)
    · rw [List.mem_singleton.mp new]
      exact List.mem_append_right _ (List.mem_singleton.mpr rfl)
  · intro other name fated waits
    rw [fates] at fated
    refine (joined ▸ ?_ : (other, name) ∈ (usage.progress.submitted frame (some fence)).inFlight)
    rcases List.mem_append.mp fated with before | new
    · exact List.mem_append_left _ (sound.tracked other name before waits)
    · cases List.mem_singleton.mp new
      exact List.mem_append_right _ (List.mem_singleton.mpr rfl)

/-- On a drained GPU nothing is tracked, and nothing has to be. -/
theorem untracked (drained : usage.Drained) {frame : FrameSeq} {fence : Fence}
    (fated : (frame, Fate.fenced fence) ∈ usage.fates)
    (waits : usage.fences.isPending fence = true) : False := by
  have ended := drained _ fated
  simp [Fate.isOver, waits] at ended

theorem submittedDrained (sound : usage.Sound) {frame : FrameSeq} (opened : usage.opened = some frame)
    (drained : usage.Drained) : (usage.step (.submitted frame none)).Sound := by
  have recorded := sound.recording.trans opened
  have emptied : (usage.progress.submitted frame none).inFlight = [] :=
    Progress.drained_inFlight _ _
  refine ⟨sound.bounded.submitted recorded none, sound.ordered.submitted recorded none,
    sound.closed _, ?_, Progress.submitted_recording recorded none, ?_, ?_⟩
  · exact sound.numbers.trans (by simp [step, close])
  · intro entry flies
    cases (emptied ▸ flies : entry ∈ [])
  · intro other name fated waits
    have before : (other, Fate.fenced name) ∈ usage.fates := by
      simpa [step, close, opened] using fated
    exact (untracked drained before waits).elim

theorem abandon (sound : usage.Sound) : (usage.step .abandon).Sound := by
  refine ⟨sound.bounded.abandon, sound.ordered.abandon, sound.closed _, sound.numbers, rfl, ?_, ?_⟩
  · exact fun entry flies => List.mem_append_left _ (sound.known entry flies)
  · intro frame fence fated waits
    rcases List.mem_append.mp fated with before | new
    · exact sound.tracked frame fence before waits
    · obtain ⟨_, -, same⟩ := List.mem_map.mp new
      cases same

theorem poll (sound : usage.Sound) : (usage.step .poll).Sound := by
  refine ⟨sound.bounded.poll _, sound.ordered.poll _, sound.accounted, sound.numbers,
    sound.recording, ?_, ?_⟩
  · exact fun entry flies => sound.known entry ((List.dropWhile_suffix _).subset flies)
  · intro frame fence fated waits
    exact mem_dropWhile (sound.tracked frame fence fated waits)
      (congrArg Bool.not waits)

theorem markIdle (sound : usage.Sound) (drained : usage.Drained) :
    (usage.step .markIdle).Sound := by
  refine ⟨sound.bounded.markIdle, sound.ordered.markIdle, sound.accounted, sound.numbers,
    sound.recording, nofun, ?_⟩
  intro frame fence fated waits
  exact (untracked drained fated waits).elim

theorem elapse (sound : usage.Sound) {fences : Fences}
    (settled : usage.Allows (.elapse fences)) : (usage.step (.elapse fences)).Sound := by
  refine ⟨sound.bounded, sound.ordered, sound.accounted, sound.numbers, sound.recording,
    sound.known, ?_⟩
  intro frame fence fated waits
  refine sound.tracked frame fence fated ?_
  by_contra unsettled
  have kept := settled fence (Bool.eq_false_iff.mpr unsettled)
  have still : usage.fences.isPending fence = true := by
    rw [Fences.isPending, ← kept]
    exact waits
  exact unsettled still

/-- An allowed call keeps the book-keeping sound as long as there are numbers left. -/
theorem step (sound : usage.Sound) {use : Use} (allowed : usage.Allows use)
    (room : (usage.step use).returned.length < FrameSeq.last) : (usage.step use).Sound := by
  cases use with
  | begin =>
      refine sound.begin allowed ?_
      have counted : usage.returned.length = usage.progress.lastIssued := by
        rw [sound.numbers, List.length_range']
      simpa [Usage.step, counted] using room
  | submitted frame fence =>
      obtain ⟨opened, drained⟩ := allowed
      cases fence with
      | none => exact sound.submittedDrained opened (drained rfl)
      | some fence => exact sound.submittedFenced opened fence
  | abandon => exact sound.abandon
  | poll => exact sound.poll
  | markIdle => exact sound.markIdle allowed
  | elapse => exact sound.elapse allowed

theorem handed (sound : usage.Sound) {frame : FrameSeq} (positive : 1 ≤ frame)
    (issued : frame ≤ usage.progress.lastIssued) : frame ∈ usage.returned := by
  rw [sound.numbers, List.mem_range'_1]
  exact ⟨positive, Nat.lt_one_add_iff.mpr issued⟩

/-- Nothing is left to do for a number up to the watermark. -/
theorem ended (sound : usage.Sound) {frame : FrameSeq} (positive : 1 ≤ frame)
    (complete : frame ≤ usage.progress.completed) :
    ∃ fate, (frame, fate) ∈ usage.fates ∧ fate.isOver usage.fences = true := by
  have handed := sound.handed positive (Nat.le_trans complete sound.bounded.completed)
  have finished : ¬usage.Outstanding frame := fun outstanding =>
    absurd (sound.completed_lt outstanding) (Nat.not_lt.mpr complete)
  rw [← sound.accounted] at handed
  rcases List.mem_append.mp handed with closed | opened
  · obtain ⟨⟨_, fate⟩, fated, rfl⟩ := List.mem_map.mp closed
    refine ⟨fate, fated, ?_⟩
    cases fate with
    | abandoned | drained => rfl
    | fenced fence =>
        have settled : usage.fences.isPending fence = false := by
          by_contra waits
          exact finished (.inr ⟨fence, fated, by simpa using waits⟩)
        simp [Fate.isOver, settled]
  · exact (finished (.inl (Option.mem_toList.mp opened))).elim

theorem exact (sound : usage.Sound) : usage.Exact where
  accounted := sound.accounted
  completed := sound.bounded.completed
  recording := sound.recording
  increasing := sound.ordered.increasing
  unfinished := sound.ordered.completed
  newest := sound.ordered.recording
  sound := by
    intro frame positive complete
    have below : frame ≤ usage.progress.completed := by simpa [Progress.isComplete] using complete
    refine ⟨sound.handed positive (Nat.le_trans below sound.bounded.completed),
      fun recording => ?_, fun earlier first before =>
        sound.ended first (Nat.le_trans before below)⟩
    exact absurd (sound.ordered.recording frame recording).1 (Nat.not_lt.mpr below)

/-- A poll leaves a pending fence at the front of the queue, if it leaves any, so that the queue
allows just what the outstanding numbers allow. -/
theorem poll_watermark (sound : usage.Sound) :
    (∃ frame, (usage.step .poll).Outstanding frame ∧
      (usage.step .poll).progress.watermark = frame - 1) ∨
    ((∀ frame, ¬(usage.step .poll).Outstanding frame) ∧
      (usage.step .poll).progress.watermark = (usage.step .poll).progress.lastIssued) := by
  have polled := sound.poll
  cases queue : (usage.step .poll).progress.inFlight with
  | cons oldest younger =>
      have waits : usage.fences.isPending oldest.2 = true := by
        have front := List.head?_dropWhile_not (fun entry => !usage.fences.isPending entry.2)
          usage.progress.inFlight
        rw [show usage.progress.inFlight.dropWhile _ = oldest :: younger from queue] at front
        simpa using front
      refine .inl ⟨oldest.1, .inr ⟨oldest.2, polled.known oldest ?_, waits⟩, ?_⟩
      · rw [queue]
        exact List.mem_cons_self
      · simp [Progress.watermark, queue]
  | nil =>
      cases recorded : (usage.step .poll).progress.recording with
      | some frame =>
          refine .inl ⟨frame, .inl (polled.recording.symm.trans recorded), ?_⟩
          simp [Progress.watermark, queue, recorded]
      | none =>
          refine .inr ⟨fun frame outstanding => ?_, by simp [Progress.watermark, queue, recorded]⟩
          rcases polled.outstanding outstanding with recording | ⟨fence, flies⟩
          · cases recorded.symm.trans recording
          · rw [queue] at flies
            cases flies

theorem tight (sound : usage.Sound) : (usage.step .poll).Tight := by
  have polled := sound.poll
  have raised : (usage.step .poll).progress.watermark ≤ (usage.step .poll).progress.completed :=
    Nat.le_max_right _ _
  rcases sound.poll_watermark with ⟨oldest, waits, mark⟩ | ⟨nothing, mark⟩
  · refine ⟨fun frame outstanding least => ?_, fun nothing => (nothing oldest waits).elim⟩
    have below : (usage.step .poll).progress.completed < frame := polled.completed_lt outstanding
    have first : frame ≤ oldest := least oldest waits
    rw [mark] at raised
    exact Nat.le_antisymm below (Nat.le_trans first (Nat.sub_le_iff_le_add.mp raised))
  · rw [mark] at raised
    exact ⟨fun frame outstanding => (nothing frame outstanding).elim,
      fun _ => Nat.le_antisymm polled.bounded.completed raised⟩

end Sound

/-! ## Whole runs -/

theorem run_append (usage : Usage) (uses later : List Use) :
    usage.run (uses ++ later) = (usage.run uses).run later :=
  List.foldl_append

theorem lawful_append {uses later : List Use} :
    usage.Lawful (uses ++ later) ↔ usage.Lawful uses ∧ (usage.run uses).Lawful later := by
  induction uses generalizing usage with
  | nil => exact ⟨fun lawful => ⟨trivial, lawful⟩, And.right⟩
  | cons use rest ih =>
      rw [List.cons_append, Lawful, Lawful, ih, and_assoc]
      rfl

theorem step_returned (usage : Usage) (use : Use) :
    (usage.step use).returned.length = usage.returned.length + [use].countP Use.isBegin := by
  cases use <;> simp [step, close, Use.isBegin]

theorem run_returned (usage : Usage) (uses : List Use) :
    (usage.run uses).returned.length = usage.returned.length + uses.countP Use.isBegin := by
  induction uses generalizing usage with
  | nil => rfl
  | cons use rest ih =>
      rw [run, List.foldl_cons]
      refine (ih (usage.step use)).trans ?_
      rw [step_returned, Nat.add_assoc, ← List.countP_append]
      rfl

theorem Sound.run (sound : usage.Sound) {uses : List Use} (lawful : usage.Lawful uses)
    (few : (usage.run uses).returned.length < FrameSeq.last) : (usage.run uses).Sound := by
  induction uses generalizing usage with
  | nil => exact sound
  | cons use rest ih =>
      obtain ⟨allowed, lawful⟩ := lawful
      refine ih (sound.step allowed ?_) lawful few
      refine Nat.lt_of_le_of_lt ?_ few
      rw [show usage.run (use :: rest) = (usage.step use).run rest from rfl, run_returned]
      exact Nat.le_add_right _ _

/-- No call lowers the watermark. -/
theorem step_completed (usage : Usage) (use : Use) :
    usage.progress.completed ≤ (usage.step use).progress.completed := by
  cases use with
  | begin | abandon | elapse => exact Nat.le_refl _
  | poll | markIdle => exact Nat.le_max_left _ _
  | submitted frame fence => exact usage.progress.completed_le_submitted frame fence

theorem run_completed (usage : Usage) (uses : List Use) :
    usage.progress.completed ≤ (usage.run uses).progress.completed := by
  induction uses generalizing usage with
  | nil => exact Nat.le_refl _
  | cons use rest ih => exact Nat.le_trans (usage.step_completed use) (ih (usage.step use))

/-- While the numbers last, they are handed out in turn from 1, the watermark never sinks, and it is
exact: sound at all times, and as high as it can be right after a poll. -/
theorem run_exact (fences : Fences) (uses : List Use) (lawful : (new fences).Lawful uses)
    (few : uses.countP Use.isBegin < FrameSeq.last) :
    ((new fences).run uses).returned = List.range' 1 (uses.countP Use.isBegin) ∧
    ((new fences).run uses).Exact ∧
    (∀ earlier, earlier <+: uses →
      ((new fences).run earlier).progress.completed ≤ ((new fences).run uses).progress.completed) ∧
    ∀ earlier, earlier ++ [.poll] <+: uses → ((new fences).run (earlier ++ [.poll])).Tight := by
  have counted : ((new fences).run uses).returned.length = uses.countP Use.isBegin := by
    rw [run_returned]
    exact Nat.zero_add _
  have sound := (Sound.new fences).run lawful (by rwa [counted])
  refine ⟨?_, sound.exact, ?_, ?_⟩
  · rw [← counted]
    have numbers := sound.numbers
    rw [numbers, List.length_range']
  · rintro earlier ⟨later, rfl⟩
    rw [run_append]
    exact run_completed _ later
  · rintro earlier ⟨later, rfl⟩
    have before := (lawful_append.mp (lawful_append.mp lawful).1).1
    rw [run_append]
    refine ((Sound.new fences).run before ?_).tight
    refine Nat.lt_of_le_of_lt ?_ few
    rw [run_returned, List.countP_append, List.countP_append, Nat.add_assoc]
    exact Nat.le_trans (Nat.le_of_eq (Nat.zero_add _)) (Nat.le_add_right _ _)

/-- Two submissions settle in reverse order, the older one with an error; the third is abandoned,
the fourth drained, and the fifth is still being recorded. -/
def reversed : List Use :=
  [.begin, .submitted 1 (some ⟨0⟩), .begin, .submitted 2 (some ⟨1⟩),
    .elapse ⟨#[⟨.pending, .device⟩, ⟨.signaled, .device⟩]⟩, .poll, .begin, .abandon,
    .elapse ⟨#[⟨.error, .device⟩, ⟨.signaled, .device⟩]⟩, .begin, .submitted 4 none, .begin, .poll]

theorem run_reversed_exact :
    ((new .empty).Lawful reversed ∧ reversed.countP Use.isBegin < FrameSeq.last ∧
      ((new .empty).run reversed).progress.completed = 4) ∧
    ((new .empty).run reversed).returned = List.range' 1 (reversed.countP Use.isBegin) ∧
    ((new .empty).run reversed).Exact ∧
    (∀ earlier, earlier <+: reversed →
      ((new .empty).run earlier).progress.completed ≤
        ((new .empty).run reversed).progress.completed) ∧
    ∀ earlier, earlier ++ [.poll] <+: reversed →
      ((new .empty).run (earlier ++ [.poll])).Tight := by
  have lawful : (new .empty).Lawful reversed := by
    refine ⟨rfl, ⟨by decide, nofun⟩, rfl, ⟨by decide, nofun⟩, ?_, trivial, rfl, trivial, ?_, rfl,
      ⟨by decide, fun _ => by unfold Drained; decide⟩, rfl, trivial, trivial⟩
    · intro fence settled
      cases settled
    · rintro ⟨_ | _ | index⟩ settled
      · cases settled
      · rfl
      · cases settled
  have few : reversed.countP Use.isBegin < FrameSeq.last := by decide
  exact ⟨⟨lawful, few, by decide⟩, run_exact .empty reversed lawful few⟩

end Usage

end Compositor
