import Compositor.Proofs.Caches

/-!
# Custody of render targets

The output cache over a whole run, for any maker of targets. The entries stand in the order in which
they were made, which hits and marks leave alone, so the target that a full cache gives up is the
oldest of those still there. A target is never lost and never in two places: it is in the cache,
evicted, lent to one frame or handed back to the caller.
-/

set_option autoImplicit false

namespace Compositor

namespace OutputCache

/-- What makes a target on a miss; the state stands for everything that it can depend on. -/
abbrev Maker (state : Type) := state → Except EngineError Image × state

/-- The state of a maker, with its calls counted and the targets that it made, oldest first. -/
structure Workshop (state : Type) where
  current : state
  calls : Nat
  made : List Image

namespace Workshop

variable {state : Type}

def make (maker : Maker state) (workshop : Workshop state) :
    Except EngineError Image × Workshop state :=
  match maker workshop.current with
  | (.error error, current) => (.error error, ⟨current, workshop.calls + 1, workshop.made⟩)
  | (.ok image, current) => (.ok image, ⟨current, workshop.calls + 1, workshop.made ++ [image]⟩)

variable {maker : Maker state} {workshop : Workshop state} {current : state}

theorem make_error {error : EngineError} (made : maker workshop.current = (.error error, current)) :
    make maker workshop = (.error error, ⟨current, workshop.calls + 1, workshop.made⟩) := by
  rw [make, made]

theorem make_ok {image : Image} (made : maker workshop.current = (.ok image, current)) :
    make maker workshop =
      (.ok image, ⟨current, workshop.calls + 1, workshop.made ++ [image]⟩) := by
  rw [make, made]

end Workshop

inductive Use (state : Type) where
  | request (buffer : BufferId) (mode : Mode) (maker : Maker state)
  | invalidate (buffer : BufferId)
  | markUsed (buffer : BufferId) (frame : FrameSeq)
  | drain

/-- The target that a request leaves to the frame that asked. -/
def Outcome.lent {state : Type} (outcome : Outcome state) : List Image :=
  match outcome.slot with
  | .error _ => []
  | .ok slot => slot.owned

/-- A cache in use, with everything that left it. -/
structure Custody (state : Type) where
  cache : OutputCache
  workshop : Workshop state
  evicted : List Image
  lent : List Image
  /-- What the caller took out by an invalidation or by draining the cache. -/
  returned : List Image

namespace Custody

variable {state : Type}

def start (capacity : Nat) (initial : state) : Custody state :=
  ⟨.empty capacity, ⟨initial, 0, []⟩, [], [], []⟩

def request (custody : Custody state) (buffer : BufferId) (mode : Mode) (maker : Maker state) :
    Outcome (Workshop state) :=
  custody.cache.getOrCreate buffer mode (Workshop.make maker) custody.workshop

def step (custody : Custody state) : Use state → Custody state
  | .request buffer mode maker =>
    let outcome := custody.request buffer mode maker
    { custody with
      cache := outcome.cache
      workshop := outcome.state
      evicted := custody.evicted ++ outcome.evicted
      lent := custody.lent ++ outcome.lent }
  | .invalidate buffer =>
    let (removed, cache) := custody.cache.invalidate buffer
    { custody with cache, returned := custody.returned ++ removed.toList }
  | .markUsed buffer frame => { custody with cache := custody.cache.markUsed buffer frame }
  | .drain =>
    let (drained, cache) := custody.cache.drain
    { custody with cache, returned := custody.returned ++ drained }

def run (custody : Custody state) (uses : List (Use state)) : Custody state :=
  uses.foldl step custody

/-- A maker that is asked for a target fails or makes a new one, as it was asked to. -/
def Fair (custody : Custody state) : Use state → Prop
  | .request buffer mode maker =>
    ∀ image ∈ (maker custody.workshop.current).1.toOption,
      image.buffer = buffer ∧ image.mode = mode ∧
        image.handle ∉ custody.workshop.made.map (·.handle)
  | .invalidate _ => True
  | .markUsed _ _ => True
  | .drain => True

def AllFair (custody : Custody state) : List (Use state) → Prop
  | [] => True
  | use :: uses => custody.Fair use ∧ (custody.step use).AllFair uses

instance (custody : Custody state) : (use : Use state) → Decidable (custody.Fair use)
  | .request buffer mode maker =>
    inferInstanceAs (Decidable (∀ image ∈ (maker custody.workshop.current).1.toOption,
      image.buffer = buffer ∧ image.mode = mode ∧
        image.handle ∉ custody.workshop.made.map (·.handle)))
  | .invalidate _ => .isTrue trivial
  | .markUsed _ _ => .isTrue trivial
  | .drain => .isTrue trivial

instance decidableAllFair (custody : Custody state) :
    (uses : List (Use state)) → Decidable (custody.AllFair uses)
  | [] => .isTrue trivial
  | use :: uses =>
    have := decidableAllFair (custody.step use) uses
    inferInstanceAs (Decidable (custody.Fair use ∧ (custody.step use).AllFair uses))

/-- Every target that is somewhere. -/
def places (custody : Custody state) : List Image :=
  custody.cache.entries ++ custody.evicted ++ custody.lent ++ custody.returned

end Custody

/-! ## One request -/

/-- What a request gives, by what the cache holds and by what the maker does. -/
inductive Answer {state : Type} (cache : OutputCache) (buffer : BufferId) (mode : Mode)
    (maker : Maker state) (workshop : Workshop state) : Outcome (Workshop state) → Prop where
  | hit {image : Image} :
      image ∈ cache.entries → image.buffer = buffer → image.mode = mode →
      Answer cache buffer mode maker workshop ⟨.ok (.cached image.handle), [], cache, workshop⟩
  | failed {error : EngineError} {current : state} :
      (∀ image ∈ cache.entries, image.buffer = buffer → image.mode ≠ mode) →
      maker workshop.current = (.error error, current) →
      Answer cache buffer mode maker workshop
        ⟨.error error, cache.entries.filter (·.buffer = buffer),
          { cache with entries := cache.entries.filter (·.buffer ≠ buffer) },
          ⟨current, workshop.calls + 1, workshop.made⟩⟩
  /-- Without capacity there is nothing to evict either. -/
  | lent {image : Image} {current : state} :
      cache.capacity = 0 → cache.entries = [] →
      maker workshop.current = (.ok image, current) →
      Answer cache buffer mode maker workshop
        ⟨.ok (.transient image), [], cache,
          ⟨current, workshop.calls + 1, workshop.made ++ [image]⟩⟩
  | stored {image : Image} {current : state} :
      (∀ image ∈ cache.entries, image.buffer = buffer → image.mode ≠ mode) →
      (cache.entries.filter (·.buffer ≠ buffer)).length < cache.capacity →
      maker workshop.current = (.ok image, current) →
      Answer cache buffer mode maker workshop
        ⟨.ok (.cached image.handle), cache.entries.filter (·.buffer = buffer),
          { cache with entries := cache.entries.filter (·.buffer ≠ buffer) ++ [image] },
          ⟨current, workshop.calls + 1, workshop.made ++ [image]⟩⟩
  | overflowed {image oldest : Image} {younger : List Image} {current : state} :
      buffer ∉ cache.ids →
      cache.entries = oldest :: younger → cache.entries.length = cache.capacity →
      maker workshop.current = (.ok image, current) →
      Answer cache buffer mode maker workshop
        ⟨.ok (.cached image.handle), [oldest], { cache with entries := younger ++ [image] },
          ⟨current, workshop.calls + 1, workshop.made ++ [image]⟩⟩

/-- At most one entry is for a given buffer. -/
theorem find?_toList {images : List Image} (distinct : (images.map (·.buffer)).Nodup)
    (buffer : BufferId) :
    (images.find? (·.buffer == buffer)).toList = images.filter (·.buffer = buffer) := by
  induction images with
  | nil => rfl
  | cons image images ih =>
      rw [List.map_cons, List.nodup_cons] at distinct
      by_cases same : image.buffer = buffer
      · have others : images.filter (·.buffer = buffer) = [] := by
          rw [List.filter_eq_nil_iff]
          intro other member equal
          exact distinct.1
            (List.mem_map.mpr ⟨other, member, (of_decide_eq_true equal).trans same.symm⟩)
        rw [List.find?_cons_of_pos (by simpa using same),
          List.filter_cons_of_pos (by simpa using same), others]
        rfl
      · rw [List.find?_cons_of_neg (by simpa using same),
          List.filter_cons_of_neg (by simpa using same)]
        exact ih distinct.2

theorem eraseP_eq_filter {images : List Image} (distinct : (images.map (·.buffer)).Nodup)
    (buffer : BufferId) :
    images.eraseP (·.buffer == buffer) = images.filter (·.buffer ≠ buffer) := by
  induction images with
  | nil => rfl
  | cons image images ih =>
      rw [List.map_cons, List.nodup_cons] at distinct
      by_cases same : image.buffer = buffer
      · have others : images.filter (·.buffer ≠ buffer) = images := by
          rw [List.filter_eq_self]
          intro other member
          refine decide_eq_true fun equal => distinct.1 ?_
          exact List.mem_map.mpr ⟨other, member, equal.trans same.symm⟩
        rw [List.eraseP_cons_of_pos (by simpa using same),
          List.filter_cons_of_neg (by simpa using same), others]
      · rw [List.eraseP_cons_of_neg (by simpa using same),
          List.filter_cons_of_pos (by simpa using same), ih distinct.2]

section Requests

variable {cache : OutputCache} {buffer : BufferId} {mode : Mode}

theorem invalidate_toList (distinct : cache.ids.Nodup) (buffer : BufferId) :
    (cache.invalidate buffer).1.toList = cache.entries.filter (·.buffer = buffer) :=
  find?_toList distinct buffer

theorem invalidate_cache (distinct : cache.ids.Nodup) (buffer : BufferId) :
    (cache.invalidate buffer).2 =
      { cache with entries := cache.entries.filter (·.buffer ≠ buffer) } := by
  rw [invalidate, eraseP_eq_filter distinct]

theorem hit?_none (distinct : cache.ids.Nodup) (missed : cache.hit? buffer mode = none) :
    ∀ image ∈ cache.entries, image.buffer = buffer → image.mode ≠ mode := by
  intro image member same right
  have found : image ∈ (cache.find? buffer).toList := by
    rw [find?, find?_toList distinct]
    exact List.mem_filter.mpr ⟨member, decide_eq_true same⟩
  rw [hit?, Option.mem_toList.mp found, Option.filter_some_pos (by simpa using right)] at missed
  cases missed

/-- A new target that fits evicts nothing. -/
theorem insert_of_room {image : Image} (room : cache.entries.length < cache.capacity) :
    cache.insert image = ([], { cache with entries := cache.entries ++ [image] }) := by
  have none : (cache.entries ++ [image]).length - cache.capacity = 0 := by
    rw [List.length_append, List.length_singleton]
    omega
  simp only [insert, excess, none, List.take_zero, List.drop_zero]

/-- A new target in a full cache takes the place of the oldest one. -/
theorem insert_of_full {image oldest : Image} {younger : List Image}
    (content : cache.entries = oldest :: younger)
    (full : cache.entries.length = cache.capacity) :
    cache.insert image = ([oldest], { cache with entries := younger ++ [image] }) := by
  have one : (oldest :: younger ++ [image]).length - cache.capacity = 1 := by
    rw [← content, List.length_append, List.length_singleton]
    omega
  simp only [insert, excess, content, one]
  rfl

theorem getOrCreate_answer {state : Type} (distinct : cache.ids.Nodup)
    (bounded : cache.entries.length ≤ cache.capacity) (buffer : BufferId) (mode : Mode)
    (maker : Maker state) (workshop : Workshop state) :
    Answer cache buffer mode maker workshop
      (cache.getOrCreate buffer mode (Workshop.make maker) workshop) := by
  cases looked : cache.hit? buffer mode with
  | some image =>
      obtain ⟨stored, same, right⟩ := hit?_some looked
      rw [getOrCreate_hit looked]
      exact .hit stored same right
  | none =>
      have missed := hit?_none distinct looked
      have fewer : (cache.entries.filter (·.buffer ≠ buffer)).length ≤ cache.entries.length :=
        List.length_filter_le _ _
      rcases made : maker workshop.current with ⟨error | image, current⟩
      · have outcome := Workshop.make_error made
        rw [getOrCreate_refused looked outcome, invalidate_toList distinct,
          invalidate_cache distinct]
        exact .failed missed made
      · have outcome := Workshop.make_ok made
        by_cases nothing : cache.capacity = 0
        · have vacant : cache.entries = [] := List.length_eq_zero_iff.mp (by omega)
          rw [getOrCreate_transient looked outcome nothing]
          obtain ⟨capacity, entries⟩ := cache
          obtain rfl : entries = [] := vacant
          exact .lent nothing rfl made
        · rw [getOrCreate_cached looked outcome nothing, invalidate_toList distinct,
            invalidate_cache distinct]
          by_cases room :
              (cache.entries.filter (·.buffer ≠ buffer)).length < cache.capacity
          · rw [insert_of_room room, List.append_nil]
            exact .stored missed room made
          · have full : cache.entries.length = cache.capacity := by omega
            have all : cache.entries.filter (·.buffer ≠ buffer) = cache.entries :=
              List.filter_sublist.eq_of_length (by omega)
            have absent : ∀ image ∈ cache.entries, image.buffer ≠ buffer := by
              simpa using List.filter_eq_self.mp all
            have stale : cache.entries.filter (·.buffer = buffer) = [] := by
              rw [List.filter_eq_nil_iff]
              simpa using absent
            obtain ⟨oldest, younger, content⟩ := List.exists_cons_of_length_pos
              (by omega : 0 < cache.entries.length)
            rw [all, stale, insert_of_full content full]
            refine .overflowed ?_ content full made
            intro listed
            obtain ⟨image, member, same⟩ := List.mem_map.mp listed
            exact absent image member same

variable {state : Type} {maker : Maker state} {workshop : Workshop state}
  {outcome : Outcome (Workshop state)}

theorem Answer.capacity (answer : Answer cache buffer mode maker workshop outcome) :
    outcome.cache.capacity = cache.capacity := by
  cases answer <;> rfl

theorem Answer.bounded (answer : Answer cache buffer mode maker workshop outcome)
    (bounded : cache.entries.length ≤ cache.capacity) :
    outcome.cache.entries.length ≤ cache.capacity := by
  cases answer with
  | hit => exact bounded
  | failed => exact Nat.le_trans (List.length_filter_le _ _) bounded
  | lent => exact bounded
  | stored _ room =>
      rw [List.length_append, List.length_singleton]
      exact room
  | overflowed _ content full =>
      rw [content, List.length_cons] at full
      rw [List.length_append, List.length_singleton]
      exact Nat.le_of_eq full

theorem Answer.distinct (answer : Answer cache buffer mode maker workshop outcome)
    (distinct : cache.ids.Nodup)
    (suited : ∀ image, (maker workshop.current).1 = .ok image → image.buffer = buffer) :
    outcome.cache.ids.Nodup := by
  cases answer with
  | hit => exact distinct
  | failed => exact distinct.sublist (List.filter_sublist.map _)
  | lent => exact distinct
  | stored _ _ made =>
      refine buffers_nodup_append (distinct.sublist (List.filter_sublist.map _)) ?_
      rw [suited _ (congrArg Prod.fst made)]
      intro other member
      exact of_decide_eq_true (List.mem_filter.mp member).2
  | overflowed absent content _ made =>
      rw [ids, content, List.map_cons] at distinct absent
      refine buffers_nodup_append (List.nodup_cons.mp distinct).2 ?_
      rw [suited _ (congrArg Prod.fst made)]
      intro other member equal
      exact absent (List.mem_cons_of_mem _ (List.mem_map.mpr ⟨other, member, equal⟩))

/-- A request adds at most the one target that it had made, and puts everything in some place. -/
theorem Answer.accounts (answer : Answer cache buffer mode maker workshop outcome) :
    ∃ new : Option Image, (∀ image ∈ new, (maker workshop.current).1 = .ok image) ∧
      outcome.state.made = workshop.made ++ new.toList ∧
      outcome.cache.entries.Sublist (cache.entries ++ new.toList) ∧
      (outcome.cache.entries ++ outcome.evicted ++ outcome.lent).Perm
        (cache.entries ++ new.toList) := by
  have parted : (cache.entries.filter (·.buffer ≠ buffer) ++
      cache.entries.filter (·.buffer = buffer)).Perm cache.entries := by
    have parts := List.filter_append_perm (fun image : Image => decide (image.buffer ≠ buffer))
      cache.entries
    simpa using parts
  cases answer with
  | hit =>
      exact ⟨none, nofun, by simp, by simp, by simp [Outcome.lent, OutputSlot.owned]⟩
  | failed _ made =>
      refine ⟨none, nofun, by simp, by simp [List.filter_sublist], ?_⟩
      rw [Outcome.lent, List.append_nil, Option.toList_none, List.append_nil]
      exact parted
  | @lent image _ _ vacant made =>
      refine ⟨some image, ?_, rfl, by simp, by simp [vacant, Outcome.lent, OutputSlot.owned]⟩
      rintro _ ⟨⟩
      exact congrArg Prod.fst made
  | @stored image _ _ _ made =>
      refine ⟨some image, ?_, rfl, List.filter_sublist.append_right _, ?_⟩
      · rintro _ ⟨⟩
        exact congrArg Prod.fst made
      · simp only [Outcome.lent, OutputSlot.owned]
        rw [List.append_nil, List.append_assoc]
        exact (List.perm_append_comm.append_left _).trans
          ((List.append_assoc _ _ _).symm ▸ parted.append_right _)
  | @overflowed image oldest younger _ _ content _ made =>
      refine ⟨some image, ?_, rfl, ?_, ?_⟩
      · rintro _ ⟨⟩
        exact congrArg Prod.fst made
      · rw [content]
        exact (List.sublist_cons_self _ _).append_right _
      · simp only [Outcome.lent, OutputSlot.owned]
        rw [List.append_nil, content]
        exact List.perm_append_singleton oldest (younger ++ [image])

end Requests

/-! ## Whole runs -/

namespace Custody

variable {state : Type} {custody : Custody state} {capacity : Nat}

/-- What holds of a cache of some capacity however it is used. -/
structure Orderly (capacity : Nat) (custody : Custody state) : Prop where
  sized : custody.cache.capacity = capacity
  distinct : custody.cache.ids.Nodup
  bounded : custody.cache.entries.length ≤ capacity
  /-- The entries stand in the order in which they were made. -/
  ordered :
    (custody.cache.entries.map Image.asLive).Sublist (custody.workshop.made.map Image.asLive)
  /-- Each target that was made is in one place, and nothing else is. -/
  placed :
    (custody.places.map Image.asLive).Perm (custody.workshop.made.map Image.asLive)
  fresh : (custody.workshop.made.map (·.handle)).Nodup

theorem Orderly.start (capacity : Nat) (initial : state) :
    Orderly capacity (.start capacity initial) :=
  ⟨rfl, .nil, Nat.zero_le _, .slnil, .nil, .nil⟩

theorem Orderly.fits (orderly : Orderly capacity custody) :
    custody.cache.entries.length ≤ custody.cache.capacity := by
  rw [orderly.sized]
  exact orderly.bounded

theorem Orderly.answer (orderly : Orderly capacity custody) (buffer : BufferId) (mode : Mode)
    (maker : Maker state) :
    Answer custody.cache buffer mode maker custody.workshop
      (custody.request buffer mode maker) :=
  getOrCreate_answer orderly.distinct orderly.fits buffer mode maker
    custody.workshop

/-- Marking a target as used changes neither which targets there are nor their order. -/
theorem markUsed_asLive (cache : OutputCache) (buffer : BufferId) (frame : FrameSeq) :
    (cache.markUsed buffer frame).entries.map Image.asLive = cache.entries.map Image.asLive :=
  Image.map_asLive_of_marked (cache.markUsed_marked buffer frame)

private theorem Fair.made {buffer : BufferId} {mode : Mode} {maker : Maker state} {image : Image}
    (fair : custody.Fair (.request buffer mode maker))
    (made : (maker custody.workshop.current).1 = .ok image) :
    image.buffer = buffer ∧ image.mode = mode ∧
      image.handle ∉ custody.workshop.made.map (·.handle) :=
  fair image (by rw [made]; rfl)

/-- Targets that leave one place arrive at another, and new ones are made. -/
theorem Orderly.placed_of (orderly : Orderly capacity custody) {after : Custody state}
    (new out away back : List Image)
    (moved : ((after.cache.entries ++ out ++ away ++ back).map Image.asLive).Perm
      ((custody.cache.entries ++ new).map Image.asLive))
    (evicted : after.evicted = custody.evicted ++ out) (lent : after.lent = custody.lent ++ away)
    (returned : after.returned = custody.returned ++ back)
    (made : after.workshop.made = custody.workshop.made ++ new) :
    (after.places.map Image.asLive).Perm (after.workshop.made.map Image.asLive) := by
  have placed := orderly.placed
  rw [List.perm_iff_count] at moved placed ⊢
  intro image
  have here := moved image
  have there := placed image
  simp only [places, evicted, lent, returned, made, List.map_append, List.count_append]
    at here there ⊢
  omega

theorem Orderly.ordered_of (orderly : Orderly capacity custody) {after : Custody state}
    (new : List Image)
    (kept : (after.cache.entries.map Image.asLive).Sublist
      ((custody.cache.entries ++ new).map Image.asLive))
    (made : after.workshop.made = custody.workshop.made ++ new) :
    (after.cache.entries.map Image.asLive).Sublist (after.workshop.made.map Image.asLive) := by
  rw [List.map_append] at kept
  rw [made, List.map_append]
  exact kept.trans (orderly.ordered.append_right _)

theorem Orderly.request (orderly : Orderly capacity custody) {buffer : BufferId} {mode : Mode}
    {maker : Maker state} (fair : custody.Fair (.request buffer mode maker)) :
    Orderly capacity (custody.step (.request buffer mode maker)) := by
  have answer := orderly.answer buffer mode maker
  obtain ⟨new, made, listed, kept, moved⟩ := answer.accounts
  refine ⟨answer.capacity.trans orderly.sized, ?_, ?_, ?_, ?_, ?_⟩
  · exact answer.distinct orderly.distinct fun image given => (fair.made given).1
  · exact Nat.le_trans (answer.bounded orderly.fits) (Nat.le_of_eq orderly.sized)
  · exact orderly.ordered_of _ (kept.map _) listed
  · refine orderly.placed_of _ _ _ [] ?_ rfl rfl (List.append_nil _).symm listed
    rw [List.append_nil]
    exact moved.map _
  · simp only [Custody.step, listed]
    cases new with
    | none => simpa using orderly.fresh
    | some image =>
        have absent := (fair.made (made image rfl)).2.2
        rw [List.map_append, List.nodup_append]
        refine ⟨orderly.fresh, List.nodup_singleton _, fun handle member other single equal => ?_⟩
        rw [equal, List.mem_singleton.mp single] at member
        exact absent member

theorem Orderly.invalidate (orderly : Orderly capacity custody) (buffer : BufferId) :
    Orderly capacity (custody.step (.invalidate buffer)) := by
  have fewer := custody.cache.invalidate_sublist buffer
  refine ⟨orderly.sized, orderly.distinct.sublist (fewer.map _),
    Nat.le_trans fewer.length_le orderly.bounded, ?_, ?_, orderly.fresh⟩
  · refine orderly.ordered_of [] ?_ (List.append_nil _).symm
    rw [List.append_nil]
    exact fewer.map _
  · refine orderly.placed_of [] [] [] _ ?_ (List.append_nil _).symm
      (List.append_nil _).symm rfl (List.append_nil _).symm
    rw [List.append_nil, List.append_nil, List.append_nil]
    exact (List.perm_append_comm.trans (custody.cache.invalidate_perm buffer)).map _

theorem Orderly.markUsed (orderly : Orderly capacity custody) (buffer : BufferId)
    (frame : FrameSeq) : Orderly capacity (custody.step (.markUsed buffer frame)) := by
  have same := markUsed_asLive custody.cache buffer frame
  have buffers : (custody.cache.markUsed buffer frame).ids = custody.cache.ids := by
    simpa [ids, Image.asLive, Function.comp_def] using congrArg (List.map LiveImage.buffer) same
  refine ⟨orderly.sized, ?_, ?_, ?_, ?_, orderly.fresh⟩
  · simp only [Custody.step, buffers]
    exact orderly.distinct
  · have long := congrArg List.length same
    rw [List.length_map, List.length_map] at long
    simp only [Custody.step, long]
    exact orderly.bounded
  · refine orderly.ordered_of [] ?_ (List.append_nil _).symm
    rw [List.append_nil]
    exact same ▸ .refl _
  · refine orderly.placed_of [] [] [] [] ?_
      (List.append_nil _).symm (List.append_nil _).symm (List.append_nil _).symm
      (List.append_nil _).symm
    rw [List.append_nil, List.append_nil, List.append_nil, List.append_nil]
    exact same ▸ .refl _

theorem Orderly.drain (orderly : Orderly capacity custody) :
    Orderly capacity (custody.step .drain) := by
  refine ⟨orderly.sized, .nil, Nat.zero_le _, List.nil_sublist _, ?_, orderly.fresh⟩
  refine orderly.placed_of [] [] [] _ ?_ (List.append_nil _).symm
    (List.append_nil _).symm rfl (List.append_nil _).symm
  rw [List.append_nil, List.append_nil, List.append_nil]
  exact .refl _

theorem Orderly.step (orderly : Orderly capacity custody) {use : Use state}
    (fair : custody.Fair use) : Orderly capacity (custody.step use) := by
  cases use with
  | request => exact orderly.request fair
  | invalidate buffer => exact orderly.invalidate buffer
  | markUsed buffer frame => exact orderly.markUsed buffer frame
  | drain => exact orderly.drain

theorem Orderly.run {uses : List (Use state)} (orderly : Orderly capacity custody)
    (fair : custody.AllFair uses) : Orderly capacity (custody.run uses) := by
  induction uses generalizing custody with
  | nil => exact orderly
  | cons use uses ih => exact ih (orderly.step fair.1) fair.2

/-- However a cache is used, it is a bounded queue of targets in the order in which they were made,
one for a buffer at most; each request is answered from it in the way that `Answer` lists; and every
target that was made is in exactly one place. -/
theorem run_bounded_queue (capacity : Nat) (initial : state) (uses : List (Use state))
    (fair : (start capacity initial).AllFair uses) :
    let custody := (start capacity initial).run uses
    custody.cache.ids.Nodup ∧ custody.cache.ids.length ≤ capacity ∧
      (custody.cache.entries.map Image.asLive).Sublist
        (custody.workshop.made.map Image.asLive) ∧
      (custody.places.map Image.asLive).Perm (custody.workshop.made.map Image.asLive) ∧
      (custody.places.map (·.handle)).Nodup ∧
      (∀ (buffer : BufferId) (mode : Mode) (maker : Maker state),
        Answer custody.cache buffer mode maker custody.workshop
          (custody.cache.getOrCreate buffer mode (Workshop.make maker) custody.workshop)) ∧
      (∀ buffer : BufferId,
        (custody.cache.invalidate buffer).1.toList =
            custody.cache.entries.filter (·.buffer = buffer) ∧
          (custody.cache.invalidate buffer).2.entries =
            custody.cache.entries.filter (·.buffer ≠ buffer)) ∧
      (∀ (buffer : BufferId) (frame : FrameSeq),
        (custody.cache.markUsed buffer frame).entries.map Image.asLive =
          custody.cache.entries.map Image.asLive) ∧
      custody.cache.drain.1 = custody.cache.entries ∧ custody.cache.drain.2.entries = [] := by
  intro custody
  have orderly : Orderly capacity custody := (Orderly.start capacity initial).run fair
  have handles : (custody.places.map (·.handle)).Nodup := by
    have same := orderly.placed.map LiveImage.handle
    rw [List.map_map, List.map_map] at same
    exact same.nodup_iff.mpr orderly.fresh
  refine ⟨orderly.distinct, ?_, orderly.ordered, orderly.placed, handles, orderly.answer, ?_,
    markUsed_asLive custody.cache, rfl, rfl⟩
  · rw [ids, List.length_map]
    exact orderly.bounded
  · intro buffer
    exact ⟨invalidate_toList orderly.distinct buffer,
      congrArg entries (invalidate_cache orderly.distinct buffer)⟩

/-- A cache of two targets, with a hit, a replacement, an overflow, a maker that fails on an entry
of the wrong mode, a mark and an invalidation. -/
theorem run_bounded_queue_of_two :
    let numbered : BufferId → Mode → Maker Nat := fun buffer mode count =>
      (.ok (.fresh ⟨count⟩ buffer mode .output), count + 1)
    let failing : Maker Nat := fun count => (.error .contextLost, count)
    let uses : List (Use Nat) :=
      [.request ⟨1⟩ .normal (numbered ⟨1⟩ .normal), .request ⟨2⟩ .normal (numbered ⟨2⟩ .normal),
        .request ⟨1⟩ .normal failing, .request ⟨1⟩ .secure (numbered ⟨1⟩ .secure),
        .request ⟨3⟩ .normal (numbered ⟨3⟩ .normal), .markUsed ⟨3⟩ 4,
        .request ⟨3⟩ .secure failing, .invalidate ⟨1⟩]
    let custody := (start 2 0).run uses
    (start 2 0).AllFair uses ∧ custody.cache.ids = [] ∧
      custody.evicted.map (·.handle.number) = [0, 1, 3] ∧
      custody.returned.map (·.handle.number) = [2] ∧ custody.workshop.calls = 5 ∧
      (custody.places.map (·.handle)).Nodup := by
  intro numbered failing uses
  exact ⟨by decide, by decide, by decide, by decide, by decide,
    (run_bounded_queue 2 0 uses (by decide)).2.2.2.2.1⟩

end Custody

end OutputCache

end Compositor
