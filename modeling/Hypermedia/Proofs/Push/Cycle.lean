import Mathlib.Data.List.Nodup
import Hypermedia.Push.Ledger

/-!
# The counts of a cycle

A cycle counts its pushes in three ways: how many it made, how often each target is in flight, and
how many are outstanding. This file shows what entering and completing a push do to these counts.

* `Tally.Simple` says that a tally counts every target that occurs once. Counting one more and
  counting one less then add and take away a single entry.
* `Cycle.Balanced` says that the pushes in flight are simple and sum up to the outstanding ones.
  Completing any target keeps a cycle balanced, and so does entering a target that is not in flight.
* `Cycle.undo_start` and `Cycle.undo_complete_start` say that nothing is left of a push that is taken
  back.
-/

namespace Hypermedia.Push

/-! ## Tallies -/

namespace Tally

/-- Every target that occurs has one entry, and its count is one. -/
structure Simple (tally : Tally) : Prop where
  /-- No target has two entries. -/
  nodup : tally.targets.Nodup
  /-- Every count is one. -/
  count_eq_one : ∀ entry ∈ tally, entry.2 = 1

@[simp] theorem targets_nil : targets [] = [] := rfl

@[simp] theorem targets_cons (entry : String × Nat) (tally : Tally) :
    targets (entry :: tally) = entry.1 :: targets tally := rfl

@[simp] theorem total_nil : total [] = 0 := rfl

@[simp] theorem total_cons (entry : String × Nat) (tally : Tally) :
    total (entry :: tally) = entry.2 + total tally := by
  simp [total]

/-- Counting a target once more adds it to the targets that occur. -/
theorem mem_targets_increment {target other : String} {tally : Tally} :
    other ∈ (tally.increment target).targets ↔ other = target ∨ other ∈ tally.targets := by
  induction tally with
  | nil => simp [increment]
  | cons entry rest ih =>
      obtain ⟨first, count⟩ := entry
      unfold increment
      by_cases h : first = target
      · simp [h]
      · rw [if_neg h]
        simp only [targets_cons, List.mem_cons, ih]
        exact or_left_comm

/-- Counting a target once more adds one to the sum. -/
theorem total_increment (target : String) (tally : Tally) :
    (tally.increment target).total = tally.total + 1 := by
  induction tally with
  | nil => simp [increment]
  | cons entry rest ih =>
      obtain ⟨first, count⟩ := entry
      unfold increment
      by_cases h : first = target
      · rw [if_pos h]
        simp only [total_cons]
        omega
      · rw [if_neg h]
        simp only [total_cons, ih]
        omega

/-- A target that does not occur is appended. -/
theorem increment_of_not_mem {target : String} {tally : Tally} (h : target ∉ tally.targets) :
    tally.increment target = tally ++ [(target, 1)] := by
  induction tally with
  | nil => rfl
  | cons entry rest ih =>
      obtain ⟨first, count⟩ := entry
      simp only [targets_cons, List.mem_cons, not_or] at h
      unfold increment
      rw [if_neg (Ne.symm h.1), ih h.2]
      rfl

/-- Counting a target that does not occur once more, and then once less, changes nothing. -/
theorem decrement_increment {target : String} {tally : Tally} (h : target ∉ tally.targets) :
    (tally.increment target).decrement target = tally := by
  induction tally with
  | nil => simp [increment, decrement]
  | cons entry rest ih =>
      obtain ⟨first, count⟩ := entry
      simp only [targets_cons, List.mem_cons, not_or] at h
      simp [increment, decrement, Ne.symm h.1, ih h.2]

theorem Simple.nil : Simple [] :=
  ⟨List.nodup_nil, by simp⟩

/-- Counting a new target keeps a tally simple. -/
theorem Simple.increment {target : String} {tally : Tally} (hs : tally.Simple)
    (h : target ∉ tally.targets) : (tally.increment target).Simple := by
  rw [increment_of_not_mem h]
  constructor
  · unfold targets at h ⊢
    rw [List.map_append]
    refine List.nodup_append.mpr ⟨hs.nodup, List.nodup_singleton _, ?_⟩
    intro a ha b hb hab
    rw [List.map_singleton, List.mem_singleton] at hb
    exact h (by rwa [hab, hb] at ha)
  · intro entry hentry
    rcases List.mem_append.mp hentry with hold | hnew
    · exact hs.count_eq_one entry hold
    · rw [List.mem_singleton.mp hnew]

/-- In a simple tally, a target that is counted once less occurs no more. -/
theorem Simple.decrement_eq_filter {target : String} {tally : Tally} (hs : tally.Simple) :
    tally.decrement target = tally.filter (·.1 ≠ target) := by
  induction tally with
  | nil => rfl
  | cons entry rest ih =>
      obtain ⟨first, count⟩ := entry
      have hnodup := List.nodup_cons.mp hs.nodup
      have hone : count = 1 := hs.count_eq_one (first, count) List.mem_cons_self
      have hrest : Simple rest :=
        ⟨hnodup.2, fun e he => hs.count_eq_one e (List.mem_cons_of_mem _ he)⟩
      unfold decrement
      by_cases h : first = target
      · rw [if_pos h, hone, if_pos rfl, List.filter_cons_of_neg (by simpa using h)]
        symm
        rw [List.filter_eq_self]
        intro e he
        have hmem : e.1 ∈ targets rest := List.mem_map_of_mem he
        have hne : e.1 ≠ first := fun heq => hnodup.1 (heq ▸ hmem)
        simpa [← h] using hne
      · rw [if_neg h, List.filter_cons_of_pos (by simpa using h), ih hrest]

/-- Counting a target once less keeps a tally simple. -/
theorem Simple.decrement {target : String} {tally : Tally} (hs : tally.Simple) :
    (tally.decrement target).Simple := by
  rw [hs.decrement_eq_filter]
  constructor
  · exact hs.nodup.sublist (List.filter_sublist.map _)
  · intro entry hentry
    exact hs.count_eq_one entry (List.mem_of_mem_filter hentry)

/-- What occurs in a simple tally after a target was counted once less. -/
theorem Simple.mem_targets_decrement {target other : String} {tally : Tally} (hs : tally.Simple) :
    other ∈ (tally.decrement target).targets ↔ other ≠ target ∧ other ∈ tally.targets := by
  rw [hs.decrement_eq_filter]
  unfold targets
  constructor
  · intro h
    obtain ⟨entry, hentry, rfl⟩ := List.mem_map.mp h
    obtain ⟨hmem, hne⟩ := List.mem_filter.mp hentry
    exact ⟨by simpa using hne, List.mem_map_of_mem hmem⟩
  · rintro ⟨hne, h⟩
    obtain ⟨entry, hentry, rfl⟩ := List.mem_map.mp h
    exact List.mem_map_of_mem (List.mem_filter.mpr ⟨hentry, by simpa using hne⟩)

/-- The sum of a simple tally is the number of targets that occur. -/
theorem Simple.total_eq_length {tally : Tally} (hs : tally.Simple) :
    tally.total = tally.targets.length := by
  change (tally.map (·.2)).sum = (tally.map (·.1)).length
  rw [List.map_congr_left hs.count_eq_one, List.length_map]
  simp

/-- Counting a target once less takes one from the sum of a simple tally in which it occurs. -/
theorem Simple.total_decrement {target : String} {tally : Tally} (hs : tally.Simple)
    (h : target ∈ tally.targets) : (tally.decrement target).total + 1 = tally.total := by
  have herase : (tally.decrement target).targets = tally.targets.erase target := by
    rw [hs.decrement_eq_filter, hs.nodup.erase_eq_filter]
    unfold targets
    rw [List.filter_map]
    congr 1
    apply List.filter_congr
    intro entry _
    by_cases hentry : entry.1 = target <;> simp [hentry]
  rw [hs.decrement.total_eq_length, hs.total_eq_length, herase, List.length_erase_of_mem h]
  have hpos := List.length_pos_of_mem h
  omega

end Tally

/-! ## Cycles -/

namespace Cycle

/-- The pushes in flight are counted once each, and they are the outstanding ones. -/
structure Balanced (cycle : Cycle) : Prop where
  /-- Each target in flight is counted once. -/
  simple : cycle.inFlight.Simple
  /-- The outstanding pushes are those in flight. -/
  outstanding_eq : cycle.outstanding = cycle.inFlight.total

theorem balanced_new : Balanced {} :=
  ⟨.nil, rfl⟩

@[simp] theorem start_pushes (cycle : Cycle) (target : String) :
    (cycle.start target).pushes = cycle.pushes + 1 := rfl

theorem mem_start {cycle : Cycle} {target other : String} :
    other ∈ (cycle.start target).inFlight.targets ↔
      other = target ∨ other ∈ cycle.inFlight.targets :=
  Tally.mem_targets_increment

/-- Entering a push of a target that is not in flight keeps a cycle balanced. -/
theorem Balanced.start {cycle : Cycle} {target : String} (hb : cycle.Balanced)
    (h : target ∉ cycle.inFlight.targets) : (cycle.start target).Balanced := by
  refine ⟨hb.simple.increment h, ?_⟩
  unfold Cycle.start
  rw [Tally.total_increment, hb.outstanding_eq]

@[simp] theorem complete_pushes (cycle : Cycle) (target : String) :
    (cycle.complete target).pushes = cycle.pushes := by
  unfold complete
  split <;> rfl

/-- Completing a push of a target takes the target out of flight, and no other one. -/
theorem Balanced.mem_complete {cycle : Cycle} {target other : String} (hb : cycle.Balanced) :
    other ∈ (cycle.complete target).inFlight.targets ↔
      other ≠ target ∧ other ∈ cycle.inFlight.targets := by
  unfold Cycle.complete
  by_cases h : target ∈ cycle.inFlight.targets
  · rw [if_pos h]
    exact hb.simple.mem_targets_decrement
  · rw [if_neg h]
    refine ⟨fun hother => ⟨?_, hother⟩, And.right⟩
    rintro rfl
    exact h hother

/-- Completing a push of any target keeps a cycle balanced. -/
theorem Balanced.complete {cycle : Cycle} {target : String} (hb : cycle.Balanced) :
    (cycle.complete target).Balanced := by
  unfold Cycle.complete
  by_cases h : target ∈ cycle.inFlight.targets
  · rw [if_pos h]
    refine ⟨hb.simple.decrement, ?_⟩
    have htotal := hb.simple.total_decrement h
    have hout := hb.outstanding_eq
    simp only
    omega
  · rw [if_neg h]
    exact hb

@[simp] theorem undo_pushes (cycle : Cycle) (target : String) :
    (cycle.undo target).pushes = cycle.pushes - 1 := by
  simp [undo]

@[simp] theorem undo_inFlight (cycle : Cycle) (target : String) :
    (cycle.undo target).inFlight = (cycle.complete target).inFlight := rfl

/-- Taking a push back keeps a cycle balanced. -/
theorem Balanced.undo {cycle : Cycle} {target : String} (hb : cycle.Balanced) :
    (cycle.undo target).Balanced :=
  ⟨hb.complete.simple, hb.complete.outstanding_eq⟩

/-- Completing a push of a target that is not in flight changes nothing. -/
theorem complete_of_not_mem {cycle : Cycle} {target : String}
    (h : target ∉ cycle.inFlight.targets) : cycle.complete target = cycle := by
  unfold complete
  rw [if_neg h]

/-- Completing a push that was just entered leaves nothing of it but that it was counted. -/
theorem complete_start {cycle : Cycle} {target : String} (h : target ∉ cycle.inFlight.targets) :
    (cycle.start target).complete target = { cycle with pushes := cycle.pushes + 1 } := by
  have hentered : target ∈ (cycle.start target).inFlight.targets := mem_start.mpr (.inl rfl)
  unfold complete
  rw [if_pos hentered]
  unfold start
  simp [Tally.decrement_increment h]

/-- Taking back a push that was just entered leaves nothing of it. -/
theorem undo_start {cycle : Cycle} {target : String} (h : target ∉ cycle.inFlight.targets) :
    (cycle.start target).undo target = cycle := by
  unfold undo
  rw [complete_start h]
  simp

/-- The same if the push is complete when it is taken back. -/
theorem undo_complete_start {cycle : Cycle} {target : String}
    (h : target ∉ cycle.inFlight.targets) :
    ((cycle.start target).complete target).undo target = cycle := by
  unfold undo
  rw [complete_start h, complete_of_not_mem (by exact h)]
  simp

/-- Where a target is in flight, its count and the number of outstanding pushes are positive, so
that completing it takes nothing from zero. -/
theorem Balanced.pos_of_mem {cycle : Cycle} {entry : String × Nat} (hb : cycle.Balanced)
    (h : entry ∈ cycle.inFlight) : 0 < entry.2 ∧ 0 < cycle.outstanding := by
  have hone := hb.simple.count_eq_one entry h
  have hlength := hb.simple.total_eq_length
  have hpos : 0 < cycle.inFlight.targets.length :=
    List.length_pos_of_mem (List.mem_map_of_mem h)
  have hout := hb.outstanding_eq
  omega

end Cycle

end Hypermedia.Push
