import Hypermedia.Proofs.Push.Traffic

/-!
# Steps in a row

A request that runs makes several steps of the traffic of its connection in a row, and a push makes
those of its transport between its own two.

* `Traffic.Continues` says that some steps lead from one state to another and that no call of before
  was answered by them.
* `Traffic.Continues.settled` is a push: it is entered, the transport works, and the answer is
  settled.
* `Traffic.Continues.exists_run` says that what continues a run is a run.
-/

namespace Hypermedia.Push.Traffic

/-- Some steps lead from a state to the next one, and leave the calls that were made as they are. -/
structure Continues (traffic next : Traffic) : Prop where
  /-- The steps. -/
  steps : ∃ events : List Event, next = events.foldl step traffic
  /-- The calls that were made stay. -/
  calls : ∃ made, next.calls = made ++ traffic.calls
  /-- The handles that were given out stay. -/
  handles : traffic.handles ⊆ next.handles

namespace Continues

variable {traffic next last : Traffic}

/-- No step. -/
theorem refl (traffic : Traffic) : Continues traffic traffic :=
  ⟨⟨[], rfl⟩, ⟨[], rfl⟩, List.Subset.refl _⟩

/-- Some steps, and then some more. -/
theorem trans (h : Continues traffic next) (hnext : Continues next last) :
    Continues traffic last := by
  obtain ⟨events, rfl⟩ := h.steps
  obtain ⟨more, rfl⟩ := hnext.steps
  obtain ⟨made, hmade⟩ := h.calls
  obtain ⟨later, hlater⟩ := hnext.calls
  exact ⟨⟨events ++ more, (List.foldl_append ..).symm⟩,
    ⟨later ++ made, by rw [hlater, hmade, List.append_assoc]⟩,
    List.Subset.trans h.handles hnext.handles⟩

/-- A request gets a handle. -/
theorem opened {headers : Headers} {uri : Uri} {canPush : Bool} {handle : Handle} {ledger : Ledger}
    (hopen : traffic.ledger.handleFor headers uri canPush = some (handle, ledger)) :
    Continues traffic { traffic with ledger := ledger, handles := handle :: traffic.handles } := by
  refine ⟨⟨[.arrive headers uri canPush], ?_⟩, ⟨[], rfl⟩, List.subset_cons_self ..⟩
  simp only [List.foldl_cons, List.foldl_nil, step, hopen]

/-- A handle that was given out is released. -/
theorem released {handle : Handle} (hhandle : handle ∈ traffic.handles) :
    Continues traffic { traffic with ledger := traffic.ledger.release handle } := by
  refine ⟨⟨[.drop handle], ?_⟩, ⟨[], rfl⟩, List.Subset.refl _⟩
  simp only [List.foldl_cons, List.foldl_nil, step, hhandle, if_true]

/-- A push is entered, some steps follow, and it is answered. -/
theorem settled {handle : Handle} {target : String} {headers : Headers} {entered : Ledger}
    (hcall : Continues
      { traffic with
        ledger := entered
        calls := ⟨handle, target, withCorrelation handle.cycle headers, none⟩ :: traffic.calls }
      next)
    (hhandle : handle ∈ traffic.handles)
    (hreserve : traffic.ledger.reserve handle.cycle target = .ok entered) {made : List Call}
    (hmade : next.calls =
      made ++ ⟨handle, target, withCorrelation handle.cycle headers, none⟩ :: traffic.calls)
    (answer : Answer) :
    Continues traffic
      { next with
        ledger := next.ledger.settle handle.cycle target answer
        calls := made ++
          ⟨handle, target, withCorrelation handle.cycle headers, some answer⟩ :: traffic.calls } := by
  obtain ⟨events, hevents⟩ := hcall.steps
  refine ⟨⟨.push handle target headers :: (events ++ [.answer made.length answer]), ?_⟩,
    ⟨made ++ [⟨handle, target, withCorrelation handle.cycle headers, some answer⟩], by simp⟩,
    hcall.handles⟩
  -- The call is found behind those that were made after it.
  have hplace : next.calls[made.length]? =
      some ⟨handle, target, withCorrelation handle.cycle headers, none⟩ := by
    simp [hmade]
  rw [List.foldl_cons, List.foldl_append, List.foldl_cons, List.foldl_nil]
  have hentered : step traffic (.push handle target headers) =
      { traffic with
        ledger := entered
        calls := ⟨handle, target, withCorrelation handle.cycle headers, none⟩ :: traffic.calls } := by
    simp only [step, hhandle, if_true, hreserve]
  rw [hentered, ← hevents]
  simp only [step, hplace]
  simp [hmade]

/-- What continues a run is a run. -/
theorem exists_run {maxPushes : Option Nat} {events : List Event}
    (h : Continues (run maxPushes events) next) : ∃ events, next = run maxPushes events := by
  obtain ⟨more, rfl⟩ := h.steps
  exact ⟨events ++ more, (List.foldl_append ..).symm⟩

end Continues

end Hypermedia.Push.Traffic
