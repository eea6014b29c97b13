import Mathlib.Data.List.Forall2
import Hypermedia.Gateway.Http
import Hypermedia.Proofs.Delivery.Advertised

/-!
# What the gateway answers

A client of the gateway gets no pushes, so the ledger of its connection stays empty, whatever header
fields its requests carry. Each exchange is then answered on its own.

* `Gateway.respond_run` is one exchange on a new connection, `Gateway.converse_run` any number of
  them.
* `Gateway.Answers` says what the client gets for an exchange, `Gateway.Forwards` what the backend
  gets.
* `Gateway.converse_answers` puts these together.
* `Http.serve_run` finds the exchanges in the bytes that a client sends.
-/

namespace Hypermedia

open Push (World)

/-- An exchange: the request of the client, and what comes back from the backend. -/
structure Exchange where
  /-- The request of the client. -/
  request : ClientRequest
  /-- What comes back from the backend. -/
  answer : BackendAnswer

/-- What follows an action goes on from the state after it. -/
theorem run_bind_of_run_eq {σ α β : Type} {action : StateM σ α} {a : α} {before after : σ}
    (h : action.run before = (a, after)) (next : α → StateM σ β) :
    (action >>= next).run before = (next a).run after := by
  rw [StateT.run_bind, h]
  rfl

/-- On an empty ledger no request has a handle where pushes are impossible. -/
theorem Push.Ledger.handleFor_empty (maxPushes : Option Nat) (headers : Headers) (uri : Uri) :
    (empty maxPushes).handleFor headers uri false = none := by
  cases hget : headers.get? correlationField with
  | none => rw [handleFor_of_get?_eq_none hget, if_neg Bool.false_ne_true]
  | some value =>
      rw [← Option.not_isSome_iff_eq_none, isSome_handleFor_iff hget]
      rintro ⟨id, hid, -⟩
      cases hid

namespace Gateway

variable {gateway : Gateway} {request : ClientRequest}

/-! ## Requests -/

/-- What the backend gets for a request of the client. -/
structure Forwards (gateway : Gateway) (request : ClientRequest) (sent : BackendRequest) :
    Prop where
  /-- The method stays. -/
  method : sent.method = request.method
  /-- The path and query stay, and there is always a path. -/
  target : sent.target = request.uri.pathAndQuery?.getD "/"
  /-- The body stays. -/
  body : sent.body = request.body
  /-- Nothing is said about the connection of the client. -/
  connection : sent.headers.getAll "connection" = []
  /-- The host is the backend. -/
  host : sent.headers.getAll "host" = [Bytes.ofString gateway.backend.authority]
  /-- All other fields keep their values, in their order. -/
  others : ∀ name, name ≠ "connection" → name ≠ "host" →
    sent.headers.getAll name = request.headers.getAll name

theorem forwards_forwarded (gateway : Gateway) (request : ClientRequest) :
    gateway.Forwards request (gateway.forwarded request) where
  method := rfl
  target := rfl
  body := rfl
  connection := by
    unfold forwarded
    rw [Headers.getAll_insert_of_ne (by decide), Headers.getAll_remove_self]
  host := Headers.getAll_insert_self _ _ _
  others name hconnection hhost := by
    unfold forwarded
    rw [Headers.getAll_insert_of_ne (Ne.symm hhost),
      Headers.getAll_remove_of_ne (Ne.symm hconnection)]

/-! ## Responses -/

/-- The response to a request without a handle. -/
def answerTo (gateway : Gateway) (request : ClientRequest) (answer : BackendAnswer) :
    GatewayResponse :=
  ((gateway.responseTo request none answer).run gateway.newConnection).1

/-- What the client gets for an exchange. -/
structure Answers (gateway : Gateway) (exchange : Exchange) (response : GatewayResponse) :
    Prop where
  /-- Without an answer of the backend it gets the text `Bad gateway`. -/
  failed : exchange.answer = .failed → response = badGateway
  /-- What is not processed is passed on. -/
  relayed : ∀ status headers body, exchange.answer = .received status headers body →
    isProcessed exchange.request status headers = false →
      response = ⟨status, headers, .relayed body⟩
  /-- What is to be processed but cannot be read is replaced by the text `Bad gateway`. -/
  broken : ∀ status headers error, exchange.answer = .received status headers (.error error) →
    isProcessed exchange.request status headers = true → response = badGateway
  /-- What is processed keeps its status. Its relations are advertised by distinct links after those
  that were received, but for relations of the same origin if the base URL of the API may not stand
  in a header field. -/
  processed : ∀ status headers received,
    exchange.answer = .received status headers (.ok received) →
    isProcessed exchange.request status headers = true →
      ∃ body fields links,
        (gateway.service.apply exchange.request.request none none (.ok received) headers).run
          gateway.newConnection = ((.ok body, fields), gateway.newConnection) ∧
        response = ⟨status, fields, .complete body⟩ ∧
        fields.getAll "link" = headers.getAll "link" ++ links ∧ links.Nodup ∧
        (∀ link ∈ links, ∃ relation ∈ gateway.service.relations exchange.request.request received,
          link = gateway.service.link relation) ∧
        ∀ relation ∈ gateway.service.relations exchange.request.request received,
          gateway.service.link relation ∈ links ↔
            relation.sameOrigin = false ∨ ∀ base, gateway.service.settings.apiUrl = some base →
              (Bytes.ofString base).all isFieldByte = true

theorem answers_answerTo (gateway : Gateway) (exchange : Exchange) :
    gateway.Answers exchange (gateway.answerTo exchange.request exchange.answer) where
  failed h := by
    rw [h]
    rfl
  relayed status headers body h hgates := by
    unfold answerTo responseTo
    rw [h]
    simp only [hgates, Bool.false_eq_true, if_false]
    rfl
  broken status headers error h hgates := by
    unfold answerTo responseTo
    rw [h]
    simp only [hgates, if_true]
    rfl
  processed status headers received h hgates := by
    obtain ⟨body, fields, links, hrun, hlinks, hadvertised⟩ :=
      Service.apply_run_of_none gateway.service exchange.request.request received headers
        gateway.newConnection
    refine ⟨body, fields, links, hrun, ?_, hlinks, hadvertised.nodup, fun link hlink => ?_,
      fun relation => hadvertised.link_mem_iff⟩
    · unfold answerTo responseTo
      rw [h]
      simp only [hgates, if_true, Option.map_none, run_bind_of_run_eq hrun]
      rfl
    · obtain ⟨relation, hrelation, hsome⟩ := (hadvertised.mem_iff link).mp hlink
      rw [Service.linkOf?_eq] at hsome
      split_ifs at hsome
      exact ⟨relation, hrelation, (Option.some.inj hsome).symm⟩

/-! ## Conversations -/

/-- A response to a request without a handle leaves the connection as it is. -/
theorem responseTo_run_of_none (gateway : Gateway) (request : ClientRequest)
    (answer : BackendAnswer) :
    (gateway.responseTo request none answer).run gateway.newConnection =
      (gateway.answerTo request answer, gateway.newConnection) := by
  refine Prod.ext rfl ?_
  cases answer with
  | failed => rfl
  | received status headers body =>
      have hworld := gateway.service.apply_run_snd_of_none request.request body headers
        gateway.newConnection
      unfold responseTo
      dsimp only
      split_ifs
      · simp only [Option.map_none, StateT.run_bind]
        generalize (gateway.service.apply request.request none none body headers).run
          gateway.newConnection = outcome at hworld
        obtain ⟨⟨applied, fields⟩, after⟩ := outcome
        cases applied <;> exact hworld
      · rfl

/-- One exchange on a new connection. -/
theorem respond_run (gateway : Gateway) (request : ClientRequest) (answer : BackendAnswer) :
    (gateway.respond request answer).run gateway.newConnection =
      (gateway.answerTo request answer, gateway.newConnection) := by
  have hhandle : gateway.newConnection.ledger.handleFor request.headers request.uri false = none :=
    Push.Ledger.handleFor_empty _ _ _
  unfold respond
  simp only [StateT.run_bind, StateT.run_get, pure_bind, hhandle]
  exact gateway.responseTo_run_of_none request answer

/-- Serves the requests of a connection one after the other. -/
def converse (gateway : Gateway) (exchanges : List Exchange) :
    StateM (World Unit) (List GatewayResponse) :=
  exchanges.mapM fun exchange => gateway.respond exchange.request exchange.answer

/-- Any number of exchanges on a new connection. -/
theorem converse_run (gateway : Gateway) (exchanges : List Exchange) :
    (gateway.converse exchanges).run gateway.newConnection =
      (exchanges.map fun exchange => gateway.answerTo exchange.request exchange.answer,
        gateway.newConnection) := by
  unfold converse
  induction exchanges with
  | nil => rfl
  | cons exchange rest ih =>
      rw [List.mapM_cons, run_bind_of_run_eq (gateway.respond_run _ _), run_bind_of_run_eq ih]
      rfl

/-- **What the gateway answers.** However many requests a client sends on a connection, with
whatever header fields, and whatever comes back from the backend, the ledger of the connection stays
that of a new one, without a live cycle and without a pushed target. The client gets a response to
each request, and the backend gets each request as the client sent it, but for the fields about the
connection and the host. -/
theorem converse_answers (gateway : Gateway) (exchanges : List Exchange) :
    gateway.newConnection.ledger.live = [] ∧ gateway.newConnection.ledger.pushed = [] ∧
    (∃ responses, (gateway.converse exchanges).run gateway.newConnection =
        (responses, gateway.newConnection) ∧
      List.Forall₂ gateway.Answers exchanges responses) ∧
    ∀ exchange ∈ exchanges,
      gateway.Forwards exchange.request (gateway.forwarded exchange.request) := by
  refine ⟨rfl, rfl, ⟨_, gateway.converse_run exchanges, ?_⟩,
    fun exchange _ => gateway.forwards_forwarded exchange.request⟩
  rw [List.forall₂_map_right_iff]
  exact List.forall₂_same.mpr fun exchange _ => gateway.answers_answerTo exchange

/-- A gateway with a base URL that may not stand in a header field. -/
def unlinked : Gateway :=
  ⟨⟨{ apiUrl := some "http://a\x01" }, none⟩, ⟨"[::1]"⟩⟩

/-- A book whose author is asked for. -/
def bookExchange : Exchange where
  request :=
    ⟨"GET", ⟨none, none, "/books/1", none⟩, ⟨[("preload", Bytes.ofString "\"/author\"")]⟩, .ok []⟩
  answer := .received 200 ⟨[("content-type", Bytes.ofString "application/json")]⟩
    (.ok (Bytes.ofString "\x7b\"author\":\"/users/5\"\x7d"))

/-- Then a relation that was resolved gets no link. -/
theorem converse_unlinked :
    (unlinked.service.relations bookExchange.request.request
        (Bytes.ofString "\x7b\"author\":\"/users/5\"\x7d")).map (·.text) = ["/users/5"] ∧
      ((unlinked.converse [bookExchange]).run unlinked.newConnection).1.map
        (fun response => (response.status, response.headers.getAll "link")) = [(200, [])] := by
  decide +kernel

end Gateway

/-! ## The bytes of a connection -/

namespace Http

/-- A request with its head and its body. -/
def Head.request (head : Head) (body : Except BodyError Bytes) : ClientRequest :=
  ⟨head.method, head.uri, head.headers, body⟩

/-- What a client is sent for one request. -/
def sentFor (gateway : Gateway) (backend : BackendRequest → BackendAnswer) (head : Head)
    (body : Except BodyError Bytes) : Bytes :=
  render head.method head.version head.keepsAlive
    (gateway.answerTo (head.request body) (backend (gateway.forwarded (head.request body))))

/-- Whatever bytes a client sends, it is sent the responses to some requests and then perhaps a
refusal. The connection stays as it is. -/
theorem serve_run (gateway : Gateway) (backend : BackendRequest → BackendAnswer) (fuel : Nat)
    (version : Version) (s : Bytes) :
    ∃ (requests : List (Head × Except BodyError Bytes)) (refused : Bytes),
      (refused = [] ∨ ∃ version rest stop, refused = refuse version rest stop) ∧
      (serve gateway backend fuel version s).run gateway.newConnection =
        (requests.flatMap (fun entry => sentFor gateway backend entry.1 entry.2) ++ refused,
          gateway.newConnection) := by
  induction fuel generalizing version s with
  | zero => exact ⟨[], [], .inl rfl, rfl⟩
  | succ fuel ih =>
      unfold serve
      cases readRequest s with
      | error stop => exact ⟨[], _, .inr ⟨version, s, stop, rfl⟩, rfl⟩
      | ok read =>
          obtain ⟨head, framing, rest⟩ := read
          dsimp only
          rw [run_bind_of_run_eq (gateway.respond_run _ _)]
          cases framing.read rest with
          | error error =>
              refine ⟨[(head, .error error)], [], .inl rfl, ?_⟩
              rw [List.flatMap_singleton, List.append_nil]
              rfl
          | ok found =>
              obtain ⟨body, following⟩ := found
              by_cases hkeeps : head.keepsAlive = true
              · obtain ⟨requests, refused, hrefused, hmore⟩ := ih head.version following
                refine ⟨(head, .ok body) :: requests, refused, hrefused, ?_⟩
                dsimp only
                rw [if_pos hkeeps, run_bind_of_run_eq hmore, List.flatMap_cons, List.append_assoc]
                rfl
              · refine ⟨[(head, .ok body)], [], .inl rfl, ?_⟩
                dsimp only
                rw [if_neg hkeeps, List.flatMap_singleton, List.append_nil]
                rfl

end Http

end Hypermedia
