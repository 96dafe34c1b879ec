import Mathlib.Data.List.Forall2
import AccessGateway.Proofs.Server.Access

/-
  Requests that fail leave no trace. One request that is answered with a status of 400 or above
  leaves the store as it is, provided that the failures of hooks are passed over
  (`store_of_failed`), and the time of a request makes no difference but to what a heartbeat tells
  (`sameButTime_respond`). So of a run any requests that failed can be omitted: the others are
  answered as before, and the store in the end is the same (`respondAll_omitted`).
-/

namespace AccessGateway

/-- The items of a list less the omitted ones, which are told by their positions. -/
def without {α : Type} (omitted : Nat → Bool) : List α → List α
  | [] => []
  | x :: r =>
    if omitted 0 then without (fun i => omitted (i + 1)) r
    else x :: without (fun i => omitted (i + 1)) r

/-- Two responses that are the same, or differ only in the time that both of them tell. -/
structure Response.SameButTime (x y : Response) : Prop where
  status : x.status = y.status
  contentType : x.contentType = y.contentType
  allow : x.allow = y.allow
  content : x.content = y.content ∨
    ∃ t u, x.content = .json (Server.heartbeat t) ∧ y.content = .json (Server.heartbeat u)

namespace Response.SameButTime

variable {x y : Response}

theorem refl (x : Response) : x.SameButTime x := ⟨rfl, rfl, rfl, Or.inl rfl⟩

theorem withAllow (h : x.SameButTime y) (allow : Option String) :
    (x.withAllow allow).SameButTime (y.withAllow allow) := by
  cases allow with
  | none => exact h
  | some methods => exact ⟨h.status, h.contentType, rfl, h.content⟩

theorem answering (h : x.SameButTime y) (method : String) :
    (x.answering method).SameButTime (y.answering method) := by
  unfold Response.answering
  rw [h.status]
  split
  · exact ⟨h.status, h.contentType, h.allow, Or.inl rfl⟩
  · exact h

end Response.SameButTime

/-- A call that is answered with a failure leaves the store as it is, provided that the failures of
hooks are passed over. -/
theorem CollectionCall.store_of_failed {c : CollectionCall} {hooks : CollectionHooks}
    (hhooks : hooks.policy = .isolate) {scope : Option Scope} {s : Store}
    (h : 400 ≤ (c.run hooks scope s).response.status) : (c.run hooks scope s).store = s := by
  unfold ServiceRun.response at h
  cases hresult : (c.run hooks scope s).result with
  | ok v => simp [hresult, Response.json] at h
  | error e =>
    rcases cases_of_error hresult with ⟨_, -, -, hsame⟩ | ⟨_, -, -, hsame⟩ | ⟨_, -, hsame⟩ |
      ⟨_, _, -, -, hpropagate, -⟩
    · exact hsame
    · exact hsame
    · exact hsame
    · rw [hhooks] at hpropagate
      cases hpropagate

namespace Server

variable {s : Server} {r : Request} {store : Store}

/-! ## One request -/

theorem store_of_routes_failed (hhooks : s.hooks.policy = .isolate) {clock : Nat} {v : Visit}
    (h : 400 ≤ ((s.routes clock v).run store).1.status) :
    ((s.routes clock v).run store).2 = store := by
  rw [run_routes] at h ⊢
  cases ht : Task.ofRequest? v.request with
  | none => rfl
  | some t =>
    cases t with
    | describe => rfl
    | heartbeat => rfl
    | version => rfl
    | operate op written =>
      simp only [ht, perform, StateT.run] at h ⊢
      cases hc : CollectionCall.ofRequest op written v.request with
      | error e => rfl
      | ok c =>
        simp only [hc] at h
        exact CollectionCall.store_of_failed hhooks h

/-- A request that fails leaves the store as it is. -/
theorem store_of_failed (hhooks : s.hooks.policy = .isolate) {clock : Nat}
    (h : 400 ≤ ((s.respond clock r).run store).1.status) :
    ((s.respond clock r).run store).2 = store := by
  cases hid : s.gateway.identify r with
  | error e => exact (run_respond_of_error hid clock store).1
  | ok identity =>
    obtain ⟨hstore, hstatus⟩ := run_respond_of_ok hid clock store
    rw [hstatus] at h
    rw [hstore]
    exact store_of_routes_failed hhooks h

theorem sameButTime_routes (s : Server) (clock clock' : Nat) (v : Visit) (store : Store) :
    ((s.routes clock v).run store).1.SameButTime ((s.routes clock' v).run store).1 ∧
      ((s.routes clock v).run store).2 = ((s.routes clock' v).run store).2 := by
  rw [run_routes, run_routes]
  cases Task.ofRequest? v.request with
  | none => exact ⟨.refl _, rfl⟩
  | some t =>
    cases t with
    | heartbeat => exact ⟨⟨rfl, rfl, rfl, Or.inr ⟨clock, clock', rfl, rfl⟩⟩, rfl⟩
    | describe => exact ⟨.refl _, rfl⟩
    | version => exact ⟨.refl _, rfl⟩
    | operate op written => exact ⟨.refl _, rfl⟩

/-- The same request at another time leaves the same store, and is answered the same but for the
time. -/
theorem sameButTime_respond (s : Server) (clock clock' : Nat) (r : Request) (store : Store) :
    ((s.respond clock r).run store).1.SameButTime ((s.respond clock' r).run store).1 ∧
      ((s.respond clock r).run store).2 = ((s.respond clock' r).run store).2 := by
  rw [run_respond, run_respond, Gateway.handle, Gateway.handle]
  cases s.gateway.screen r with
  | refused p => exact ⟨.refl _, rfl⟩
  | passed v =>
    obtain ⟨hsame, hstore⟩ := sameButTime_routes s clock clock' v store
    exact ⟨(hsame.withAllow _).answering _, hstore⟩

/-! ## Runs -/

theorem run_respondAll_cons (s : Server) (clock : Nat) (r : Request)
    (rest : List (Nat × Request)) (store : Store) :
    (s.respondAll ((clock, r) :: rest)).run store =
      (((s.respond clock r).run store).1 ::
          ((s.respondAll rest).run ((s.respond clock r).run store).2).1,
        ((s.respondAll rest).run ((s.respond clock r).run store).2).2) := rfl

/-- A run without some of the requests that failed in it, with the others at any times. -/
theorem respondAll_of_failed (hhooks : s.hooks.policy = .isolate)
    {requests later : List (Nat × Request)} {omitted : Nat → Bool}
    (hfailed : ∀ i a, ((s.respondAll requests).run store).1[i]? = some a → omitted i = true →
      400 ≤ a.status)
    (hlater : later.map Prod.snd = (without omitted requests).map Prod.snd) :
    List.Forall₂ Response.SameButTime (without omitted ((s.respondAll requests).run store).1)
        ((s.respondAll later).run store).1 ∧
      ((s.respondAll later).run store).2 = ((s.respondAll requests).run store).2 := by
  -- Whether the first request is omitted or not, both runs go on from one store.
  induction requests generalizing store later omitted with
  | nil =>
    obtain rfl := List.map_eq_nil_iff.1 hlater
    exact ⟨.nil, rfl⟩
  | cons x rest ih =>
    obtain ⟨clock, r⟩ := x
    rw [run_respondAll_cons] at hfailed ⊢
    have hrest : ∀ i a, ((s.respondAll rest).run ((s.respond clock r).run store).2).1[i]? = some a →
        omitted (i + 1) = true → 400 ≤ a.status := fun i => hfailed (i + 1)
    simp only [without] at hlater ⊢
    by_cases hfirst : omitted 0 = true
    · have hkept : ((s.respond clock r).run store).2 = store :=
        store_of_failed hhooks (hfailed 0 _ rfl hfirst)
      rw [if_pos hfirst] at hlater ⊢
      rw [hkept] at hrest ⊢
      exact ih hrest hlater
    · rw [if_neg hfirst] at hlater ⊢
      obtain ⟨⟨clock', r'⟩, later', rfl, rfl, hlater'⟩ := List.map_eq_cons_iff.1 hlater
      obtain ⟨hsame, hstore⟩ := sameButTime_respond s clock clock' r' store
      obtain ⟨hothers, hend⟩ := ih hrest hlater'
      rw [run_respondAll_cons, ← hstore]
      exact ⟨.cons hsame hothers, hend⟩

/-- For every server that starts from a configuration and every run of requests on any store: if
requests that were answered with a status of 400 or above are omitted, all other requests are
answered as before, whenever they are sent, except that a heartbeat tells another time, and the
store in the end is the same. -/
theorem respondAll_omitted {c : AppConfig} {files : Files} {s : Server}
    (h : ofConfig c files = .ok s) (requests later : List (Nat × Request)) (store : Store)
    (omitted : Nat → Bool)
    (hfailed : ∀ i a, ((s.respondAll requests).run store).1[i]? = some a → omitted i = true →
      400 ≤ a.status)
    (hlater : later.map Prod.snd = (without omitted requests).map Prod.snd) :
    List.Forall₂ Response.SameButTime (without omitted ((s.respondAll requests).run store).1)
        ((s.respondAll later).run store).1 ∧
      ((s.respondAll later).run store).2 = ((s.respondAll requests).run store).2 := by
  obtain ⟨g, -, rfl⟩ := Outcome.map_eq_ok_iff.1 h
  have hhooks : watched.policy = .isolate := rfl
  exact respondAll_of_failed hhooks hfailed hlater

/-- A server without providers. -/
def unguarded : AppConfig where
  server := ⟨"127.0.0.1:8000"⟩
  logging := ⟨"info", .text⟩
  gateway := ⟨⟨none, openRoutes⟩, ⟨none, Table.empty⟩⟩
  providers := ⟨Table.empty⟩

/-- A request to create a collection. -/
def createRequest : Request :=
  ⟨"POST", ⟨"/api/v1/collections", none⟩, ⟨[("content-type", "application/json")]⟩,
    "\x7b\"name\": \"x\"\x7d"⟩

/-- A request for the time. -/
def heartbeatRequest : Request := ⟨"GET", ⟨"/api/v1/heartbeat", none⟩, ⟨[]⟩, ""⟩

/-- Somebody creates a collection twice, asks for the time, deletes what is not there and asks for
the headers of the list. -/
def history : List (Nat × Request) :=
  [(1, createRequest), (2, createRequest), (3, heartbeatRequest),
    (4, ⟨"DELETE", ⟨"/api/v1/collections/y", none⟩, ⟨[]⟩, ""⟩), (5, listRequest)]

/-- The conflict and the deletion that failed can be omitted. -/
theorem respondAll_omitted_conflict :
    ∃ s, ofConfig unguarded Files.none = .ok s ∧
      let answers := ((s.respondAll history).run Table.empty).1
      let omitted := fun i => i == 1 || i == 3
      let later := [(7, createRequest), (8, heartbeatRequest), (9, listRequest)]
      answers.map Response.status = [200, 409, 200, 404, 200] ∧
        later.map Prod.snd = (without omitted history).map Prod.snd ∧
        List.Forall₂ Response.SameButTime (without omitted answers)
          ((s.respondAll later).run Table.empty).1 ∧
        ((s.respondAll later).run Table.empty).2 = ((s.respondAll history).run Table.empty).2 := by
  obtain ⟨s, hs⟩ := Outcome.exists_of_isOk (x := ofConfig unguarded Files.none) (by decide +kernel)
  have hstatuses : ((s.respondAll history).run Table.empty).1.map Response.status =
      [200, 409, 200, 404, 200] :=
    Outcome.eq_of_map hs
      (fun s => ((s.respondAll history).run Table.empty).1.map Response.status) (by decide +kernel)
  have hfailed : ∀ i a, ((s.respondAll history).run Table.empty).1[i]? = some a →
      (i == 1 || i == 3) = true → 400 ≤ a.status := by
    intro i a ha hi
    have hstatus : [200, 409, 200, 404, 200][i]? = some a.status := by
      rw [← hstatuses, List.getElem?_map, ha]
      rfl
    simp only [Bool.or_eq_true, beq_iff_eq] at hi
    rcases hi with rfl | rfl
    · rw [← Option.some.inj hstatus]
      decide
    · rw [← Option.some.inj hstatus]
      decide
  exact ⟨s, hs, hstatuses, rfl, respondAll_omitted hs history _ Table.empty _ hfailed rfl⟩

end Server

end AccessGateway
