import AccessGateway.Proofs.Server.Access

/-
  Which failures a client is told of by a problem document. The gateway and the operations answer
  every failure by one (`Gateway.isProblem_of_identify`, `ApiError.isProblem_response`). A request
  that passes the gateway but has no task, or cannot be made a call, fails before that, and gets no
  content or a plain text. `isProblem_respond_iff` puts the two together.
-/

namespace AccessGateway

/-- A response with a problem document that tells the status of the response. -/
structure Response.IsProblem (a : Response) : Prop where
  contentType : a.contentType = some Problem.contentType
  document : ∃ p : Problem, a.content = .json p.toJson ∧ p.status = a.status

/-- A request that there is a task for, and that can be made a call if the task is an operation. -/
def Request.Understood (r : Request) : Prop :=
  ∃ t, Task.ofRequest? r = some t ∧ ∀ op written, t = .operate op written →
    ∃ c, CollectionCall.ofRequest op written r = .ok c

/-! ## Responses -/

namespace Response

variable {a : Response}

theorem isProblem_withAllow_iff (allow : Option String) :
    (a.withAllow allow).IsProblem ↔ a.IsProblem := by
  cases allow with
  | none => exact Iff.rfl
  | some methods =>
    constructor
    · intro h
      exact ⟨h.contentType, h.document⟩
    · intro h
      exact ⟨h.contentType, h.document⟩

/-- Except to `HEAD`, a failure is sent with its content. -/
theorem answering_of_failed {method : String} (hmethod : method ≠ "HEAD") (h : 400 ≤ a.status) :
    a.answering method = a := by
  refine if_neg ?_
  rintro (hhead | ⟨-, -, hbelow⟩)
  · exact hmethod hhead
  · omega

end Response

/-! ## Failures that are told by a problem -/

theorem Problem.isProblem_response {p : Problem} (h : isStatus p.status = true) :
    p.response.IsProblem := by
  have hstatus : p.response.status = p.status := if_pos h
  exact ⟨rfl, p, rfl, hstatus.symm⟩

theorem ApiError.isProblem_response (e : ApiError) : e.response.IsProblem := by
  refine Problem.isProblem_response ?_
  cases e with
  | authorization e => cases e <;> rfl
  | _ => rfl

theorem AuthenticationError.isStatus_toProblem (e : AuthenticationError) :
    Problem.isStatus e.toProblem.status = true := by
  cases e with
  | credential e => cases e <;> rfl
  | _ => rfl

/-- The gateway refuses by a problem. -/
theorem Gateway.isProblem_of_identify {g : Gateway} {r : Request} {p : Problem}
    (h : g.identify r = .error p) : p.response.IsProblem := by
  refine Problem.isProblem_response ?_
  unfold identify at h
  split at h
  · cases h
  · next l _ =>
    unfold AuthenticationLayer.identify at h
    split at h
    · cases h
    · cases hanswer : l.authenticate r.credentials with
      | error e =>
        rw [hanswer] at h
        obtain rfl := Except.error.inj h
        exact e.isStatus_toProblem
      | ok who =>
        rw [hanswer] at h
        cases who with
        | none =>
          obtain rfl := Except.error.inj h
          rfl
        | some x => cases h

/-! ## Failures that are not -/

theorem Response.not_isProblem_bare (status : Nat) : ¬ (Response.bare status).IsProblem := by
  intro h
  have htype : none = some Problem.contentType := h.contentType
  cases htype

theorem Misunderstanding.not_isProblem_response (e : Misunderstanding) :
    ¬ e.response.IsProblem := by
  intro h
  have htype : some "text/plain; charset=utf-8" = some Problem.contentType := h.contentType
  exact absurd htype (by decide)

namespace Server

variable {s : Server} {r : Request} {store : Store}

/-- A failure behind the gateway is told by a problem if the request was understood. -/
theorem isProblem_routes_iff {clock : Nat} {v : Visit}
    (h : 400 ≤ ((s.routes clock v).run store).1.status) :
    ((s.routes clock v).run store).1.IsProblem ↔ v.request.Understood := by
  have hdone : ¬ 400 ≤ 200 := by decide
  rw [run_routes] at h ⊢
  cases ht : Task.ofRequest? v.request with
  | none =>
    refine iff_of_false (Response.not_isProblem_bare _) ?_
    rintro ⟨t, htask, -⟩
    rw [ht] at htask
    cases htask
  | some t =>
    rw [ht] at h
    cases t with
    | describe => exact absurd h hdone
    | heartbeat => exact absurd h hdone
    | version => exact absurd h hdone
    | operate op written =>
      simp only [perform, StateT.run] at h ⊢
      cases hc : CollectionCall.ofRequest op written v.request with
      | error e =>
        refine iff_of_false e.not_isProblem_response ?_
        rintro ⟨t, htask, hcall⟩
        rw [ht] at htask
        obtain ⟨c, hok⟩ := hcall op written (Option.some.inj htask).symm
        rw [hc] at hok
        cases hok
      | ok c =>
        refine iff_of_true ?_ ⟨_, ht, ?_⟩
        · simp only [hc, ServiceRun.response] at h ⊢
          cases hresult : (c.run s.hooks v.scope store).result with
          | ok result =>
            rw [hresult] at h
            exact absurd h hdone
          | error e => exact e.toApiError.isProblem_response
        · rintro op' written' hop
          obtain ⟨rfl, rfl⟩ := Task.operate.inj hop
          exact ⟨c, hc⟩

/-- A failure is told by a problem document with the status of the response exactly if the gateway
refused the request or the request was understood. What passes the gateway to a place or with a
method that the server does not know, or with a name or a body that cannot be read, is not told
so. -/
theorem isProblem_respond_iff (s : Server) (clock : Nat) (r : Request) (store : Store)
    (hmethod : r.method ≠ "HEAD") (hfailed : 400 ≤ ((s.respond clock r).run store).1.status) :
    ((s.respond clock r).run store).1.IsProblem ↔
      (∃ p, s.gateway.identify r = .error p) ∨ r.Understood := by
  rw [run_respond] at hfailed ⊢
  rw [Response.status_answering] at hfailed
  rw [Response.answering_of_failed hmethod hfailed, Response.isProblem_withAllow_iff]
  rw [Response.status_withAllow] at hfailed
  unfold Gateway.handle Gateway.screen at hfailed ⊢
  cases hid : s.gateway.identify r with
  | error p => exact iff_of_true (Gateway.isProblem_of_identify hid) (Or.inl ⟨p, rfl⟩)
  | ok identity =>
    simp only [hid] at hfailed ⊢
    rw [isProblem_routes_iff hfailed]
    simp

/-- A request for a place that there is not. -/
def strayRequest : Request :=
  ⟨"GET", ⟨"/nowhere", none⟩, ⟨[("authorization", "Bearer secret")]⟩, ""⟩

/-- A request to create a collection whose body is not said to be JSON. -/
def untypedRequest : Request :=
  ⟨"POST", ⟨"/api/v1/collections", none⟩, ⟨[("authorization", "Bearer secret")]⟩, "[]"⟩

/-- A user who may not delete a collection is told so by a problem. -/
theorem isProblem_respond_iff_denied :
    ∃ s, ofConfig oneReader Files.none = .ok s ∧ deleteRequest.method ≠ "HEAD" ∧
      ((s.respond 0 deleteRequest).run Table.empty).1.status = 403 ∧
      ((s.respond 0 deleteRequest).run Table.empty).1.IsProblem := by
  obtain ⟨s, hs⟩ := Outcome.exists_of_isOk (x := ofConfig oneReader Files.none) (by decide +kernel)
  have hmethod : deleteRequest.method ≠ "HEAD" := by decide
  have hstatus : ((s.respond 0 deleteRequest).run Table.empty).1.status = 403 :=
    Outcome.eq_of_map hs (fun s => ((s.respond 0 deleteRequest).run Table.empty).1.status)
      (by decide +kernel)
  have hfailed : 400 ≤ ((s.respond 0 deleteRequest).run Table.empty).1.status := by
    rw [hstatus]
    decide
  have hunderstood : deleteRequest.Understood := by
    have htask : Task.ofRequest? deleteRequest = some (.operate .delete (some "x")) := by
      decide +kernel
    have hname : Percent.decodeText? "x" = some "x" := by decide +kernel
    refine ⟨_, htask, ?_⟩
    rintro op written hop
    obtain ⟨rfl, rfl⟩ := Task.operate.inj hop
    exact ⟨.on .delete "x", by simp only [CollectionCall.ofRequest, hname, CollectionCall.ofBody]⟩
  exact ⟨s, hs, hmethod, hstatus,
    (isProblem_respond_iff s 0 deleteRequest Table.empty hmethod hfailed).2 (Or.inr hunderstood)⟩

/-- A place that there is not is told without any content, and a body that is not JSON in plain
text. -/
theorem not_isProblem_of_stray : ∃ s, ofConfig oneReader Files.none = .ok s ∧
    strayRequest.method ≠ "HEAD" ∧ untypedRequest.method ≠ "HEAD" ∧
    ((s.respond 0 strayRequest).run Table.empty).1.status = 404 ∧
    ¬ ((s.respond 0 strayRequest).run Table.empty).1.IsProblem ∧
    ((s.respond 0 untypedRequest).run Table.empty).1.status = 415 ∧
    ¬ ((s.respond 0 untypedRequest).run Table.empty).1.IsProblem := by
  obtain ⟨s, hs⟩ := Outcome.exists_of_isOk (x := ofConfig oneReader Files.none) (by decide +kernel)
  have hstray : (((s.respond 0 strayRequest).run Table.empty).1.status,
      ((s.respond 0 strayRequest).run Table.empty).1.contentType) = (404, none) :=
    Outcome.eq_of_map hs (fun s => (((s.respond 0 strayRequest).run Table.empty).1.status,
      ((s.respond 0 strayRequest).run Table.empty).1.contentType)) (by decide +kernel)
  have huntyped : (((s.respond 0 untypedRequest).run Table.empty).1.status,
      ((s.respond 0 untypedRequest).run Table.empty).1.contentType) =
        (415, some "text/plain; charset=utf-8") :=
    Outcome.eq_of_map hs (fun s => (((s.respond 0 untypedRequest).run Table.empty).1.status,
      ((s.respond 0 untypedRequest).run Table.empty).1.contentType)) (by decide +kernel)
  obtain ⟨hstatus, htype⟩ := Prod.mk.inj hstray
  obtain ⟨hstatus', htype'⟩ := Prod.mk.inj huntyped
  refine ⟨s, hs, by decide, by decide, hstatus, ?_, hstatus', ?_⟩
  · intro h
    rw [h.contentType] at htype
    exact absurd htype (by decide)
  · intro h
    rw [h.contentType] at htype'
    exact absurd htype' (by decide)

end Server

end AccessGateway
