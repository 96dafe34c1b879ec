import AccessGateway.Proofs.Collections.Service
import AccessGateway.Proofs.Gateway.Screening
import AccessGateway.Proofs.Provider.RolePolicy

/-
  Who may do what behind the gateway. The server is taken apart from the outside in: sending
  keeps the status and the store (`run_respond`), the routes do at most the operation that the
  path and the method name (`run_routes`), and the operation runs only with its grant. Together
  with what the gateway knows of a request this gives the policy of the whole server: what was done
  or answered was granted to the user that the provider returned for that very request
  (`respond_of_ofProviders`). Over a whole run the store changes only by requests that are granted
  or exempt (`exists_granted_of_respondAll`).
-/

namespace AccessGateway

/-- The operation behind the route of a request. -/
def Request.operation? (r : Request) : Option CollectionOperation :=
  match Task.ofRequest? r with
  | some (.operate op _) => some op
  | _ => none

/-- Whether a response tells of success. -/
def Response.Succeeded (a : Response) : Prop := 200 ≤ a.status ∧ a.status < 300

/-- The user that a request comes from: the anonymous one if it is exempt from authentication,
otherwise the one that the provider returns for it. -/
def GatewayConfig.ComesFrom (c : GatewayConfig) (a : Authenticator) (r : Request) (user : String) :
    Prop :=
  (c.authn.Exempts r ∧ user = anonymousUser) ∨
    (¬ c.authn.Exempts r ∧ ∃ x, a r.credentials = .ok (some x) ∧ user = x.userId)

@[simp] theorem Response.status_withAllow (a : Response) (allow : Option String) :
    (a.withAllow allow).status = a.status := by
  cases allow <;> rfl

@[simp] theorem Response.status_answering (a : Response) (method : String) :
    (a.answering method).status = a.status := by
  unfold Response.answering
  split <;> rfl

theorem Misunderstanding.status_response (e : Misunderstanding) :
    400 ≤ e.response.status ∧ e.response.status ≠ 403 := by
  cases e <;> decide

/-! ## Routes -/

theorem CollectionCall.operation_of_ofBody {op : CollectionOperation} {name : String}
    {r : Request} {c : CollectionCall} (h : ofBody op name r = .ok c) : c.operation = op := by
  unfold ofBody at h
  split at h
  · obtain ⟨b, -, rfl⟩ := Outcome.map_eq_ok_iff.1 h
    rfl
  · cases h
    rfl

theorem CollectionCall.operation_of_ofRequest {op : CollectionOperation} {written : Option String}
    {r : Request} {c : CollectionCall} (h : ofRequest op written r = .ok c) :
    c.operation = op := by
  unfold ofRequest at h
  split at h
  · split at h
    · exact operation_of_ofBody h
    · cases h
  · split at h
    · obtain ⟨b, -, rfl⟩ := Outcome.map_eq_ok_iff.1 h
      rfl
    · cases h
      rfl

theorem Endpoint.task?_options (e : Endpoint) : e.task? "OPTIONS" = none := by
  cases e <;> rfl

/-- A browser that asks if it may send a request asks for no operation. -/
theorem Request.operation?_of_isPreflight {r : Request} (h : r.isPreflight = true) :
    r.operation? = none := by
  have hmethod : r.method = "OPTIONS" := by
    simp only [Request.isPreflight, Bool.and_eq_true, beq_iff_eq] at h
    exact h.1.1
  have htask : Task.ofRequest? r = none := by
    unfold Task.ofRequest?
    cases Endpoint.ofPath? r.path with
    | none => rfl
    | some e => simp [hmethod, Endpoint.task?_options]
  rw [Request.operation?, htask]

namespace Server

variable {s : Server} {r : Request}

/-- What the routes do is the task of the request, if it has one. -/
theorem run_routes (s : Server) (clock : Nat) (v : Visit) (store : Store) :
    (s.routes clock v).run store =
      match Task.ofRequest? v.request with
      | some t => (s.perform clock v t).run store
      | none =>
        (.bare (if (Endpoint.ofPath? v.request.path).isSome then 405 else 404), store) := by
  unfold routes Task.ofRequest?
  cases Endpoint.ofPath? v.request.path with
  | none => rfl
  | some e =>
    cases ht : e.task? v.request.method with
    | none => simp [ht]; rfl
    | some t => simp [ht]

/-- A route without an operation behind it leaves the store as it is and refuses nobody. -/
theorem run_routes_of_none {v : Visit} (h : v.request.operation? = none) (s : Server)
    (clock : Nat) (store : Store) :
    ((s.routes clock v).run store).2 = store ∧
      ((s.routes clock v).run store).1.status ≠ 403 := by
  have hdone : (200 : Nat) ≠ 403 := by decide
  rw [run_routes]
  unfold Request.operation? at h
  cases ht : Task.ofRequest? v.request with
  | none =>
    refine ⟨rfl, ?_⟩
    simp only [Response.bare]
    split <;> decide
  | some t =>
    cases t with
    | describe => exact ⟨rfl, hdone⟩
    | heartbeat => exact ⟨rfl, hdone⟩
    | version => exact ⟨rfl, hdone⟩
    | operate op written => simp [ht] at h

theorem task_of_operation? {op : CollectionOperation} (h : r.operation? = some op) :
    ∃ written, Task.ofRequest? r = some (.operate op written) := by
  unfold Request.operation? at h
  split at h
  · next op' written ht =>
    obtain rfl := Option.some.inj h
    exact ⟨written, ht⟩
  · cases h

/-- The routes run an operation exactly as the policy of the scope says. -/
theorem run_routes_of_some {v : Visit} {op : CollectionOperation} {info : RequestInfo} {p : Policy}
    (h : v.request.operation? = some op)
    (hscope : v.scope = some ⟨info, (Authorizer.mk p).provider⟩) (s : Server) (clock : Nat)
    (store : Store) :
    (op.grantFor (userOf info.identity) ∉ p.grants →
        ((s.routes clock v).run store).2 = store ∧
          ¬ ((s.routes clock v).run store).1.Succeeded) ∧
      (op.grantFor (userOf info.identity) ∈ p.grants →
        ((s.routes clock v).run store).1.status ≠ 403) := by
  obtain ⟨written, ht⟩ := task_of_operation? h
  rw [run_routes, ht]
  simp only [perform, StateT.run, Response.Succeeded]
  cases hc : CollectionCall.ofRequest op written v.request with
  | error e =>
    have hstatus := Misunderstanding.status_response e
    refine ⟨fun _ => ⟨rfl, fun hs => ?_⟩, fun _ => hstatus.2⟩
    have hbelow : e.response.status < 300 := hs.2
    omega
  | ok c =>
    obtain rfl := CollectionCall.operation_of_ofRequest hc
    rw [hscope]
    refine ⟨fun hdenied => ?_, CollectionCall.run_of_mem⟩
    obtain ⟨hstore, hstatus⟩ := CollectionCall.run_of_notMem (s := store) hdenied
    refine ⟨hstore, fun hs => ?_⟩
    have hbelow := hs.2
    rw [hstatus] at hbelow
    omega

/-! ## Requests -/

theorem run_respond (s : Server) (clock : Nat) (r : Request) (store : Store) :
    (s.respond clock r).run store =
      ((((s.gateway.handle (s.routes clock) r).run store).1.withAllow
          (Endpoint.allowed? r)).answering r.method,
        ((s.gateway.handle (s.routes clock) r).run store).2) := rfl

/-- A refused request leaves the store as it is. -/
theorem run_respond_of_error {e : Problem} (h : s.gateway.identify r = .error e) (clock : Nat)
    (store : Store) :
    ((s.respond clock r).run store).2 = store ∧
      ((s.respond clock r).run store).1.status = e.response.status := by
  rw [run_respond, Gateway.handle, Gateway.screen, h, Response.status_answering,
    Response.status_withAllow]
  exact ⟨rfl, rfl⟩

/-- A request that is let through leaves what the routes leave. -/
theorem run_respond_of_ok {identity : Option Identity} (h : s.gateway.identify r = .ok identity)
    (clock : Nat) (store : Store) :
    let v : Visit := ⟨r, identity, s.gateway.scope? r identity⟩
    ((s.respond clock r).run store).2 = ((s.routes clock v).run store).2 ∧
      ((s.respond clock r).run store).1.status = ((s.routes clock v).run store).1.status := by
  rw [run_respond, Gateway.handle, Gateway.screen, h, Response.status_answering,
    Response.status_withAllow]
  exact ⟨rfl, rfl⟩

end Server

theorem Gateway.status_of_identify {g : Gateway} {r : Request} {e : Problem}
    (h : g.identify r = .error e) : e.response.status = 401 ∨ e.response.status = 500 := by
  unfold identify at h
  split at h
  · cases h
  · unfold AuthenticationLayer.identify at h
    split at h
    · cases h
    · -- Which of the two it is depends on the error.
      obtain ⟨hfault, hunproven⟩ := AuthenticationLayer.status_of_verdict h
      exact (Classical.em _).symm.imp hunproven hfault

/-- The user of an operation is the one that the request comes from. -/
theorem Gateway.comesFrom_of_identify {c : GatewayConfig} {a : Authenticator}
    {authz : Option AuthorizationProvider} {g : Gateway}
    (hg : ofProviders c (some a) authz = .ok g) {r : Request} {op : CollectionOperation}
    (hop : r.operation? = some op) {identity : Option Identity}
    (hid : g.identify r = .ok identity) : c.ComesFrom a r (userOf identity) := by
  have hpreflight : ¬ r.isPreflight = true := by
    intro h
    rw [Request.operation?_of_isPreflight h] at hop
    cases hop
  by_cases hexempt : c.authn.Exempts r
  · rw [identify_of_unasked hg (Or.inr (Or.inr hexempt))] at hid
    obtain rfl := Except.ok.inj hid
    exact Or.inl ⟨hexempt, rfl⟩
  · have hasked : ¬ c.Unasked (some a) r := by
      rintro (h | h | h)
      · cases h
      · exact hpreflight h
      · exact hexempt h
    obtain ⟨a', x, ha', hx, rfl⟩ := (identify_eq_ok_iff hg hasked).1 hid
    obtain rfl := Option.some.inj ha'
    exact Or.inr ⟨hexempt, x, hx, rfl⟩

/-! ## The policy of a server -/

/-- A request that the policy grants: the operation behind its route is granted to the user that
the request comes from. -/
def Policy.GrantsRequest (p : Policy) (c : GatewayConfig) (a : Authenticator) (r : Request) :
    Prop :=
  ∃ op user, r.operation? = some op ∧ c.ComesFrom a r user ∧ op.grantFor user ∈ p.grants

/-- A request that the policy does not grant, although its route has an operation behind it and
it is known whom it comes from. -/
def Policy.DeniesRequest (p : Policy) (c : GatewayConfig) (a : Authenticator) (r : Request) :
    Prop :=
  ∃ op user, r.operation? = some op ∧ c.ComesFrom a r user ∧ op.grantFor user ∉ p.grants

namespace Server

/-- One request, whatever the store is that the requests before it have left: what is done or
answered is granted, and what is refused for lack of a grant has none. -/
theorem respond_of_ofProviders {c : GatewayConfig} {a : Authenticator} {p : Policy} {s : Server}
    (hg : Gateway.ofProviders c (some a) (some (Authorizer.mk p).provider) = .ok s.gateway)
    {r : Request} (hr : ¬ c.authz.Exempts r) (clock : Nat) (store : Store) :
    let answer := (s.respond clock r).run store
    (answer.2 ≠ store ∨ (r.operation?.isSome ∧ answer.1.Succeeded) → p.GrantsRequest c a r) ∧
      (answer.1.status = 403 → p.DeniesRequest c a r) := by
  intro answer
  cases hid : s.gateway.identify r with
  | error e =>
    obtain ⟨hstore, hstatus⟩ := run_respond_of_error hid clock store
    have hrefused : answer.1.status = 401 ∨ answer.1.status = 500 := by
      rw [hstatus]
      exact Gateway.status_of_identify hid
    refine ⟨?_, fun h => ?_⟩
    · rintro (h | ⟨-, h⟩)
      · exact absurd hstore h
      · have hbelow := h.2
        omega
    · omega
  | ok identity =>
    obtain ⟨hstore, hstatus⟩ := run_respond_of_ok hid clock store
    have hscope := (Gateway.scope?_eq_some_iff hg r identity _).2 ⟨_, rfl, hr, rfl⟩
    cases hop : r.operation? with
    | none =>
      obtain ⟨hsame, hopen⟩ :=
        run_routes_of_none (v := ⟨r, identity, s.gateway.scope? r identity⟩) hop s clock store
      refine ⟨?_, fun h => absurd (hstatus.symm.trans h) hopen⟩
      rintro (h | ⟨h, -⟩)
      · exact absurd (hstore.trans hsame) h
      · cases h
    | some op =>
      obtain ⟨hdenied, hgranted⟩ := run_routes_of_some
        (v := ⟨r, identity, s.gateway.scope? r identity⟩) hop hscope s clock store
      have hfrom := Gateway.comesFrom_of_identify hg hop hid
      by_cases hmem : op.grantFor (userOf identity) ∈ p.grants
      · exact ⟨fun _ => ⟨op, _, hop, hfrom, hmem⟩,
          fun h => absurd (hstatus.symm.trans h) (hgranted hmem)⟩
      · refine ⟨?_, fun _ => ⟨op, _, hop, hfrom, hmem⟩⟩
        obtain ⟨hsame, hfailed⟩ := hdenied hmem
        rintro (h | ⟨-, h⟩)
        · exact absurd (hstore.trans hsame) h
        · rw [Response.Succeeded, hstatus] at h
          exact absurd h hfailed

/-- What a configuration with authentication and with roles is made of. -/
theorem ofConfig_eq_ok {c : AppConfig} {files : Files} {s : Server} {name : String}
    (h : ofConfig c files = .ok s) (hauthn : c.gateway.authn.provider = some name)
    (hauthz : c.gateway.authz.provider = some "simple_rbac") :
    ∃ a p, ProviderRegistry.builtin.instantiate c.providers files .authn name = .ok a ∧
      c.providers.CompilesTo files p ∧
      Gateway.ofProviders c.gateway (some a) (some (Authorizer.mk p).provider) =
        .ok s.gateway := by
  obtain ⟨g, hg, rfl⟩ := Outcome.map_eq_ok_iff.1 h
  obtain ⟨authn, authz, ha, hz, hlayers⟩ := Gateway.ofRegistry_eq_ok_iff.1 hg
  rw [hauthn] at ha
  rw [hauthz] at hz
  obtain ⟨a, hmade, rfl⟩ := Gateway.provider_some_eq_ok_iff.1 ha
  obtain ⟨z, hroles, rfl⟩ := Gateway.provider_some_eq_ok_iff.1 hz
  obtain ⟨p, hp, rfl⟩ := ProviderRegistry.instantiate_rolePolicy_eq_ok_iff.1 hroles
  exact ⟨a, p, hmade, hp, hlayers⟩

/-- Over a whole run the store changes only by requests that the policy grants or that are exempt
from authorization. -/
theorem exists_granted_of_respondAll {c : GatewayConfig} {a : Authenticator} {p : Policy} {s : Server}
    (hg : Gateway.ofProviders c (some a) (some (Authorizer.mk p).provider) = .ok s.gateway)
    (requests : List (Nat × Request)) (store : Store)
    (h : ((s.respondAll requests).run store).2 ≠ store) :
    ∃ x ∈ requests, c.authz.Exempts x.2 ∨ p.GrantsRequest c a x.2 := by
  induction requests generalizing store with
  | nil => exact absurd rfl h
  | cons x rest ih =>
    obtain ⟨clock, r⟩ := x
    by_cases hfirst : ((s.respond clock r).run store).2 = store
    · -- The first request changed nothing, so one of the rest did.
      have hrest : ((s.respondAll rest).run store).2 ≠ store := by
        intro hsame
        refine h ?_
        have hrun : ((s.respondAll ((clock, r) :: rest)).run store).2 =
            ((s.respondAll rest).run ((s.respond clock r).run store).2).2 := rfl
        rw [hrun, hfirst, hsame]
      obtain ⟨x, hx, hgranted⟩ := ih store hrest
      exact ⟨x, List.mem_cons_of_mem _ hx, hgranted⟩
    · refine ⟨(clock, r), List.mem_cons_self, ?_⟩
      by_cases hr : c.authz.Exempts r
      · exact Or.inl hr
      · exact Or.inr ((respond_of_ofProviders hg hr clock store).1 (Or.inl hfirst))

/-- For every configuration with authentication and with roles that the server starts from, and
whatever store the requests before have left: if a request that is not exempt from authorization
changes the store or has success with an operation, the compiled policy grants the operation to
the user that the authentication provider returned for this very request, or to the anonymous one
if the request is exempt from authentication; if it is answered 403, the policy does not. A request
that authentication refuses leaves the store as it is. -/
theorem granted_of_ofConfig {c : AppConfig} {files : Files} {s : Server} {name : String}
    (h : ofConfig c files = .ok s) (hauthn : c.gateway.authn.provider = some name)
    (hauthz : c.gateway.authz.provider = some "simple_rbac") :
    ∃ a p, ProviderRegistry.builtin.instantiate c.providers files .authn name = .ok a ∧
      c.providers.CompilesTo files p ∧
      ∀ (clock : Nat) (r : Request) (store : Store),
        let answer := (s.respond clock r).run store
        (¬ c.gateway.authz.Exempts r →
            (answer.2 ≠ store ∨ (r.operation?.isSome ∧ answer.1.Succeeded) →
              p.GrantsRequest c.gateway a r) ∧
            (answer.1.status = 403 → p.DeniesRequest c.gateway a r)) ∧
          (¬ c.gateway.Unasked (some a) r → (∀ x, a r.credentials ≠ .ok (some x)) →
            answer.2 = store) := by
  obtain ⟨a, p, ha, hp, hg⟩ := ofConfig_eq_ok h hauthn hauthz
  refine ⟨a, p, ha, hp, fun clock r store => ⟨?_, ?_⟩⟩
  · intro hr
    exact respond_of_ofProviders hg hr clock store
  · intro hasked hnobody
    cases hid : s.gateway.identify r with
    | error e => exact (run_respond_of_error hid clock store).1
    | ok identity =>
      obtain ⟨a', x, ha', hx, -⟩ := (Gateway.identify_eq_ok_iff hg hasked).1 hid
      obtain rfl := Option.some.inj ha'
      exact absurd hx (hnobody x)

/-- One user with a token, who may list the collections. -/
def oneReader : AppConfig where
  server := ⟨"127.0.0.1:8000"⟩
  logging := ⟨"info", .text⟩
  gateway := ⟨⟨some "static_token", openRoutes⟩, ⟨some "simple_rbac", Table.empty⟩⟩
  providers := ⟨Table.ofList [
    ("static_token", .object [("mode", .text "static_tokens"), ("tokens", .list [.object [
      ("identity", .object [("user_id", .text "ann")]), ("token", .text "secret")]])]),
    ("simple_rbac", .object [("config_provider", .text "inline_authz_config")]),
    ("inline_authz_config", .object [
      ("roles_mapping", .object [("reader", .object [
        ("actions", .list [.text "db:list_collections"])])]),
      ("users", .list [.object [("id", .text "ann"), ("role", .text "reader")]])])]⟩

/-- A request for the headers of the list. -/
def listRequest : Request :=
  ⟨"HEAD", ⟨"/api/v1/collections", none⟩, ⟨[("authorization", "Bearer secret")]⟩, ""⟩

/-- A request to delete a collection. -/
def deleteRequest : Request :=
  ⟨"DELETE", ⟨"/api/v1/collections/x", none⟩, ⟨[("authorization", "Bearer secret")]⟩, ""⟩

/-- The user gets the headers of the list, but may not delete a collection. -/
theorem granted_of_ofConfig_oneReader :
    ∃ s a p, ofConfig oneReader Files.none = .ok s ∧
      ProviderRegistry.builtin.instantiate oneReader.providers Files.none .authn "static_token" =
        .ok a ∧
      oneReader.providers.CompilesTo Files.none p ∧
      p.GrantsRequest oneReader.gateway a listRequest ∧
      p.DeniesRequest oneReader.gateway a deleteRequest := by
  obtain ⟨s, hs⟩ := Outcome.exists_of_isOk (x := ofConfig oneReader Files.none) (by decide)
  obtain ⟨a, p, ha, hp, hgranted⟩ := granted_of_ofConfig hs rfl rfl
  refine ⟨s, a, p, hs, ha, hp, ?_, ?_⟩
  · have hstatus : ((s.respond 0 listRequest).run Table.empty).1.status = 200 := by
      have h : ((ofConfig oneReader Files.none).map fun s =>
          ((s.respond 0 listRequest).run Table.empty).1.status).toOption = some 200 := by
        decide +kernel
      rw [hs] at h
      exact Option.some.inj h
    have hopen : ¬ oneReader.gateway.authz.Exempts listRequest := by
      rw [LayerConfig.exempts_iff (b := .empty) rfl]
      decide
    refine ((hgranted 0 listRequest Table.empty).1 hopen).1 (Or.inr ⟨by decide, ?_⟩)
    rw [Response.Succeeded, hstatus]
    decide
  · have hstatus : ((s.respond 0 deleteRequest).run Table.empty).1.status = 403 := by
      have h : ((ofConfig oneReader Files.none).map fun s =>
          ((s.respond 0 deleteRequest).run Table.empty).1.status).toOption = some 403 := by
        decide +kernel
      rw [hs] at h
      exact Option.some.inj h
    have hopen : ¬ oneReader.gateway.authz.Exempts deleteRequest := by
      rw [LayerConfig.exempts_iff (b := .empty) rfl]
      decide
    exact ((hgranted 0 deleteRequest Table.empty).1 hopen).2 hstatus

end Server

end AccessGateway
