import AccessGateway.Gateway.Basic
import AccessGateway.Proofs.Outcome

/-
  What becomes of a request at the gateway. `LayerConfig.Exempts` and `GatewayConfig.Unasked` say
  of the configuration alone which requests a layer lets pass; `ofRegistry_eq_ok_iff` and
  `ofProviders_eq_ok_iff` give the providers and the layers of a gateway back. `recorded` is the
  gateway with a record of its calls, of the provider and of the routes, and forgetting the record
  gives `handle` again (`map_fst_recorded`). Whatever the routes do in whatever monad, they are run
  once, as the last call, or not at all (`recorded_eq`).
-/

namespace AccessGateway

/-- A layer that is configured so lets a request pass unchecked. -/
def LayerConfig.Exempts (c : LayerConfig) (r : Request) : Prop :=
  ∃ b, BypassList.ofConfig c.bypass = .ok b ∧ b.letsThrough r.method r.path = true

/-- A request for which the authentication provider is not asked: there is none, a browser asks
if it may send another request, or the request is exempt. -/
def GatewayConfig.Unasked (c : GatewayConfig) (authn : Option Authenticator) (r : Request) :
    Prop :=
  authn = none ∨ r.isPreflight = true ∨ c.authn.Exempts r

theorem LayerConfig.exempts_iff {c : LayerConfig} {b : BypassList}
    (h : BypassList.ofConfig c.bypass = .ok b) (r : Request) :
    c.Exempts r ↔ b.letsThrough r.method r.path = true := by
  constructor
  · rintro ⟨b', hb', hpass⟩
    obtain rfl := Except.ok.inj (h.symm.trans hb')
    exact hpass
  · intro hpass
    exact ⟨b, h, hpass⟩

/-! ## Verdicts -/

/-- Only a credential that no HTTP request can carry is answered as a fault of the server. -/
theorem AuthenticationError.status_toProblem (e : AuthenticationError) :
    ((∃ k, e = .credential (.unsupportedKind k)) → e.toProblem.response.status = 500) ∧
      ((¬ ∃ k, e = .credential (.unsupportedKind k)) → e.toProblem.response.status = 401) := by
  cases e with
  | credential e =>
    cases e with
    | unsupportedKind k => exact ⟨fun _ => rfl, fun h => absurd ⟨k, rfl⟩ h⟩
    | unreadable k key => exact ⟨fun ⟨_, h⟩ => by simp at h, fun _ => rfl⟩
  | unavailable t => exact ⟨fun ⟨_, h⟩ => by simp at h, fun _ => rfl⟩
  | internal t => exact ⟨fun ⟨_, h⟩ => by simp at h, fun _ => rfl⟩

namespace AuthenticationLayer

variable {x : Except AuthenticationError (Option Identity)}

theorem verdict_eq_ok_iff {identity : Option Identity} :
    verdict x = .ok identity ↔ ∃ y, x = .ok (some y) ∧ identity = some y := by
  cases x with
  | error e => simp [verdict]
  | ok o => cases o <;> simp [verdict, eq_comm]

theorem status_of_verdict {p : Problem} (h : verdict x = .error p) :
    ((∃ k, x = .error (.credential (.unsupportedKind k))) → p.response.status = 500) ∧
      ((¬ ∃ k, x = .error (.credential (.unsupportedKind k))) → p.response.status = 401) := by
  cases x with
  | error e =>
    obtain rfl := Except.error.inj h
    simp only [Except.error.injEq]
    exact e.status_toProblem
  | ok o =>
    cases o with
    | none =>
      obtain rfl := Except.error.inj h
      refine ⟨?_, fun _ => rfl⟩
      rintro ⟨k, hk⟩
      cases hk
    | some y => cases h

end AuthenticationLayer

namespace Gateway

/-! ## The layers of a gateway -/

theorem layer_some_eq_ok_iff {α β : Type} {build : α → BypassList → β} {c : LayerConfig} {p : α}
    {x : Option β} :
    layer build c (some p) = .ok x ↔
      ∃ b, BypassList.ofConfig c.bypass = .ok b ∧ x = some (build p b) := by
  unfold layer
  rw [Outcome.map_eq_ok_iff]
  simp only [eq_comm (a := x)]

theorem ofProviders_eq_ok_iff {c : GatewayConfig} {authn : Option Authenticator}
    {authz : Option AuthorizationProvider} {g : Gateway} :
    ofProviders c authn authz = .ok g ↔
      layer AuthenticationLayer.mk c.authn authn = .ok g.authn ∧
        layer AuthorizationLayer.mk c.authz authz = .ok g.authz := by
  unfold ofProviders
  cases layer AuthenticationLayer.mk c.authn authn with
  | error e => simp
  | ok a =>
    cases layer AuthorizationLayer.mk c.authz authz with
    | error e => simp
    | ok z => cases g; simp

theorem provider_some_eq_ok_iff {registry : ProviderRegistry} {settings : ProviderSettings}
    {files : Files} {c : Capability ProviderType} {name : String}
    {x : Option c.provider.Provider} :
    provider registry settings files c (some name) = .ok x ↔
      ∃ p, registry.instantiate settings files c name = .ok p ∧ some p = x :=
  Outcome.map_eq_ok_iff

theorem ofRegistry_eq_ok_iff {c : GatewayConfig} {registry : ProviderRegistry}
    {settings : ProviderSettings} {files : Files} {g : Gateway} :
    ofRegistry c registry settings files = .ok g ↔
      ∃ authn authz,
        provider registry settings files .authn c.authn.provider = .ok authn ∧
          provider registry settings files .authz c.authz.provider = .ok authz ∧
          ofProviders c authn authz = .ok g := by
  unfold ofRegistry
  cases provider registry settings files .authn c.authn.provider with
  | error e => simp
  | ok authn =>
    cases provider registry settings files .authz c.authz.provider with
    | error e => simp
    | ok authz => simp [Outcome.mapError_eq_ok_iff]

theorem skips_iff_unasked {c : GatewayConfig} {a : Authenticator} {b : BypassList}
    (h : BypassList.ofConfig c.authn.bypass = .ok b) (r : Request) :
    (AuthenticationLayer.mk a b).skips r = true ↔ c.Unasked (some a) r := by
  simp [AuthenticationLayer.skips, GatewayConfig.Unasked, LayerConfig.exempts_iff h]

/-- The scope that a request gets, said of the configuration. -/
theorem scope?_eq_some_iff {c : GatewayConfig} {authn : Option Authenticator}
    {authz : Option AuthorizationProvider} {g : Gateway} (h : ofProviders c authn authz = .ok g)
    (r : Request) (identity : Option Identity) (s : Scope) :
    g.scope? r identity = some s ↔
      ∃ z, authz = some z ∧ ¬ c.authz.Exempts r ∧ s = ⟨⟨r.method, r.path, identity⟩, z⟩ := by
  obtain ⟨-, hz⟩ := ofProviders_eq_ok_iff.1 h
  unfold scope?
  cases authz with
  | none =>
    rw [← Except.ok.inj hz]
    simp
  | some z =>
    obtain ⟨b, hb, hlayer⟩ := layer_some_eq_ok_iff.1 hz
    rw [hlayer, LayerConfig.exempts_iff hb]
    by_cases hpass : b.letsThrough r.method r.path = true
    · simp [AuthorizationLayer.scope?, hpass]
    · have hscope : (some (AuthorizationLayer.mk z b)).bind (fun l => l.scope? r identity) =
          some ⟨⟨r.method, r.path, identity⟩, z⟩ := if_neg hpass
      rw [hscope]
      constructor
      · rintro ⟨⟩
        exact ⟨z, rfl, hpass, rfl⟩
      · rintro ⟨z', hz', -, rfl⟩
        rw [Option.some.inj hz']

/-- Without a need to ask, nobody knows whom a request comes from, and it is let through. -/
theorem identify_of_unasked {c : GatewayConfig} {authn : Option Authenticator}
    {authz : Option AuthorizationProvider} {g : Gateway} (h : ofProviders c authn authz = .ok g)
    {r : Request} (hr : c.Unasked authn r) : g.identify r = .ok none := by
  obtain ⟨ha, -⟩ := ofProviders_eq_ok_iff.1 h
  unfold identify
  cases authn with
  | none => rw [← Except.ok.inj ha]
  | some a =>
    obtain ⟨b, hb, hlayer⟩ := layer_some_eq_ok_iff.1 ha
    rw [hlayer]
    exact if_pos ((skips_iff_unasked hb r).2 hr)

/-- Otherwise there is a provider, and it decides. -/
theorem identify_of_asked {c : GatewayConfig} {authn : Option Authenticator}
    {authz : Option AuthorizationProvider} {g : Gateway} (h : ofProviders c authn authz = .ok g)
    {r : Request} (hr : ¬ c.Unasked authn r) :
    ∃ a, authn = some a ∧
      g.identify r = AuthenticationLayer.verdict (a r.credentials) := by
  obtain ⟨ha, -⟩ := ofProviders_eq_ok_iff.1 h
  cases authn with
  | none => exact absurd (Or.inl rfl) hr
  | some a =>
    obtain ⟨b, hb, hlayer⟩ := layer_some_eq_ok_iff.1 ha
    refine ⟨a, rfl, ?_⟩
    unfold identify
    rw [hlayer]
    exact if_neg (mt (skips_iff_unasked hb r).1 hr)

theorem identify_eq_ok_iff {c : GatewayConfig} {authn : Option Authenticator}
    {authz : Option AuthorizationProvider} {g : Gateway} (h : ofProviders c authn authz = .ok g)
    {r : Request} (hr : ¬ c.Unasked authn r) {identity : Option Identity} :
    g.identify r = .ok identity ↔
      ∃ a x, authn = some a ∧ a r.credentials = .ok (some x) ∧ identity = some x := by
  obtain ⟨a, rfl, hid⟩ := identify_of_asked h hr
  rw [hid, AuthenticationLayer.verdict_eq_ok_iff]
  constructor
  · rintro ⟨x, hx, hidentity⟩
    exact ⟨a, x, rfl, hx, hidentity⟩
  · rintro ⟨a', x, ha', hx, hidentity⟩
    obtain rfl := Option.some.inj ha'
    exact ⟨x, hx, hidentity⟩

end Gateway

/-! ## The calls for a request -/

/-- A call that the gateway makes for a request. -/
inductive GatewayCall where
  | authenticate (c : CredentialRequest)
  | routes (v : Visit)

namespace Gateway

variable {m : Type → Type} [Monad m]

/-- `identify` with the provider asked in a monad. -/
def identifyBy (ask : Authenticator → CredentialRequest →
    m (Except AuthenticationError (Option Identity))) (g : Gateway) (r : Request) :
    m (Except Problem (Option Identity)) :=
  match g.authn with
  | none => pure (.ok none)
  | some l =>
    if l.skips r then pure (.ok none)
    else AuthenticationLayer.verdict <$> ask l.authenticate r.credentials

/-- `handle` with the provider asked in a monad. -/
def handleBy (ask : Authenticator → CredentialRequest →
    m (Except AuthenticationError (Option Identity))) (g : Gateway)
    (routes : Visit → m Response) (r : Request) : m Response := do
  match ← g.identifyBy ask r with
  | .error p => pure p.response
  | .ok identity => routes ⟨r, identity, g.scope? r identity⟩

/-- `handle` with a record of the calls that are made. -/
def recorded (g : Gateway) (routes : Visit → m Response) (r : Request) :
    m (Response × List GatewayCall) :=
  (g.handleBy (m := StateT (List GatewayCall) m)
    (fun a c => do
      modify (· ++ [.authenticate c])
      pure (a c))
    (fun v => do
      modify (· ++ [.routes v])
      routes v) r).run []

/-- The call of the provider, if it is asked. -/
def asks (g : Gateway) (r : Request) : List GatewayCall :=
  match g.authn with
  | none => []
  | some l => if l.skips r then [] else [.authenticate r.credentials]

theorem asks_of_unasked {c : GatewayConfig} {authn : Option Authenticator}
    {authz : Option AuthorizationProvider} {g : Gateway} (h : ofProviders c authn authz = .ok g)
    {r : Request} (hr : c.Unasked authn r) : g.asks r = [] := by
  obtain ⟨ha, -⟩ := ofProviders_eq_ok_iff.1 h
  unfold asks
  cases authn with
  | none => rw [← Except.ok.inj ha]
  | some a =>
    obtain ⟨b, hb, hlayer⟩ := layer_some_eq_ok_iff.1 ha
    rw [hlayer]
    exact if_pos ((skips_iff_unasked hb r).2 hr)

theorem asks_of_asked {c : GatewayConfig} {authn : Option Authenticator}
    {authz : Option AuthorizationProvider} {g : Gateway} (h : ofProviders c authn authz = .ok g)
    {r : Request} (hr : ¬ c.Unasked authn r) : g.asks r = [.authenticate r.credentials] := by
  obtain ⟨ha, -⟩ := ofProviders_eq_ok_iff.1 h
  unfold asks
  cases authn with
  | none => exact absurd (Or.inl rfl) hr
  | some a =>
    obtain ⟨b, hb, hlayer⟩ := layer_some_eq_ok_iff.1 ha
    rw [hlayer]
    exact if_neg (mt (skips_iff_unasked hb r).1 hr)

variable [LawfulMonad m]

theorem handleBy_pure (g : Gateway) (routes : Visit → m Response) (r : Request) :
    g.handleBy (fun a c => pure (a c)) routes r = g.handle routes r := by
  unfold handleBy handle screen identify identifyBy
  cases g.authn with
  | none => simp
  | some l =>
    by_cases hs : l.skips r = true
    · simp [AuthenticationLayer.identify, hs]
    · cases hv : AuthenticationLayer.verdict (l.authenticate r.credentials) <;>
        simp [AuthenticationLayer.identify, hs, hv]

theorem recorded_eq (g : Gateway) (routes : Visit → m Response) (r : Request) :
    g.recorded routes r =
      match g.screen r with
      | .refused p => pure (p.response, g.asks r)
      | .passed v => (fun answer => (answer, g.asks r ++ [.routes v])) <$> routes v := by
  unfold recorded handleBy identifyBy screen identify asks
  cases g.authn with
  | none => simp
  | some l =>
    by_cases hs : l.skips r = true
    · simp [AuthenticationLayer.identify, hs]
    · cases hv : AuthenticationLayer.verdict (l.authenticate r.credentials) <;>
        simp [AuthenticationLayer.identify, hs, hv]

theorem map_fst_recorded (g : Gateway) (routes : Visit → m Response) (r : Request) :
    Prod.fst <$> g.recorded routes r = g.handle routes r := by
  rw [recorded_eq]
  unfold handle
  cases g.screen r with
  | refused p => simp
  | passed v => simp

/-! ## What becomes of a request -/

/-- A request that reaches the routes: with which identity and in which scope. -/
structure Admits (c : GatewayConfig) (authn : Option Authenticator)
    (authz : Option AuthorizationProvider) (r : Request) (v : Visit) : Prop where
  request : v.request = r
  /-- A request that nobody was asked about has no identity. -/
  unasked : c.Unasked authn r → v.identity = none
  /-- Any other has the one that the provider returned. -/
  asked : ¬ c.Unasked authn r →
    ∃ a x, authn = some a ∧ a r.credentials = .ok (some x) ∧ v.identity = some x
  /-- The scope is there if there is a provider for it and the request is not exempt. -/
  scope : ∀ s, v.scope = some s ↔
    ∃ z, authz = some z ∧ ¬ c.authz.Exempts r ∧ s = ⟨⟨r.method, r.path, v.identity⟩, z⟩

/-- A request reaches the routes exactly if the provider is not asked or answers with an identity.
It reaches them once and last; otherwise they are not run and the answer is fixed. -/
theorem recorded_of_ofProviders {c : GatewayConfig} {authn : Option Authenticator}
    {authz : Option AuthorizationProvider} {g : Gateway} (h : ofProviders c authn authz = .ok g)
    (r : Request) :
    let admitted := c.Unasked authn r ∨ ∃ a x, authn = some a ∧ a r.credentials = .ok (some x)
    let unsupported := ∃ a k, authn = some a ∧
      a r.credentials = .error (.credential (.unsupportedKind k))
    ∃ asks : List GatewayCall,
      (c.Unasked authn r → asks = []) ∧
      (¬ c.Unasked authn r → asks = [.authenticate r.credentials]) ∧
      (admitted → ∃ v, Admits c authn authz r v ∧
        ∀ (m : Type → Type) [Monad m] [LawfulMonad m] (routes : Visit → m Response),
          g.recorded routes r = (fun answer => (answer, asks ++ [.routes v])) <$> routes v ∧
            g.handle routes r = routes v) ∧
      (¬ admitted → ∃ answer : Response,
        (unsupported → answer.status = 500) ∧ (¬ unsupported → answer.status = 401) ∧
        ∀ (m : Type → Type) [Monad m] [LawfulMonad m] (routes : Visit → m Response),
          g.recorded routes r = pure (answer, asks) ∧ g.handle routes r = pure answer) := by
  intro admitted unsupported
  refine ⟨g.asks r, asks_of_unasked h, asks_of_asked h, ?_, ?_⟩
  · intro hadmitted
    -- The identity is settled first; the rest is the same for both ways in.
    have hidentity : ∃ identity, g.identify r = .ok identity ∧
        (c.Unasked authn r → identity = none) ∧
        (¬ c.Unasked authn r →
          ∃ a x, authn = some a ∧ a r.credentials = .ok (some x) ∧ identity = some x) := by
      by_cases hr : c.Unasked authn r
      · exact ⟨none, identify_of_unasked h hr, fun _ => rfl, fun hn => absurd hr hn⟩
      · obtain ⟨a, x, ha, hx⟩ := hadmitted.resolve_left hr
        exact ⟨some x, (identify_eq_ok_iff h hr).2 ⟨a, x, ha, hx, rfl⟩,
          fun hu => absurd hu hr, fun _ => ⟨a, x, ha, hx, rfl⟩⟩
    obtain ⟨identity, hid, hunasked, hasked⟩ := hidentity
    have hscreen : g.screen r = .passed ⟨r, identity, g.scope? r identity⟩ := by
      rw [screen, hid]
    refine ⟨⟨r, identity, g.scope? r identity⟩,
      ⟨rfl, hunasked, hasked, scope?_eq_some_iff h r identity⟩, ?_⟩
    intro m _ _ routes
    rw [recorded_eq, handle, hscreen]
    exact ⟨rfl, rfl⟩
  · intro hadmitted
    have hr : ¬ c.Unasked authn r := fun hr => hadmitted (Or.inl hr)
    obtain ⟨a, ha, hid⟩ := identify_of_asked h hr
    cases hverdict : AuthenticationLayer.verdict (a r.credentials) with
    | ok identity =>
      obtain ⟨x, hx, -⟩ := AuthenticationLayer.verdict_eq_ok_iff.1 hverdict
      exact absurd (Or.inr ⟨a, x, ha, hx⟩) hadmitted
    | error p =>
      obtain ⟨hfault, hunproven⟩ := AuthenticationLayer.status_of_verdict hverdict
      refine ⟨p.response, ?_, fun hn => hunproven fun ⟨k, hk⟩ => hn ⟨a, k, ha, hk⟩, ?_⟩
      · rintro ⟨a', k, ha', hk⟩
        obtain rfl := Option.some.inj (ha.symm.trans ha')
        exact hfault ⟨k, hk⟩
      · intro m _ _ routes
        rw [recorded_eq, handle, screen, hid, hverdict]
        exact ⟨rfl, rfl⟩

/-- Authentication with one open route, authorization with none. -/
def oneOpenRoute : GatewayConfig :=
  ⟨⟨some "known", Table.ofList [("/open/:name", ["get"])]⟩, ⟨some "lenient", Table.empty⟩⟩

/-- A gateway that knows everybody as one user and allows everything. -/
def oneUser : Gateway where
  authn := some
    ⟨fun _ => .ok (some ⟨"ann", none, []⟩),
      ⟨[("GET", "/open/".toList.map .letter ++ [.parameter])]⟩⟩
  authz := some ⟨fun _ => .ok true, .empty⟩

/-- Behind the open route, where the provider is asked. -/
theorem recorded_of_ofProviders_closed :
    ofProviders oneOpenRoute (some fun _ => .ok (some ⟨"ann", none, []⟩))
        (some fun _ => .ok true) = .ok oneUser ∧
      ∃ v : Visit, v.identity = some ⟨"ann", none, []⟩ ∧
        v.scope = some ⟨⟨"GET", "/closed", some ⟨"ann", none, []⟩⟩, fun _ => .ok true⟩ ∧
        oneUser.recorded (m := Id) (fun _ => .bare 200) ⟨"GET", ⟨"/closed", none⟩, ⟨[]⟩, ""⟩ =
          (.bare 200, [.authenticate (httpCredentials ⟨[]⟩ ⟨"/closed", none⟩), .routes v]) := by
  have built : ofProviders oneOpenRoute (some fun _ => .ok (some ⟨"ann", none, []⟩))
      (some fun _ => .ok true) = .ok oneUser := rfl
  refine ⟨built, ?_⟩
  obtain ⟨asks, -, hasked, hadmitted, -⟩ := recorded_of_ofProviders built
    ⟨"GET", ⟨"/closed", none⟩, ⟨[]⟩, ""⟩
  have hn : ¬ oneOpenRoute.Unasked (some fun _ => .ok (some ⟨"ann", none, []⟩))
      ⟨"GET", ⟨"/closed", none⟩, ⟨[]⟩, ""⟩ := by
    rintro (h | h | h)
    · cases h
    · exact absurd h (by decide)
    · exact absurd ((LayerConfig.exempts_iff (b := ⟨[("GET", _)]⟩) rfl _).1 h) (by decide)
  obtain ⟨v, hv, hruns⟩ := hadmitted (Or.inr ⟨_, _, rfl, rfl⟩)
  obtain ⟨a, x, ha, hx, hid⟩ := hv.asked hn
  obtain rfl := Option.some.inj ha
  obtain rfl := Option.some.inj (Except.ok.inj hx)
  refine ⟨v, hid, ?_, ?_⟩
  · rw [hv.scope]
    refine ⟨_, rfl, ?_, by rw [hid]; rfl⟩
    rw [LayerConfig.exempts_iff (b := .empty) rfl]
    decide
  · rw [(hruns Id _).1, hasked hn]
    rfl

end Gateway

end AccessGateway
