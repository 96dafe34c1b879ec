import AccessGateway.Proofs.Authentication.Basic
import AccessGateway.Proofs.Gateway.Screening
import AccessGateway.Server.Basic

/-
  What a rejected request learns. `Gateway.serve` is a gateway around any routes, together with
  what sending does to the answer; a server is one of these (`Server.respond_eq_serve`). Two
  requests that the provider rejects, for whatever reasons, get the same status, the same type and
  the same content, and the routes are run for neither: the paths, the headers, the bodies and the
  store make no difference (`alike_of_rejected`). Only the methods that the `allow` header names
  are those of the path.
-/

namespace AccessGateway

/-- A request that the authentication provider is asked about and does not accept. -/
def GatewayConfig.Rejects (c : GatewayConfig) (a : Authenticator) (r : Request) : Prop :=
  ¬ c.Unasked (some a) r ∧ a r.credentials = .ok none

/-! ## Why a request is rejected -/

/-- Nothing is under the key, or the scheme is another, or what follows it stands for nobody. -/
theorem Authenticator.ofSource_eq_none_iff {source : CredentialSource}
    {find : String → Option Identity} {request : CredentialRequest} :
    Authenticator.ofSource source find request = .ok none ↔
      ∃ value, request source.kind source.key = .ok value ∧
        ∀ text, value = some text → ∀ credential,
          CredentialSource.credentialIn source.scheme text = some credential →
            find credential = none := by
  unfold ofSource CredentialSource.extract
  cases request source.kind source.key with
  | error e => simp
  | ok value =>
    cases value with
    | none => simp
    | some text =>
      cases hcredential : CredentialSource.credentialIn source.scheme text with
      | none => simp [hcredential]
      | some credential => simp [hcredential]

/-! ## What it is told -/

/-- What is sent for a problem differs by the `allow` header alone. -/
theorem Problem.answering_withAllow (p : Problem) (allow : Option String) (method : String) :
    (p.response.withAllow allow).answering method =
      { p.response.answering method with allow := allow } := by
  have hallow : p.response.withAllow allow = { p.response with allow := allow } := by
    cases allow <;> rfl
  rw [hallow]
  unfold Response.answering
  by_cases hbare : method = "HEAD" ∨
      (method = "CONNECT" ∧ 200 ≤ p.response.status ∧ p.response.status < 300)
  · rw [if_pos hbare, if_pos hbare]
    rfl
  · rw [if_neg hbare, if_neg hbare]

namespace Gateway

variable {m : Type → Type} [Monad m]

/-- The response to a request as it is sent, given the routes behind the gateway and the methods
that they allow where they do not know the one of a request. -/
def serve (g : Gateway) (routes : Visit → m Response) (allowed : Request → Option String)
    (r : Request) : m Response := do
  let answer ← g.handle routes r
  pure ((answer.withAllow (allowed r)).answering r.method)

/-- What is told to everybody whom the provider rejects. -/
def rejection (method : String) : Response :=
  (Problem.unauthorized "Missing or invalid credentials").response.answering method

section Rejected

variable {c : GatewayConfig} {a : Authenticator} {authz : Option AuthorizationProvider}
  {g : Gateway} {r : Request}

theorem identify_of_rejected (h : ofProviders c (some a) authz = .ok g) (hr : c.Rejects a r) :
    g.identify r = .error (.unauthorized "Missing or invalid credentials") := by
  obtain ⟨hasked, hnone⟩ := hr
  obtain ⟨a', ha, hid⟩ := identify_of_asked h hasked
  obtain rfl := Option.some.inj ha
  rw [hid, hnone]
  rfl

theorem serve_eq_of_rejected [LawfulMonad m] (h : ofProviders c (some a) authz = .ok g)
    (hr : c.Rejects a r) (routes : Visit → m Response) (allowed : Request → Option String) :
    g.serve routes allowed r = pure { rejection r.method with allow := allowed r } := by
  unfold serve handle screen
  rw [identify_of_rejected h hr]
  simp only [pure_bind, Problem.answering_withAllow]
  rfl

theorem recorded_of_rejected [LawfulMonad m] (h : ofProviders c (some a) authz = .ok g)
    (hr : c.Rejects a r) (routes : Visit → m Response) :
    ∃ x, g.recorded routes r = pure (x, [.authenticate r.credentials]) := by
  refine ⟨(Problem.unauthorized "Missing or invalid credentials").response, ?_⟩
  rw [recorded_eq, screen, identify_of_rejected h hr, asks_of_asked h hr.1]

end Rejected

end Gateway

/-- Two responses with the same status, type and content. -/
structure Response.Alike (x y : Response) : Prop where
  status : x.status = y.status
  contentType : x.contentType = y.contentType
  content : x.content = y.content

theorem Server.respond_eq_serve (s : Server) (clock : Nat) (r : Request) :
    s.respond clock r = s.gateway.serve (s.routes clock) Endpoint.allowed? r := rfl

theorem Server.run_respond_of_rejected {c : GatewayConfig} {a : Authenticator}
    {authz : Option AuthorizationProvider} {s : Server}
    (h : Gateway.ofProviders c (some a) authz = .ok s.gateway) {r : Request}
    (hr : c.Rejects a r) (clock : Nat) (store : Store) :
    (s.respond clock r).run store =
      ({ Gateway.rejection r.method with allow := Endpoint.allowed? r }, store) := by
  rw [respond_eq_serve, Gateway.serve_eq_of_rejected h hr]
  rfl

/-- Two requests of one method that the provider rejects are told the same, whatever their paths,
headers and bodies are and whatever is behind the gateway. After the provider is asked nothing else
is run for them, so the routes may be of any kind. Behind a server it makes no difference what the
store holds, and it stays as it is. -/
theorem Gateway.alike_of_rejected {c : GatewayConfig} {a : Authenticator}
    {authz : Option AuthorizationProvider} {g : Gateway}
    (h : ofProviders c (some a) authz = .ok g) {r₁ r₂ : Request}
    (hmethod : r₁.method = r₂.method) (h₁ : c.Rejects a r₁) (h₂ : c.Rejects a r₂) :
    (∀ (m : Type → Type) [Monad m] [LawfulMonad m] (routes₁ routes₂ : Visit → m Response)
      (allowed : Request → Option String),
        (∃ x₁ x₂ : Response, g.serve routes₁ allowed r₁ = pure x₁ ∧
          g.serve routes₂ allowed r₂ = pure x₂ ∧ x₁.Alike x₂) ∧
        (∃ x, g.recorded routes₁ r₁ = pure (x, [.authenticate r₁.credentials])) ∧
        ∃ x, g.recorded routes₂ r₂ = pure (x, [.authenticate r₂.credentials])) ∧
      ∀ (hooks : CollectionHooks) (clock₁ clock₂ : Nat) (store₁ store₂ : Store),
        let x₁ := ((Server.mk g hooks).respond clock₁ r₁).run store₁
        let x₂ := ((Server.mk g hooks).respond clock₂ r₂).run store₂
        x₁.1.Alike x₂.1 ∧ x₁.2 = store₁ ∧ x₂.2 = store₂ := by
  have halike : ∀ allow₁ allow₂, Response.Alike { rejection r₁.method with allow := allow₁ }
      { rejection r₂.method with allow := allow₂ } := by
    intro allow₁ allow₂
    rw [hmethod]
    exact ⟨rfl, rfl, rfl⟩
  refine ⟨?_, ?_⟩
  · intro m _ _ routes₁ routes₂ allowed
    exact ⟨⟨_, _, serve_eq_of_rejected h h₁ routes₁ allowed,
      serve_eq_of_rejected h h₂ routes₂ allowed, halike _ _⟩,
      recorded_of_rejected h h₁ routes₁, recorded_of_rejected h h₂ routes₂⟩
  · intro hooks clock₁ clock₂ store₁ store₂ x₁ x₂
    have hx₁ := Server.run_respond_of_rejected (s := ⟨g, hooks⟩) h h₁ clock₁ store₁
    have hx₂ := Server.run_respond_of_rejected (s := ⟨g, hooks⟩) h h₂ clock₂ store₂
    simp only [x₁, x₂, hx₁, hx₂]
    exact ⟨halike _ _, trivial, trivial⟩

namespace Gateway

/-- Users with passwords in front of everything but what is open to all. -/
def guardedConfig : GatewayConfig := ⟨⟨some "basic", openRoutes⟩, ⟨none, Table.empty⟩⟩

/-- One user. -/
def oneAccount : BasicAuth := ⟨[("ann", ⟨"pw", ⟨"ann", none, []⟩⟩)]⟩

/-- The user, with a wrong password, asks for a collection. -/
def wrongPassword : Request :=
  ⟨"GET", ⟨"/api/v1/collections/secret", none⟩, ⟨[("authorization", "Basic YW5uOnB4")]⟩, ""⟩

/-- Somebody without credentials asks for nothing that there is. -/
def nobodyNowhere : Request := ⟨"GET", ⟨"/nowhere", some "x=1"⟩, ⟨[("accept", "*/*")]⟩, "{}"⟩

/-- With a wrong password and without credentials the provider rejects for two reasons. -/
theorem authenticator_eq_none :
    oneAccount.authenticator wrongPassword.credentials = .ok none ∧
      oneAccount.authenticator nobodyNowhere.credentials = .ok none := by
  constructor
  · refine Authenticator.ofSource_eq_none_iff.2 ⟨some "Basic YW5uOnB4", rfl, ?_⟩
    intro text htext payload hpayload
    have hread : CredentialSource.credentialIn (some "Basic ") "Basic YW5uOnB4" =
        some "YW5uOnB4" := by decide +kernel
    have hdecoded : BasicAuth.decodePayload? "YW5uOnB4" = some ("ann", "px") := by
      decide +kernel
    rw [← Option.some.inj htext] at hpayload
    rw [← Option.some.inj (hread.symm.trans hpayload)]
    refine BasicAuth.verify_eq_none_iff.2 fun name password a hpair ha hpassword => ?_
    obtain ⟨rfl, rfl⟩ := Prod.mk.inj (Option.some.inj (hdecoded.symm.trans hpair))
    have haccount : a = ⟨"pw", ⟨"ann", none, []⟩⟩ := (Option.some.inj ha).symm
    rw [haccount] at hpassword
    exact absurd hpassword (by decide)
  · exact Authenticator.ofSource_eq_none_iff.2 ⟨none, rfl, fun _ h => nomatch h⟩

/-- Neither the name nor the path can be told from the answers. -/
theorem alike_of_rejected_unknownPath :
    ∃ g, ofProviders guardedConfig (some oneAccount.authenticator) none = .ok g ∧
      guardedConfig.Rejects oneAccount.authenticator wrongPassword ∧
      guardedConfig.Rejects oneAccount.authenticator nobodyNowhere ∧
      (((Server.mk g Server.watched).respond 0 wrongPassword).run
          (Table.ofList [("secret", [.null])])).1.Alike
        (((Server.mk g Server.watched).respond 1 nobodyNowhere).run Table.empty).1 := by
  obtain ⟨g, hg⟩ := Outcome.exists_of_isOk
    (x := ofProviders guardedConfig (some oneAccount.authenticator) none) (by decide +kernel)
  have hasked : ∀ r : Request, r.isPreflight = false →
      ((BypassList.ofConfig openRoutes).map fun b => b.letsThrough r.method r.path).toOption =
        some false →
      ¬ guardedConfig.Unasked (some oneAccount.authenticator) r := by
    rintro r hpreflight hclosed (h | h | ⟨b, hb, hpass⟩)
    · cases h
    · rw [hpreflight] at h
      cases h
    · rw [show BypassList.ofConfig openRoutes = .ok b from hb] at hclosed
      exact absurd (hpass.symm.trans (Option.some.inj hclosed)) (by decide)
  have hwrong : guardedConfig.Rejects oneAccount.authenticator wrongPassword :=
    ⟨hasked wrongPassword rfl (by decide +kernel), authenticator_eq_none.1⟩
  have hnobody : guardedConfig.Rejects oneAccount.authenticator nobodyNowhere :=
    ⟨hasked nobodyNowhere rfl (by decide +kernel), authenticator_eq_none.2⟩
  have hmethod : wrongPassword.method = nobodyNowhere.method := rfl
  obtain ⟨-, hserver⟩ := alike_of_rejected hg hmethod hwrong hnobody
  exact ⟨g, hg, hwrong, hnobody, (hserver Server.watched 0 1 _ Table.empty).1⟩

end Gateway

end AccessGateway
