import AccessGateway.Provider.Factory

/-
  The policy that authorization by roles decides by. Making that provider means reading its own
  section, making the configuration provider that the section names and compiling what it
  answers; `CompilesTo` says so in one step. The configuration providers ask for no others, so
  they are the same however many providers wait for each other.
-/

namespace AccessGateway

/-- The settings make authorization by roles with a policy. -/
def ProviderSettings.CompilesTo (x : ProviderSettings) (files : Files) (p : Policy) : Prop :=
  ∃ (c : RolePolicyConfig) (source : ConfigurationSource) (roles : AuthorizationConfig),
    x.typed "simple_rbac" (RolePolicyConfig.layout.read .value) = .ok c ∧
      ProviderRegistry.builtin.instantiate x files .authzConfig c.configProvider = .ok source ∧
      source.answer files = .ok roles ∧ Policy.compile roles = .ok p

theorem Authorizer.start_eq_ok_iff {answer : SourceAnswer} {a : Authorizer} :
    Authorizer.start answer = .ok a ↔
      ∃ c, answer = .ok c ∧ Policy.compile c = .ok a.active := by
  unfold Authorizer.start Authorizer.load
  cases answer with
  | error e => simp [Except.map]
  | ok c =>
    cases hp : Policy.compile c with
    | error e => simp [Except.map, hp]
    | ok p => cases a; simp [Except.map, hp]

theorem Workshop.settingsOf_eq_ok_iff {α : Type} {w : Workshop} {reader : Reader α} {a : α} :
    w.settingsOf reader = .ok a ↔ w.settings.typed w.name reader = .ok a := by
  unfold Workshop.settingsOf
  cases w.settings.typed w.name reader <;> simp

/-- The provider is made step by step, and each step has to succeed. -/
theorem Factory.rolePolicy_eq_ok_iff {w : Workshop} {z : AuthorizationProvider} :
    Factory.rolePolicy w = .ok z ↔
      ∃ c source roles p,
        w.settings.typed w.name (RolePolicyConfig.layout.read .value) = .ok c ∧
          w.instantiate .authzConfig c.configProvider = .ok source ∧
          source.answer w.files = .ok roles ∧ Policy.compile roles = .ok p ∧
          z = (Authorizer.mk p).provider := by
  constructor
  · intro h
    unfold Factory.rolePolicy at h
    cases hc : w.settingsOf (RolePolicyConfig.layout.read .value) with
    | error e => simp [hc] at h
    | ok c =>
      cases hsource : w.instantiate .authzConfig c.configProvider with
      | error e => simp [hc, hsource] at h
      | ok source =>
        cases ha : Authorizer.start (source.answer w.files) with
        | error e => simp [hc, hsource, ha] at h
        | ok a =>
          obtain ⟨roles, hroles, hp⟩ := Authorizer.start_eq_ok_iff.1 ha
          simp only [hc, hsource, ha] at h
          exact ⟨c, source, roles, a.active, Workshop.settingsOf_eq_ok_iff.1 hc, hsource, hroles,
            hp, (Except.ok.inj h).symm⟩
  · rintro ⟨c, source, roles, p, hc, hsource, hroles, hp, rfl⟩
    have ha : Authorizer.start (source.answer w.files) = .ok ⟨p⟩ :=
      Authorizer.start_eq_ok_iff.2 ⟨roles, hroles, hp⟩
    unfold Factory.rolePolicy
    simp only [Workshop.settingsOf_eq_ok_iff.2 hc, hsource, ha]

namespace ProviderRegistry

variable {x : ProviderSettings} {files : Files}

/-- What it takes to make a provider: a factory under the name, which makes it. -/
theorem instantiateWithin_eq_ok_iff {r : ProviderRegistry} {n : Nat}
    {c : Capability ProviderType} {name : String} {p : c.provider.Provider} :
    r.instantiateWithin x files (n + 1) c name = .ok p ↔
      ∃ factory, r.resolve (ε := BuildError) c name = .ok factory ∧
        factory ⟨name, x, files, r.size, r.instantiateWithin x files n⟩ = .ok p := by
  rw [instantiateWithin]
  cases r.resolve (ε := BuildError) c name with
  | error e => simp
  | ok factory =>
    simp only [Except.ok.injEq, exists_eq_left']
    cases factory ⟨name, x, files, r.size, r.instantiateWithin x files n⟩ <;> simp

/-- Making a configuration provider makes no others. -/
theorem instantiateWithin_authzConfig (n : Nat) (name : String) :
    builtin.instantiateWithin x files (n + 1) .authzConfig name =
      builtin.instantiate x files .authzConfig name := by
  unfold instantiate
  rw [instantiateWithin, instantiateWithin]
  by_cases hinline : name = "inline_authz_config"
  · subst hinline
    rfl
  · by_cases hfile : name = "local_authz_config"
    · subst hfile
      rfl
    · have hunknown : builtin.resolve (ε := BuildError) .authzConfig name =
          .error (.unknownProvider .authzConfig name) := by
        simp [Registry.resolve, Registry.find?, builtin, Capability.authzConfig,
          Ne.symm hinline, Ne.symm hfile]
      rw [hunknown]

/-- A configured provider that decides by roles has a compiled policy and asks nothing else. -/
theorem instantiate_rolePolicy_eq_ok_iff {z : AuthorizationProvider} :
    builtin.instantiate x files .authz "simple_rbac" = .ok z ↔
      ∃ p, x.CompilesTo files p ∧ z = (Authorizer.mk p).provider := by
  have hresolve : builtin.resolve (ε := BuildError) .authz "simple_rbac" =
      .ok Factory.rolePolicy := rfl
  constructor
  · intro h
    obtain ⟨factory, hfactory, hz⟩ := instantiateWithin_eq_ok_iff.1 h
    obtain rfl := Except.ok.inj (hresolve.symm.trans hfactory)
    obtain ⟨c, source, roles, p, hc, hsource, hroles, hp, rfl⟩ :=
      Factory.rolePolicy_eq_ok_iff.1 hz
    exact ⟨p, ⟨c, source, roles, hc, (instantiateWithin_authzConfig 4 _).symm.trans hsource,
      hroles, hp⟩, rfl⟩
  · rintro ⟨p, ⟨c, source, roles, hc, hsource, hroles, hp⟩, rfl⟩
    refine instantiateWithin_eq_ok_iff.2 ⟨_, hresolve, ?_⟩
    exact Factory.rolePolicy_eq_ok_iff.2 ⟨c, source, roles, p, hc,
      (instantiateWithin_authzConfig 4 _).trans hsource, hroles, hp, rfl⟩

end ProviderRegistry

end AccessGateway
