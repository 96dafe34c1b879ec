import AccessGateway.Api.Problem
import AccessGateway.Authorization.Context
import AccessGateway.Gateway.Config
import AccessGateway.Proofs.Document.Written

/-
  Records that are written and read again. A field that is left out when it is written has, when it
  is missing, the value that was left out, so every record is recovered from what is written of it
  (`Identity.recovers` and its like). What is read of a document is such a record, and so it is
  written the same again (`roundTrips`).
-/

namespace AccessGateway

open Document (ofJson)
open Layout (recovers_of_members members_cons_eq_ok)
open Reader

/-! ## The records -/

theorem Identity.recovers (dialect : Dialect) (x : Identity) :
    (read dialect).Recovers x.toJson x := by
  obtain ⟨userId, tenant, databases⟩ := x
  -- nothing but a list of databases needs more than evaluation
  cases databases with
  | nil => cases tenant <;> rfl
  | cons d r =>
    have hdatabases := recovers_texts (d :: r)
    cases tenant <;>
      exact recovers_of_members (members_cons_eq_ok hdatabases rfl rfl rfl rfl) rfl dialect

theorem AuthorizationContext.recovers (dialect : Dialect) (x : AuthorizationContext) :
    (read dialect).Recovers x.toJson x := by
  obtain ⟨user, ⟨type, id⟩, action⟩ := x
  cases id <;> rfl

theorem UserEntry.recovers (dialect : Dialect) {x : UserEntry}
    (h : ∀ v ∈ x.tokens, v.IsOrdered) : (layout.read dialect).Recovers x.toJson x := by
  have htokens : (list any).Recovers (.list (x.tokens.map fun v => v)) x.tokens :=
    recovers_list fun v hv => recovers_any (h v hv)
  rw [List.map_id'] at htokens
  exact recovers_of_members
    (members_cons_eq_ok (recovers_text x.id) rfl rfl rfl <|
      members_cons_eq_ok (recovers_text? x.role) rfl rfl rfl <|
      members_cons_eq_ok htokens rfl rfl rfl rfl) rfl dialect

theorem Role.recovers (dialect : Dialect) (x : Role) :
    (layout.read dialect).Recovers x.toJson x :=
  recovers_of_members
    (members_cons_eq_ok (recovers_texts x.actions) rfl rfl rfl rfl) rfl dialect

namespace AuthorizationConfig

/-- The tokens of every user are finished values. -/
def HasFinishedTokens (x : AuthorizationConfig) : Prop :=
  ∀ u ∈ x.users, ∀ v ∈ u.tokens, v.IsOrdered

theorem recovers (dialect : Dialect) {x : AuthorizationConfig} (h : x.HasFinishedTokens) :
    (read dialect).Recovers x.toJson x := by
  have hroles : (table (Role.layout.read dialect)).Recovers
      (Json.ofTable (x.roles.map Role.toJson)) x.roles :=
    recovers_table fun e _ => Role.recovers dialect e.2
  have husers : (list (UserEntry.layout.read dialect)).Recovers
      (.list (x.users.map UserEntry.toJson)) x.users :=
    recovers_list fun u hu => UserEntry.recovers dialect (h u hu)
  exact recovers_of_members
    (members_cons_eq_ok hroles rfl rfl rfl <|
      members_cons_eq_ok husers rfl rfl rfl rfl) rfl dialect

end AuthorizationConfig

theorem LayerConfig.recovers (typeName : String) (bypass : BypassConfig) (dialect : Dialect)
    (x : LayerConfig) : ((layout typeName bypass).read dialect).Recovers x.toJson x := by
  have hbypass : BypassConfig.read.Recovers x.bypass.toJson x.bypass :=
    recovers_table fun e _ => recovers_texts e.2
  exact recovers_of_members
    (members_cons_eq_ok hbypass rfl rfl rfl <|
      members_cons_eq_ok (recovers_text? x.provider) rfl rfl rfl rfl) rfl dialect

theorem GatewayConfig.recovers (dialect : Dialect) (x : GatewayConfig) :
    (read dialect).Recovers x.toJson x :=
  recovers_of_members
    (members_cons_eq_ok (LayerConfig.recovers _ _ dialect x.authn) rfl rfl rfl <|
      members_cons_eq_ok (LayerConfig.recovers _ _ dialect x.authz) rfl rfl rfl rfl)
    rfl dialect

namespace Problem

/-- The status has at most 16 bits. -/
def HasShortStatus (p : Problem) : Prop := p.status < 65536

theorem recovers (dialect : Dialect) {p : Problem} (h : p.HasShortStatus) :
    (read dialect).Recovers p.toJson p := by
  obtain ⟨type, title, status, detail, instanceUri⟩ := p
  have hstatus := recovers_natBelow h "u16"
  cases instanceUri with
  | none =>
    exact recovers_of_members
      (members_cons_eq_ok (recovers_text detail) rfl rfl rfl <|
        members_cons_eq_ok hstatus rfl rfl rfl rfl) rfl dialect
  | some i =>
    exact recovers_of_members
      (members_cons_eq_ok (recovers_text detail) rfl rfl rfl <|
        members_cons_eq_ok (recovers_text? (some i)) rfl rfl rfl <|
        members_cons_eq_ok hstatus rfl rfl rfl rfl) rfl dialect

end Problem

/-! ## What is read of documents -/

theorem UserEntry.tokens_of_read (dialect : Dialect) :
    (layout.read dialect).Yields fun x => ∀ v ∈ x.tokens, v.IsOrdered := by
  refine Layout.yields tokens (q := fun vs => ∀ v ∈ vs, v.IsOrdered) ?_ (List.forall_mem_nil _)
    dialect
  refine List.forall_mem_cons.2 ⟨?id, List.forall_mem_cons.2 ⟨?role,
    List.forall_mem_singleton.2 ?tokens⟩⟩
  case id => exact .inl (Field.leaves_of_map (fun _ => rfl) fun _ _ => rfl)
  case role => exact .inl (Field.leaves_of_map (fun _ => rfl) fun _ _ => rfl)
  case tokens =>
    exact .inr ⟨list any, Field.sets_of_map (fun _ => rfl) fun _ _ => rfl, yields_list yields_any⟩

theorem AuthorizationConfig.hasFinishedTokens_of_read (dialect : Dialect) :
    (read dialect).Yields HasFinishedTokens := by
  refine Layout.yields users (q := fun us => ∀ u ∈ us, ∀ v ∈ u.tokens, v.IsOrdered) ?_
    (List.forall_mem_nil _) dialect
  refine List.forall_mem_cons.2 ⟨?users, List.forall_mem_singleton.2 ?roles⟩
  case users =>
    exact .inr ⟨list (UserEntry.layout.read dialect),
      Field.sets_of_map (fun _ => rfl) fun _ _ => rfl,
      yields_list (UserEntry.tokens_of_read dialect)⟩
  case roles => exact .inl (Field.leaves_of_map (fun _ => rfl) fun _ _ => rfl)

theorem Problem.hasShortStatus_of_read (dialect : Dialect) :
    (read dialect).Yields HasShortStatus := by
  refine Layout.yields status (q := fun n => n < 65536) (fun f hf => ?_) (by decide) dialect
  simp only [layout, List.mem_cons, List.not_mem_nil, or_false] at hf
  rcases hf with rfl | rfl | rfl | rfl | rfl
  -- only the third field has to do with the status
  case inr.inr.inl =>
    exact .inr ⟨natBelow 65536 "u16", Field.sets_of_map (fun _ => rfl) fun _ _ => rfl,
      yields_natBelow 65536 "u16"⟩
  all_goals exact .inl (Field.leaves_of_map (fun _ => rfl) fun _ _ => rfl)

/-! ## Round trips -/

/-- The values and the documents of a type go round unchanged: a value is read from what is written
of it, and what is written of a document that was read stays the same when it is read and written
again. -/
structure RoundTrips {α : Type} (read : Dialect → Reader α) (write : α → Json)
    (IsValue : α → Prop) : Prop where
  value : ∀ x, IsValue x → ∀ dialect, read dialect (ofJson (write x)) = .ok x
  document : ∀ d, d.IsGiven → ∀ dialect x, read dialect d = .ok x →
    ∀ dialect', ∃ y, read dialect' (ofJson (write x)) = .ok y ∧ write y = write x

theorem roundTrips_of_recovers {α : Type} {read : Dialect → Reader α} {write : α → Json}
    {IsValue : α → Prop}
    (hrecovers : ∀ x, IsValue x → ∀ dialect, (read dialect).Recovers (write x) x)
    (hyields : ∀ dialect, (read dialect).Yields IsValue) : RoundTrips read write IsValue := by
  refine ⟨hrecovers, fun d hd dialect x hx dialect' => ⟨x, ?_, rfl⟩⟩
  exact hrecovers x (hyields dialect d x hd.isOrdered hx) dialect'

/-- Identities, questions, role assignments, gateway configurations and problems go round
unchanged. -/
theorem roundTrips :
    RoundTrips Identity.read Identity.toJson (fun _ => True) ∧
      RoundTrips AuthorizationContext.read AuthorizationContext.toJson (fun _ => True) ∧
      RoundTrips AuthorizationConfig.read AuthorizationConfig.toJson
        AuthorizationConfig.HasFinishedTokens ∧
      RoundTrips GatewayConfig.read GatewayConfig.toJson (fun _ => True) ∧
      RoundTrips Problem.read Problem.toJson Problem.HasShortStatus := by
  have htrivial : ∀ {α : Type} {reader : Reader α}, reader.Yields fun _ => True :=
    fun _ _ _ _ => trivial
  refine ⟨roundTrips_of_recovers ?_ ?_, roundTrips_of_recovers ?_ ?_,
    roundTrips_of_recovers ?_ ?_, roundTrips_of_recovers ?_ ?_, roundTrips_of_recovers ?_ ?_⟩
  · exact fun x _ dialect => x.recovers dialect
  · exact fun _ => htrivial
  · exact fun x _ dialect => x.recovers dialect
  · exact fun _ => htrivial
  · exact fun x hx dialect => x.recovers dialect hx
  · exact AuthorizationConfig.hasFinishedTokens_of_read
  · exact fun x _ dialect => x.recovers dialect
  · exact fun _ => htrivial
  · exact fun x hx dialect => x.recovers dialect hx
  · exact Problem.hasShortStatus_of_read

theorem roundTrips_awkward :
    let x : Identity := ⟨"ann", some "", []⟩
    let token : Json := .object [("for", .list [.null]), ("token", .text "t")]
    let c : AuthorizationConfig := ⟨[⟨"ben", none, [token]⟩], Table.ofList [("idle", ⟨[]⟩)]⟩
    let g : GatewayConfig := ⟨⟨none, Table.empty⟩, ⟨some "", Table.empty⟩⟩
    let p : Problem := ⟨"about:blank", "", 65535, "", none⟩
    let d : Json := .object [("user_id", .text "ann"), ("tenant", .null), ("age", .list [])]
    Identity.read .value (ofJson x.toJson) = .ok x ∧
      (c.HasFinishedTokens ∧ AuthorizationConfig.read .value (ofJson c.toJson) = .ok c) ∧
      GatewayConfig.read .value (ofJson g.toJson) = .ok g ∧
      (p.HasShortStatus ∧ Problem.read .value (ofJson p.toJson) = .ok p) ∧
      ∃ y z, Identity.read .value (ofJson d) = .ok y ∧
        Identity.read .value (ofJson y.toJson) = .ok z ∧ z.toJson = y.toJson := by
  intro x token c g p d
  obtain ⟨hidentity, -, hconfig, hgateway, hproblem⟩ := roundTrips
  have htoken : token.IsOrdered := by
    refine .object (by decide) (List.forall_mem_cons.2 ⟨.list ?_, List.forall_mem_singleton.2 ?_⟩)
    · exact List.forall_mem_singleton.2 .null
    · exact .text "t"
  have hc : c.HasFinishedTokens :=
    List.forall_mem_singleton.2 (List.forall_mem_singleton.2 htoken)
  have hp : p.HasShortStatus := show 65535 < 65536 by decide
  have hd : Identity.read .value (ofJson d) = .ok ⟨"ann", none, []⟩ := rfl
  obtain ⟨z, hz, hwrite⟩ := hidentity.document _ (.value d) _ _ hd .value
  exact ⟨hidentity.value x trivial .value, ⟨hc, hconfig.value c hc .value⟩,
    hgateway.value g trivial .value, ⟨hp, hproblem.value p hp .value⟩, _, z, hd, hz, hwrite⟩

end AccessGateway
