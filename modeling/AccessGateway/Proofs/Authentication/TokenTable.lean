import AccessGateway.Proofs.Authentication.StaticToken
import AccessGateway.Proofs.Credential.Extraction

/-
  Which tables of tokens are accepted, and whom a request comes from then. A table is accepted
  unless a token is blank or stands twice (`exists_ofConfig_eq_ok_iff`). A service answers with an
  identity if its source finds a token that stands for it, and fails only with its source
  (`Authenticator.ofSource_eq_ok_iff`, `Authenticator.ofSource_eq_error_iff`); since no token that
  is found is empty, the check of the service for an empty one changes nothing
  (`authenticator_of_ofConfig`).
-/

namespace AccessGateway

namespace Authenticator

variable {source : CredentialSource} {find : String → Option Identity}
  {request : CredentialRequest}

theorem ofSource_eq_error_iff {e : AuthenticationError} :
    ofSource source find request = .error e ↔
      ∃ fault, request source.kind source.key = .error fault ∧ e = .credential fault := by
  simp only [← CredentialSource.extract_eq_error_iff]
  unfold ofSource
  cases source.extract request with
  | error fault => simp [eq_comm]
  | ok found => cases found <;> simp

theorem ofSource_eq_ok_iff {i : Identity} :
    ofSource source find request = .ok (some i) ↔
      ∃ t, source.extract request = .ok (some t) ∧ find t = some i := by
  unfold ofSource
  cases source.extract request with
  | error fault => simp
  | ok found => cases found <;> simp

end Authenticator

namespace StaticTokens

variable {c : StaticTokenConfig} {s : StaticTokens}

theorem exists_ofConfig_eq_ok_iff :
    (∃ s, ofConfig c = .ok s) ↔
      (∀ e ∈ c.tokens, ∃ x ∈ e.token.toList, isBlank x = false) ∧
        (c.tokens.map TokenEntry.token).Nodup := by
  have hblank : ∀ cs : List Char,
      ¬ (trim cs).isEmpty = true ↔ ∃ x ∈ cs, isBlank x = false := by
    intro cs
    rw [List.isEmpty_iff, trim_eq_nil_iff]
    simp
  simp only [ofConfig_eq_ok_iff, collect_eq_ok_iff, List.not_mem_nil, not_false_eq_true, and_true,
    hblank]
  constructor
  · rintro ⟨-, -, ⟨hfit, hdistinct, -⟩, -⟩
    exact ⟨hfit, hdistinct⟩
  · rintro ⟨hfit, hdistinct⟩
    exact ⟨_, _, ⟨hfit, hdistinct, rfl⟩, rfl⟩

/-- A token that is not empty stands for the default identity, or for that of its entry. -/
theorem identify_eq_some_iff (h : ofConfig c = .ok s) {t : String} (ht : t ≠ "") {i : Identity} :
    s.identify t = some i ↔
      c.mode = .acceptAll ∧ i = c.defaultIdentity ∨
        c.mode = .staticTokens ∧ c.tokens.filter (fun e => e.token = t) = [⟨t, i⟩] := by
  obtain ⟨ids, hcollect, rfl⟩ := ofConfig_eq_ok_iff.1 h
  obtain ⟨-, hdistinct, -⟩ := collect_eq_ok_iff.1 hcollect
  have hentry : c.tokens.filter (fun e => e.token = t) = [⟨t, i⟩] ↔
      ∃ e ∈ c.tokens, e.token = t ∧ e.identity = i := by
    rw [Entries.filter_eq_singleton_iff hdistinct fun e he => of_decide_eq_true he]
    constructor
    · rintro ⟨hmem, -⟩
      exact ⟨_, hmem, rfl, rfl⟩
    · rintro ⟨e, hmem, rfl, rfl⟩
      exact ⟨hmem, decide_eq_true rfl⟩
  rw [hentry, ← get?_identities hcollect, identify, if_neg ht]
  cases c.mode with
  | acceptAll => simp [eq_comm]
  | staticTokens => simp

/-- A table is accepted exactly if every token has a character that is not blank and no two entries
have the same token. The service of an accepted table fails exactly as the look-up of its
credential fails. Otherwise it answers with an identity exactly if its source finds a token and
either all tokens are accepted and it is the default identity, or it is the identity of the only
entry of that token. -/
theorem authenticator_of_ofConfig (c : StaticTokenConfig) :
    ((∃ s, ofConfig c = .ok s) ↔
      (∀ e ∈ c.tokens, ∃ x ∈ e.token.toList, isBlank x = false) ∧
        (c.tokens.map TokenEntry.token).Nodup) ∧
    ∀ s, ofConfig c = .ok s → ∀ request : CredentialRequest,
      (∀ e, s.authenticator request = .error e ↔
        ∃ fault, request c.source.kind c.source.key = .error fault ∧ e = .credential fault) ∧
      ∀ i, s.authenticator request = .ok (some i) ↔
        ∃ t, c.source.extract request = .ok (some t) ∧
          (c.mode = .acceptAll ∧ i = c.defaultIdentity ∨
            c.mode = .staticTokens ∧ c.tokens.filter (fun e => e.token = t) = [⟨t, i⟩]) := by
  refine ⟨exists_ofConfig_eq_ok_iff, fun s hs request => ?_⟩
  have hsource : s.source = c.source := by
    obtain ⟨ids, -, rfl⟩ := ofConfig_eq_ok_iff.1 hs
    rfl
  rw [authenticator, hsource]
  refine ⟨fun e => Authenticator.ofSource_eq_error_iff, fun i => ?_⟩
  rw [Authenticator.ofSource_eq_ok_iff]
  refine exists_congr fun t => and_congr_right fun ht => identify_eq_some_iff hs ?_
  obtain ⟨raw, -, hraw⟩ := CredentialSource.extract_eq_some_iff.1 ht
  obtain ⟨-, -, -, -, -, hne⟩ := CredentialSource.credentialIn_eq_some_iff.1 hraw
  exact hne

/-- A token with a blank inside, behind the scheme in other letters and between further blanks; and
a header that cannot be read. -/
theorem authenticator_of_ofConfig_headerTokens : ∃ s, ofConfig headerTokens = .ok s ∧
    s.authenticator (MemoryRequest.carrying .header "X-Api-Key" "TOKEN \ta b ").credentials =
      .ok (some ⟨"ben", some "t", ["x"]⟩) ∧
    s.authenticator (fun kind key => .error (.unreadable kind key)) =
      .error (.credential (.unreadable .header "X-Api-Key")) := by
  obtain ⟨haccepted, hanswers⟩ := authenticator_of_ofConfig headerTokens
  have hfit : ∀ e ∈ headerTokens.tokens, ∃ x ∈ e.token.toList, isBlank x = false :=
    List.forall_mem_cons.2 ⟨⟨'s', by decide, rfl⟩,
      List.forall_mem_cons.2 ⟨⟨'a', by decide, rfl⟩, List.forall_mem_nil _⟩⟩
  obtain ⟨s, hs⟩ := haccepted.2 ⟨hfit, by decide⟩
  refine ⟨s, hs, ((hanswers s hs _).2 _).2 ⟨"a b", by decide, .inr ⟨rfl, by decide⟩⟩, ?_⟩
  exact ((hanswers s hs _).1 _).2 ⟨_, rfl, rfl⟩

end StaticTokens

end AccessGateway
