import AccessGateway.Authentication.StaticToken
import AccessGateway.Credential.Request
import AccessGateway.Proofs.Credential.Scheme
import AccessGateway.Proofs.Outcome

/-
  Whom a token stands for. The identities of a service are those of the configured tokens, one for
  each token (`ofConfig_eq_ok_iff`, `get?_identities`). A token is looked up as it is read from a
  request, without the blanks at its ends (`authenticator_of_carried`), but it is configured as it
  is written: the check of the configuration refuses a token of nothing but blanks and no other
  with blanks at its ends. Such a token is accepted and stands for nobody, or for the identity of
  another (`identity_of_ofConfig`).
-/

namespace AccessGateway

/-! ## Requests in memory -/

namespace MemoryRequest

/-- A request with one value. -/
def carrying : CredentialKind → String → String → MemoryRequest
  | .header, key, value => ⟨[(key, value)], [], [], none⟩
  | .cookie, key, value => ⟨[], [(key, value)], [], none⟩
  | .urlParam, key, value => ⟨[], [], [(key, value)], none⟩
  | .metadata, key, value => ⟨[], [], [], some [(key, value)]⟩

theorem credentials_carrying (kind : CredentialKind) (key value : String) :
    (carrying kind key value).credentials kind key = .ok (some value) := by
  cases kind <;> simp [carrying, credentials, last?, Entries.get?]

end MemoryRequest

namespace StaticTokens

variable {c : StaticTokenConfig} {s : StaticTokens}

/-! ## Configured tokens -/

theorem collect_eq_ok_iff {seen : List String} {tokens : List TokenEntry}
    {ids : List (String × Identity)} :
    collect seen tokens = .ok ids ↔
      (∀ e ∈ tokens, ¬ (trim e.token.toList).isEmpty = true ∧ e.token ∉ seen) ∧
        (tokens.map TokenEntry.token).Nodup ∧ ids = tokens.map fun e => (e.token, e.identity) := by
  have hcons : ∀ seen (e : TokenEntry) r, collect seen (e :: r) =
      if (trim e.token.toList).isEmpty = true then .error (.emptyToken e.identity.userId)
      else if e.token ∈ seen then .error (.repeatedToken e.identity.userId)
      else (collect (e.token :: seen) r).map ((e.token, e.identity) :: ·) := fun _ _ _ => rfl
  exact Outcome.collect_eq_ok_iff (f := collect) (fun _ => rfl) hcons

theorem ofConfig_eq_ok_iff :
    ofConfig c = .ok s ↔ ∃ ids, collect [] c.tokens = .ok ids ∧
      (⟨c.mode, c.source, c.defaultIdentity, ids⟩ : StaticTokens) = s :=
  Outcome.map_eq_ok_iff

/-- The identity under a token is that of the only entry of the token. -/
theorem get?_identities {tokens : List TokenEntry} {ids : List (String × Identity)}
    (h : collect [] tokens = .ok ids) (token : String) (i : Identity) :
    Entries.get? token ids = some i ↔ ∃ e ∈ tokens, e.token = token ∧ e.identity = i := by
  obtain ⟨-, hnodup, rfl⟩ := collect_eq_ok_iff.1 h
  exact Entries.get?_map_eq_some_iff hnodup

/-! ## Presented tokens -/

/-- A token behind the scheme is looked up without the blanks at its ends. -/
theorem authenticator_of_carried {request : CredentialRequest} {token : String}
    (htoken : trim token.toList ≠ [])
    (hcarried : request s.source.kind s.source.key =
      .ok (some (s.source.scheme.getD "" ++ token))) :
    s.authenticator request = .ok (s.identify (trimText token)) := by
  have happended := CredentialSource.credentialIn_append
    (rfl : Ascii.lower (s.source.scheme.getD "") = _) htoken
  have hcredential : CredentialSource.credentialIn s.source.scheme
      (s.source.scheme.getD "" ++ token) = some (trimText token) := happended
  unfold authenticator Authenticator.ofSource CredentialSource.extract
  rw [hcarried]
  simp only [hcredential]

theorem identify_trimText (hmode : s.mode = .staticTokens) {token : String}
    (htoken : trim token.toList ≠ []) :
    s.identify (trimText token) = Entries.get? (trimText token) s.identities := by
  have hne : trimText token ≠ "" := by
    intro h
    refine htoken ?_
    rw [← String.toList_ofList (l := trim token.toList)]
    exact congrArg String.toList h
  unfold identify
  rw [if_neg hne, hmode]

/-- Whom the token of an entry stands for when it is presented: the identity of the entry that has
the token without the blanks at its ends. -/
theorem authenticator_of_mem (h : ofConfig c = .ok s) (hmode : c.mode = .staticTokens)
    {e : TokenEntry} (he : e ∈ c.tokens) {request : CredentialRequest}
    (hcarried : request c.source.kind c.source.key =
      .ok (some (c.source.scheme.getD "" ++ e.token))) :
    ∃ o, s.authenticator request = .ok o ∧
      ∀ i, o = some i ↔ ∃ w ∈ c.tokens, w.token = trimText e.token ∧ w.identity = i := by
  obtain ⟨ids, hcollect, rfl⟩ := ofConfig_eq_ok_iff.1 h
  have htoken : trim e.token.toList ≠ [] := by
    have hfit := ((collect_eq_ok_iff.1 hcollect).1 e he).1
    simpa using hfit
  refine ⟨_, authenticator_of_carried htoken hcarried, fun i => ?_⟩
  rw [identify_trimText hmode htoken]
  exact get?_identities hcollect (trimText e.token) i

/-- Every configured token without blanks at its ends stands for its identity, wherever the source
looks for it and whatever scheme is in front of it. A token with blanks at its ends is accepted
too, but never stands for its own identity: the request is answered with the identity of the entry
that has the token without these blanks, or is rejected if there is none. -/
theorem identity_of_ofConfig (h : ofConfig c = .ok s) (hmode : c.mode = .staticTokens) :
    ∀ e ∈ c.tokens, ∀ request : CredentialRequest,
      request c.source.kind c.source.key =
          .ok (some (c.source.scheme.getD "" ++ e.token)) →
        (trimText e.token = e.token → s.authenticator request = .ok (some e.identity)) ∧
        (trimText e.token ≠ e.token →
          ∃ o, s.authenticator request = .ok o ∧
            ∀ i, o = some i ↔
              ∃ w ∈ c.tokens, w ≠ e ∧ w.token = trimText e.token ∧ w.identity = i) := by
  intro e he request hcarried
  obtain ⟨o, hanswer, hwho⟩ := authenticator_of_mem h hmode he hcarried
  constructor
  · intro htrim
    rw [hanswer, (hwho e.identity).2 ⟨e, he, htrim.symm, rfl⟩]
  · intro htrim
    refine ⟨o, hanswer, fun i => ?_⟩
    rw [hwho i]
    refine exists_congr fun w => and_congr_right fun _ => ?_
    constructor
    · rintro ⟨hw, hi⟩
      exact ⟨fun hwe => htrim (hwe ▸ hw).symm, hw, hi⟩
    · exact And.right

/-- Two tokens under a header of their own, one of which has a blank inside. -/
def headerTokens : StaticTokenConfig where
  mode := .staticTokens
  source := ⟨.header, "X-Api-Key", some "Token "⟩
  defaultIdentity := ⟨"nobody", none, []⟩
  tokens := [⟨"s3", ⟨"ann", none, []⟩⟩, ⟨"a b", ⟨"ben", some "t", ["x"]⟩⟩]

theorem identity_of_ofConfig_headerTokens : ∃ s, ofConfig headerTokens = .ok s ∧
    s.authenticator (MemoryRequest.carrying .header "X-Api-Key" "Token a b").credentials =
      .ok (some ⟨"ben", some "t", ["x"]⟩) := by
  obtain ⟨s, hs⟩ := Outcome.exists_of_isOk (x := ofConfig headerTokens) (by decide)
  refine ⟨s, hs, (identity_of_ofConfig hs rfl ⟨"a b", ⟨"ben", some "t", ["x"]⟩⟩ (by decide) _
    ?_).1 (by decide)⟩
  exact MemoryRequest.credentials_carrying .header "X-Api-Key" "Token a b"

/-- A token with a blank in front of it, and another without the blank. -/
def blankInFront : StaticTokenConfig :=
  ⟨.staticTokens, .bearer, ⟨"nobody", none, []⟩,
    [⟨" t", ⟨"ann", none, []⟩⟩, ⟨"t", ⟨"ben", none, []⟩⟩]⟩

/-- The token with the blank is accepted and stands for the other identity. -/
theorem identified_as_other_of_blank : ∃ s, ofConfig blankInFront = .ok s ∧
    ⟨" t", ⟨"ann", none, []⟩⟩ ∈ blankInFront.tokens ∧
    s.authenticator (MemoryRequest.carrying .header "authorization" "Bearer  t").credentials =
      .ok (some ⟨"ben", none, []⟩) ∧
    (⟨"ben", none, []⟩ : Identity) ≠ ⟨"ann", none, []⟩ := by
  obtain ⟨s, hs⟩ := Outcome.exists_of_isOk (x := ofConfig blankInFront) (by decide)
  obtain ⟨o, hanswer, hwho⟩ := authenticator_of_mem hs rfl
    (show ⟨" t", ⟨"ann", none, []⟩⟩ ∈ blankInFront.tokens by decide)
    (MemoryRequest.credentials_carrying .header "authorization" "Bearer  t")
  refine ⟨s, hs, by decide, ?_, by decide⟩
  rw [hanswer, (hwho ⟨"ben", none, []⟩).2
    ⟨⟨"t", ⟨"ben", none, []⟩⟩, by decide, by decide, rfl⟩]

end StaticTokens

end AccessGateway
