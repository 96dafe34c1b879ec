import AccessGateway.Credential.Request
import AccessGateway.Proofs.Authentication.ConstantTime
import AccessGateway.Proofs.Credential.Scheme
import AccessGateway.Proofs.Outcome
import Mathlib.Data.List.Nodup

/-
  Whom a name and a password log in. The accounts of a service are the users of its configuration,
  one for each name (`ofConfig_eq_ok_iff`), and a payload stands for the user whose name is the
  text before its first colon and whose password is all that follows (`verify_eq_some_iff`). What a
  user sends is `BasicUser.credential`. A user whose name has no colon logs in as itself; a name
  with a colon is accepted by the configuration but never read back from a payload, so such a user
  logs in as nobody, or as another user (`authenticator_credential`).
-/

namespace AccessGateway

/-! ## Payloads -/

theorem Utf8.ofText_inj {s t : String} (h : Utf8.ofText s = Utf8.ofText t) : s = t := by
  have hs : Utf8.decode? (Utf8.ofText s) = some s.toList := Utf8.decode?_encode s.toList
  rw [h, Utf8.ofText, Utf8.decode?_encode] at hs
  exact (String.toList_inj.1 (Option.some.inj hs)).symm

namespace Base64

theorem isBlank_digit {n : Nat} (h : n < 64) : isBlank (digit n) = false := by
  have all : ∀ k : Fin 64, isBlank (digit k.val) = false := by decide
  exact all ⟨n, h⟩

theorem isBlank_of_mem_encode {bs : List UInt8} {c : Char} (h : c ∈ encode bs) :
    isBlank c = false := by
  have hpad : isBlank '=' = false := by decide
  fun_induction encode bs with
  | case1 => cases h
  | case2 a =>
    have ha := a.toNat_lt
    simp only [List.mem_cons, List.not_mem_nil, or_false] at h
    rcases h with rfl | rfl | rfl | rfl
    · exact isBlank_digit (by omega)
    · exact isBlank_digit (by omega)
    · exact hpad
    · exact hpad
  | case3 a b =>
    have ha := a.toNat_lt
    have hb := b.toNat_lt
    simp only [List.mem_cons, List.not_mem_nil, or_false] at h
    rcases h with rfl | rfl | rfl | rfl
    · exact isBlank_digit (by omega)
    · exact isBlank_digit (by omega)
    · exact isBlank_digit (by omega)
    · exact hpad
  | case4 a b d r ih =>
    have ha := a.toNat_lt
    have hb := b.toNat_lt
    have hd := d.toNat_lt
    simp only [List.mem_cons] at h
    rcases h with rfl | rfl | rfl | rfl | h
    · exact isBlank_digit (by omega)
    · exact isBlank_digit (by omega)
    · exact isBlank_digit (by omega)
    · exact isBlank_digit (by omega)
    · exact ih h

/-- Written octets have no blanks to trim. -/
theorem trim_encode (bs : List UInt8) : trim (encode bs) = encode bs :=
  trim_eq_self (fun _ h => isBlank_of_mem_encode (List.mem_of_mem_head? h))
    (fun _ h => isBlank_of_mem_encode (List.mem_of_getLast? h))

theorem encode_eq_nil_iff {bs : List UInt8} : encode bs = [] ↔ bs = [] := by
  fun_cases encode bs <;> simp

end Base64

/-- What a user sends behind the scheme: the base64 text of the name, a colon and the password. -/
def BasicUser.credential (u : BasicUser) : String :=
  String.ofList (Base64.encode (Utf8.ofText (u.username ++ ":" ++ u.password)))

namespace BasicAuth

theorem decodePayload?_encode (t : String) :
    decodePayload? (String.ofList (Base64.encode (Utf8.ofText t))) =
      (splitOnce ':' t.toList).map fun p => (String.ofList p.1, String.ofList p.2) := by
  unfold decodePayload?
  rw [String.toList_ofList, Base64.trim_encode, Base64.decode?_encode]
  simp only [Utf8.ofText, Option.bind_eq_bind, Option.bind_some, Utf8.decode?_encode]
  cases splitOnce ':' t.toList <;> rfl

/-! ## Accounts -/

theorem collect_eq_ok_iff {seen : List String} {users : List BasicUser}
    {accounts : List (String × Account)} :
    collect seen users = .ok accounts ↔
      (∀ u ∈ users, u.username ≠ "" ∧ u.username ∉ seen) ∧
        (users.map BasicUser.username).Nodup ∧
          accounts = users.map fun u => (u.username, ⟨u.password, u.identity⟩) := by
  have hcons : ∀ seen (u : BasicUser) r, collect seen (u :: r) =
      if u.username = "" then .error .emptyUsername
      else if u.username ∈ seen then .error (.repeatedUser u.username)
      else (collect (u.username :: seen) r).map
        ((u.username, (⟨u.password, u.identity⟩ : Account)) :: ·) := fun _ _ _ => rfl
  exact Outcome.collect_eq_ok_iff (f := collect) (fun _ => rfl) hcons

theorem ofConfig_eq_ok_iff {files : Files} {c : BasicAuthConfig} {s : BasicAuth} :
    ofConfig files c = .ok s ↔
      ∃ more, fileUsers files c = .ok more ∧ collect [] (c.users ++ more) = .ok s.accounts := by
  unfold ofConfig
  cases hmore : fileUsers files c with
  | error e => simp
  | ok more =>
    simp only [Outcome.map_eq_ok_iff, Except.ok.injEq, exists_eq_left']
    constructor
    · rintro ⟨accounts, hcollect, rfl⟩
      exact hcollect
    · intro hcollect
      exact ⟨s.accounts, hcollect, rfl⟩

/-- The account under a name is that of the only user of the name. -/
theorem get?_accounts {users : List BasicUser} {accounts : List (String × Account)}
    (h : collect [] users = .ok accounts) (name : String) (a : Account) :
    Entries.get? name accounts = some a ↔
      ∃ u ∈ users, u.username = name ∧ a = ⟨u.password, u.identity⟩ := by
  obtain ⟨-, hnodup, rfl⟩ := collect_eq_ok_iff.1 h
  rw [Entries.get?_map_eq_some_iff hnodup]
  simp only [eq_comm (a := a)]

theorem verify_eq_some_iff {users : List BasicUser} {s : BasicAuth}
    (h : collect [] users = .ok s.accounts) (payload : String) (i : Identity) :
    s.verify payload = some i ↔
      ∃ u ∈ users, decodePayload? payload = some (u.username, u.password) ∧ u.identity = i := by
  unfold verify
  simp only [Option.bind_eq_bind, Option.bind_eq_some_iff, Prod.exists]
  constructor
  · rintro ⟨name, password, hpayload, a, hget, hcheck⟩
    obtain ⟨u, hu, rfl, rfl⟩ := (get?_accounts h name a).1 hget
    split at hcheck
    · next heq =>
      have hpassword : u.password = password :=
        Utf8.ofText_inj (constantTimeEq_iff.1 heq)
      exact ⟨u, hu, hpassword ▸ hpayload, Option.some.inj hcheck⟩
    · cases hcheck
  · rintro ⟨u, hu, hpayload, rfl⟩
    refine ⟨u.username, u.password, hpayload, ⟨u.password, u.identity⟩,
      (get?_accounts h _ _).2 ⟨u, hu, rfl, rfl⟩, ?_⟩
    exact if_pos (constantTimeEq_iff.2 rfl)

/-- A payload stands for nobody if it is none, or its name is unknown, or the password of the name
is another. -/
theorem verify_eq_none_iff {s : BasicAuth} {payload : String} :
    s.verify payload = none ↔
      ∀ name password a, decodePayload? payload = some (name, password) →
        Entries.get? name s.accounts = some a → a.password ≠ password := by
  have hpassword : ∀ t u : String, Utf8.ofText t = Utf8.ofText u ↔ t = u := fun t u =>
    ⟨Utf8.ofText_inj, congrArg Utf8.ofText⟩
  unfold verify
  simp only [Option.bind_eq_bind, Option.bind_eq_none_iff, Prod.forall, ite_eq_right_iff,
    reduceCtorEq, imp_false, constantTimeEq_iff, hpassword]
  exact ⟨fun h n p a hp ha => h n p hp a ha, fun h n p hp a ha => h n p a hp ha⟩

/-! ## Credentials files -/

/-- A line is cut at its first colon, so no name from a file has one. -/
theorem colon_notMem_readLines {path : String} {n : Nat} {ls : List (List Char)}
    {users : List BasicUser} (h : readLines path n ls = .ok users) :
    ∀ u ∈ users, ':' ∉ u.username.toList := by
  induction ls generalizing n users with
  | nil =>
    obtain rfl := Except.ok.inj h
    exact List.forall_mem_nil _
  | cons l r ih =>
    unfold readLines at h
    split at h
    · exact ih h
    · split at h
      · cases h
      · next name password hsplit =>
        obtain ⟨rest, hrest, rfl⟩ := Outcome.map_eq_ok_iff.1 h
        refine List.forall_mem_cons.2 ⟨?_, ih hrest⟩
        simpa [BasicUser.plain] using (splitOnce_eq_some_iff.1 hsplit).2

theorem colon_notMem_fileUsers {files : Files} {c : BasicAuthConfig} {users : List BasicUser}
    (h : fileUsers files c = .ok users) : ∀ u ∈ users, ':' ∉ u.username.toList := by
  unfold fileUsers readFile at h
  split at h
  · obtain rfl := Except.ok.inj h
    exact List.forall_mem_nil _
  · split at h
    · cases h
    · exact colon_notMem_readLines h

/-! ## Logging in -/

theorem authenticator_of_header {s : BasicAuth} {scheme : String} {u : BasicUser}
    {request : CredentialRequest} (hscheme : Ascii.lower scheme = "basic ")
    (hheader : request .header "authorization" = .ok (some (scheme ++ u.credential))) :
    s.authenticator request = .ok (s.verify u.credential) := by
  have hne : Utf8.ofText (u.username ++ ":" ++ u.password) ≠ [] := by
    intro h
    have := Utf8.ofText_inj (t := "") h
    simp at this
  have htrim : trim u.credential.toList = u.credential.toList := by
    rw [BasicUser.credential, String.toList_ofList, Base64.trim_encode]
  have hcredential : CredentialSource.credentialIn (some "Basic ") (scheme ++ u.credential) =
      some u.credential := by
    rw [CredentialSource.credentialIn_append, trimText, htrim, String.ofList_toList]
    · exact hscheme
    · rw [htrim, BasicUser.credential, String.toList_ofList]
      exact fun h => hne (Base64.encode_eq_nil_iff.1 h)
  unfold authenticator Authenticator.ofSource CredentialSource.extract source
  rw [hheader]
  simp only [hcredential]

/-- A credential is read back as any name without a colon and password that write it. -/
theorem decodePayload?_credential {u : BasicUser} {name password : String} :
    decodePayload? u.credential = some (name, password) ↔
      ':' ∉ name.toList ∧ name ++ ":" ++ password = u.username ++ ":" ++ u.password := by
  rw [BasicUser.credential, decodePayload?_encode, Option.map_eq_some_iff]
  constructor
  · rintro ⟨⟨a, b⟩, hsplit, heq⟩
    obtain ⟨rfl, rfl⟩ := Prod.mk.inj heq
    obtain ⟨htext, ha⟩ := splitOnce_eq_some_iff.1 hsplit
    refine ⟨by simpa using ha, String.toList_inj.1 ?_⟩
    rw [htext]
    simp
  · rintro ⟨hname, htext⟩
    refine ⟨(name.toList, password.toList), splitOnce_eq_some_iff.2 ⟨?_, hname⟩, by simp⟩
    rw [← htext]
    simp

/-- Whom the credential of a user logs in: the user whose name has no colon and who would send the
same. -/
theorem authenticator_credential {users : List BasicUser} {s : BasicAuth}
    (h : collect [] users = .ok s.accounts) {scheme : String} {u : BasicUser}
    {request : CredentialRequest} (hscheme : Ascii.lower scheme = "basic ")
    (hheader : request .header "authorization" = .ok (some (scheme ++ u.credential)))
    (i : Identity) :
    s.authenticator request = .ok (some i) ↔
      ∃ w ∈ users, ':' ∉ w.username.toList ∧
        w.username ++ ":" ++ w.password = u.username ++ ":" ++ u.password ∧ w.identity = i := by
  rw [authenticator_of_header hscheme hheader, Except.ok.injEq, verify_eq_some_iff h]
  simp only [decodePayload?_credential, and_assoc]

/-- Every user whose name has no colon logs in as itself, and so does every user of a credentials
file. A name with a colon is accepted too, but its user never logs in as itself: the credential is
that of the user who has the text before the first colon as its name, if there is one with the
rest as its password. -/
theorem login_of_ofConfig {files : Files} {c : BasicAuthConfig} {s : BasicAuth}
    (h : ofConfig files c = .ok s) :
    ∃ more, fileUsers files c = .ok more ∧ (∀ u ∈ more, ':' ∉ u.username.toList) ∧
      ∀ u ∈ c.users ++ more, ∀ (scheme : String) (request : CredentialRequest),
        Ascii.lower scheme = "basic " →
        request .header "authorization" = .ok (some (scheme ++ u.credential)) →
        (':' ∉ u.username.toList → s.authenticator request = .ok (some u.identity)) ∧
        (':' ∈ u.username.toList →
          (∃ o, s.authenticator request = .ok o) ∧
          ∀ i, s.authenticator request = .ok (some i) ↔
            ∃ w ∈ c.users ++ more, w.username ≠ u.username ∧ ':' ∉ w.username.toList ∧
              w.username ++ ":" ++ w.password = u.username ++ ":" ++ u.password ∧
              w.identity = i) := by
  obtain ⟨more, hmore, hcollect⟩ := ofConfig_eq_ok_iff.1 h
  refine ⟨more, hmore, colon_notMem_fileUsers hmore, ?_⟩
  intro u hu scheme request hscheme hheader
  have hlogin := authenticator_credential hcollect hscheme hheader
  constructor
  · intro hcolon
    exact (hlogin u.identity).2 ⟨u, hu, hcolon, rfl, rfl⟩
  · intro hcolon
    refine ⟨⟨_, authenticator_of_header hscheme hheader⟩, fun i => ?_⟩
    rw [hlogin i]
    refine exists_congr fun w => and_congr_right fun _ => ?_
    constructor
    · intro hw
      exact ⟨fun hname => hw.1 (hname ▸ hcolon), hw⟩
    · exact And.right

/-- A request with nothing but an authorization header. -/
def requestWith (value : String) : CredentialRequest :=
  httpCredentials ⟨[("authorization", value)]⟩ ⟨"/", none⟩

/-- A user with a name of its own for the outside, and a file with another user. -/
def twoSources : BasicAuthConfig :=
  ⟨[⟨"ann", "p:w ", some "u-1", some "t", ["x"]⟩], some "users"⟩

/-- The file of `twoSources`. -/
def twoSourcesFiles : Files := ⟨[(["users"], Utf8.ofText "# others\n\nben: s:3 \r\n")], []⟩

theorem login_of_ofConfig_twoSources : ∃ s, ofConfig twoSourcesFiles twoSources = .ok s ∧
    s.authenticator (requestWith ("bAsIc " ++ (BasicUser.plain "ben" " s:3").credential)) =
      .ok (some ⟨"ben", none, []⟩) := by
  obtain ⟨s, hs⟩ := Outcome.exists_of_isOk (x := ofConfig twoSourcesFiles twoSources) (by decide)
  obtain ⟨more, hmore, -, hlogin⟩ := login_of_ofConfig hs
  have hfile : fileUsers twoSourcesFiles twoSources = .ok [BasicUser.plain "ben" " s:3"] := by
    rfl
  obtain rfl := Except.ok.inj (hmore.symm.trans hfile)
  refine ⟨s, hs, (hlogin (BasicUser.plain "ben" " s:3") ?_ "bAsIc " _ ?_ ?_).1 ?_⟩
  · simp
  · decide
  · rfl
  · decide

/-- A name with a colon, and another user whose password begins with the rest of it. -/
def colonInName : BasicAuthConfig :=
  ⟨[BasicUser.plain "a:b" "c", BasicUser.plain "a" "b:c"], none⟩

/-- The user with the colon is accepted and logs in as the other. -/
theorem login_as_other_of_colon : ∃ s, ofConfig Files.none colonInName = .ok s ∧
    BasicUser.plain "a:b" "c" ∈ colonInName.users ∧
    s.authenticator (requestWith ("Basic " ++ (BasicUser.plain "a:b" "c").credential)) =
      .ok (some (BasicUser.plain "a" "b:c").identity) ∧
    (BasicUser.plain "a" "b:c").identity ≠ (BasicUser.plain "a:b" "c").identity := by
  obtain ⟨s, hs⟩ := Outcome.exists_of_isOk (x := ofConfig Files.none colonInName) (by decide)
  obtain ⟨more, hmore, hcollect⟩ := ofConfig_eq_ok_iff.1 hs
  refine ⟨s, hs, by decide, ?_, by decide⟩
  refine (authenticator_credential hcollect (by decide) rfl _).2 ?_
  exact ⟨BasicUser.plain "a" "b:c", List.mem_append_left _ (by decide), by decide, rfl, rfl⟩

end BasicAuth

end AccessGateway
