import AccessGateway.Proofs.Authentication.Basic
import AccessGateway.Proofs.Text.Decoding
import Mathlib.Tactic.MkIffOfInductiveProp

/-
  Which configurations of users are accepted, and whom a payload stands for then. The accounts are
  the configured users and those that the lines of the credentials file name (`accounts`); a file is
  read unless a line is malformed (`readLines_eq_ok_iff`), and a configuration is accepted unless
  something is wrong with its file or its names (`Acceptable`, `ofConfig_eq_ok_iff_acceptable`).
  Base64 and UTF-8 have one written form each, so a payload presents a name and a password exactly
  if it is what the two are written as (`decodePayload?_eq_some_iff`).
-/

namespace AccessGateway

namespace BasicAuth

/-- A line of a credentials file that is neither blank nor a comment and has no colon. -/
def IsMalformed (line : List Char) : Prop :=
  trim line ≠ [] ∧ (trim line).head? ≠ some '#' ∧ ':' ∉ trim line

/-- The user that a line of a credentials file names. -/
def lineUser? (line : List Char) : Option BasicUser :=
  if isIgnored (trim line) then none
  else (splitOnce ':' (trim line)).map fun p => .plain (String.ofList p.1) (String.ofList p.2)

/-- A payload presents a name and a password: without the blanks around it, it is the base64 text of
the name, a colon and the password. What stands behind the first colon is the password. -/
def Presents (payload name password : String) : Prop :=
  ':' ∉ name.toList ∧
    trim payload.toList = Base64.encode (Utf8.ofText (name ++ ":" ++ password))

end BasicAuth

namespace BasicAuthConfig

/-- The lines of the credentials file, if there is one that can be read. -/
def fileLines (c : BasicAuthConfig) (files : Files) : List (List Char) :=
  match c.credentialsFile.map files.readText with
  | some (.ok s) => lines s.toList
  | _ => []

/-- The configured accounts, those of the credentials file behind the others. -/
def accounts (c : BasicAuthConfig) (files : Files) : List BasicUser :=
  c.users ++ (c.fileLines files).filterMap BasicAuth.lineUser?

/-- Nothing is wrong with a configuration. -/
@[mk_iff]
structure Acceptable (c : BasicAuthConfig) (files : Files) : Prop where
  /-- The credentials file can be read. -/
  readable : ∀ path fault, c.credentialsFile = some path → files.readText path ≠ .error fault
  /-- Its lines are blank, or comments, or have a colon. -/
  wellFormed : ∀ l ∈ c.fileLines files, ¬ BasicAuth.IsMalformed l
  /-- No account is without a name. -/
  named : ∀ u ∈ c.accounts files, u.username ≠ ""
  /-- No two accounts share a name. -/
  distinct : ((c.accounts files).map BasicUser.username).Nodup

end BasicAuthConfig

namespace BasicAuth

/-! ## Credentials files -/

theorem isIgnored_eq_true_iff {line : List Char} :
    isIgnored line = true ↔ line = [] ∨ line.head? = some '#' := by
  simp [isIgnored]

theorem isMalformed_iff {line : List Char} :
    IsMalformed line ↔ isIgnored (trim line) = false ∧ splitOnce ':' (trim line) = none := by
  rw [Bool.eq_false_iff, ne_eq, isIgnored_eq_true_iff, not_or, splitOnce_eq_none_iff, and_assoc]
  rfl

/-- A file is read unless one of its lines is malformed, and every line that is not passed over
names a user. -/
theorem readLines_eq_ok_iff {path : String} {n : Nat} {ls : List (List Char)}
    {users : List BasicUser} :
    readLines path n ls = .ok users ↔
      (∀ l ∈ ls, ¬ IsMalformed l) ∧ users = ls.filterMap lineUser? := by
  induction ls generalizing n users with
  | nil => simp [readLines, eq_comm]
  | cons l r ih =>
    rw [readLines, List.forall_mem_cons, isMalformed_iff, List.filterMap_cons, lineUser?]
    cases hignored : isIgnored (trim l) with
    | true => simp [ih]
    | false =>
      cases hsplit : splitOnce ':' (trim l) with
      | none => simp
      | some p =>
        simp only [Bool.false_eq_true, if_false, Option.map_some, reduceCtorEq, and_false,
          not_false_eq_true, true_and, Outcome.map_eq_ok_iff, ih]
        constructor
        · rintro ⟨rest, ⟨hwellFormed, rfl⟩, rfl⟩
          exact ⟨hwellFormed, rfl⟩
        · rintro ⟨hwellFormed, rfl⟩
          exact ⟨_, ⟨hwellFormed, rfl⟩, rfl⟩

theorem fileUsers_eq_ok_iff {files : Files} {c : BasicAuthConfig} {more : List BasicUser} :
    fileUsers files c = .ok more ↔
      (∀ path fault, c.credentialsFile = some path → files.readText path ≠ .error fault) ∧
        (∀ l ∈ c.fileLines files, ¬ IsMalformed l) ∧
        more = (c.fileLines files).filterMap lineUser? := by
  unfold fileUsers BasicAuthConfig.fileLines
  cases hfile : c.credentialsFile with
  | none => simp [eq_comm]
  | some path =>
    simp only [readFile, Option.map_some]
    cases htext : files.readText path with
    | error fault => simp [htext]
    | ok s =>
      rw [readLines_eq_ok_iff, iff_and_self]
      rintro - path fault ⟨⟩ herror
      rw [htext] at herror
      cases herror

/-! ## Configurations -/

theorem ofConfig_eq_ok_iff_acceptable {files : Files} {c : BasicAuthConfig} {s : BasicAuth} :
    ofConfig files c = .ok s ↔ c.Acceptable files ∧
      s.accounts = (c.accounts files).map fun u => (u.username, ⟨u.password, u.identity⟩) := by
  rw [ofConfig_eq_ok_iff]
  constructor
  · rintro ⟨more, hmore, hcollect⟩
    obtain ⟨hreadable, hwellFormed, rfl⟩ := fileUsers_eq_ok_iff.1 hmore
    obtain ⟨hnamed, hdistinct, haccounts⟩ := collect_eq_ok_iff.1 hcollect
    exact ⟨⟨hreadable, hwellFormed, fun u hu => (hnamed u hu).1, hdistinct⟩, haccounts⟩
  · rintro ⟨⟨hreadable, hwellFormed, hnamed, hdistinct⟩, haccounts⟩
    refine ⟨_, fileUsers_eq_ok_iff.2 ⟨hreadable, hwellFormed, rfl⟩, ?_⟩
    exact collect_eq_ok_iff.2 ⟨fun u hu => ⟨hnamed u hu, List.not_mem_nil⟩, hdistinct, haccounts⟩

theorem exists_ofConfig_eq_error_iff {files : Files} {c : BasicAuthConfig} :
    (∃ e, ofConfig files c = .error e) ↔ ¬ c.Acceptable files := by
  constructor
  · rintro ⟨e, he⟩ hacceptable
    have hok := ofConfig_eq_ok_iff_acceptable.2 ⟨hacceptable, rfl⟩
    rw [he] at hok
    cases hok
  · intro h
    cases hc : ofConfig files c with
    | error e => exact ⟨e, rfl⟩
    | ok s => exact absurd (ofConfig_eq_ok_iff_acceptable.1 hc).1 h

/-! ## Payloads -/

theorem decodePayload?_eq_some_iff {payload name password : String} :
    decodePayload? payload = some (name, password) ↔ Presents payload name password := by
  unfold decodePayload? Presents
  simp only [Option.bind_eq_bind, Option.bind_eq_some_iff, Base64.decode?_eq_some_iff,
    Utf8.decode?_eq_some_iff, splitOnce_eq_some_iff, Option.some.injEq, Prod.exists, Prod.mk.injEq]
  constructor
  · rintro ⟨bs, htrim, cs, rfl, a, b, ⟨rfl, ha⟩, rfl, rfl⟩
    refine ⟨by simpa using ha, ?_⟩
    rw [htrim]
    simp [Utf8.ofText]
  · rintro ⟨hname, htrim⟩
    refine ⟨_, htrim, _, rfl, name.toList, password.toList, ⟨?_, hname⟩, by simp, by simp⟩
    simp

/-- Of accounts with names of their own, at most one has a name and a password. -/
theorem filter_eq_singleton_iff {users : List BasicUser}
    (distinct : (users.map BasicUser.username).Nodup) {name password : String} {u : BasicUser} :
    users.filter (fun v => v.username = name && v.password = password) = [u] ↔
      u ∈ users ∧ u.username = name ∧ u.password = password := by
  rw [Entries.filter_eq_singleton_iff distinct fun v hv =>
    of_decide_eq_true (Bool.and_eq_true_iff.1 hv).1]
  simp only [Bool.and_eq_true, decide_eq_true_eq]

/-- A configuration is refused exactly if something is wrong with its file or its names. If it is
accepted, a payload stands for the only account that has the name and the password which it
presents, and for nobody if it presents none or no account has them. -/
theorem verify_of_ofConfig (files : Files) (c : BasicAuthConfig) :
    ((∃ e, ofConfig files c = .error e) ↔
      (∃ path fault, c.credentialsFile = some path ∧ files.readText path = .error fault) ∨
      (∃ l ∈ c.fileLines files, IsMalformed l) ∨
      (∃ u ∈ c.accounts files, u.username = "") ∨
      ¬ ((c.accounts files).map BasicUser.username).Nodup) ∧
    ∀ s, ofConfig files c = .ok s → ∀ payload,
      (∀ i, s.verify payload = some i ↔
        ∃ name password u, Presents payload name password ∧
          (c.accounts files).filter (fun v => v.username = name && v.password = password) = [u] ∧
          u.identity = i) ∧
      (s.verify payload = none ↔ ∀ name password, Presents payload name password →
        ∀ u ∈ c.accounts files, u.username = name → u.password ≠ password) := by
  constructor
  · rw [exists_ofConfig_eq_error_iff, BasicAuthConfig.acceptable_iff]
    simp only [not_and_or, not_forall, not_not, ne_eq, exists_prop]
  · intro s hs payload
    obtain ⟨⟨-, -, hnamed, hdistinct⟩, haccounts⟩ := ofConfig_eq_ok_iff_acceptable.1 hs
    have hcollect : collect [] (c.accounts files) = .ok s.accounts :=
      collect_eq_ok_iff.2 ⟨fun u hu => ⟨hnamed u hu, List.not_mem_nil⟩, hdistinct, haccounts⟩
    constructor
    · intro i
      simp only [verify_eq_some_iff hcollect, decodePayload?_eq_some_iff,
        filter_eq_singleton_iff hdistinct]
      constructor
      · rintro ⟨u, hu, hpresents, hi⟩
        exact ⟨u.username, u.password, u, hpresents, ⟨hu, rfl, rfl⟩, hi⟩
      · rintro ⟨_, _, u, hpresents, ⟨hu, rfl, rfl⟩, hi⟩
        exact ⟨u, hu, hpresents, hi⟩
    · rw [verify_eq_none_iff]
      simp only [decodePayload?_eq_some_iff, get?_accounts hcollect]
      constructor
      · intro h name password hpresents u hu hname
        exact h name password _ hpresents ⟨u, hu, hname, rfl⟩
      · rintro h name password _ hpresents ⟨u, hu, hname, rfl⟩
        exact h name password hpresents u hu hname

/-- A payload with blanks around it, with the user id of an account of `twoSources`; and the same
name with a part of the password only. -/
theorem verify_of_ofConfig_twoSources : ∃ s, ofConfig twoSourcesFiles twoSources = .ok s ∧
    s.verify "\tYW5uOnA6dyA= " = some ⟨"u-1", some "t", ["x"]⟩ ∧
    s.verify "YW5uOnA6dw==" = none := by
  obtain ⟨s, hs⟩ := Outcome.exists_of_isOk (x := ofConfig twoSourcesFiles twoSources) (by decide)
  have hverify := (verify_of_ofConfig twoSourcesFiles twoSources).2 s hs
  have haccounts : twoSources.accounts twoSourcesFiles =
      [⟨"ann", "p:w ", some "u-1", some "t", ["x"]⟩, BasicUser.plain "ben" " s:3"] := by
    rfl
  refine ⟨s, hs, ?_, ?_⟩
  · refine ((hverify _).1 _).2 ⟨"ann", "p:w ",
      ⟨"ann", "p:w ", some "u-1", some "t", ["x"]⟩, ⟨by decide, by decide⟩, ?_, rfl⟩
    rw [haccounts]
    rfl
  · refine (hverify _).2.2 fun name password hpresents u hu hname hpassword => ?_
    have hpayload : decodePayload? "YW5uOnA6dw==" = some ("ann", "p:w") := by decide
    obtain ⟨rfl, rfl⟩ := Prod.mk.inj
      (Option.some.inj (hpayload.symm.trans (decodePayload?_eq_some_iff.2 hpresents)))
    rw [haccounts] at hu
    revert u
    decide

end BasicAuth

end AccessGateway
