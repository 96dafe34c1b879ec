import AccessGateway.Authorization.Source
import AccessGateway.Proofs.Authorization.Policy
import AccessGateway.Proofs.Document.JsonText
import AccessGateway.Proofs.Document.Reader

/-
  What becomes of the roles and users that a policy file writes. A document is looked at as it is
  written, with every role in its place (`writtenRoles`, `writtenUsers`). Reading keeps the users
  and, of the roles of one name, the last one (`users_of_read`, `roles_of_read`); compiling keeps
  all of that. So the policy of a JSON file honours the last role of each name and grants nothing
  else; what another role of the name writes is dropped, well-formed or not.
-/

namespace AccessGateway

/-! ## What a document writes -/

namespace Document

/-- The actions that are written in a role. -/
def writtenActions (d : Document) : List String :=
  ((d.field? "actions" 0).elim [] items).filterMap text?

/-- The roles that are written in a configuration, with their actions, in order and with
repetitions. -/
def writtenRoles (d : Document) : List (String × List String) :=
  ((d.field? "roles_mapping" 1).elim [] members).map fun m => (m.1, m.2.writtenActions)

/-- The id and the role of a written user. -/
def writtenUser? (d : Document) : Option (String × Option String) :=
  ((d.field? "id" 0).bind text?).map fun id => (id, (d.field? "role" 1).bind text?)

/-- The users that are written in a configuration. -/
def writtenUsers (d : Document) : List (String × Option String) :=
  ((d.field? "users" 0).elim [] items).filterMap writtenUser?

end Document

/-! ## What is read of it -/

theorem Role.keeps_actions :
    Role.layout.Keeps "actions" 0 (Reader.list Reader.text) Role.actions where
  own := ⟨_, rfl, rfl, rfl, Field.sets_of_map (fun _ => rfl) fun _ _ => rfl⟩
  others := List.forall_mem_nil _

theorem UserEntry.keeps_id : UserEntry.layout.Keeps "id" 0 Reader.text UserEntry.id where
  own := ⟨_, rfl, rfl, rfl, Field.sets_of_map (fun _ => rfl) fun _ _ => rfl⟩
  others := by
    refine List.forall_mem_cons.2 ⟨⟨by decide, by decide, ?_⟩,
      List.forall_mem_singleton.2 ⟨by decide, by decide, ?_⟩⟩
    · exact Field.leaves_of_map (fun _ => rfl) fun _ _ => rfl
    · exact Field.leaves_of_map (fun _ => rfl) fun _ _ => rfl

theorem UserEntry.keeps_role :
    UserEntry.layout.Keeps "role" 1 (Reader.nullable Reader.text) UserEntry.role where
  own := ⟨_, rfl, rfl, rfl, Field.sets_of_map (fun _ => rfl) fun _ _ => rfl⟩
  others := by
    refine List.forall_mem_cons.2 ⟨⟨by decide, by decide, ?_⟩,
      List.forall_mem_singleton.2 ⟨by decide, by decide, ?_⟩⟩
    · exact Field.leaves_of_map (fun _ => rfl) fun _ _ => rfl
    · exact Field.leaves_of_map (fun _ => rfl) fun _ _ => rfl

namespace AuthorizationConfig

theorem keeps_users (dialect : Dialect) : (layout dialect).Keeps "users" 0
    (Reader.list (UserEntry.layout.read dialect)) AuthorizationConfig.users where
  own := ⟨_, rfl, rfl, rfl, Field.sets_of_map (fun _ => rfl) fun _ _ => rfl⟩
  others := by
    refine List.forall_mem_singleton.2 ⟨?_, List.not_mem_nil, ?_⟩
    · exact show "roles_mapping" ≠ "users" by decide
    · exact Field.leaves_of_map (fun _ => rfl) fun _ _ => rfl

theorem keeps_roles (dialect : Dialect) : (layout dialect).Keeps "roles_mapping" 1
    (Reader.table (Role.layout.read dialect)) AuthorizationConfig.roles where
  own := ⟨_, rfl, rfl, rfl, Field.sets_of_map (fun _ => rfl) fun _ _ => rfl⟩
  others := by
    refine List.forall_mem_singleton.2 ⟨?_, List.not_mem_nil, ?_⟩
    · exact show "users" ≠ "roles_mapping" by decide
    · exact Field.leaves_of_map (fun _ => rfl) fun _ _ => rfl

end AuthorizationConfig

variable {dialect : Dialect} {d : Document}

theorem Role.actions_of_read {role : Role} (h : Role.layout.read dialect d = .ok role) :
    d.writtenActions = role.actions := by
  have htext : ∀ d s, Reader.text d = .ok s → d.text? = some (id s) := fun _ _ =>
    Reader.text_eq_ok_iff.1
  have hitems := (Role.keeps_actions.field_of_read h).items htext
  rw [List.map_id] at hitems
  exact hitems

theorem UserEntry.user_of_read {u : UserEntry} (h : UserEntry.layout.read dialect d = .ok u) :
    d.writtenUser? = some (u.id, u.role) := by
  have hid : (d.field? "id" 0).bind Document.text? = some u.id := by
    have hfield := UserEntry.keeps_id.field_of_read h
    have hneeded : ∀ f, UserEntry.layout.fields[0]? = some f → f.required = true := by
      rintro f ⟨⟩
      rfl
    obtain ⟨v, hv⟩ := Option.isSome_iff_exists.1 (UserEntry.keeps_id.isSome_of_read hneeded h)
    rw [hv] at hfield ⊢
    exact Reader.text_eq_ok_iff.1 hfield
  have hrole : (d.field? "role" 1).bind Document.text? = u.role :=
    (UserEntry.keeps_role.field_of_read h).text?
  rw [Document.writtenUser?, hid, hrole, Option.map_some]

namespace AuthorizationConfig

theorem users_of_read {c : AuthorizationConfig} (h : read dialect d = .ok c) :
    d.writtenUsers = c.users.map fun u => (u.id, u.role) :=
  ((keeps_users dialect).field_of_read h).items fun _ _ => UserEntry.user_of_read

/-- Of the roles that are written under one name, the last one counts. -/
theorem roles_of_read {c : AuthorizationConfig} (h : read dialect d = .ok c) (name : String) :
    (c.roles.get? name).map Role.actions = Entries.get? name d.writtenRoles.reverse :=
  ((keeps_roles dialect).field_of_read h).members (fun _ _ => Role.actions_of_read) name

end AuthorizationConfig

/-! ## What becomes of it -/

namespace PolicyFile

/-- The roles that a JSON text writes, with their actions, in order and with repetitions. -/
def roles (s : String) : List (String × List String) := (JsonText.scan s.toList).1.writtenRoles

/-- The ids and the roles of the users that a JSON text writes. -/
def users (s : String) : List (String × Option String) := (JsonText.scan s.toList).1.writtenUsers

/-- A written role is the last one of its name. -/
def IsLast (s : String) (role : String × List String) : Prop :=
  ∃ before after, roles s = before ++ role :: after ∧ role.1 ∉ Entries.names after

/-- Nothing of a written role is dropped: its actions are well-formed, and every user with the
role may do them. -/
def IsHonoured (s : String) (p : Policy) (role : String × List String) : Prop :=
  ∀ text ∈ role.2, ∃ a, RoleAction.parse? text = some a ∧
    ∀ u ∈ users s, u.2 = some role.1 → (⟨u.1, a.resourceType, a.action⟩ : Grant) ∈ p.grants

theorem isLast_iff {s : String} {role : String × List String} :
    IsLast s role ↔ Entries.get? role.1 (roles s).reverse = some role.2 := by
  rw [Entries.get?_eq_some_iff]
  constructor
  · rintro ⟨before, after, hroles, hafter⟩
    refine ⟨after.reverse, before.reverse, by simp [hroles], ?_⟩
    simpa [Entries.names] using hafter
  · rintro ⟨before, after, hroles, hbefore⟩
    refine ⟨after.reverse, before.reverse, ?_, ?_⟩
    · rw [← List.reverse_reverse (roles s), hroles]
      simp
    · simpa [Entries.names] using hbefore

theorem isLast_of_nodup {s : String} (h : (Entries.names (roles s)).Nodup)
    {role : String × List String} (hrole : role ∈ roles s) : IsLast s role := by
  obtain ⟨before, after, hroles⟩ := List.append_of_mem hrole
  refine ⟨before, after, hroles, ?_⟩
  rw [hroles, Entries.names, List.map_append, List.map_cons] at h
  exact (List.nodup_cons.1 (List.nodup_append.1 h).2.1).1

theorem read_of_answer {files : Files} {path s : String} {c : AuthorizationConfig}
    (hjson : ConfigurationSource.isJson path = true) (htext : files.readText path = .ok s)
    (h : (ConfigurationSource.file path).answer files = .ok c) :
    AuthorizationConfig.read .jsonText (JsonText.scan s.toList).1 = .ok c := by
  simp only [ConfigurationSource.answer, htext, ConfigurationSource.ofText, hjson, if_true] at h
  split at h
  · cases h
  · next c' hread =>
    obtain rfl := Except.ok.inj h
    exact JsonText.reader_of_read hread

section
variable {s : String} {c : AuthorizationConfig} {p : Policy}
  (hread : AuthorizationConfig.read .jsonText (JsonText.scan s.toList).1 = .ok c)
  (hcompile : Policy.compile c = .ok p)
include hread

theorem exists_user_iff {id name : String} :
    (∃ u ∈ c.users, u.id = id ∧ u.role = some name) ↔ (id, some name) ∈ users s := by
  rw [users, AuthorizationConfig.users_of_read hread, List.mem_map]
  simp only [Prod.mk.injEq]

theorem exists_role_iff {name : String} {actions : List String} :
    (∃ role, c.roles.get? name = some role ∧ role.actions = actions) ↔
      IsLast s (name, actions) := by
  rw [isLast_iff, roles, ← AuthorizationConfig.roles_of_read hread name, Option.map_eq_some_iff]

include hcompile

theorem mem_grants_iff {g : Grant} :
    g ∈ p.grants ↔ ∃ role, IsLast s role ∧ (g.user, some role.1) ∈ users s ∧
      g.resourceType ++ ":" ++ g.action ∈ role.2 := by
  rw [Policy.mem_grants_of_compile hcompile, AuthorizationConfig.Grants]
  constructor
  · rintro ⟨u, hu, hid, name, hrole, role, hget, haction⟩
    exact ⟨(name, role.actions), (exists_role_iff hread).1 ⟨role, hget, rfl⟩,
      (exists_user_iff hread).1 ⟨u, hu, hid, hrole⟩, haction⟩
  · rintro ⟨⟨name, actions⟩, hlast, huser, haction⟩
    obtain ⟨role, hget, rfl⟩ := (exists_role_iff hread).2 hlast
    obtain ⟨u, hu, hid, hrole⟩ := (exists_user_iff hread).2 huser
    exact ⟨u, hu, hid, name, hrole, role, hget, haction⟩

theorem isHonoured_of_isLast {role : String × List String} (h : IsLast s role) :
    IsHonoured s p role := by
  obtain ⟨table, -, htable, -⟩ := Policy.compile_eq_ok_iff.1 hcompile
  obtain ⟨r, hget, hactions⟩ := (exists_role_iff hread).2 h
  obtain ⟨parsed, hparsed⟩ := Policy.roleActions_of_get? htable hget
  obtain ⟨htexts, hwellFormed⟩ := Policy.roleActions_eq_ok_iff.1 hparsed
  intro text htext
  rw [← hactions, htexts] at htext
  obtain ⟨a, ha, rfl⟩ := List.mem_map.1 htext
  refine ⟨a, RoleAction.parse?_eq_some_iff.2 ⟨rfl, hwellFormed a ha⟩, ?_⟩
  rintro ⟨id, _⟩ hu rfl
  refine (mem_grants_iff hread hcompile).2 ⟨role, h, hu, ?_⟩
  rw [← hactions, htexts]
  exact List.mem_map_of_mem ha

/-- A written role that is not the last of its name is honoured exactly if its actions are
well-formed and its users have them otherwise. -/
theorem isHonoured_iff {role : String × List String} :
    IsHonoured s p role ↔ ∀ text ∈ role.2, (RoleAction.parse? text).isSome = true ∧
      ∀ u ∈ users s, u.2 = some role.1 →
        ∃ last, IsLast s last ∧ (u.1, some last.1) ∈ users s ∧ text ∈ last.2 := by
  have hgrant : ∀ {text a}, RoleAction.parse? text = some a → ∀ id,
      (⟨id, a.resourceType, a.action⟩ : Grant) ∈ p.grants ↔
        ∃ last, IsLast s last ∧ (id, some last.1) ∈ users s ∧ text ∈ last.2 := by
    intro text a ha id
    rw [mem_grants_iff hread hcompile, (RoleAction.parse?_eq_some_iff.1 ha).1]
    rfl
  constructor
  · intro h text htext
    obtain ⟨a, ha, hgranted⟩ := h text htext
    exact ⟨Option.isSome_iff_exists.2 ⟨a, ha⟩, fun u hu hrole =>
      (hgrant ha u.1).1 (hgranted u hu hrole)⟩
  · intro h text htext
    obtain ⟨hsome, hkept⟩ := h text htext
    obtain ⟨a, ha⟩ := Option.isSome_iff_exists.1 hsome
    exact ⟨a, ha, fun u hu hrole => (hgrant ha u.1).2 (hkept u hu hrole)⟩

end

/-- Of the roles that a JSON file writes under one name, the last one is honoured, and the policy
grants nothing else: the others are dropped without an error, and nothing of them is missed only if
their actions are well-formed and their users have them otherwise. Nothing is dropped if no name is
repeated. -/
theorem policy_of_written {files : Files} {path s : String} {c : AuthorizationConfig} {p : Policy}
    (hjson : ConfigurationSource.isJson path = true) (htext : files.readText path = .ok s)
    (hanswer : (ConfigurationSource.file path).answer files = .ok c)
    (hcompile : Policy.compile c = .ok p) :
    (∀ role, IsLast s role → IsHonoured s p role) ∧
    (∀ g, g ∈ p.grants ↔ ∃ role, IsLast s role ∧ (g.user, some role.1) ∈ users s ∧
      g.resourceType ++ ":" ++ g.action ∈ role.2) ∧
    (∀ role, IsHonoured s p role ↔ ∀ text ∈ role.2, (RoleAction.parse? text).isSome = true ∧
      ∀ u ∈ users s, u.2 = some role.1 →
        ∃ last, IsLast s last ∧ (u.1, some last.1) ∈ users s ∧ text ∈ last.2) ∧
    ((Entries.names (roles s)).Nodup → ∀ role ∈ roles s, IsHonoured s p role) := by
  have hread := read_of_answer hjson htext hanswer
  have hlast : ∀ role, IsLast s role → IsHonoured s p role := fun _ =>
    isHonoured_of_isLast hread hcompile
  refine ⟨hlast, fun _ => mem_grants_iff hread hcompile, fun _ => isHonoured_iff hread hcompile, ?_⟩
  intro hnodup role hrole
  exact hlast role (isLast_of_nodup hnodup hrole)

/-- A file with a role that is written twice. -/
def repeated : String :=
  "\x7b\"roles_mapping\":\x7b\"reader\":\x7b\"actions\":[\"db:list\"]\x7d," ++
    "\"reader\":\x7b\"actions\":[\"db:reset\"]\x7d\x7d," ++
    "\"users\":[\x7b\"id\":\"ann\",\"role\":\"reader\"\x7d]\x7d"

/-- The file of a text. -/
def filesWith (s : String) : Files := ⟨[(["policy.json"], Utf8.ofText s)], []⟩

theorem roles_repeated : roles repeated =
    [("reader", ["db:list"]), ("reader", ["db:reset"])] := by
  decide +kernel

theorem users_repeated : users repeated = [("ann", some "reader")] := by
  decide +kernel

theorem readText_repeated : (filesWith repeated).readText "policy.json" = .ok repeated := by
  decide +kernel

theorem compile_repeated : ∃ c p,
    (ConfigurationSource.file "policy.json").answer (filesWith repeated) = .ok c ∧
      Policy.compile c = .ok p := by
  obtain ⟨c, hc⟩ := Outcome.exists_of_isOk
    (x := (ConfigurationSource.file "policy.json").answer (filesWith repeated))
    (by decide +kernel)
  have hok : (Policy.compile c).isOk = true :=
    Outcome.eq_of_map hc (fun c => (Policy.compile c).isOk) (by decide +kernel)
  obtain ⟨p, hp⟩ := Outcome.exists_of_isOk hok
  exact ⟨c, p, hc, hp⟩

theorem policy_of_written_repeated : ∃ c p,
    (ConfigurationSource.file "policy.json").answer (filesWith repeated) = .ok c ∧
    Policy.compile c = .ok p ∧ (⟨"ann", "db", "reset"⟩ : Grant) ∈ p.grants := by
  obtain ⟨c, p, hc, hp⟩ := compile_repeated
  obtain ⟨-, hgrants, -, -⟩ := policy_of_written (by decide) readText_repeated hc hp
  refine ⟨c, p, hc, hp, (hgrants _).2 ⟨("reader", ["db:reset"]), ?_, ?_, ?_⟩⟩
  · exact ⟨[("reader", ["db:list"])], [], roles_repeated, List.not_mem_nil⟩
  · rw [users_repeated]
    exact List.mem_singleton_self _
  · decide

/-- The action of the first role is granted to nobody, and there is no error. -/
theorem dropped_of_repeated : ∃ c p,
    (ConfigurationSource.file "policy.json").answer (filesWith repeated) = .ok c ∧
    Policy.compile c = .ok p ∧ ("reader", ["db:list"]) ∈ roles repeated ∧
    ("ann", some "reader") ∈ users repeated ∧
    (⟨"ann", "db", "list"⟩ : Grant) ∉ p.grants := by
  obtain ⟨c, p, hc, hp⟩ := compile_repeated
  have hread := read_of_answer (by decide) readText_repeated hc
  refine ⟨c, p, hc, hp, ?_, ?_, ?_⟩
  · rw [roles_repeated]
    exact List.mem_cons_self
  · rw [users_repeated]
    exact List.mem_singleton_self _
  · rw [mem_grants_iff hread hp]
    rintro ⟨role, hlast, -, haction⟩
    rw [isLast_iff, roles_repeated] at hlast
    have hactions : role.2 = ["db:reset"] := by
      by_cases hname : role.1 = "reader"
      · simpa [Entries.get?, hname] using hlast.symm
      · simp [Entries.get?, hname] at hlast
    rw [hactions] at haction
    exact absurd haction (by decide)

end PolicyFile

end AccessGateway
