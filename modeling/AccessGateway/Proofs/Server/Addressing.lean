import AccessGateway.Proofs.Document.JsonText
import AccessGateway.Proofs.Text.Percent
import AccessGateway.Proofs.Server.Access
import Mathlib.Data.List.TakeWhile

/-
  Where a collection can be reached. Its name comes in the body of a request, in which any text can
  be written (`Request.creates_of_written`), and is addressed by a path in which it is percent-coded
  octet by octet. Of such a path the routes take the one segment, whatever the name is, and give the
  operation the name back (`ofRequest_address`). Only the empty name has no segment of its own: its
  path is none of a collection (`ofPath?_address_empty`), although what stands behind the name is
  reached. A request that may do everything is answered what the operation answers
  (`Server.respond_of_task`).
-/

namespace AccessGateway

/-- The path of a collection. -/
def collectionAddress (name : String) : String :=
  "/api/v1/collections/" ++ Percent.encodeAll name

/-! ## Paths -/

theorem toList_address (name : String) :
    (collectionAddress name).toList =
      "/api/v1/collections/".toList ++ (Percent.encodeAll name).toList :=
  String.toList_append

/-- What stands behind the path of all collections are segments of their own. -/
theorem pieces_behind_collections (cs : List Char) :
    (pieces '/' ("/api/v1/collections/".toList ++ cs)).map String.ofList =
      "" :: "api" :: "v1" :: "collections" :: (pieces '/' cs).map String.ofList := by
  have hfront : "/api/v1/collections/".toList =
      '/' :: ("api".toList ++ '/' :: ("v1".toList ++ '/' :: ("collections".toList ++ ['/']))) := by
    decide +kernel
  rw [hfront]
  simp only [List.cons_append, List.append_assoc, List.nil_append]
  rw [pieces_sep_cons, pieces_append_sep (by decide), pieces_append_sep (by decide),
    pieces_append_sep (by decide)]
  simp only [List.map_cons, String.ofList_toList, String.ofList_nil]

namespace Endpoint

theorem ofPath?_address {name : String} (h : name ≠ "") :
    ofPath? (collectionAddress name) = some (.collection (Percent.encodeAll name)) := by
  have hne : Percent.encodeAll name ≠ "" := fun he => h (Percent.encodeAll_eq_empty_iff.1 he)
  have hsegments : (pieces '/' (collectionAddress name).toList).map String.ofList =
      ["", "api", "v1", "collections", Percent.encodeAll name] := by
    rw [toList_address, pieces_behind_collections,
      pieces_of_notMem (Percent.slash_notMem_encodeAll name), List.map_singleton,
      String.ofList_toList]
  rw [ofPath?, hsegments]
  simp [hne]

/-- The collection without a name has no path. -/
theorem ofPath?_address_empty : ofPath? (collectionAddress "") = none := by
  decide +kernel

theorem segments_address_append {last : String} (hlast : '/' ∉ last.toList) (name : String) :
    (pieces '/' (collectionAddress name ++ ("/" ++ last)).toList).map String.ofList =
      ["", "api", "v1", "collections", Percent.encodeAll name, last] := by
  have hslash : "/".toList = ['/'] := by decide
  have hpath : (collectionAddress name ++ ("/" ++ last)).toList = "/api/v1/collections/".toList ++
      ((Percent.encodeAll name).toList ++ '/' :: last.toList) := by
    have hlist : ("/" ++ last).toList = '/' :: last.toList := by
      rw [String.toList_append (s := "/") (t := last), hslash, List.singleton_append]
    rw [String.toList_append (s := collectionAddress name) (t := "/" ++ last), toList_address,
      hlist, List.append_assoc]
  rw [hpath, pieces_behind_collections, pieces_append_sep (Percent.slash_notMem_encodeAll name),
    pieces_of_notMem hlast, List.map_cons, List.map_singleton, String.ofList_toList,
    String.ofList_toList]

theorem ofPath?_address_add (name : String) :
    ofPath? (collectionAddress name ++ "/add") = some (.add (Percent.encodeAll name)) := by
  have hlast : "/add" = "/" ++ "add" := by decide
  rw [ofPath?, hlast, segments_address_append (by decide)]
  rfl

theorem ofPath?_address_count (name : String) :
    ofPath? (collectionAddress name ++ "/count") = some (.count (Percent.encodeAll name)) := by
  have hlast : "/count" = "/" ++ "count" := by decide
  rw [ofPath?, hlast, segments_address_append (by decide)]
  rfl

end Endpoint

/-- A character that a path can hold, and that does not end it. -/
def Uri.keepsPath (c : Char) : Bool := isPathChar c && c != '?' && c != '#'

theorem Uri.readPath_of_path {cs : List Char} (hne : cs ≠ []) (hcs : cs.all keepsPath = true) :
    readPath cs = .ok ⟨String.ofList cs, none⟩ := by
  have hchars : ∀ c ∈ cs, (isPathChar c = true ∧ (c != '?') = true) ∧ (c != '#') = true := by
    simpa [keepsPath] using hcs
  have hwhole : cs.takeWhile (fun c => c != '?' && c != '#') = cs := by
    rw [List.takeWhile_eq_self_iff]
    intro c hc
    rw [(hchars c hc).1.2, (hchars c hc).2]
    rfl
  have hall : cs.all isPathChar = true := List.all_eq_true.2 fun c hc => (hchars c hc).1.1
  have hempty : cs.isEmpty = false := List.isEmpty_eq_false_iff.2 hne
  simp only [readPath, hwhole, hall, hempty, List.drop_length, if_true, Bool.false_eq_true,
    if_false]

/-- A path is the target of a request, unless it is too long for one. -/
theorem Uri.parse_of_path {s : String} {cs : List Char} (hs : s.toList = '/' :: cs)
    (hcs : s.toList.all keepsPath = true) :
    Uri.parse s =
      if 65534 < Utf8.size s.toList then .error .targetTooLong else .ok ⟨s, none⟩ := by
  have hpath : readPath s.toList = .ok ⟨s, none⟩ := by
    rw [readPath_of_path (by rw [hs]; exact List.cons_ne_nil _ _) hcs, String.ofList_toList]
  unfold parse
  rw [hs] at hpath ⊢
  simp only [hpath]

theorem Uri.parse_address (name : String) {tail : String}
    (htail : tail ∈ ["", "/add", "/count"]) :
    Uri.parse (collectionAddress name ++ tail) =
      if 65534 < Utf8.size (collectionAddress name ++ tail).toList then .error .targetTooLong
      else .ok ⟨collectionAddress name ++ tail, none⟩ := by
  have hlist : (collectionAddress name ++ tail).toList =
      "/api/v1/collections/".toList ++ (Percent.encodeAll name).toList ++ tail.toList := by
    rw [String.toList_append (s := collectionAddress name), toList_address]
  have hfront : "/api/v1/collections/".toList = '/' :: "api/v1/collections/".toList := by
    decide +kernel
  have hends : tail.toList.all keepsPath = true := by
    simp only [List.mem_cons, List.not_mem_nil, or_false] at htail
    rcases htail with rfl | rfl | rfl
    · decide +kernel
    · decide +kernel
    · decide +kernel
  have hcs : (collectionAddress name ++ tail).toList = '/' :: ("api/v1/collections/".toList ++
      (Percent.encodeAll name).toList ++ tail.toList) := by
    rw [hlist, hfront]
    rfl
  refine parse_of_path hcs ?_
  rw [hlist, List.all_append, List.all_append, hends, Percent.all_encodeAll (by decide +kernel)]
  decide +kernel

/-! ## Bodies -/

/-- A request to create a collection, whose body is JSON and gives the name. -/
structure Request.Creates (r : Request) (name : String) : Prop where
  method : r.method = "POST"
  path : r.path = "/api/v1/collections"
  body : JsonText.read (NewCollection.layout.read .jsonText) r.body = .ok ⟨name⟩

/-- Every name can be written in a body. -/
theorem Request.creates_of_written {r : Request} {name : String} (hmethod : r.method = "POST")
    (hpath : r.path = "/api/v1/collections")
    (hbody : r.body = (Json.object [("name", .text name)]).compact) : r.Creates name := by
  refine ⟨hmethod, hpath, ?_⟩
  rw [hbody, JsonText.read, JsonText.scan_member]
  rfl

theorem Request.Creates.ofRequest {r : Request} {name : String} {c : CollectionCall}
    (h : r.Creates name) (hc : CollectionCall.ofRequest .create none r = .ok c) :
    c = .on .create name := by
  obtain ⟨b, hb, rfl⟩ := Outcome.map_eq_ok_iff.1 hc
  unfold readBody at hb
  rw [h.body] at hb
  split at hb
  · split at hb
    · cases hb
    · obtain rfl := Except.ok.inj hb
      rfl
  · cases hb

theorem Endpoint.allowed?_of_task {r : Request} {t : Task} (h : Task.ofRequest? r = some t) :
    Endpoint.allowed? r = none := by
  unfold Task.ofRequest? at h
  obtain ⟨e, he, ht⟩ := Option.bind_eq_some_iff.1 h
  rw [allowed?, he, Option.bind_some, ht]

/-- The hooks of a configured server only watch. -/
theorem Server.watched_unnoticed : Server.watched.Unnoticed := by
  intro h hmem operation
  obtain rfl : h = .observer "logging" := List.mem_singleton.1 hmem
  exact ⟨⟨fun _ _ => rfl, fun _ _ _ => rfl⟩,
    fun _ => ⟨.inr ⟨rfl, fun _ => rfl⟩, .inr ⟨rfl, fun _ _ => rfl⟩⟩⟩

/-! ## Answers -/

theorem ServiceError.status_ne_ok (e : ServiceError) : e.status ≠ 200 := by
  cases e with
  | authorization e => cases e <;> simp [status]
  | hook e => simp [status]
  | store e => cases e <;> simp [status]

/-- A call that is answered with success did its operation. -/
theorem CollectionCall.apply_of_ok {c : CollectionCall} {hooks : CollectionHooks}
    (hhooks : hooks.Unnoticed) {scope : Option Scope} {s : Store}
    (h : (c.run hooks scope s).response.status = 200) :
    ∃ v, s.apply c.operation c.args = (.ok v, (c.run hooks scope s).store) := by
  cases hcheck : (c.operation.guard.check scope c.args).1 with
  | error e =>
    rw [run_of_refused hcheck] at h
    exact absurd ((ServiceError.status_response (.authorization e)).symm.trans h)
      (ServiceError.status_ne_ok _)
  | ok _ =>
    obtain ⟨hresult, hstore⟩ := run_of_unnoticed hhooks hcheck s
    rw [ServiceRun.response, hresult] at h
    rw [hstore]
    cases happly : (s.apply c.operation c.args).1 with
    | error e =>
      rw [happly] at h
      exact absurd ((ServiceError.status_response (.store e)).symm.trans h)
        (ServiceError.status_ne_ok _)
    | ok v => exact ⟨v, Prod.ext happly rfl⟩

namespace Server

variable {s : Server} {q : Request}

/-- The request is let through and comes from a user who may do everything with every
collection. -/
def Admits (s : Server) (q : Request) : Prop :=
  ∃ identity, s.gateway.identify q = .ok identity ∧
    ∀ x, s.gateway.scope? q identity = some x → ∀ (op : CollectionOperation) args,
      x.provider (op.guard.question x args) = .ok true

theorem Admits.run_respond (h : s.Admits q) (clock : Nat) (store : Store) :
    ∃ v : Visit, v.request = q ∧
      (∀ (op : CollectionOperation) args, (op.guard.check v.scope args).1 = .ok ()) ∧
      (s.respond clock q).run store =
        ((((s.routes clock v).run store).1.withAllow (Endpoint.allowed? q)).answering q.method,
          ((s.routes clock v).run store).2) := by
  obtain ⟨identity, hid, hallowed⟩ := h
  refine ⟨⟨q, identity, s.gateway.scope? q identity⟩, rfl, ?_, ?_⟩
  · intro op args
    cases hscope : s.gateway.scope? q identity with
    | none => rfl
    | some x => exact (Guard.check_scope_eq_ok_iff _ x _).2 (hallowed x hscope op args)
  · rw [Server.run_respond, Gateway.handle, Gateway.screen, hid]

/-- A request that may do everything gets the answer of the operation that it asks for. -/
theorem respond_of_task (hhooks : s.hooks.Unnoticed) (h : s.Admits q) {op : CollectionOperation}
    {written : Option String} {c : CollectionCall} {v : Json} {store left : Store}
    (htask : Task.ofRequest? q = some (.operate op written))
    (hcall : CollectionCall.ofRequest op written q = .ok c)
    (happly : store.apply c.operation c.args = (.ok v, left)) (clock : Nat) :
    (s.respond clock q).run store = ((Response.json 200 v).answering q.method, left) := by
  obtain ⟨visit, rfl, hcheck, hrun⟩ := h.run_respond clock store
  obtain ⟨hresult, hleft⟩ := CollectionCall.run_of_unnoticed hhooks (hcheck c.operation c.args) store
  rw [happly] at hresult hleft
  rw [hrun, Endpoint.allowed?_of_task htask, run_routes, htask]
  simp only [perform, StateT.run, hcall, ServiceRun.response, hresult, hleft]
  rfl

/-- A user to whom the policy grants every operation. -/
theorem admits_of_policy {c : GatewayConfig} {authn : Option Authenticator} {p : Policy}
    (hg : Gateway.ofProviders c authn (some (Authorizer.mk p).provider) = .ok s.gateway)
    {identity : Option Identity} (hid : s.gateway.identify q = .ok identity)
    (hgranted : ∀ op : CollectionOperation, op.grantFor (userOf identity) ∈ p.grants) :
    s.Admits q := by
  refine ⟨identity, hid, fun x hx op args => ?_⟩
  obtain ⟨z, hz, -, rfl⟩ := (Gateway.scope?_eq_some_iff hg q identity x).1 hx
  obtain rfl := Option.some.inj hz
  refine (Guard.check_scope_eq_ok_iff _ _ args).1 ?_
  exact (CollectionCall.check_eq ⟨op, args⟩ _ p).trans (if_pos (hgranted op))

theorem task_of_path {e : Endpoint} (h : Endpoint.ofPath? q.path = some e) :
    Task.ofRequest? q = e.task? q.method := by
  rw [Task.ofRequest?, h, Option.bind_some]

/-- What the routes give an operation is the name that was percent-coded. -/
theorem ofRequest_address (op : CollectionOperation) (name : String) (q : Request) :
    CollectionCall.ofRequest op (some (Percent.encodeAll name)) q =
      CollectionCall.ofBody op name q := by
  simp only [CollectionCall.ofRequest, Percent.decodeText?_encodeAll]

/-! ## Creating -/

/-- A collection that was created was not there before. -/
theorem store_of_created (hhooks : s.hooks.Unnoticed) {r : Request} {name : String}
    (hr : r.Creates name) {clock : Nat} {store : Store}
    (hok : ((s.respond clock r).run store).1.status = 200) :
    store.get? name = none ∧ ((s.respond clock r).run store).2 = store.insert name [] := by
  cases hid : s.gateway.identify r with
  | error e =>
    have hstatus := (run_respond_of_error hid clock store).2
    rw [hok] at hstatus
    rcases Gateway.status_of_identify hid with h | h
    · omega
    · omega
  | ok identity =>
    obtain ⟨hstore, hstatus⟩ := run_respond_of_ok hid clock store
    -- The body is only looked at behind the checks of its type and size, which 200 has passed.
    have htask : Task.ofRequest? r = some (.operate .create none) := by
      rw [Task.ofRequest?, hr.path, hr.method]
      decide +kernel
    rw [hok] at hstatus
    rw [hstore]
    rw [run_routes, htask] at hstatus ⊢
    simp only [perform, StateT.run] at hstatus ⊢
    cases hc : CollectionCall.ofRequest .create none r with
    | error e =>
      simp only [hc] at hstatus
      have hfailed := (Misunderstanding.status_response e).1
      omega
    | ok c =>
      obtain rfl := hr.ofRequest hc
      simp only [hc] at hstatus ⊢
      obtain ⟨v, hv⟩ := CollectionCall.apply_of_ok hhooks hstatus.symm
      simp only [CollectionCall.on, Store.apply_named] at hv
      cases hname : store.get? name with
      | none =>
        rw [Store.applyTo_of_none hname] at hv
        exact ⟨rfl, (congrArg Prod.snd hv).symm⟩
      | some old =>
        rw [Store.applyTo_of_some hname] at hv
        cases congrArg Prod.fst hv

/-! ## Addressing -/

/-- What is asked for at the path of a collection that is there is done to exactly this
collection. -/
theorem respond_at_address (hhooks : s.hooks.Unnoticed) (h : s.Admits q) {e : Endpoint}
    {op : CollectionOperation} {name method : String} {new : List Json} {store left : Store}
    (hpath : Endpoint.ofPath? q.path = some e) (hmethod : q.method = method)
    (htask : e.task? method = some (.operate op (some (Percent.encodeAll name))))
    (hcall : CollectionCall.ofBody op name q = .ok ⟨op, ⟨some name, new⟩⟩) {v : Json}
    (hdone : store.applyTo op name new = (.ok v, left))
    (hsent : (Response.json 200 v).answering method = .json 200 v) (clock : Nat) :
    (s.respond clock q).run store = (.json 200 v, left) := by
  have htask' : Task.ofRequest? q = some (.operate op (some (Percent.encodeAll name))) := by
    rw [task_of_path hpath, hmethod, htask]
  have hanswer := respond_of_task hhooks h htask' ((ofRequest_address op name q).trans hcall)
    ((store.apply_named op name new).trans hdone) clock
  rwa [hmethod, hsent] at hanswer

theorem respond_of_no_path (h : s.Admits q) (hpath : Endpoint.ofPath? q.path = none)
    (clock : Nat) (store : Store) :
    ((s.respond clock q).run store).1.status = 404 ∧ ((s.respond clock q).run store).2 = store := by
  obtain ⟨v, rfl, -, hrun⟩ := h.run_respond clock store
  have htask : Task.ofRequest? v.request = none := by
    rw [Task.ofRequest?, hpath]
    rfl
  rw [hrun, run_routes, htask, hpath, Response.status_answering, Response.status_withAllow]
  exact ⟨rfl, rfl⟩

/-- A request to create a collection that is answered 200 has created one of exactly the name in
its body, which is without records. From then on, whatever else happens to the store while the
collection is there, a request that may do everything reaches exactly this collection behind its
path: to add records and to count them under every name, to get and to delete it under every name
but the empty one, for which there is no such place. The paths are targets of requests as long as
they have at most 65534 octets. -/
theorem addressed_of_created {c : AppConfig} {files : Files} {s : Server}
    (hs : ofConfig c files = .ok s) {name : String} {r : Request} (hr : r.Creates name)
    {clock : Nat} {store : Store} (hok : ((s.respond clock r).run store).1.status = 200) :
    store.get? name = none ∧ ((s.respond clock r).run store).2 = store.insert name [] ∧
    (∀ tail ∈ ["", "/add", "/count"], Uri.parse (collectionAddress name ++ tail) =
      if 65534 < Utf8.size (collectionAddress name ++ tail).toList then .error .targetTooLong
      else .ok ⟨collectionAddress name ++ tail, none⟩) ∧
    ∀ (q : Request) (later : Nat) (t : Store) (records : List Json),
      s.Admits q → t.get? name = some records →
      let answer := (s.respond later q).run t
      (q.path = collectionAddress name → name = "" → answer.1.status = 404 ∧ answer.2 = t) ∧
      (q.path = collectionAddress name → name ≠ "" → q.method = "GET" →
        answer = (.json 200 (.object [("count", Json.ofNat records.length),
          ("database", .text defaultDatabase), ("name", .text name)]), t)) ∧
      (q.path = collectionAddress name → name ≠ "" → q.method = "DELETE" →
        answer = (.json 200 (.object [("deleted", .text name)]), t.erase name) ∧
          name ∉ answer.2.keys) ∧
      (q.path = collectionAddress name ++ "/add" → q.method = "POST" →
        ∀ b, q.readBody NewRecords.layout = .ok b →
          answer = (.json 200 (.object [("added", Json.ofNat b.records.length)]),
            t.insert name (records ++ b.records))) ∧
      (q.path = collectionAddress name ++ "/count" → q.method = "GET" →
        answer = (.json 200 (Json.ofNat records.length), t)) := by
  obtain ⟨g, -, rfl⟩ := Outcome.map_eq_ok_iff.1 hs
  obtain ⟨hnew, hcreated⟩ := store_of_created watched_unnoticed hr hok
  refine ⟨hnew, hcreated, fun tail htail => Uri.parse_address name htail, ?_⟩
  intro q later t records hq ht answer
  refine ⟨?_, ?_, ?_, ?_, ?_⟩
  · rintro hpath rfl
    exact respond_of_no_path hq (hpath ▸ Endpoint.ofPath?_address_empty) later t
  · intro hpath hname hmethod
    exact respond_at_address watched_unnoticed hq (hpath ▸ Endpoint.ofPath?_address hname) hmethod
      rfl rfl (Store.applyTo_of_some ht .get []) rfl later
  · intro hpath hname hmethod
    have hanswer : answer = (.json 200 (.object [("deleted", .text name)]), t.erase name) :=
      respond_at_address watched_unnoticed hq (hpath ▸ Endpoint.ofPath?_address hname) hmethod
        rfl rfl (Store.applyTo_of_some ht .delete []) rfl later
    refine ⟨hanswer, ?_⟩
    rw [hanswer, ← Table.contains_iff_mem_keys, Table.contains, Table.get?_erase, if_pos rfl]
    decide
  · intro hpath hmethod b hb
    have hcall : CollectionCall.ofBody .add name q = .ok (.add name b.records) := by
      rw [CollectionCall.ofBody, hb]
      rfl
    exact respond_at_address watched_unnoticed hq (hpath ▸ Endpoint.ofPath?_address_add name)
      hmethod rfl hcall (Store.applyTo_of_some ht .add b.records) rfl later
  · intro hpath hmethod
    exact respond_at_address watched_unnoticed hq (hpath ▸ Endpoint.ofPath?_address_count name)
      hmethod rfl rfl (Store.applyTo_of_some ht .count []) rfl later

/-- One user with a token, who may do everything. -/
def oneOwner : AppConfig where
  server := ⟨"127.0.0.1:8000"⟩
  logging := ⟨"info", .text⟩
  gateway := ⟨⟨some "static_token", openRoutes⟩, ⟨some "simple_rbac", Table.empty⟩⟩
  providers := ⟨Table.ofList [
    ("static_token", .object [("mode", .text "static_tokens"), ("tokens", .list [.object [
      ("identity", .object [("user_id", .text "ann")]), ("token", .text "secret")]])]),
    ("simple_rbac", .object [("config_provider", .text "inline_authz_config")]),
    ("inline_authz_config", .object [
      ("roles_mapping", .object [("owner", .object [
        ("actions", .list [.text "db:list_collections", .text "db:create_collection",
          .text "collection:get_collection", .text "collection:delete_collection",
          .text "collection:add", .text "collection:count"])])]),
      ("users", .list [.object [("id", .text "ann"), ("role", .text "owner")]])])]⟩

/-- A request of the user. -/
def ownerRequest (method path body : String) : Request :=
  ⟨method, ⟨path, none⟩,
    ⟨[("authorization", "Bearer secret"), ("content-type", "application/json")]⟩, body⟩

/-- A request of the user to create a collection. -/
def creation (name : String) : Request :=
  ownerRequest "POST" "/api/v1/collections" (Json.object [("name", .text name)]).compact

theorem creates_creation (name : String) : (creation name).Creates name :=
  Request.creates_of_written rfl rfl rfl

/-- The user is admitted wherever the gateway knows that a request comes from the user. -/
theorem admits_oneOwner (hs : ofConfig oneOwner Files.none = .ok s)
    (hid : (s.gateway.identify q).toOption = some (some ⟨"ann", none, []⟩)) : s.Admits q := by
  obtain ⟨a, p, -, -, hg⟩ := ofConfig_eq_ok hs rfl rfl
  have hopen : ¬ oneOwner.gateway.authz.Exempts (creation "") := by
    rw [LayerConfig.exempts_iff (b := .empty) rfl]
    decide
  have hscope := (Gateway.scope?_eq_some_iff hg (creation "") (some ⟨"ann", none, []⟩) _).2
    ⟨_, rfl, hopen, rfl⟩
  let asked := s.gateway.scope? (creation "") (some ⟨"ann", none, []⟩)
  have hallowed : ∀ op ∈ [CollectionOperation.list, .create, .get, .delete, .add, .count],
      (op.guard.check asked ⟨none, []⟩).1.isOk = true := by
    rw [← List.all_eq_true]
    exact Outcome.eq_of_map hs (fun s => [CollectionOperation.list, .create, .get, .delete, .add,
      .count].all fun op => (op.guard.check
        (s.gateway.scope? (creation "") (some ⟨"ann", none, []⟩)) ⟨none, []⟩).1.isOk)
      (by decide +kernel)
  have hgranted : ∀ op : CollectionOperation, op.grantFor "ann" ∈ p.grants := by
    intro op
    by_contra hdenied
    have hop := hallowed op (by cases op <;> decide)
    have hrefused : (op.guard.check asked ⟨none, []⟩).1.isOk = false := by
      rw [show asked = some _ from hscope]
      exact congrArg Except.isOk ((CollectionCall.check_eq ⟨op, ⟨none, []⟩⟩
        ⟨"POST", "/api/v1/collections", some ⟨"ann", none, []⟩⟩ p).trans (if_neg hdenied))
    rw [hrefused] at hop
    cases hop
  cases hidentity : s.gateway.identify q with
  | error e =>
    rw [hidentity] at hid
    cases hid
  | ok identity =>
    rw [hidentity] at hid
    obtain rfl := Option.some.inj hid
    exact admits_of_policy hg hidentity hgranted

/-- A name full of marks that mean something in a path. -/
def awkwardName : String := "ä/../%2F\n"

/-- A request of the user to delete the collection of that name. -/
def awkwardDeletion : Request := ownerRequest "DELETE" (collectionAddress awkwardName) ""

/-- It is created and deleted again. -/
theorem addressed_of_created_awkward :
    ∃ s, ofConfig oneOwner Files.none = .ok s ∧ (creation awkwardName).Creates awkwardName ∧
      ((s.respond 0 (creation awkwardName)).run Table.empty).1.status = 200 ∧
      s.Admits awkwardDeletion ∧
      let created := ((s.respond 0 (creation awkwardName)).run Table.empty).2
      let answer := (s.respond 1 awkwardDeletion).run created
      created.get? awkwardName = some [] ∧ answer.1.status = 200 ∧ awkwardName ∉ answer.2.keys := by
  obtain ⟨s, hs⟩ := Outcome.exists_of_isOk (x := ofConfig oneOwner Files.none) (by decide +kernel)
  have hstatus : ((s.respond 0 (creation awkwardName)).run Table.empty).1.status = 200 :=
    Outcome.eq_of_map hs
      (fun s => ((s.respond 0 (creation awkwardName)).run Table.empty).1.status) (by decide +kernel)
  have hadmits : s.Admits awkwardDeletion :=
    admits_oneOwner hs (Outcome.eq_of_map hs
      (fun s => (s.gateway.identify awkwardDeletion).toOption) (by decide +kernel))
  obtain ⟨-, hcreated, -, haddressed⟩ :=
    addressed_of_created hs (creates_creation awkwardName) hstatus
  have hthere : ((s.respond 0 (creation awkwardName)).run Table.empty).2.get? awkwardName =
      some [] := by
    rw [hcreated, Table.get?_insert, if_pos rfl]
  obtain ⟨hanswer, hgone⟩ := (haddressed _ 1 _ _ hadmits hthere).2.2.1 rfl (by decide) rfl
  exact ⟨s, hs, creates_creation _, hstatus, hadmits, hthere,
    congrArg (fun x => x.1.status) hanswer, hgone⟩

/-- The collection without a name is created, and cannot be got or deleted by a user who may do
everything. -/
theorem unaddressed_of_created_nameless :
    ∃ s, ofConfig oneOwner Files.none = .ok s ∧ (creation "").Creates "" ∧
      ((s.respond 0 (creation "")).run Table.empty).1.status = 200 ∧
      let created := ((s.respond 0 (creation "")).run Table.empty).2
      ∀ method ∈ ["GET", "DELETE"], s.Admits (ownerRequest method (collectionAddress "") "") ∧
        let answer := (s.respond 1 (ownerRequest method (collectionAddress "") "")).run created
        answer.1.status = 404 ∧ "" ∈ answer.2.keys := by
  obtain ⟨s, hs⟩ := Outcome.exists_of_isOk (x := ofConfig oneOwner Files.none) (by decide +kernel)
  have hcreated : (((s.respond 0 (creation "")).run Table.empty).1.status,
      ((s.respond 0 (creation "")).run Table.empty).2.keys) = (200, [""]) :=
    Outcome.eq_of_map hs (fun s => (((s.respond 0 (creation "")).run Table.empty).1.status,
      ((s.respond 0 (creation "")).run Table.empty).2.keys)) (by decide +kernel)
  obtain ⟨hstatus, hkeys⟩ := Prod.mk.inj hcreated
  refine ⟨s, hs, creates_creation "", hstatus, ?_⟩
  intro created method hmethod
  have hids : ∀ m ∈ ["GET", "DELETE"], decide ((s.gateway.identify
      (ownerRequest m (collectionAddress "") "")).toOption = some (some ⟨"ann", none, []⟩)) =
        true := by
    rw [← List.all_eq_true]
    exact Outcome.eq_of_map hs (fun s => ["GET", "DELETE"].all fun m => decide
      ((s.gateway.identify (ownerRequest m (collectionAddress "") "")).toOption =
        some (some ⟨"ann", none, []⟩))) (by decide +kernel)
  have hadmits := admits_oneOwner hs (of_decide_eq_true (hids method hmethod))
  obtain ⟨hmissing, hleft⟩ :=
    respond_of_no_path hadmits Endpoint.ofPath?_address_empty 1 created
  refine ⟨hadmits, hmissing, ?_⟩
  rw [hleft, hkeys]
  exact List.mem_cons_self

end Server

end AccessGateway
