import AccessGateway.Authorization.Reload
import AccessGateway.Proofs.Outcome

/-
  What an authorizer answers whose source changes while it is in use. One step keeps the active
  policy that of the latest load, for a reload is the only step that loads anything
  (`latest_step`), so that a run of any length does (`latest_after`). What the source answers is
  seen by reloads only (`SameBut.step`), and a policy that was taken out stays as it was
  (`snapshot_after`). `Laws` puts this together, and every authorizer keeps these laws.
-/

namespace AccessGateway

namespace Authorizer

theorem load_eq_ok_iff {answer : SourceAnswer} {p : Policy} :
    load answer = .ok p ↔ ∃ c, answer = .ok c ∧ Policy.compile c = .ok p := by
  cases answer with
  | error e => simp [load]
  | ok c => cases hc : Policy.compile c <;> simp [load, hc]

theorem reload_of_error {a : Authorizer} {answer : SourceAnswer} {e : LoadError}
    (h : load answer = .error e) : a.reload answer = (.error e, a) := by
  rw [reload, h]

theorem reload_of_ok {a : Authorizer} {answer : SourceAnswer} {p : Policy}
    (h : load answer = .ok p) : a.reload answer = (.ok p.size, a.store p) := by
  rw [reload, h]

end Authorizer

namespace ReloadState

open Authorizer (load)

variable {s t : ReloadState} {first : SourceAnswer} {x : ReloadStep} {xs : List ReloadStep}

/-- What the reloads of some steps read, if the source answers this at first. -/
def reads : SourceAnswer → List ReloadStep → List SourceAnswer
  | _, [] => []
  | _, .source answer :: xs => reads answer xs
  | now, .reload :: xs => now :: reads now xs
  | now, _ :: xs => reads now xs

/-- A policy is that of the latest answer, of some in their order, that is a configuration and
compiles. -/
def Latest (answers : List SourceAnswer) (p : Policy) : Prop :=
  ∃ older c newer, answers = older ++ .ok c :: newer ∧ Policy.compile c = .ok p ∧
    ∀ answer ∈ newer, ∃ e, load answer = .error e

/-- The state behind some steps. -/
def after (s : ReloadState) (xs : List ReloadStep) : ReloadState := (s.run xs).2

/-- What is answered to a step behind others. -/
def answer (s : ReloadState) (xs : List ReloadStep) (x : ReloadStep) : ReloadAnswer :=
  ((s.after xs).step x).1

/-! ## Runs -/

@[simp] theorem after_nil (s : ReloadState) : s.after [] = s := rfl

@[simp] theorem after_cons (s : ReloadState) (x : ReloadStep) (xs : List ReloadStep) :
    s.after (x :: xs) = (s.step x).2.after xs := rfl

theorem after_append (s : ReloadState) (xs ys : List ReloadStep) :
    s.after (xs ++ ys) = (s.after xs).after ys := by
  induction xs generalizing s with
  | nil => rfl
  | cons x xs ih => exact ih _

theorem start_eq_ok_iff : start first = .ok s ↔
    ∃ p, load first = .ok p ∧ s = ⟨first, ⟨p⟩, []⟩ := by
  rw [start, Authorizer.start, Outcome.map_eq_ok_iff]
  simp only [Outcome.map_eq_ok_iff]
  constructor
  · rintro ⟨_, ⟨p, hp, rfl⟩, rfl⟩
    exact ⟨p, hp, rfl⟩
  · rintro ⟨p, hp, rfl⟩
    exact ⟨⟨p⟩, ⟨p, hp, rfl⟩, rfl⟩

/-! ## One step -/

@[simp] theorem step_source (s : ReloadState) (a : SourceAnswer) :
    s.step (.source a) = (.done, { s with source := a }) := rfl

@[simp] theorem step_snapshot (s : ReloadState) : s.step .snapshot =
    (.number s.snapshots.length,
      { s with snapshots := s.snapshots ++ [s.authorizer.active] }) := rfl

@[simp] theorem step_check (s : ReloadState) (c : AuthorizationContext) :
    s.step (.check c) = (.allowed (s.authorizer.active.allows c), s) := rfl

@[simp] theorem step_size (s : ReloadState) :
    s.step .size = (.number s.authorizer.active.size, s) := rfl

@[simp] theorem step_checkSnapshot (s : ReloadState) (n : Nat) (c : AuthorizationContext) :
    s.step (.checkSnapshot n c) =
      (match s.snapshots[n]? with
        | some p => .allowed (p.allows c)
        | none => .noSnapshot, s) := by
  cases h : s.snapshots[n]? <;> simp [step, h]

theorem step_reload_of_error {e : LoadError} (h : load s.source = .error e) :
    s.step .reload = (.failed e, s) := by
  rw [step, Authorizer.reload_of_error h]

theorem step_reload_of_ok {p : Policy} (h : load s.source = .ok p) :
    s.step .reload = (.grants p.size, { s with authorizer := ⟨p⟩ }) := by
  rw [step, Authorizer.reload_of_ok h]
  rfl

/-! ## The latest load -/

/-- What a run reads is what its first step reads and what the others read behind it. -/
theorem reads_cons (s : ReloadState) (x : ReloadStep) (xs : List ReloadStep) :
    reads s.source (x :: xs) = reads s.source [x] ++ reads (s.step x).2.source xs := by
  cases x with
  | reload => rfl
  | checkSnapshot n c =>
    rw [step_checkSnapshot]
    rfl
  | source a => rfl
  | snapshot => rfl
  | check c => rfl
  | size => rfl

theorem latest_of_load (answers : List SourceAnswer) {a : SourceAnswer} {p : Policy}
    (h : load a = .ok p) : Latest (answers ++ [a]) p := by
  obtain ⟨c, rfl, hc⟩ := Authorizer.load_eq_ok_iff.1 h
  exact ⟨answers, c, [], rfl, hc, by simp⟩

theorem Latest.append_of_error {answers : List SourceAnswer} {a : SourceAnswer} {p : Policy}
    {e : LoadError} (h : Latest answers p) (he : load a = .error e) : Latest (answers ++ [a]) p := by
  obtain ⟨older, c, newer, rfl, hc, hnewer⟩ := h
  refine ⟨older, c, newer ++ [a], by simp, hc, ?_⟩
  intro b hb
  rcases List.mem_append.1 hb with hb | hb
  · exact hnewer b hb
  · exact ⟨e, List.mem_singleton.1 hb ▸ he⟩

/-- One step: a reload that loads makes its own policy the latest, and every other step keeps the
one that was. -/
theorem latest_step {answers : List SourceAnswer} (h : Latest answers s.authorizer.active)
    (x : ReloadStep) :
    Latest (answers ++ reads s.source [x]) (s.step x).2.authorizer.active := by
  cases x with
  | reload =>
    cases hload : load s.source with
    | error e =>
      rw [step_reload_of_error hload]
      exact h.append_of_error hload
    | ok p =>
      rw [step_reload_of_ok hload]
      exact latest_of_load _ hload
  | checkSnapshot n c =>
    rw [step_checkSnapshot]
    simpa [reads] using h
  | source a => simpa [reads] using h
  | snapshot => simpa [reads] using h
  | check c => simpa [reads] using h
  | size => simpa [reads] using h

theorem latest_after {answers : List SourceAnswer} (h : Latest answers s.authorizer.active)
    (xs : List ReloadStep) :
    Latest (answers ++ reads s.source xs) (s.after xs).authorizer.active := by
  induction xs generalizing s answers with
  | nil => simpa [reads] using h
  | cons x xs ih =>
    rw [reads_cons, ← List.append_assoc, after_cons]
    exact ih (latest_step h x)

/-! ## Changes of the source -/

/-- Two states differ in their sources only. -/
def SameBut (s t : ReloadState) : Prop :=
  s.authorizer = t.authorizer ∧ s.snapshots = t.snapshots

/-- What the source answers is seen by reloads only. -/
theorem SameBut.step (h : SameBut s t) (hx : x ≠ .reload) :
    (s.step x).1 = (t.step x).1 ∧ SameBut (s.step x).2 (t.step x).2 := by
  obtain ⟨hauthorizer, hsnapshots⟩ := h
  cases x with
  | reload => exact absurd rfl hx
  | checkSnapshot n c => simp [SameBut, hauthorizer, hsnapshots]
  | source a => simp [SameBut, hauthorizer, hsnapshots]
  | snapshot => simp [SameBut, hauthorizer, hsnapshots]
  | check c => simp [SameBut, hauthorizer, hsnapshots]
  | size => simp [SameBut, hauthorizer, hsnapshots]

theorem SameBut.after (h : SameBut s t) (hxs : .reload ∉ xs) :
    SameBut (s.after xs) (t.after xs) := by
  induction xs generalizing s t with
  | nil => exact h
  | cons x xs ih =>
    rw [List.mem_cons, not_or] at hxs
    exact ih (h.step (Ne.symm hxs.1)).2 hxs.2

/-! ## Policies that were taken out -/

/-- No step changes them. -/
theorem snapshot_step {n : Nat} {p : Policy} (h : s.snapshots[n]? = some p) (x : ReloadStep) :
    (s.step x).2.snapshots[n]? = some p := by
  cases x with
  | reload =>
    cases hload : load s.source with
    | error e => rwa [step_reload_of_error hload]
    | ok q => rwa [step_reload_of_ok hload]
  | snapshot =>
    obtain ⟨hn, -⟩ := List.getElem?_eq_some_iff.1 h
    rw [step_snapshot, List.getElem?_append_left hn]
    exact h
  | checkSnapshot m c => rwa [step_checkSnapshot]
  | source a => exact h
  | check c => exact h
  | size => exact h

theorem snapshot_after {n : Nat} {p : Policy} (h : s.snapshots[n]? = some p)
    (xs : List ReloadStep) : (s.after xs).snapshots[n]? = some p := by
  induction xs generalizing s with
  | nil => exact h
  | cons x xs ih => exact ih (snapshot_step h x)

/-! ## The laws of reloading -/

/-- What an authorizer does whose source answers this at first, whatever is done with it. -/
structure Laws (first : SourceAnswer) (s : ReloadState) : Prop where
  /-- The active policy is that of the latest load, the first one included, that read a
  configuration and compiled it. -/
  active_latest : ∀ xs, Latest (first :: reads first xs) (s.after xs).authorizer.active
  /-- A check asks the active policy. -/
  check_active : ∀ xs c,
    s.answer xs (.check c) = .allowed ((s.after xs).authorizer.active.allows c)
  /-- A reload that fails answers the error and changes no later answer. -/
  failed_reload : ∀ xs e, load (s.after xs).source = .error e →
    s.answer xs .reload = .failed e ∧
      ∀ ys x, s.answer (xs ++ .reload :: ys) x = s.answer (xs ++ ys) x
  /-- A reload that succeeds makes its policy the active one and answers the number of its
  grants. -/
  successful_reload : ∀ xs p, load (s.after xs).source = .ok p →
    s.answer xs .reload = .grants p.size ∧ (s.after (xs ++ [.reload])).authorizer.active = p
  /-- As long as nothing is loaded, a change of the source changes no answer. -/
  source_change : ∀ xs a ys x, .reload ∉ ys → x ≠ .reload →
    s.answer (xs ++ .source a :: ys) x = s.answer (xs ++ ys) x
  /-- A policy that was taken out answers for ever as the one that was active then. -/
  snapshot_fixed : ∀ xs, ∃ n, s.answer xs .snapshot = .number n ∧
    ∀ ys c, s.answer (xs ++ .snapshot :: ys) (.checkSnapshot n c) =
      .allowed ((s.after xs).authorizer.active.allows c)

theorem laws_of_start (h : start first = .ok s) : Laws first s := by
  obtain ⟨p, hp, hs⟩ := start_eq_ok_iff.1 h
  refine ⟨?_, ?_, ?_, ?_, ?_, ?_⟩
  · intro xs
    have hsource : s.source = first := by rw [hs]
    have hfirst : Latest [first] s.authorizer.active := hs ▸ latest_of_load [] hp
    have hlatest := latest_after hfirst xs
    rwa [hsource] at hlatest
  · intro xs c
    rfl
  · intro xs e he
    refine ⟨by rw [answer, step_reload_of_error he], fun ys x => ?_⟩
    rw [answer, answer, after_append, after_append, after_cons, step_reload_of_error he]
  · intro xs q hq
    refine ⟨by rw [answer, step_reload_of_ok hq], ?_⟩
    rw [after_append, after_cons, step_reload_of_ok hq]
    rfl
  · intro xs a ys x hys hx
    rw [answer, answer, after_append, after_append, after_cons, step_source]
    have hsame : SameBut { s.after xs with source := a } (s.after xs) := ⟨rfl, rfl⟩
    exact ((hsame.after hys).step hx).1
  · intro xs
    refine ⟨_, rfl, fun ys c => ?_⟩
    rw [answer, after_append, after_cons, step_snapshot]
    rw [step_checkSnapshot, snapshot_after List.getElem?_concat_length]

/-- A configuration that lets one user do one action. -/
def granting (user action : String) : AuthorizationConfig where
  users := [⟨user, some "r", []⟩]
  roles := Table.ofList [("r", ⟨[action]⟩)]

/-- The question whether a user may add a collection. -/
def adding (user : String) : AuthorizationContext := ⟨user, ⟨"collection", none⟩, "add"⟩

/-- The policy of `granting`, for that action. -/
def adds (user : String) : Policy := .ofGrants [⟨user, "collection", "add"⟩]

/-- The source answers that another user may add collections. -/
def handedOver : ReloadStep := .source (.ok (granting "bob" "collection:add"))

theorem laws_of_start_twoUsers :
    ∃ s, start (.ok (granting "alice" "collection:add")) = .ok s ∧
      s.answer [.source (.ok (granting "alice" "add"))] .reload =
        .failed (.policy (.malformedAction "r" "add")) ∧
      s.answer [handedOver] (.check (adding "alice")) = .allowed true ∧
      s.answer [handedOver, .reload] (.check (adding "alice")) = .allowed false ∧
      s.answer [.snapshot, handedOver, .reload] (.checkSnapshot 0 (adding "alice")) =
        .allowed true := by
  have hstart : start (.ok (granting "alice" "collection:add")) =
      .ok ⟨.ok (granting "alice" "collection:add"), ⟨adds "alice"⟩, []⟩ := by rfl
  have hbob : load (.ok (granting "bob" "collection:add")) = .ok (adds "bob") := by rfl
  have halice : (adds "alice").allows (adding "alice") = true := by decide
  have hrefused : (adds "bob").allows (adding "alice") = false := by decide
  have laws := laws_of_start hstart
  refine ⟨_, hstart, ?_, ?_, ?_, ?_⟩
  · exact (laws.failed_reload [.source (.ok (granting "alice" "add"))] _ (by rfl)).1
  · have hsame := laws.source_change [] (.ok (granting "bob" "collection:add")) []
      (.check (adding "alice")) List.not_mem_nil (by simp)
    exact hsame.trans (congrArg ReloadAnswer.allowed halice)
  · have hactive := (laws.successful_reload [handedOver] _ hbob).2
    rw [List.singleton_append] at hactive
    rw [laws.check_active, hactive, hrefused]
  · obtain ⟨n, hn, hfixed⟩ := laws.snapshot_fixed []
    obtain rfl : 0 = n := by
      cases hn
      rfl
    have htaken := hfixed [handedOver, .reload] (adding "alice")
    rw [List.nil_append, after_nil, halice] at htaken
    exact htaken

end ReloadState

end AccessGateway
