import AccessGateway.Proofs.Authorization.Reload
import Mathlib.Data.List.Nodup

/-
  Reloads of one authorizer that are under way at the same time. A reload takes two turns: in the
  first it reads the source and compiles what it has read, in the second it stores the policy. Any
  list of events is a schedule, and the source may change at any time. Two turns in a row are a
  reload (`turn_turn`). Nothing keeps a reload from storing an older policy over a newer one. What
  holds of every schedule is that the policy of the reload that stored last is active
  (`Consistent.after`), which is the newest that was read if no reload takes a turn between the two
  turns of another (`InOrder.after`).
-/

namespace AccessGateway

open Authorizer (load)

/-- How far a reload has come. -/
inductive ReloadStage where
  | ready
  | loaded (p : Policy)
  | finished (result : Except LoadError Nat)

/-- Something that happens: the source changes, or a reload takes a turn. -/
inductive ReloadEvent where
  | source (answer : SourceAnswer)
  | turn (i : Nat)

/-- An authorizer, what its source answers now, and how far each reload has come. The journal says
what the reloads have read that could be compiled, and which of them have stored it, both in the
order of time. -/
structure Reloads where
  source : SourceAnswer
  authorizer : Authorizer
  stages : List ReloadStage
  reads : List (Nat × SourceAnswer)
  stores : List Nat

namespace Reloads

variable {s t : Reloads} {e : ReloadEvent} {es : List ReloadEvent} {first : Policy} {i j : Nat}
  {a : SourceAnswer} {p : Policy}

/-- So many reloads of an authorizer before the first turn. -/
def start (source : SourceAnswer) (a : Authorizer) (n : Nat) : Reloads :=
  ⟨source, a, List.replicate n .ready, [], []⟩

/-- One turn of a reload. One that could load nothing has finished. -/
def turn (s : Reloads) (i : Nat) : Reloads :=
  match s.stages[i]? with
  | some .ready =>
    match load s.source with
    | .error e => { s with stages := s.stages.set i (.finished (.error e)) }
    | .ok p => { s with stages := s.stages.set i (.loaded p), reads := s.reads ++ [(i, s.source)] }
  | some (.loaded p) =>
    { s with
      authorizer := s.authorizer.store p
      stages := s.stages.set i (.finished (.ok p.size))
      stores := s.stores ++ [i] }
  | some (.finished _) => s
  | none => s

/-- One event. -/
def step (s : Reloads) : ReloadEvent → Reloads
  | .source a => { s with source := a }
  | .turn i => s.turn i

/-- The state behind some events. -/
def after (s : Reloads) (es : List ReloadEvent) : Reloads := es.foldl step s

/-- Every reload has finished. -/
def Finished (s : Reloads) : Prop := ∀ x ∈ s.stages, ∃ result, x = .finished result

/-- A reload has loaded a policy and not stored it. -/
def Holds (s : Reloads) (i : Nat) : Prop := ∃ p, s.stages[i]? = some (.loaded p)

/-- No reload takes a turn between the two turns of another. -/
def Apart : Reloads → List ReloadEvent → Prop
  | _, [] => True
  | s, e :: es => (∀ i j, e = .turn i → s.Holds j → j = i) ∧ Apart (s.step e) es

/-! ## One event -/

/-- What one event can do. -/
inductive Happens (s : Reloads) : ReloadEvent → Reloads → Prop
  | source (a : SourceAnswer) : Happens s (.source a) { s with source := a }
  | fails {i : Nat} {e : LoadError} : s.stages[i]? = some .ready → load s.source = .error e →
    Happens s (.turn i) { s with stages := s.stages.set i (.finished (.error e)) }
  | reads {i : Nat} {p : Policy} : s.stages[i]? = some .ready → load s.source = .ok p →
    Happens s (.turn i)
      { s with stages := s.stages.set i (.loaded p), reads := s.reads ++ [(i, s.source)] }
  | stores {i : Nat} {p : Policy} : s.stages[i]? = some (.loaded p) →
    Happens s (.turn i)
      { s with
        authorizer := s.authorizer.store p
        stages := s.stages.set i (.finished (.ok p.size))
        stores := s.stores ++ [i] }
  | idle {i : Nat} : Happens s (.turn i) s

theorem turn_of_error {e : LoadError} (h : s.stages[i]? = some .ready)
    (hload : load s.source = .error e) :
    s.turn i = { s with stages := s.stages.set i (.finished (.error e)) } := by
  rw [turn, h]
  simp only [hload]

theorem turn_of_ok (h : s.stages[i]? = some .ready) (hload : load s.source = .ok p) :
    s.turn i =
      { s with stages := s.stages.set i (.loaded p), reads := s.reads ++ [(i, s.source)] } := by
  rw [turn, h]
  simp only [hload]

theorem turn_of_loaded (h : s.stages[i]? = some (.loaded p)) :
    s.turn i =
      { s with
        authorizer := s.authorizer.store p
        stages := s.stages.set i (.finished (.ok p.size))
        stores := s.stores ++ [i] } := by
  rw [turn, h]

theorem turn_of_finished {result : Except LoadError Nat}
    (h : s.stages[i]? = some (.finished result)) : s.turn i = s := by
  rw [turn, h]

theorem happens_turn (s : Reloads) (i : Nat) : Happens s (.turn i) (s.turn i) := by
  cases h : s.stages[i]? with
  | none =>
    rw [turn, h]
    exact .idle
  | some x =>
    cases x with
    | ready =>
      cases hload : load s.source with
      | error e =>
        rw [turn_of_error h hload]
        exact .fails h hload
      | ok p =>
        rw [turn_of_ok h hload]
        exact .reads h hload
    | loaded p =>
      rw [turn_of_loaded h]
      exact .stores h
    | finished result =>
      rw [turn_of_finished h]
      exact .idle

theorem happens_step (s : Reloads) (e : ReloadEvent) : Happens s e (s.step e) := by
  cases e with
  | source a => exact .source a
  | turn i => exact happens_turn s i

/-- Two turns in a row are a reload. -/
theorem turn_turn (h : s.stages[i]? = some .ready) :
    ((s.turn i).turn i).authorizer = (s.authorizer.reload s.source).2 ∧
      ((s.turn i).turn i).stages[i]? = some (.finished (s.authorizer.reload s.source).1) := by
  obtain ⟨hi, -⟩ := List.getElem?_eq_some_iff.1 h
  cases hload : load s.source with
  | error e =>
    have hfinished : (s.turn i).stages[i]? = some (.finished (.error e)) := by
      rw [turn_of_error h hload]
      exact List.getElem?_set_self hi
    rw [turn_of_finished hfinished, hfinished, Authorizer.reload_of_error hload,
      turn_of_error h hload]
    exact ⟨rfl, rfl⟩
  | ok p =>
    have hloaded : (s.turn i).stages[i]? = some (.loaded p) := by
      rw [turn_of_ok h hload]
      exact List.getElem?_set_self hi
    rw [turn_of_loaded hloaded, turn_of_ok h hload, Authorizer.reload_of_ok hload]
    refine ⟨rfl, List.getElem?_set_self ?_⟩
    rwa [List.length_set]

/-! ## The policy that is active -/

/-- What stands at a place after one place was changed. -/
theorem of_getElem?_set {α : Type} {l : List α} {x y : α} (h : (l.set i x)[j]? = some y) :
    (j = i ∧ y = x) ∨ (j ≠ i ∧ l[j]? = some y) := by
  by_cases hij : i = j
  · subst hij
    have hi : i < (l.set i x).length := (List.getElem?_eq_some_iff.1 h).1
    rw [List.length_set] at hi
    rw [List.getElem?_set_self hi] at h
    exact Or.inl ⟨rfl, (Option.some.inj h).symm⟩
  · rw [List.getElem?_set_ne hij] at h
    exact Or.inr ⟨Ne.symm hij, h⟩

/-- A reload that goes on was not the one that has just finished. -/
theorem of_getElem?_finish {stages : List ReloadStage} {result : Except LoadError Nat}
    {x : ReloadStage} (h : (stages.set i (.finished result))[j]? = some x)
    (hx : x ≠ .finished result) : j ≠ i ∧ stages[j]? = some x :=
  (of_getElem?_set h).resolve_left fun heq => hx heq.2

theorem Holds.set {x : ReloadStage} (h : s.Holds j) (hij : j ≠ i) :
    ∃ p, (s.stages.set i x)[j]? = some (.loaded p) := by
  obtain ⟨p, hp⟩ := h
  exact ⟨p, by rw [List.getElem?_set_ne (Ne.symm hij), hp]⟩

/-- How the journal, the stages and the active policy go together. -/
structure Consistent (first : Policy) (s : Reloads) : Prop where
  /-- What a reload holds comes from its own read. -/
  loaded : ∀ i p, s.stages[i]? = some (.loaded p) → ∃ a, (i, a) ∈ s.reads ∧ load a = .ok p
  /-- A reload reads in its first turn only, so it reads once. -/
  ready : ∀ i a, s.stages[i]? = some .ready → (i, a) ∉ s.reads
  once : (s.reads.map Prod.fst).Nodup
  /-- What was read has been stored or is held. -/
  unstored : ∀ i a, (i, a) ∈ s.reads → i ∈ s.stores ∨ s.Holds i
  /-- The active policy is the one that was stored last. -/
  active : (s.stores = [] ∧ s.authorizer.active = first) ∨
    ∃ i a, s.stores.getLast? = some i ∧ (i, a) ∈ s.reads ∧ load a = .ok s.authorizer.active

theorem consistent_start (source : SourceAnswer) (a : Authorizer) (n : Nat) :
    Consistent a.active (start source a n) where
  loaded := by
    intro i p h
    cases List.eq_of_mem_replicate (List.mem_of_getElem? h)
  ready := fun _ _ _ => List.not_mem_nil
  once := List.nodup_nil
  unstored := by
    intro i b h
    cases h
  active := Or.inl ⟨rfl, rfl⟩

theorem Consistent.fresh (h : Consistent first s) (hready : s.stages[i]? = some .ready) :
    i ∉ s.reads.map Prod.fst := by
  intro hmem
  obtain ⟨⟨j, a⟩, hread, rfl⟩ := List.mem_map.1 hmem
  exact h.ready j a hready hread

/-- What was read stays to be stored when a reload that was ready goes on. -/
theorem Consistent.unstored_set (h : Consistent first s) (hready : s.stages[i]? = some .ready)
    (x : ReloadStage) (hread : (j, a) ∈ s.reads) :
    j ∈ s.stores ∨ ∃ p, (s.stages.set i x)[j]? = some (.loaded p) := by
  have hij : j ≠ i := fun heq => h.ready i a hready (heq ▸ hread)
  exact (h.unstored j a hread).imp_right fun hholds => hholds.set hij

theorem Consistent.happens (h : Consistent first s) (hstep : Happens s e t) :
    Consistent first t := by
  cases hstep with
  | source a => exact ⟨h.loaded, h.ready, h.once, h.unstored, h.active⟩
  | idle => exact h
  | @fails i e hready _ =>
    refine ⟨?_, ?_, h.once, ?_, h.active⟩
    · exact fun j p hj => h.loaded j p (of_getElem?_finish hj (by simp)).2
    · exact fun j a hj => h.ready j a (of_getElem?_finish hj (by simp)).2
    · exact fun j a hread => h.unstored_set hready _ hread
  | @reads i p hready hload =>
    have hi : i < s.stages.length := (List.getElem?_eq_some_iff.1 hready).1
    refine ⟨?_, ?_, ?_, ?_, ?_⟩
    · intro j q hj
      obtain ⟨rfl, hstage⟩ | ⟨-, hj⟩ := of_getElem?_set hj
      · cases hstage
        exact ⟨s.source, List.mem_append_right _ List.mem_cons_self, hload⟩
      · obtain ⟨a, hread, ha⟩ := h.loaded j q hj
        exact ⟨a, List.mem_append_left _ hread, ha⟩
    · intro j a hj hread
      obtain ⟨-, hstage⟩ | ⟨hij, hj⟩ := of_getElem?_set hj
      · cases hstage
      · rcases List.mem_append.1 hread with hread | hread
        · exact h.ready j a hj hread
        · exact hij (Prod.mk.inj (List.mem_singleton.1 hread)).1
    · rw [List.map_append, List.nodup_append]
      refine ⟨h.once, List.nodup_singleton _, ?_⟩
      rintro j hj _ hnew rfl
      obtain rfl : j = i := List.mem_singleton.1 hnew
      exact h.fresh hready hj
    · intro j a hread
      rcases List.mem_append.1 hread with hread | hread
      · exact h.unstored_set hready _ hread
      · obtain ⟨rfl, -⟩ := Prod.mk.inj (List.mem_singleton.1 hread)
        exact Or.inr ⟨p, List.getElem?_set_self hi⟩
    · refine h.active.imp_right ?_
      rintro ⟨j, a, hlast, hread, ha⟩
      exact ⟨j, a, hlast, List.mem_append_left _ hread, ha⟩
  | @stores i p hloaded =>
    refine ⟨?_, ?_, h.once, ?_, ?_⟩
    · exact fun j q hj => h.loaded j q (of_getElem?_finish hj (by simp)).2
    · exact fun j a hj => h.ready j a (of_getElem?_finish hj (by simp)).2
    · intro j a hread
      by_cases hij : j = i
      · exact Or.inl (hij ▸ List.mem_append_right _ List.mem_cons_self)
      · exact (h.unstored j a hread).imp (List.mem_append_left _) fun hholds => hholds.set hij
    · obtain ⟨a, hread, ha⟩ := h.loaded i p hloaded
      exact Or.inr ⟨i, a, List.getLast?_concat, hread, ha⟩

theorem Consistent.after (h : Consistent first s) (es : List ReloadEvent) :
    Consistent first (s.after es) := by
  induction es generalizing s with
  | nil => exact h
  | cons e es ih => exact ih (h.happens (happens_step s e))

/-! ## Reloads that keep apart -/

/-- Policies are stored in the order in which they were read. One reload at most is between its
turns. -/
def InOrder (s : Reloads) : Prop :=
  (s.reads.map Prod.fst = s.stores ∧ ∀ j, ¬s.Holds j) ∨
    ∃ i, s.reads.map Prod.fst = s.stores ++ [i] ∧ s.Holds i ∧ ∀ j, s.Holds j → j = i

theorem InOrder.happens (h : InOrder s) (hapart : ∀ i j, e = .turn i → s.Holds j → j = i)
    (hstep : Happens s e t) : InOrder t := by
  -- A reload that is ready holds nothing, so no other one does.
  have hnone : ∀ i, e = .turn i → s.stages[i]? = some .ready →
      s.reads.map Prod.fst = s.stores ∧ ∀ j, ¬s.Holds j := by
    intro i he hready
    refine h.resolve_right ?_
    rintro ⟨k, -, hholds, -⟩
    obtain ⟨p, hp⟩ := hapart i k he hholds ▸ hholds
    rw [hready] at hp
    cases hp
  cases hstep with
  | source a => exact h
  | idle => exact h
  | @fails i x hready _ =>
    obtain ⟨horder, hfree⟩ := hnone i rfl hready
    refine Or.inl ⟨horder, ?_⟩
    rintro j ⟨p, hj⟩
    exact hfree j ⟨p, (of_getElem?_finish hj (by simp)).2⟩
  | @reads i p hready _ =>
    obtain ⟨horder, hfree⟩ := hnone i rfl hready
    have hi : i < s.stages.length := (List.getElem?_eq_some_iff.1 hready).1
    refine Or.inr ⟨i, ?_, ⟨p, List.getElem?_set_self hi⟩, ?_⟩
    · rw [List.map_append, horder]
      rfl
    · rintro j ⟨q, hj⟩
      obtain ⟨hij, -⟩ | ⟨-, hj⟩ := of_getElem?_set hj
      · exact hij
      · exact absurd ⟨q, hj⟩ (hfree j)
  | @stores i p hloaded =>
    obtain ⟨-, hfree⟩ | ⟨k, horder, -, honly⟩ := h
    · exact absurd ⟨p, hloaded⟩ (hfree i)
    · obtain rfl := honly i ⟨p, hloaded⟩
      refine Or.inl ⟨horder, ?_⟩
      rintro j ⟨q, hj⟩
      obtain ⟨hij, hj⟩ := of_getElem?_finish hj (by simp)
      exact hij (honly j ⟨q, hj⟩)

theorem InOrder.after (h : InOrder s) (hapart : Apart s es) : InOrder (s.after es) := by
  induction es generalizing s with
  | nil => exact h
  | cons e es ih => exact ih (h.happens hapart.1 (happens_step s e)) hapart.2

theorem inOrder_start (source : SourceAnswer) (a : Authorizer) (n : Nat) :
    InOrder (start source a n) := by
  refine Or.inl ⟨rfl, ?_⟩
  rintro j ⟨p, hj⟩
  cases List.eq_of_mem_replicate (List.mem_of_getElem? hj)

/-! ## What holds of every schedule -/

theorem Finished.not_holds (h : s.Finished) (i : Nat) : ¬s.Holds i := by
  rintro ⟨p, hp⟩
  obtain ⟨result, hresult⟩ := h _ (List.mem_of_getElem? hp)
  cases hresult

/-- When every reload has finished, the active policy is the one that the reload which stored last
had read, or the first one if none has stored. It is the newest policy that was read if the reload
that read last has stored last too, so in particular if no reload took a turn between the two
turns of another. -/
theorem active_of_finished {source : SourceAnswer} {a : Authorizer} {n : Nat}
    (hs : (start source a n).after es = s) (hfinished : s.Finished) :
    (s.reads = [] → s.authorizer.active = a.active) ∧
    (s.reads ≠ [] → ∃ i answer, s.stores.getLast? = some i ∧ (i, answer) ∈ s.reads ∧
      load answer = .ok s.authorizer.active) ∧
    (∀ i answer, s.reads.getLast? = some (i, answer) →
      s.stores.getLast? = some i ∨ Apart (start source a n) es →
      load answer = .ok s.authorizer.active) := by
  have hconsistent : Consistent a.active s := hs ▸ (consistent_start source a n).after es
  refine ⟨?_, ?_, ?_⟩
  · intro hreads
    obtain ⟨-, hactive⟩ | ⟨i, answer, -, hread, -⟩ := hconsistent.active
    · exact hactive
    · rw [hreads] at hread
      cases hread
  · intro hreads
    refine hconsistent.active.resolve_left ?_
    rintro ⟨hstores, -⟩
    obtain ⟨⟨i, answer⟩, hread⟩ := List.exists_mem_of_ne_nil _ hreads
    rcases hconsistent.unstored i answer hread with hstored | hholds
    · rw [hstores] at hstored
      cases hstored
    · exact hfinished.not_holds i hholds
  · intro i answer hlast hcase
    have hstores : s.stores.getLast? = some i := by
      refine hcase.elim id fun hapart => ?_
      have horder : InOrder s := hs ▸ (inOrder_start source a n).after hapart
      obtain ⟨horder, -⟩ | ⟨k, -, hholds, -⟩ := horder
      · rw [← horder, List.getLast?_map, hlast]
        rfl
      · exact absurd hholds (hfinished.not_holds k)
    obtain ⟨hnil, -⟩ | ⟨j, other, hj, hread, hload⟩ := hconsistent.active
    · rw [hnil] at hstores
      cases hstores
    · obtain rfl : i = j := Option.some.inj (hstores.symm.trans hj)
      have hmem := List.mem_of_getLast? hlast
      have hsame := List.inj_on_of_nodup_map hconsistent.once hread hmem rfl
      rw [(Prod.mk.inj hsame).2] at hload
      exact hload

/-- Two reloads of an authorizer that lets one user add collections. -/
def twoReloads : Reloads :=
  start (.ok (ReloadState.granting "alice" "collection:add")) ⟨ReloadState.adds "alice"⟩ 2

/-- The first reads, the right goes to another user, and the second reads and stores before the
first does. -/
def overtaken : List ReloadEvent :=
  [.turn 0, .source (.ok (ReloadState.granting "bob" "collection:add")), .turn 1, .turn 1, .turn 0]

/-- What two reloads leave that overtake one another. -/
def staleReloads : Reloads where
  source := .ok (ReloadState.granting "bob" "collection:add")
  authorizer := ⟨ReloadState.adds "alice"⟩
  stages := [.finished (.ok 1), .finished (.ok 1)]
  reads := [(0, .ok (ReloadState.granting "alice" "collection:add")),
    (1, .ok (ReloadState.granting "bob" "collection:add"))]
  stores := [1, 0]

theorem active_of_finished_overtaken :
    ∃ i answer, (twoReloads.after overtaken).stores.getLast? = some i ∧
      (i, answer) ∈ (twoReloads.after overtaken).reads ∧
      load answer = .ok (twoReloads.after overtaken).authorizer.active := by
  have hs : twoReloads.after overtaken = staleReloads := by rfl
  have hfinished : staleReloads.Finished := by
    simp [Finished, staleReloads]
  rw [hs]
  exact (active_of_finished hs hfinished).2.1 (List.cons_ne_nil _ _)

/-- A reload that is overtaken brings back a right that was taken away before the other one read:
when both have finished, the active policy is not the one that was read last. -/
theorem stale_policy_active : (twoReloads.after overtaken).Finished ∧
    (twoReloads.after overtaken).reads.getLast? =
      some (1, .ok (ReloadState.granting "bob" "collection:add")) ∧
    load (.ok (ReloadState.granting "bob" "collection:add")) ≠
      .ok (twoReloads.after overtaken).authorizer.active ∧
    (twoReloads.after overtaken).authorizer.isAllowed (ReloadState.adding "alice") = true := by
  have hs : twoReloads.after overtaken = staleReloads := by rfl
  have hbob : load (.ok (ReloadState.granting "bob" "collection:add")) =
      .ok (ReloadState.adds "bob") := by rfl
  rw [hs, hbob]
  refine ⟨by simp [Finished, staleReloads], rfl, ?_, by decide⟩
  intro heq
  have hsame : ReloadState.adds "bob" = ReloadState.adds "alice" := Except.ok.inj heq
  have hrefused : (ReloadState.adds "bob").allows (ReloadState.adding "alice") = false := by
    decide
  rw [hsame] at hrefused
  exact absurd hrefused (by decide)

end Reloads

end AccessGateway
