import AccessGateway.Proofs.Outcome
import AccessGateway.Proofs.Route.Bypass
import AccessGateway.Proofs.Route.Conflict
import Mathlib.Data.List.Count
import Mathlib.Data.List.Forall2
import Mathlib.Data.List.Nodup

/-
  The verbs of a bypass entry. Each method has its patterns to itself, so a list is made of a
  configuration exactly if every verb is a token and the routes of each method go together
  (`joinsByMethod_addRoutes`). But a pattern cannot stand beside itself
  (`Trails.follow_of_mem`), so a verb that stands twice, in whatever letter case, has the
  configuration refused (`not_repeats_of_ofConfig`, `refused_of_repeated_verb`). That apart, in
  which order and letter case the verbs of a route are written does not matter
  (`ofConfig_of_sameVerbs`).
-/

namespace AccessGateway

/-! ## A pattern beside itself -/

namespace Trails

/-- A trail that is there already has no place beside itself. -/
theorem follow_of_mem {n : Nat} {last : Option UInt8} {ts : Trails} {t : Trail} (ht : t ∈ ts)
    (hn : t.length < n) : ∃ e, follow n last ts t = .error e := by
  induction n generalizing last ts t with
  | zero => omega
  | succ n ih =>
    cases t with
    | nil => exact ⟨.conflict, if_pos (by simpa using ht)⟩
    | cons x r =>
      rw [List.length_cons] at hn
      cases x with
      | letter b =>
        have hr : r ∈ ts.filterMap (Trail.behindOctet? b) :=
          List.mem_filterMap.2 ⟨_, ht, if_pos rfl⟩
        rw [follow]
        split
        · next hnone =>
          rw [hnone] at hr
          cases hr
        · exact ih hr (by omega)
      | rest =>
        refine ⟨.conflict, if_pos (List.any_eq_true.2 ⟨_, ht, ?_⟩)⟩
        simp
      | parameter =>
        have hr : r ∈ ts.filterMap Trail.behindParameter? := List.mem_filterMap.2 ⟨_, ht, rfl⟩
        rw [follow]
        split
        · exact ⟨_, rfl⟩
        split
        · next hnone =>
          rw [hnone] at hr
          cases hr
        split
        · exact ⟨_, rfl⟩
        split
        · next hempty =>
          rw [List.isEmpty_iff.1 hempty] at hr
          exact ⟨_, if_pos (by simpa using hr)⟩
        · next hne =>
          have hlength : (Trail.behindSuffix r).length ≤ r.length :=
            Part.length_behindSegment_le Trail.slash r
          have hbehind : Trail.behindSuffix r ∈
              (ts.filterMap Trail.behindParameter?).filterMap
                (Trail.behindSuffix? (Trail.suffix r)) := by
            refine List.mem_filterMap.2 ⟨r, hr, ?_⟩
            simp [Trail.behindSuffix?, hne]
          split
          · next hnone =>
            rw [hnone] at hbehind
            cases hbehind
          · exact ih hbehind (by omega)

end Trails

namespace Pattern

/-- The patterns with that of one more route. -/
def joinRoute (known : List Pattern) (route : String) : Except PatternError (List Pattern) :=
  match parse route with
  | .error e => .error e
  | .ok p => join known p

/-- The patterns with those of more routes, one after another. -/
def joinRoutes : List Pattern → List String → Except PatternError (List Pattern)
  | known, [] => .ok known
  | known, route :: r =>
    match joinRoute known route with
    | .error e => .error e
    | .ok ps => joinRoutes ps r

variable {known ps : List Pattern} {route : String}

theorem joinRoutes_cons_eq_ok_iff {routes : List String} :
    joinRoutes known (route :: routes) = .ok ps ↔
      ∃ qs, joinRoute known route = .ok qs ∧ joinRoutes qs routes = .ok ps := by
  rw [joinRoutes]
  cases joinRoute known route with
  | error e => simp
  | ok qs => simp

theorem joinRoutes_append_eq_ok_iff {front back : List String} :
    joinRoutes known (front ++ back) = .ok ps ↔
      ∃ qs, joinRoutes known front = .ok qs ∧ joinRoutes qs back = .ok ps := by
  induction front generalizing known with
  | nil => simp [joinRoutes]
  | cons route front ih =>
    simp only [List.cons_append, joinRoutes_cons_eq_ok_iff, ih]
    constructor
    · rintro ⟨qs, hroute, rs, hfront, hback⟩
      exact ⟨rs, ⟨qs, hroute, hfront⟩, hback⟩
    · rintro ⟨rs, ⟨qs, hroute, hfront⟩, hback⟩
      exact ⟨qs, hroute, rs, hfront, hback⟩

theorem mem_of_join {p : Pattern} (h : join known p = .ok ps) : p ∈ ps := by
  unfold join at h
  split at h
  · obtain ⟨-, -, rfl⟩ := Outcome.map_eq_ok_iff.1 h
    exact List.mem_singleton_self p
  · obtain ⟨-, -, rfl⟩ := Outcome.map_eq_ok_iff.1 h
    split <;> simp
  · obtain ⟨-, -, rfl⟩ := Outcome.map_eq_ok_iff.1 h
    simp

theorem join_of_mem {p : Pattern} (hp : p ∈ known) (hne : p ≠ []) :
    ∃ e, join known p = .error e := by
  obtain ⟨e, he⟩ : ∃ e, Trails.follow (p.toTrail.length + 1) none (known.map toTrail) p.toTrail =
      .error e := Trails.follow_of_mem (List.mem_map_of_mem hp) (Nat.lt_succ_self _)
  unfold join
  split
  · cases hp
  · exact absurd (List.mem_singleton.1 hp) hne
  · exact ⟨e, Outcome.map_eq_error_iff.2 he⟩

theorem bracesForColons_ne_nil {cs : List Char} (h : cs ≠ []) : bracesForColons false cs ≠ [] := by
  obtain ⟨c, r, rfl⟩ := List.exists_cons_of_ne_nil h
  rw [bracesForColons]
  split <;> simp

theorem glyphs_ne_nil {cs : List Char} (h : cs ≠ []) : glyphs cs ≠ [] := by
  fun_cases glyphs cs with
  | case1 => exact absurd rfl h
  | case2 c => simp
  | case3 c d r => simp
  | case4 c d r => simp

theorem parts?_ne_some_nil (n : Nat) {gs : List Glyph} (h : gs ≠ []) : parts? n gs ≠ some [] := by
  fun_cases parts? n gs <;> simp_all

/-- Only the empty route writes the empty pattern. -/
theorem parse_ne_nil (h : route ≠ "") : parse route ≠ .ok [] := by
  have hglyphs : glyphs (bracesForColons false route.toList) ≠ [] :=
    glyphs_ne_nil (bracesForColons_ne_nil (mt String.toList_eq_nil_iff.1 h))
  unfold parse
  simp only
  split
  · simp
  · next p hp =>
    rintro ⟨⟩
    exact parts?_ne_some_nil _ hglyphs hp

/-- A route cannot be entered twice. -/
theorem joinRoutes_of_repeated (h : route ≠ "") (routes : List String) :
    joinRoutes known (route :: route :: routes) ≠ .ok ps := by
  rw [ne_eq, joinRoutes_cons_eq_ok_iff]
  rintro ⟨qs, hfirst, hsecond⟩
  obtain ⟨rs, hagain, -⟩ := joinRoutes_cons_eq_ok_iff.1 hsecond
  unfold joinRoute at hfirst hagain
  split at hfirst
  · cases hfirst
  · next p hp =>
    rw [hp] at hagain
    obtain ⟨e, he⟩ := join_of_mem (mem_of_join hfirst) fun hnil => parse_ne_nil h (hnil ▸ hp)
    cases he.symm.trans hagain

/-- The empty route, where nothing stands yet, is the exception. -/
theorem joinRoutes_replicate_empty (n : Nat) (routes : List String) :
    joinRoutes [] (List.replicate (n + 1) "" ++ routes) = joinRoutes [] ("" :: routes) := by
  have hparse : parse "" = .ok [] := by decide
  have hfirst : joinRoute [] "" = .ok [[]] := by
    rw [joinRoute, hparse]
    rfl
  have hagain : joinRoute [[]] "" = .ok [[]] := by
    rw [joinRoute, hparse]
    rfl
  induction n with
  | zero => rfl
  | succ n ih =>
    rw [← ih, List.replicate_succ, List.replicate_succ]
    simp only [List.cons_append, joinRoutes, hfirst, hagain]

end Pattern

namespace BypassList

open Pattern (joinRoutes joinRoute)

/-! ## Entering routes by method -/

/-- A way to enter routes works method by method: it succeeds exactly if something is `fit` and the
routes of each method can be joined to the patterns of the method, and that is what it does. -/
structure JoinsByMethod (f : BypassList → Except BypassError BypassList) (fit : Prop)
    (routes : String → List String) : Prop where
  of_ok : ∀ b b', f b = .ok b' →
    fit ∧ ∀ m, joinRoutes (b.patterns m) (routes m) = .ok (b'.patterns m)
  exists_ok : ∀ b, fit → (∀ m, ∃ ps, joinRoutes (b.patterns m) (routes m) = .ok ps) →
    ∃ b', f b = .ok b'

/-- One after the other, two ways join the routes of both. -/
theorem JoinsByMethod.andThen {f g h : BypassList → Except BypassError BypassList} {p q : Prop}
    {r s : String → List String} (hf : JoinsByMethod f p r) (hg : JoinsByMethod g q s)
    (hh : ∀ b, h b = match f b with
      | .error e => .error e
      | .ok c => g c) :
    JoinsByMethod h (p ∧ q) fun m => r m ++ s m := by
  constructor
  · intro b b' hb
    rw [hh] at hb
    split at hb
    · cases hb
    · next c hc =>
      obtain ⟨hp, hfirst⟩ := hf.of_ok b c hc
      obtain ⟨hq, hsecond⟩ := hg.of_ok c b' hb
      refine ⟨⟨hp, hq⟩, fun m => ?_⟩
      exact Pattern.joinRoutes_append_eq_ok_iff.2 ⟨_, hfirst m, hsecond m⟩
  · rintro b ⟨hp, hq⟩ hjoin
    simp only [Pattern.joinRoutes_append_eq_ok_iff] at hjoin
    obtain ⟨c, hc⟩ := hf.exists_ok b hp fun m => by
      obtain ⟨-, qs, hqs, -⟩ := hjoin m
      exact ⟨qs, hqs⟩
    obtain ⟨b', hb'⟩ := hg.exists_ok c hq fun m => by
      obtain ⟨ps, qs, hqs, hps⟩ := hjoin m
      obtain rfl := Except.ok.inj (((hf.of_ok b c hc).2 m).symm.trans hqs)
      exact ⟨ps, hps⟩
    exact ⟨b', by rw [hh, hc]; exact hb'⟩

theorem JoinsByMethod.nil {p : Prop} (hp : p) : JoinsByMethod .ok p fun _ => [] := by
  refine ⟨fun b b' h => ?_, fun b _ _ => ⟨b, rfl⟩⟩
  obtain rfl := Except.ok.inj h
  exact ⟨hp, fun m => rfl⟩

/-- The routes that one verb of a route adds to those of a method. -/
def routeOf (m route verb : String) : List String := if Ascii.upper verb = m then [route] else []

/-- The routes of a method, each as often as the method stands among its verbs. -/
def routesOf (entries : List (String × List String)) (m : String) : List String :=
  entries.flatMap fun e => e.2.flatMap (routeOf m e.1)

theorem insert_eq_map (b : BypassList) (method route : String) :
    b.insert method route = (joinRoute (b.patterns method) route).map fun ps =>
      ⟨(b.routes.filter fun e => e.1 != method) ++ ps.map fun q => (method, q)⟩ := by
  unfold insert joinRoute
  cases Pattern.parse route with
  | error e => rfl
  | ok p =>
    simp only
    cases Pattern.join (b.patterns method) p <;> rfl

/-- The list with a route for one verb. -/
def addVerb (route verb : String) (b : BypassList) : Except BypassError BypassList :=
  if !Ascii.isToken (Ascii.upper verb) then .error (.invalidMethod verb route)
  else (b.insert (Ascii.upper verb) route).mapError (.invalidRoute route)

theorem joinsByMethod_addVerb (route verb : String) :
    JoinsByMethod (addVerb route verb) (Ascii.isToken (Ascii.upper verb) = true)
      fun m => routeOf m route verb := by
  constructor
  · intro b b' h
    unfold addVerb at h
    split at h
    · cases h
    · next htoken =>
      rw [Outcome.mapError_eq_ok_iff, insert_eq_map, Outcome.map_eq_ok_iff] at h
      obtain ⟨ps, hps, rfl⟩ := h
      refine ⟨by simpa using htoken, fun m => ?_⟩
      rw [patterns_filter_append, routeOf]
      split
      · next hm =>
        subst hm
        rw [if_pos rfl]
        exact Pattern.joinRoutes_cons_eq_ok_iff.2 ⟨ps, hps, rfl⟩
      · next hm =>
        rw [if_neg (Ne.symm hm)]
        rfl
  · intro b htoken hjoin
    obtain ⟨ps, hps⟩ := hjoin (Ascii.upper verb)
    rw [routeOf, if_pos rfl] at hps
    obtain ⟨qs, hqs, -⟩ := Pattern.joinRoutes_cons_eq_ok_iff.1 hps
    simp only [addVerb, htoken, Bool.not_true, Bool.false_eq_true, if_false,
      Outcome.mapError_eq_ok_iff, insert_eq_map]
    exact Outcome.exists_map_eq_ok_iff.2 ⟨qs, hqs⟩

theorem joinsByMethod_addVerbs (route : String) (verbs : List String) :
    JoinsByMethod (addVerbs route verbs) (∀ v ∈ verbs, Ascii.isToken (Ascii.upper v) = true)
      fun m => verbs.flatMap (routeOf m route) := by
  induction verbs with
  | nil => exact .nil (List.forall_mem_nil _)
  | cons verb verbs ih =>
    rw [List.forall_mem_cons]
    refine (joinsByMethod_addVerb route verb).andThen ih fun b => ?_
    rw [addVerbs, addVerb]
    split
    · rfl
    · cases b.insert (Ascii.upper verb) route <;> rfl

theorem joinsByMethod_addRoutes (entries : List (String × List String)) :
    JoinsByMethod (addRoutes entries)
      (∀ e ∈ entries, ∀ v ∈ e.2, Ascii.isToken (Ascii.upper v) = true) (routesOf entries) := by
  induction entries with
  | nil => exact .nil (List.forall_mem_nil _)
  | cons e entries ih =>
    rw [List.forall_mem_cons]
    exact (joinsByMethod_addVerbs e.1 e.2).andThen ih fun b => rfl

end BypassList

/-! ## Verbs as sets -/

namespace BypassConfig

/-- Two configurations have the same routes, and for each route the same methods among their verbs,
in whatever order, number and letter case these are written. -/
def SameVerbs (c d : BypassConfig) : Prop :=
  List.Forall₂ (fun e f => e.1 = f.1 ∧ ∀ m, m ∈ e.2.map Ascii.upper ↔ m ∈ f.2.map Ascii.upper)
    c.entries d.entries

/-- Some route has two verbs for one method. The empty route does not count. -/
def Repeats (c : BypassConfig) : Prop :=
  ∃ e ∈ c.entries, e.1 ≠ "" ∧ ¬ (e.2.map Ascii.upper).Nodup

instance (c : BypassConfig) : Decidable c.Repeats :=
  inferInstanceAs (Decidable (∃ e ∈ c.entries, e.1 ≠ "" ∧ ¬ (e.2.map Ascii.upper).Nodup))

end BypassConfig

namespace BypassList

open Pattern (joinRoutes)

/-- The routes that have a verb for a method. -/
def serving (entries : List (String × List String)) (m : String) : List String :=
  (entries.filter fun e => (e.2.map Ascii.upper).contains m).map Prod.fst

theorem flatMap_routeOf (m route : String) (verbs : List String) :
    verbs.flatMap (routeOf m route) =
      List.replicate ((verbs.map Ascii.upper).count m) route := by
  induction verbs with
  | nil => rfl
  | cons v verbs ih =>
    rw [List.flatMap_cons, ih, routeOf, List.map_cons, List.count_cons]
    by_cases hv : Ascii.upper v = m
    · simp [hv, List.replicate_succ]
    · simp [hv]

theorem serving_cons (e : String × List String) (entries : List (String × List String))
    (m : String) : serving (e :: entries) m =
      (if m ∈ e.2.map Ascii.upper then [e.1] else []) ++ serving entries m := by
  unfold serving
  by_cases hm : m ∈ e.2.map Ascii.upper
  · rw [if_pos hm, List.filter_cons_of_pos (by simpa using hm)]
    rfl
  · rw [if_neg hm, List.filter_cons_of_neg (by simpa using hm)]
    rfl

theorem serving_of_sameVerbs {c d : BypassConfig} (h : c.SameVerbs d) (m : String) :
    serving c.entries m = serving d.entries m := by
  unfold BypassConfig.SameVerbs at h
  generalize c.entries = entries, d.entries = entries' at h
  induction h with
  | nil => rfl
  | cons hef _ ih => simp only [serving_cons, ih, hef.1, hef.2 m]

/-- Where no verb stands twice, neither does a route. -/
theorem routesOf_eq_serving {entries : List (String × List String)}
    (h : ∀ e ∈ entries, (e.2.map Ascii.upper).Nodup) (m : String) :
    routesOf entries m = serving entries m := by
  induction entries with
  | nil => rfl
  | cons e entries ih =>
    obtain ⟨he, hrest⟩ := List.forall_mem_cons.1 h
    rw [serving_cons, ← ih hrest, routesOf, List.flatMap_cons, flatMap_routeOf]
    split
    · next hm =>
      rw [List.count_eq_one_of_mem he hm]
      rfl
    · next hm =>
      rw [List.count_eq_zero_of_not_mem hm]
      rfl

/-- The empty route comes before every other. -/
theorem ne_empty_of_mem_tail {c : BypassConfig} {e x : String × List String}
    {r : List (String × List String)} (h : c.entries = e :: r) (hx : x ∈ r) : x.1 ≠ "" := by
  have hascending := c.ascending
  rw [h] at hascending
  have hlt : e.1 < x.1 := (List.pairwise_cons.1 hascending).1 x hx
  intro hempty
  rw [hempty, String.lt_iff] at hlt
  exact List.not_lt_nil _ hlt

/-- A route that stands twice stands first then, as the empty route. -/
theorem joinRoutes_routesOf {c : BypassConfig} (h : ¬ c.Repeats) (m : String) :
    joinRoutes [] (routesOf c.entries m) = joinRoutes [] (serving c.entries m) := by
  have hnodup : ∀ e ∈ c.entries, e.1 ≠ "" → (e.2.map Ascii.upper).Nodup := fun e he hne =>
    Classical.not_not.1 fun hrepeat => h ⟨e, he, hne, hrepeat⟩
  cases hentries : c.entries with
  | nil => rfl
  | cons e r =>
    have hr : routesOf r m = serving r m := by
      refine routesOf_eq_serving (fun x hx => hnodup x ?_ (ne_empty_of_mem_tail hentries hx)) m
      exact hentries ▸ List.mem_cons_of_mem e hx
    by_cases he : e.1 = ""
    · rw [serving_cons, routesOf, List.flatMap_cons, ← routesOf, flatMap_routeOf, hr, he]
      split
      · next hm =>
        obtain ⟨n, hn⟩ := Nat.exists_eq_succ_of_ne_zero (List.count_pos_iff.2 hm).ne'
        rw [hn]
        exact Pattern.joinRoutes_replicate_empty n _
      · next hm =>
        rw [List.count_eq_zero_of_not_mem hm]
        rfl
    · rw [routesOf_eq_serving]
      intro x hx
      refine hnodup x (hentries ▸ hx) ?_
      obtain rfl | hx := List.mem_cons.1 hx
      · exact he
      · exact ne_empty_of_mem_tail hentries hx

/-! ## Configurations with the same verbs -/

variable {c d : BypassConfig} {b : BypassList}

/-- What a list holds for a method. -/
theorem joinRoutes_of_ofConfig (h : ofConfig c = .ok b) (m : String) :
    joinRoutes [] (routesOf c.entries m) = .ok (b.patterns m) :=
  ((joinsByMethod_addRoutes c.entries).of_ok empty b h).2 m

/-- A verb that stands twice is refused. -/
theorem not_repeats_of_ofConfig (h : ofConfig c = .ok b) : ¬ c.Repeats := by
  rintro ⟨e, he, hne, hrepeat⟩
  obtain ⟨m, hm⟩ : ∃ m, 1 < (e.2.map Ascii.upper).count m := by
    simpa [List.nodup_iff_count_le_one] using hrepeat
  obtain ⟨n, hn⟩ := Nat.exists_eq_add_of_le hm
  obtain ⟨front, back, hentries⟩ := List.append_of_mem he
  have hjoin := joinRoutes_of_ofConfig h m
  rw [hentries, routesOf, List.flatMap_append, List.flatMap_cons, flatMap_routeOf,
    Pattern.joinRoutes_append_eq_ok_iff] at hjoin
  obtain ⟨qs, -, hjoin⟩ := hjoin
  rw [hn, Nat.add_comm, List.replicate_succ, List.replicate_succ] at hjoin
  exact Pattern.joinRoutes_of_repeated hne _ hjoin

/-- If no verb stands twice, a list is made exactly if every verb is a token and the routes that
have a verb for a method go together. -/
theorem exists_ofConfig_iff (h : ¬ c.Repeats) :
    (∃ b, ofConfig c = .ok b) ↔
      (∀ e ∈ c.entries, ∀ m ∈ e.2.map Ascii.upper, Ascii.isToken m = true) ∧
        ∀ m, ∃ ps, joinRoutes [] (serving c.entries m) = .ok ps := by
  simp only [List.forall_mem_map, ← joinRoutes_routesOf h]
  constructor
  · rintro ⟨b, hb⟩
    refine ⟨((joinsByMethod_addRoutes c.entries).of_ok empty b hb).1, fun m => ?_⟩
    exact ⟨_, joinRoutes_of_ofConfig hb m⟩
  · rintro ⟨htokens, hjoin⟩
    exact (joinsByMethod_addRoutes c.entries).exists_ok empty htokens hjoin

theorem forall_methods_iff {p : String → Prop} (h : c.SameVerbs d) :
    (∀ e ∈ c.entries, ∀ m ∈ e.2.map Ascii.upper, p m) ↔
      ∀ e ∈ d.entries, ∀ m ∈ e.2.map Ascii.upper, p m := by
  unfold BypassConfig.SameVerbs at h
  generalize c.entries = entries, d.entries = entries' at h
  induction h with
  | nil => rfl
  | cons hef _ ih => simp only [List.forall_mem_cons, ih, hef.2]

/-- Configurations with the same verbs for the same routes make lists that let the same requests
through. But a configuration is refused if a verb stands twice in it; only if in neither does one,
both are accepted or both refused. -/
theorem ofConfig_of_sameVerbs (h : c.SameVerbs d) :
    (c.Repeats → ∀ b, ofConfig c ≠ .ok b) ∧ (d.Repeats → ∀ b, ofConfig d ≠ .ok b) ∧
      (¬ c.Repeats → ¬ d.Repeats → ((∃ b, ofConfig c = .ok b) ↔ ∃ b, ofConfig d = .ok b)) ∧
      ∀ b b', ofConfig c = .ok b → ofConfig d = .ok b' →
        ∀ method path, b.letsThrough method path = b'.letsThrough method path := by
  refine ⟨fun hc b hb => not_repeats_of_ofConfig hb hc,
    fun hd b hb => not_repeats_of_ofConfig hb hd, fun hc hd => ?_, fun b b' hb hb' => ?_⟩
  · rw [exists_ofConfig_iff hc, exists_ofConfig_iff hd, forall_methods_iff h]
    simp only [serving_of_sameVerbs h]
  · intro method path
    have hpatterns : b.patterns method = b'.patterns method := by
      have hjoin := joinRoutes_of_ofConfig hb method
      have hjoin' := joinRoutes_of_ofConfig hb' method
      rw [joinRoutes_routesOf (not_repeats_of_ofConfig hb)] at hjoin
      rw [joinRoutes_routesOf (not_repeats_of_ofConfig hb'), ← serving_of_sameVerbs h] at hjoin'
      exact Except.ok.inj (hjoin.symm.trans hjoin')
    rw [letsThrough, letsThrough, hpatterns]

theorem ofConfig_of_sameVerbs_reordered :
    let c : BypassConfig := Table.ofList [("/a", ["get", "Head"]), ("/b/:x", ["POST"])]
    let d : BypassConfig := Table.ofList [("/a", ["HEAD", "GET"]), ("/b/:x", ["post"])]
    c.SameVerbs d ∧ ∃ b b', ofConfig c = .ok b ∧ ofConfig d = .ok b' ∧
      ∀ method path, b.letsThrough method path = b'.letsThrough method path := by
  intro c d
  have hsame : c.SameVerbs d := by
    refine .cons ⟨rfl, fun m => ?_⟩ (.cons ⟨rfl, fun m => Iff.rfl⟩ .nil)
    exact (List.Perm.swap "HEAD" "GET" []).mem_iff
  obtain ⟨b, hb⟩ := Outcome.exists_of_isOk (x := ofConfig c) (by decide)
  obtain ⟨-, -, hboth, hlets⟩ := ofConfig_of_sameVerbs hsame
  obtain ⟨b', hb'⟩ := (hboth (by decide) (by decide)).1 ⟨b, hb⟩
  exact ⟨hsame, b, b', hb, hb', hlets b b' hb hb'⟩

/-- The verb of a route written once more, in another letter case: a configuration with the same
verbs is refused. -/
theorem refused_of_repeated_verb :
    let once : BypassConfig := Table.ofList [("/a", ["GET"])]
    let twice : BypassConfig := Table.ofList [("/a", ["GET", "get"])]
    once.SameVerbs twice ∧
      (∃ b, ofConfig once = .ok b ∧ b.letsThrough "GET" "/a" = true) ∧
      ofConfig twice = .error (.invalidRoute "/a" .conflict) := by
  refine ⟨.cons ⟨rfl, fun m => ?_⟩ .nil, ⟨⟨[("GET", [.letter '/', .letter 'a'])]⟩, ?_, ?_⟩, ?_⟩
  · show m ∈ ["GET"] ↔ m ∈ ["GET", "GET"]
    simp
  · decide
  · decide
  · decide

end BypassList

end AccessGateway
