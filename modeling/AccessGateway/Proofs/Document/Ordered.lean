import AccessGateway.Authorization.Source
import AccessGateway.Proofs.Outcome
import AccessGateway.Settings.Value

/-
  Documents and the JSON values they stand for. In a finished JSON value the members of every object
  stand in ascending order of their names (`Json.IsOrdered`). Such a value is the value of its
  document (`toJson_ofJson`), and every document that is given to a reader, wherever it comes from,
  has such a value if it has one at all (`IsGiven.isOrdered`, `IsOrdered.of_toJson`).
-/

namespace AccessGateway

/-- A value as it is when it is finished: in every object in it the members stand in strictly
ascending order of their names. -/
inductive Json.IsOrdered : Json → Prop
  | null : IsOrdered .null
  | bool (b : Bool) : IsOrdered (.bool b)
  | number (n : Number) : IsOrdered (.number n)
  | text (s : String) : IsOrdered (.text s)
  | list {items : List Json} (hitems : ∀ v ∈ items, IsOrdered v) : IsOrdered (.list items)
  | object {members : List (String × Json)}
      (hascending : members.Pairwise fun a b => a.1 < b.1)
      (hmembers : ∀ m ∈ members, IsOrdered m.2) : IsOrdered (.object members)

namespace Document

/-- A document whose scalars stand for finished values. -/
inductive IsOrdered : Document → Prop
  | null : IsOrdered .null
  | bool (b : Bool) : IsOrdered (.bool b)
  | number (n : Option Number) : IsOrdered (.number n)
  | text (s : Option String) : IsOrdered (.text s)
  | plain (written : String) {meaning : Json} (hmeaning : meaning.IsOrdered) :
    IsOrdered (.plain written meaning)
  | foreign (found : String) {value : Option Json} (hvalue : ∀ v ∈ value, v.IsOrdered) :
    IsOrdered (.foreign found value)
  | list {ds : List Document} (closed : Bool) (hitems : ∀ d ∈ ds, IsOrdered d) :
    IsOrdered (.list ds closed)
  | object {ms : List (Option String × Document)} (closed : Bool)
      (hmembers : ∀ m ∈ ms, IsOrdered m.2) : IsOrdered (.object ms closed)
  | deep (complete : Bool) : IsOrdered (.deep complete)
  | broken : IsOrdered .broken

/-! ## Values as documents -/

theorem itemsToJson_ofItems {vs : List Json} (h : ∀ v ∈ vs, (ofJson v).toJson = .ok v) (i : Nat) :
    itemsToJson i (ofItems vs) = .ok vs := by
  induction vs generalizing i with
  | nil => rfl
  | cons v vs ih =>
    obtain ⟨hv, hvs⟩ := List.forall_mem_cons.1 h
    rw [ofItems, itemsToJson, hv, ih hvs]
    rfl

theorem membersToJson_ofMembers {ms : List (String × Json)}
    (h : ∀ m ∈ ms, (ofJson m.2).toJson = .ok m.2) : membersToJson (ofMembers ms) = .ok ms := by
  induction ms with
  | nil => rfl
  | cons m ms ih =>
    obtain ⟨hm, hms⟩ := List.forall_mem_cons.1 h
    rw [ofMembers, membersToJson, hm, ih hms]
    rfl

/-- A finished value is the value of its document. -/
theorem toJson_ofJson {v : Json} (h : v.IsOrdered) : (ofJson v).toJson = .ok v := by
  induction h with
  | null => rfl
  | bool b => rfl
  | number n => rfl
  | text s => rfl
  | list hitems ih =>
    rw [ofJson, toJson, itemsToJson_ofItems ih]
    rfl
  | @object members hascending hmembers ih =>
    rw [ofJson, toJson, membersToJson_ofMembers ih]
    show Except.ok (Json.ofMembers members) = _
    rw [Json.ofMembers, Table.ofList_entries ⟨members, hascending⟩]

/-! ## The values of documents -/

theorem exists_of_itemsToJson {ds : List Document} {i : Nat} {vs : List Json}
    (h : itemsToJson i ds = .ok vs) : ∀ v ∈ vs, ∃ d ∈ ds, d.toJson = .ok v := by
  induction ds generalizing i vs with
  | nil =>
    obtain rfl := Except.ok.inj h
    exact List.forall_mem_nil _
  | cons d ds ih =>
    simp only [itemsToJson, Outcome.bind_eq_ok_iff, Outcome.mapError_eq_ok_iff] at h
    obtain ⟨w, hw, ws, hws, hvs⟩ := h
    obtain rfl := Except.ok.inj hvs
    refine List.forall_mem_cons.2 ⟨⟨d, List.mem_cons_self, hw⟩, fun v hv => ?_⟩
    obtain ⟨d', hd', hv'⟩ := ih hws v hv
    exact ⟨d', List.mem_cons_of_mem _ hd', hv'⟩

theorem exists_of_membersToJson {ms : List (Option String × Document)}
    {vs : List (String × Json)} (h : membersToJson ms = .ok vs) :
    ∀ v ∈ vs, ∃ m ∈ ms, m.2.toJson = .ok v.2 := by
  induction ms generalizing vs with
  | nil =>
    obtain rfl := Except.ok.inj h
    exact List.forall_mem_nil _
  | cons m ms ih =>
    obtain ⟨_ | k, d⟩ := m
    · cases h
    · simp only [membersToJson, Outcome.bind_eq_ok_iff, Outcome.mapError_eq_ok_iff] at h
      obtain ⟨w, hw, ws, hws, hvs⟩ := h
      obtain rfl := Except.ok.inj hvs
      refine List.forall_mem_cons.2 ⟨⟨(some k, d), List.mem_cons_self, hw⟩, fun v hv => ?_⟩
      obtain ⟨m', hm', hv'⟩ := ih hws v hv
      exact ⟨m', List.mem_cons_of_mem _ hm', hv'⟩

/-- If a document has a value, it is finished. -/
theorem IsOrdered.of_toJson {d : Document} (hd : d.IsOrdered) {v : Json} (h : d.toJson = .ok v) :
    v.IsOrdered := by
  induction hd generalizing v with
  | null =>
    obtain rfl := Except.ok.inj h
    exact .null
  | bool b =>
    obtain rfl := Except.ok.inj h
    exact .bool b
  | number n =>
    cases n with
    | none => cases h
    | some n =>
      obtain rfl := Except.ok.inj h
      exact .number n
  | text s =>
    cases s with
    | none => cases h
    | some s =>
      obtain rfl := Except.ok.inj h
      exact .text s
  | plain written hmeaning =>
    obtain rfl := Except.ok.inj h
    exact hmeaning
  | @foreign found value hvalue =>
    cases value with
    | none => cases h
    | some v' =>
      obtain rfl := Except.ok.inj h
      exact hvalue _ rfl
  | list closed hitems ih =>
    rw [toJson, Outcome.bind_eq_ok_iff] at h
    obtain ⟨vs, hvs, hclosed⟩ := h
    split at hclosed
    · obtain rfl := Except.ok.inj hclosed
      refine .list fun v hv => ?_
      obtain ⟨d, hd, hdv⟩ := exists_of_itemsToJson hvs v hv
      exact ih d hd hdv
    · cases hclosed
  | object closed hmembers ih =>
    rw [toJson, Outcome.bind_eq_ok_iff] at h
    obtain ⟨vs, hvs, hclosed⟩ := h
    split at hclosed
    · obtain rfl := Except.ok.inj hclosed
      refine .object (Table.ofList vs).ascending fun v hv => ?_
      obtain ⟨m, hm, hmv⟩ := exists_of_membersToJson hvs v (Table.mem_of_mem_ofList hv)
      exact ih m hm hmv
    · cases hclosed
  | deep complete => cases h
  | broken => cases h

/-! ## Where documents come from -/

mutual

theorem isOrdered_ofJson (v : Json) : (ofJson v).IsOrdered := by
  cases v with
  | null => exact .null
  | bool b => exact .bool b
  | number n => exact .number (some n)
  | text s => exact .text (some s)
  | list items => exact .list true (isOrdered_ofItems items)
  | object members => exact .object true (isOrdered_ofMembers members)

theorem isOrdered_ofItems (vs : List Json) : ∀ d ∈ ofItems vs, d.IsOrdered := by
  cases vs with
  | nil => exact List.forall_mem_nil _
  | cons v vs => exact List.forall_mem_cons.2 ⟨isOrdered_ofJson v, isOrdered_ofItems vs⟩

theorem isOrdered_ofMembers (ms : List (String × Json)) : ∀ m ∈ ofMembers ms, m.2.IsOrdered := by
  cases ms with
  | nil => exact List.forall_mem_nil _
  | cons m ms =>
    obtain ⟨k, v⟩ := m
    exact List.forall_mem_cons.2 ⟨isOrdered_ofJson v, isOrdered_ofMembers ms⟩

end

end Document

theorem Yaml.Scalar.isOrdered_toJson (x : Yaml.Scalar) : x.toJson.IsOrdered := by
  cases x with
  | null => exact .null
  | bool b => exact .bool b
  | integer n => exact .number (.integer n)
  | decimal x =>
    cases x with
    | finite x => exact .number (.real x)
    | infinite negative => cases negative <;> exact .text _
    | indefinite => exact .text ".nan"
  | text s => exact .text s

namespace Yaml.Node

variable {meaning : String → Json}

mutual

theorem isOrdered_toDocument (hmeaning : ∀ s, (meaning s).IsOrdered) (x : Node) :
    (x.toDocument meaning).IsOrdered := by
  cases x with
  | plain s => exact .plain s (hmeaning s)
  | quoted s => exact .text (some s)
  | sequence items => exact .list true (isOrdered_itemDocuments hmeaning items)
  | mapping members => exact .object true (isOrdered_memberDocuments hmeaning members)

theorem isOrdered_itemDocuments (hmeaning : ∀ s, (meaning s).IsOrdered) (xs : List Node) :
    ∀ d ∈ itemDocuments meaning xs, d.IsOrdered := by
  cases xs with
  | nil => exact List.forall_mem_nil _
  | cons x xs =>
    exact List.forall_mem_cons.2 ⟨isOrdered_toDocument hmeaning x, isOrdered_itemDocuments hmeaning xs⟩

theorem isOrdered_memberDocuments (hmeaning : ∀ s, (meaning s).IsOrdered)
    (ms : List (Node × Node)) :
    ∀ m ∈ memberDocuments meaning ms, m.2.IsOrdered := by
  cases ms with
  | nil => exact List.forall_mem_nil _
  | cons m ms =>
    obtain ⟨k, x⟩ := m
    exact List.forall_mem_cons.2
      ⟨isOrdered_toDocument hmeaning x, isOrdered_memberDocuments hmeaning ms⟩

end

end Yaml.Node

namespace Setting

mutual

theorem isOrdered_toDocument (v : Setting) : v.toDocument.IsOrdered := by
  cases v with
  | null => exact .null
  | bool b => exact .bool b
  | integer n =>
    rw [toDocument]
    split
    · exact .number _
    · exact .foreign _ nofun
  | real x => exact .number _
  | boundless => exact .foreign _ fun v hv => Option.some.inj hv ▸ .null
  | character c => exact .foreign _ fun v hv => Option.some.inj hv ▸ .text _
  | text s => exact .text (some s)
  | list items => exact .list true (isOrdered_itemDocuments items)
  | object members => exact .object true (isOrdered_memberDocuments members)

theorem isOrdered_itemDocuments (vs : List Setting) : ∀ d ∈ itemDocuments vs, d.IsOrdered := by
  cases vs with
  | nil => exact List.forall_mem_nil _
  | cons v vs =>
    exact List.forall_mem_cons.2 ⟨isOrdered_toDocument v, isOrdered_itemDocuments vs⟩

theorem isOrdered_memberDocuments (ms : List (String × Setting)) :
    ∀ m ∈ memberDocuments ms, m.2.IsOrdered := by
  cases ms with
  | nil => exact List.forall_mem_nil _
  | cons m ms =>
    obtain ⟨k, v⟩ := m
    exact List.forall_mem_cons.2 ⟨isOrdered_toDocument v, isOrdered_memberDocuments ms⟩

end

end Setting

namespace JsonText

theorem isOrdered_atDepth {depth : Nat} {d : Document} (h : d.IsOrdered) :
    (atDepth depth d).IsOrdered := by
  unfold atDepth
  split
  · exact h
  · exact .deep _

theorem isOrdered_word {w : String} {d : Document} {cs : List Char} (h : d.IsOrdered) :
    (word w d cs).1.IsOrdered := by
  unfold word
  split
  · exact h
  · exact .broken

section
variable {n : Nat}
  (hvalue : ∀ depth cs, (value n depth cs).1.IsOrdered)
  (hitems : ∀ depth cs, ∀ d ∈ (items n depth cs).1, d.IsOrdered)
  (hmembers : ∀ depth cs, ∀ m ∈ (members n depth cs).1, m.2.IsOrdered)

include hitems hmembers in
theorem isOrdered_value_succ (depth : Nat) (cs : List Char) :
    (value (n + 1) depth cs).1.IsOrdered := by
  rw [value]
  split
  · exact .broken
  split
  · split
    · exact isOrdered_atDepth (.list true (List.forall_mem_nil _))
    · exact isOrdered_atDepth (.list _ (hitems _ _))
  split
  · split
    · exact isOrdered_atDepth (.object false (List.forall_mem_nil _))
    split
    · exact isOrdered_atDepth (.object true (List.forall_mem_nil _))
    · exact isOrdered_atDepth (.object _ (hmembers _ _))
  split
  · split
    · exact .text _
    · exact .broken
  split
  · exact isOrdered_word .null
  split
  · exact isOrdered_word (.bool true)
  split
  · exact isOrdered_word (.bool false)
  split
  · exact .number _
  · exact .broken

include hvalue hitems in
theorem isOrdered_items_succ (depth : Nat) (cs : List Char) :
    ∀ d ∈ (items (n + 1) depth cs).1, d.IsOrdered := by
  have hfirst := hvalue depth cs
  rw [items]
  split
  · next hd =>
    rw [hd] at hfirst
    exact List.forall_mem_singleton.2 hfirst
  · next hd =>
    rw [hd] at hfirst
    split
    · exact List.forall_mem_cons.2 ⟨hfirst, hitems _ _⟩
    · exact List.forall_mem_singleton.2 hfirst
    · exact List.forall_mem_singleton.2 hfirst

include hvalue hmembers in
theorem isOrdered_members_succ (depth : Nat) (cs : List Char) :
    ∀ m ∈ (members (n + 1) depth cs).1, m.2.IsOrdered := by
  rw [members]
  split
  · exact List.forall_mem_nil _
  split
  · split
    · exact List.forall_mem_nil _
    split
    · next s _ =>
      have hfirst := hvalue depth s
      split
      · next hd =>
        rw [hd] at hfirst
        exact List.forall_mem_singleton.2 hfirst
      · next hd =>
        rw [hd] at hfirst
        split
        · exact List.forall_mem_singleton.2 hfirst
        split
        · exact List.forall_mem_cons.2 ⟨hfirst, hmembers _ _⟩
        split
        · exact List.forall_mem_singleton.2 hfirst
        · exact List.forall_mem_singleton.2 hfirst
    · exact List.forall_mem_singleton.2 .broken
  · exact List.forall_mem_nil _

end

/-- What is read of a text is in order, however far the steps reach. -/
theorem isOrdered_value (n : Nat) :
    (∀ depth cs, (value n depth cs).1.IsOrdered) ∧
      (∀ depth cs, ∀ d ∈ (items n depth cs).1, d.IsOrdered) ∧
      ∀ depth cs, ∀ m ∈ (members n depth cs).1, m.2.IsOrdered := by
  induction n with
  | zero =>
    refine ⟨fun depth cs => .broken, fun depth cs => ?_, fun depth cs => List.forall_mem_nil _⟩
    exact List.forall_mem_singleton.2 .broken
  | succ n ih =>
    obtain ⟨hvalue, hitems, hmembers⟩ := ih
    exact ⟨isOrdered_value_succ hitems hmembers, isOrdered_items_succ hvalue hitems,
      isOrdered_members_succ hvalue hmembers⟩

end JsonText

namespace Document

/-- The documents that readers are given: values in memory, JSON texts, YAML documents and
settings. -/
inductive IsGiven : Document → Prop
  | value (v : Json) : IsGiven (ofJson v)
  | jsonText (cs : List Char) : IsGiven (JsonText.scan cs).1
  | yaml (x : Yaml.Node) : IsGiven (x.toDocument fun s => (Yaml.Scalar.lenient s).toJson)
  | settings (v : Setting) : IsGiven v.toDocument

theorem IsGiven.isOrdered {d : Document} (h : d.IsGiven) : d.IsOrdered := by
  cases h with
  | value v => exact isOrdered_ofJson v
  | jsonText cs => exact (JsonText.isOrdered_value _).1 0 cs
  | yaml x =>
    exact Yaml.Node.isOrdered_toDocument (fun s => (Yaml.Scalar.lenient s).isOrdered_toJson) x
  | settings v => exact v.isOrdered_toDocument

end Document

end AccessGateway
