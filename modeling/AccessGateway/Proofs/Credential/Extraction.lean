import AccessGateway.Proofs.Credential.Scheme
import AccessGateway.Proofs.Text.Trimming
import AccessGateway.Text.Utf8

/-
  The credential that a source finds in a request. A scheme takes as much of a value as it has
  characters, and since letters of either case have as many octets as each other, this is also as
  much as it has octets (`Utf8.size_eq_of_lower_eq`). So a value has a credential exactly if it is
  cut there into the scheme and something that is not blank (`credentialIn_eq_some_iff`). A source
  fails if the look-up does and not otherwise (`extract_exactly`).
-/

namespace AccessGateway

namespace Utf8

theorem length_encodeChar_of_ascii {c : Char} (h : c.toNat < 0x80) :
    (encodeChar c).length = 1 := by
  rw [encodeChar, if_pos h]
  rfl

theorem length_encodeChar_toLower (c : Char) :
    (encodeChar c.toLower).length = (encodeChar c).length := by
  by_cases hcapital : c.val ≥ 'A'.val ∧ c.val ≤ 'Z'.val
  · have hval : c.toLower.val = c.val + 32 := congrArg Char.val (dif_pos hcapital)
    have hlast : c.toNat ≤ 90 := UInt32.le_iff_toNat_le.1 hcapital.2
    have hlower : c.toLower.toNat ≤ c.toNat + 32 := by
      rw [← Char.toNat_val, hval, UInt32.toNat_add]
      exact Nat.mod_le _ _
    rw [length_encodeChar_of_ascii (by omega), length_encodeChar_of_ascii (by omega)]
  · have hsame : c.toLower = c := dif_neg hcapital
    rw [hsame]

theorem size_cons (c : Char) (cs : List Char) :
    size (c :: cs) = (encodeChar c).length + size cs := by
  rw [size, encode, List.flatMap_cons, List.length_append]
  rfl

theorem size_map_toLower (cs : List Char) : size (cs.map Char.toLower) = size cs := by
  induction cs with
  | nil => rfl
  | cons c r ih => rw [List.map_cons, size_cons, size_cons, length_encodeChar_toLower, ih]

/-- Letter case does not change the number of octets. -/
theorem size_eq_of_lower_eq {s t : String} (h : Ascii.lower s = Ascii.lower t) :
    size s.toList = size t.toList := by
  rw [← size_map_toLower, Ascii.lower_eq_iff.1 h, size_map_toLower]

end Utf8

namespace CredentialSource

/-! ## Values -/

theorem dropScheme?_eq_some_iff {scheme value rest : List Char} :
    dropScheme? scheme value = some rest ↔
      ∃ head, value = head ++ rest ∧ head.map Char.toLower = scheme.map Char.toLower := by
  constructor
  · intro h
    unfold dropScheme? at h
    split at h
    · next hsame =>
      obtain rfl := Option.some.inj h
      exact ⟨value.take scheme.length, (List.take_append_drop _ _).symm,
        Ascii.sameIgnoringCase_iff.1 hsame⟩
    · cases h
  · rintro ⟨head, rfl, hhead⟩
    exact dropScheme?_append hhead

/-- A value has a credential exactly if it begins with the scheme, in any letter case, and what is
behind it is not blank. -/
theorem credentialIn_eq_some_iff {scheme : Option String} {raw v : String} :
    credentialIn scheme raw = some v ↔
      ∃ head rest, raw = head ++ rest ∧ Ascii.lower head = Ascii.lower (scheme.getD "") ∧
        IsTrimmed isBlank rest.toList v.toList ∧ v ≠ "" := by
  unfold credentialIn
  constructor
  · intro h
    split at h
    · cases h
    · next rest hrest =>
      obtain ⟨head, hraw, hhead⟩ := dropScheme?_eq_some_iff.1 hrest
      split at h
      · cases h
      · next hne =>
        obtain rfl := Option.some.inj h
        refine ⟨String.ofList head, String.ofList rest, ?_, ?_, ?_, ?_⟩
        · rw [← String.ofList_append, ← hraw, String.ofList_toList]
        · rw [Ascii.lower_eq_iff, String.toList_ofList, hhead]
        · rw [String.toList_ofList, String.toList_ofList]
          exact isTrimmed_trim rest
        · simpa using hne
  · rintro ⟨head, rest, rfl, hhead, hcore, hne⟩
    rw [String.toList_append, dropScheme?_append (Ascii.lower_eq_iff.1 hhead)]
    simp only [trim_eq_iff.2 hcore, String.ofList_toList]
    rw [if_neg]
    simpa using hne

/-! ## Requests -/

variable {x : CredentialSource} {request : CredentialRequest}

theorem extract_eq_error_iff {e : CredentialError} :
    x.extract request = .error e ↔ request x.kind x.key = .error e := by
  unfold extract
  cases request x.kind x.key with
  | error fault => rfl
  | ok found => cases found <;> simp

theorem extract_eq_some_iff {v : String} :
    x.extract request = .ok (some v) ↔
      ∃ raw, request x.kind x.key = .ok (some raw) ∧ credentialIn x.scheme raw = some v := by
  unfold extract
  cases request x.kind x.key with
  | error fault => simp
  | ok found => cases found <;> simp

/-- The cut is behind as many octets as the scheme has, too. -/
theorem extract_eq_some_iff_cut {v : String} :
    x.extract request = .ok (some v) ↔
      ∃ raw head rest, request x.kind x.key = .ok (some raw) ∧ raw = head ++ rest ∧
        Utf8.size head.toList = Utf8.size (x.scheme.getD "").toList ∧
        Ascii.lower head = Ascii.lower (x.scheme.getD "") ∧
        IsTrimmed isBlank rest.toList v.toList ∧ v ≠ "" := by
  rw [extract_eq_some_iff]
  simp only [credentialIn_eq_some_iff]
  constructor
  · rintro ⟨raw, hraw, head, rest, hcut, hhead, hrest⟩
    exact ⟨raw, head, rest, hraw, hcut, Utf8.size_eq_of_lower_eq hhead, hhead, hrest⟩
  · rintro ⟨raw, head, rest, hraw, hcut, -, hhead, hrest⟩
    exact ⟨raw, hraw, head, rest, hcut, hhead, hrest⟩

/-- A value that cannot be cut behind as many octets as the scheme has is no failure. -/
theorem extract_eq_none_of_uncut {raw : String} (hraw : request x.kind x.key = .ok (some raw))
    (huncut : ∀ head rest, raw = head ++ rest →
      Utf8.size head.toList ≠ Utf8.size (x.scheme.getD "").toList) :
    x.extract request = .ok none := by
  cases hextract : x.extract request with
  | error e =>
    rw [extract_eq_error_iff, hraw] at hextract
    cases hextract
  | ok found =>
    cases found with
    | none => rfl
    | some v =>
      obtain ⟨raw', head, rest, hraw', hcut, hsize, -⟩ := extract_eq_some_iff_cut.1 hextract
      rw [hraw] at hraw'
      obtain rfl := Option.some.inj (Except.ok.inj hraw')
      exact absurd hsize (huncut head rest hcut)

/-- A source fails exactly as the look-up fails. Otherwise it finds a credential exactly if the
value that was looked up is one of two parts: the first has as many octets as the scheme and is the
scheme in some letter case, the other is the credential with nothing but blanks around it. A
credential is not empty and has no blanks at its ends. A value that cannot be cut behind as many
octets as the scheme has, because it is too short or because a character lies across that place, has
no credential. -/
theorem extract_exactly (x : CredentialSource) (request : CredentialRequest) :
    (∀ e, x.extract request = .error e ↔ request x.kind x.key = .error e) ∧
    (∀ v, x.extract request = .ok (some v) ↔
      ∃ raw head rest, request x.kind x.key = .ok (some raw) ∧ raw = head ++ rest ∧
        Utf8.size head.toList = Utf8.size (x.scheme.getD "").toList ∧
        Ascii.lower head = Ascii.lower (x.scheme.getD "") ∧
        IsTrimmed isBlank rest.toList v.toList ∧ v ≠ "") ∧
    (∀ v, x.extract request = .ok (some v) → v ≠ "" ∧ trimText v = v) ∧
    (∀ raw, request x.kind x.key = .ok (some raw) →
      (∀ head rest, raw = head ++ rest →
        Utf8.size head.toList ≠ Utf8.size (x.scheme.getD "").toList) →
      x.extract request = .ok none) := by
  refine ⟨fun e => extract_eq_error_iff, fun v => extract_eq_some_iff_cut, ?_,
    fun raw hraw huncut => extract_eq_none_of_uncut hraw huncut⟩
  intro v hv
  obtain ⟨-, -, rest, -, -, -, -, hcore, hne⟩ := extract_eq_some_iff_cut.1 hv
  have htrim : trim v.toList = v.toList := trim_eq_self hcore.first hcore.last
  exact ⟨hne, by rw [trimText, htrim, String.ofList_toList]⟩

end CredentialSource

end AccessGateway
