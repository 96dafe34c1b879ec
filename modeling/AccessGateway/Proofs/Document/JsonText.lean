import AccessGateway.Document.JsonText

/-
  JSON texts that are written can be read again. Every character has one piece of a quoted text
  that stands for it (`piece`), and its written form is read as that piece
  (`quotedPieces_escape`), whatever the character is; so a text in quotes is read as the text
  (`quoted_escape`), and an object with one text in it as that object (`scan_member`).
-/

namespace AccessGateway.JsonText

/-- The characters that have no written form but the number of their code unit. -/
def IsNumbered (c : Char) : Prop :=
  c.toNat < 0x20 ∧ c ≠ '\n' ∧ c ≠ '\r' ∧ c ≠ '\t' ∧ c.toNat ≠ 8 ∧ c.toNat ≠ 12

instance (c : Char) : Decidable (IsNumbered c) :=
  inferInstanceAs (Decidable (_ ∧ _ ∧ _ ∧ _ ∧ _ ∧ _))

/-- The piece that a character is written as. -/
def piece (c : Char) : Piece := if IsNumbered c then .unit c.toNat else .char c

/-! ## Pieces -/

theorem quotedPieces_plain {c : Char} {cs rest : List Char} {ps : List Piece}
    (hquote : c.toNat ≠ 0x22) (hslash : c ≠ '\\') (hc : 0x20 ≤ c.toNat)
    (h : quotedPieces cs = some (ps, rest)) :
    quotedPieces (c :: cs) = some (.char c :: ps, rest) := by
  rw [quotedPieces, h]
  · rw [if_neg hquote, if_neg (by rintro (hlow | hback); omega; exact hslash hback)]
    rfl
  all_goals
    intros
    contradiction

theorem quotedPieces_escaped {e c : Char} {cs rest : List Char} {ps : List Piece}
    (hu : e ≠ 'u') (he : escaped? e = some c) (h : quotedPieces cs = some (ps, rest)) :
    quotedPieces ('\\' :: e :: cs) = some (.char c :: ps, rest) := by
  rw [quotedPieces, he, h]
  · rfl
  · intros
    contradiction

theorem quotedPieces_unit {a b c d : Char} {n : Nat} {cs rest : List Char} {ps : List Piece}
    (hn : unit? a b c d = some n) (h : quotedPieces cs = some (ps, rest)) :
    quotedPieces ('\\' :: 'u' :: a :: b :: c :: d :: cs) = some (.unit n :: ps, rest) := by
  rw [quotedPieces, hn, h]
  rfl

theorem unit?_hexDigit : ∀ n < 32,
    unit? '0' '0' (Ascii.hexDigit (n / 16)) (Ascii.hexDigit (n % 16)) = some n := by
  decide

theorem quotedPieces_escaped_self {e c : Char} {cs rest : List Char} {ps : List Piece}
    (hc : ¬IsNumbered c) (hu : e ≠ 'u') (he : escaped? e = some c)
    (h : quotedPieces cs = some (ps, rest)) :
    quotedPieces (['\\', e] ++ cs) = some (piece c :: ps, rest) := by
  rw [piece, if_neg hc]
  exact quotedPieces_escaped hu he h

/-- The written form of a character is read as its piece. -/
theorem quotedPieces_escape {cs rest : List Char} {ps : List Piece} (c : Char)
    (h : quotedPieces cs = some (ps, rest)) :
    quotedPieces (Json.escape c ++ cs) = some (piece c :: ps, rest) := by
  have hnumber : ∀ n, c.toNat = n → c = Char.ofNat n := by
    rintro n rfl
    exact (Char.ofNat_toNat c).symm
  unfold Json.escape
  split
  · next hquote =>
    obtain rfl := hnumber _ hquote
    exact quotedPieces_escaped_self (by decide) (by decide) (by decide) h
  split
  · next hslash =>
    subst hslash
    exact quotedPieces_escaped_self (by decide) (by decide) (by decide) h
  split
  · next hfeed =>
    subst hfeed
    exact quotedPieces_escaped_self (by decide) (by decide) (by decide) h
  split
  · next hreturn =>
    subst hreturn
    exact quotedPieces_escaped_self (by decide) (by decide) (by decide) h
  split
  · next htab =>
    subst htab
    exact quotedPieces_escaped_self (by decide) (by decide) (by decide) h
  split
  · next hback =>
    obtain rfl := hnumber _ hback
    exact quotedPieces_escaped_self (by decide) (by decide) (by decide) h
  split
  · next hform =>
    obtain rfl := hnumber _ hform
    exact quotedPieces_escaped_self (by decide) (by decide) (by decide) h
  split
  · next hquote hslash hfeed hreturn htab hback hform hlow =>
    rw [piece, if_pos ⟨hlow, hfeed, hreturn, htab, hback, hform⟩]
    exact quotedPieces_unit (unit?_hexDigit _ (by omega)) h
  · next hquote hslash _ _ _ _ _ hhigh =>
    rw [piece, if_neg fun hc => hhigh hc.1]
    exact quotedPieces_plain hquote hslash (by omega) h

theorem quotedPieces_flatMap (cs rest : List Char) :
    quotedPieces (cs.flatMap Json.escape ++ Char.ofNat 0x22 :: rest) =
      some (cs.map piece, rest) := by
  induction cs with
  | nil => rfl
  | cons c r ih =>
    rw [List.flatMap_cons, List.append_assoc]
    exact quotedPieces_escape c ih

/-- A code unit below the surrogates is a character, whatever follows it. -/
theorem join?_unit_cons {n : Nat} {ps : List Piece} {cs : List Char} (hn : n < 0xD800)
    (h : join? ps = some cs) : join? (.unit n :: ps) = some (Char.ofNat n :: cs) := by
  have hpair : ¬(0xD800 ≤ n ∧ n < 0xE000) := by omega
  have hhigh : ¬(0xD800 ≤ n ∧ n < 0xDC00) := by omega
  have hlow : ¬(0xDC00 ≤ n ∧ n < 0xE000) := by omega
  match ps with
  | [] =>
    obtain rfl := Option.some.inj h
    rw [join?, if_neg hpair]
  | .char c :: r =>
    rw [join?, Option.map_eq_some_iff] at h
    obtain ⟨ds, hds, rfl⟩ := h
    rw [join?, if_neg hpair, hds]
    rfl
  | .unit m :: r => rw [join?, if_neg hlow, if_neg hhigh, h]; rfl

theorem join?_map_piece (cs : List Char) : join? (cs.map piece) = some cs := by
  induction cs with
  | nil => rfl
  | cons c r ih =>
    rw [List.map_cons]
    by_cases hc : IsNumbered c
    · have hbelow : c.toNat < 0xD800 := Nat.lt_trans hc.1 (by decide)
      rw [piece, if_pos hc, join?_unit_cons hbelow ih, Char.ofNat_toNat]
    · rw [piece, if_neg hc, join?, ih]
      rfl

/-- A text in quotes is read as the text. -/
theorem quoted_escape (s : String) (rest : List Char) :
    quoted (s.toList.flatMap Json.escape ++ Char.ofNat 0x22 :: rest) = some (some s, rest) := by
  rw [quoted, quotedPieces_flatMap, Option.map_some, join?_map_piece, Option.map_some,
    String.ofList_toList]

/-! ## Values -/

theorem skip_cons {c : Char} (h : isSpace c = false) (cs : List Char) : skip (c :: cs) = c :: cs :=
  List.dropWhile_cons_of_neg (by rw [h]; exact Bool.false_ne_true)

theorem toList_quote (s : String) :
    (Json.quote s).toList =
      Char.ofNat 0x22 :: (s.toList.flatMap Json.escape ++ [Char.ofNat 0x22]) := by
  simp only [Json.quote, String.toList_append, String.toList_ofList]
  rfl

theorem value_quote (n depth : Nat) (s : String) (rest : List Char) :
    value (n + 1) depth ((Json.quote s).toList ++ rest) = (.text (some s), some rest) := by
  have hquoted := quoted_escape s rest
  rw [toList_quote, List.cons_append, List.append_assoc, List.singleton_append, value,
    skip_cons (by decide)]
  simp only
  rw [if_neg (by decide), if_neg (by decide), if_pos (by decide), hquoted]

theorem members_quote (n depth : Nat) (k s : String) :
    members (n + 2) depth
        ((Json.quote k).toList ++ ':' :: ((Json.quote s).toList ++ [Char.ofNat 0x7D])) =
      ([(some k, .text (some s))], some []) := by
  have hname := quoted_escape k (':' :: ((Json.quote s).toList ++ [Char.ofNat 0x7D]))
  rw [toList_quote k, List.cons_append, List.append_assoc, List.singleton_append, members,
    skip_cons (by decide)]
  simp only
  rw [if_pos (by decide), hname]
  simp only
  rw [skip_cons (by decide)]
  simp only
  rw [value_quote]
  simp only
  rw [skip_cons (by decide)]
  simp only
  rw [if_neg (by decide), if_pos (by decide)]

/-- An object with one text in it is read as it was written. -/
theorem scan_member (k s : String) :
    scan (Json.object [(k, .text s)]).compact.toList =
      (.object [(some k, .text (some s))] true, some []) := by
  have hwritten : (Json.object [(k, .text s)]).compact.toList = Char.ofNat 0x7B ::
      ((Json.quote k).toList ++ ':' :: ((Json.quote s).toList ++ [Char.ofNat 0x7D])) := by
    simp only [Json.compact, Json.compactMembers, String.toList_append]
    simp
  have hmembers := members_quote
    (2 * ((Json.quote k).toList ++ ':' :: ((Json.quote s).toList ++ [Char.ofNat 0x7D])).length + 1)
    1 k s
  rw [scan, hwritten, List.length_cons, Nat.mul_succ, value, skip_cons (by decide)]
  simp only
  rw [if_neg (by decide), if_pos (by decide)]
  rw [toList_quote k, List.cons_append] at hmembers ⊢
  rw [skip_cons (by decide)]
  simp only
  rw [if_neg (by decide), hmembers]
  rfl

/-- A text that is read is read as the value that it begins with. -/
theorem reader_of_read {α : Type} {reader : Reader α} {s : String} {a : α}
    (h : read reader s = .ok a) : reader (scan s.toList).1 = .ok a := by
  unfold read at h
  dsimp only at h
  split at h
  · cases h
  · next b hb =>
    split at h
    · split at h
      · rw [hb, h]
      · cases h
    · cases h

end AccessGateway.JsonText
