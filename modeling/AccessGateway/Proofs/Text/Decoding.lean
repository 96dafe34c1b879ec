import AccessGateway.Text.Base64
import AccessGateway.Text.Utf8

/-
  Base64 and UTF-8 have one written form for everything that they write: a text is read as octets
  exactly if it is what they are written as (`Base64.decode?_eq_some_iff`), and octets are read as
  characters exactly if they are their UTF-8 (`Utf8.decode?_eq_some_iff`). So padding that is left
  out, bits that are left over, over-long forms and surrogates are all refused.
-/

namespace AccessGateway

namespace Base64

theorem eq_digit_of_value? {c : Char} {n : Nat} (h : value? c = some n) :
    n < 64 ∧ c = digit n := by
  have hletter : ∀ a b : Char, a ≤ b ↔ a.toNat ≤ b.toNat := fun a b => by
    rw [Char.le_def, UInt32.le_iff_toNat_le]; rfl
  have hc : Char.ofNat c.toNat = c := Char.ofNat_toNat c
  unfold value? at h
  simp only [hletter, show 'A'.toNat = 65 from rfl, show 'Z'.toNat = 90 from rfl,
    show 'a'.toNat = 97 from rfl, show 'z'.toNat = 122 from rfl, show '0'.toNat = 48 from rfl,
    show '9'.toNat = 57 from rfl] at h
  unfold digit
  split at h
  · next hcapital =>
    obtain rfl := Option.some.inj h
    refine ⟨by omega, ?_⟩
    rw [if_pos (by omega), Nat.add_sub_cancel' hcapital.1, hc]
  split at h
  · next hsmall =>
    obtain rfl := Option.some.inj h
    refine ⟨by omega, ?_⟩
    rw [if_neg (by omega), if_pos (by omega), Nat.add_sub_cancel, Nat.add_sub_cancel' hsmall.1, hc]
  split at h
  · next hdigit =>
    obtain rfl := Option.some.inj h
    refine ⟨by omega, ?_⟩
    rw [if_neg (by omega), if_neg (by omega), if_pos (by omega), Nat.add_sub_cancel,
      Nat.add_sub_cancel' hdigit.1, hc]
  split at h
  · next hplus =>
    obtain rfl := Option.some.inj h
    exact ⟨by decide, hplus⟩
  split at h
  · next hslash =>
    obtain rfl := Option.some.inj h
    exact ⟨by decide, hslash⟩
  · cases h

/-- A number that fits into an octet comes out of it again. -/
theorem toNat_octet {n : Nat} (h : n < 256) : (UInt8.ofNat n).toNat = n :=
  UInt8.toNat_ofNat_of_lt' h

theorem encode_of_oneOctet? {x y : Char} {bs : List UInt8} (h : oneOctet? x y = some bs) :
    [x, y, '=', '='] = encode bs := by
  unfold oneOctet? at h
  simp only [Option.bind_eq_bind, Option.bind_eq_some_iff] at h
  obtain ⟨a, hx, b, hy, h⟩ := h
  obtain ⟨ha, rfl⟩ := eq_digit_of_value? hx
  obtain ⟨hb, rfl⟩ := eq_digit_of_value? hy
  split at h
  · next hspare =>
    obtain rfl := Option.some.inj h
    have hoctet := toNat_octet (n := a * 4 + b / 16) (by omega)
    rw [encode, hoctet, show (a * 4 + b / 16) / 4 = a by omega,
      show (a * 4 + b / 16) % 4 * 16 = b by omega]
  · cases h

theorem encode_of_twoOctets? {x y z : Char} {bs : List UInt8} (h : twoOctets? x y z = some bs) :
    [x, y, z, '='] = encode bs := by
  unfold twoOctets? at h
  simp only [Option.bind_eq_bind, Option.bind_eq_some_iff] at h
  obtain ⟨a, hx, b, hy, c, hz, h⟩ := h
  obtain ⟨ha, rfl⟩ := eq_digit_of_value? hx
  obtain ⟨hb, rfl⟩ := eq_digit_of_value? hy
  obtain ⟨hc, rfl⟩ := eq_digit_of_value? hz
  split at h
  · next hspare =>
    obtain rfl := Option.some.inj h
    have hfirst := toNat_octet (n := a * 4 + b / 16) (by omega)
    have hsecond := toNat_octet (n := b % 16 * 16 + c / 4) (by omega)
    rw [encode, hfirst, hsecond, show (a * 4 + b / 16) / 4 = a by omega,
      show (a * 4 + b / 16) % 4 * 16 + (b % 16 * 16 + c / 4) / 16 = b by omega,
      show (b % 16 * 16 + c / 4) % 16 * 4 = c by omega]
  · cases h

theorem encode_of_threeOctets? {x y z w : Char} {bs rest : List UInt8}
    (h : threeOctets? x y z w = some bs) :
    x :: y :: z :: w :: encode rest = encode (bs ++ rest) := by
  unfold threeOctets? at h
  simp only [Option.bind_eq_bind, Option.bind_eq_some_iff] at h
  obtain ⟨a, hx, b, hy, c, hz, d, hw, h⟩ := h
  obtain ⟨ha, rfl⟩ := eq_digit_of_value? hx
  obtain ⟨hb, rfl⟩ := eq_digit_of_value? hy
  obtain ⟨hc, rfl⟩ := eq_digit_of_value? hz
  obtain ⟨hd, rfl⟩ := eq_digit_of_value? hw
  obtain rfl := Option.some.inj h
  have hfirst := toNat_octet (n := a * 4 + b / 16) (by omega)
  have hsecond := toNat_octet (n := b % 16 * 16 + c / 4) (by omega)
  have hthird := toNat_octet (n := c % 4 * 64 + d) (by omega)
  rw [List.cons_append, List.cons_append, List.cons_append, List.nil_append, encode, hfirst,
    hsecond, hthird, show (a * 4 + b / 16) / 4 = a by omega,
    show (a * 4 + b / 16) % 4 * 16 + (b % 16 * 16 + c / 4) / 16 = b by omega,
    show (b % 16 * 16 + c / 4) % 16 * 4 + (c % 4 * 64 + d) / 64 = c by omega,
    show (c % 4 * 64 + d) % 64 = d by omega]

/-- Octets are read from nothing but the text that they are written as. -/
theorem decode?_eq_some_iff {cs : List Char} {bs : List UInt8} :
    decode? cs = some bs ↔ cs = encode bs := by
  constructor
  · intro h
    fun_induction decode? cs generalizing bs with
    | case1 =>
      obtain rfl := Option.some.inj h
      rfl
    | case2 x y r hend =>
      rw [List.isEmpty_iff.1 hend]
      exact encode_of_oneOctet? h
    | case3 x y z r hend hz =>
      rw [List.isEmpty_iff.1 hend]
      exact encode_of_twoOctets? h
    | case4 => cases h
    | case5 x y z w r hw ih =>
      simp only [Option.bind_eq_bind, Option.bind_eq_some_iff] at h
      obtain ⟨group, hgroup, rest, hrest, h⟩ := h
      obtain rfl := Option.some.inj h
      rw [ih hrest]
      exact encode_of_threeOctets? hgroup
    | case6 => cases h
  · rintro rfl
    exact decode?_encode bs

end Base64

namespace Utf8

theorem toNat_ofNat {n : Nat} (h : n < 0xD800 ∨ (0xDFFF < n ∧ n < 0x110000)) :
    (Char.ofNat n).toNat = n := by
  rw [Char.ofNat, dif_pos h]
  rfl

theorem start_eq_whole {b : UInt8} {c : Char} (h : start b = .whole c) :
    b.toNat < 0x80 ∧ c = Char.ofNat b.toNat := by
  unfold start at h
  simp only at h
  split at h
  · next hb =>
    cases h
    exact ⟨hb, rfl⟩
  repeat
    split at h
    · cases h
  cases h

/-- What an octet starts inside a character: how many octets are owed, and from where to where
the first of them goes, which leaves out long forms and surrogates. -/
theorem start_eq_inside {b : UInt8} {s : State} (h : start b = .inside s) :
    (s = ⟨1, 0x80, 0xBF, b.toNat - 0xC0⟩ ∧ 0xC2 ≤ b.toNat ∧ b.toNat < 0xE0) ∨
      (∃ l m, s = ⟨2, l, m, b.toNat - 0xE0⟩ ∧ 0xE0 ≤ b.toNat ∧ b.toNat < 0xF0 ∧
        0x80 ≤ l ∧ m ≤ 0xBF ∧ (b.toNat = 0xE0 → 0xA0 ≤ l) ∧ (b.toNat = 0xED → m ≤ 0x9F)) ∨
      ∃ l m, s = ⟨3, l, m, b.toNat - 0xF0⟩ ∧ 0xF0 ≤ b.toNat ∧ b.toNat ≤ 0xF4 ∧
        0x80 ≤ l ∧ m ≤ 0xBF ∧ (b.toNat = 0xF0 → 0x90 ≤ l) ∧ (b.toNat = 0xF4 → m ≤ 0x8F) := by
  unfold start at h
  simp only at h
  split at h
  · cases h
  split at h
  · cases h
  split at h
  · cases h
    exact .inl ⟨rfl, by omega, by omega⟩
  split at h
  · next hb =>
    cases h
    exact .inr (.inl ⟨_, _, by rw [hb], by omega⟩)
  split at h
  · next hb =>
    cases h
    exact .inr (.inl ⟨_, _, by rw [hb], by omega⟩)
  split at h
  · cases h
    exact .inr (.inl ⟨_, _, rfl, by omega⟩)
  split at h
  · next hb =>
    cases h
    exact .inr (.inr ⟨_, _, by rw [hb], by omega⟩)
  split at h
  · cases h
    exact .inr (.inr ⟨_, _, rfl, by omega⟩)
  split at h
  · next hb =>
    cases h
    exact .inr (.inr ⟨_, _, by rw [hb], by omega⟩)
  · cases h

/-- The next octet of a character that owes more than one. -/
theorem scan_more {n l m v : Nat} {bs : Octets} {cs : List Char}
    (h : scan (some ⟨n + 2, l, m, v⟩) bs = cs.map some) :
    ∃ b r, bs = b :: r ∧ l ≤ b.toNat ∧ b.toNat ≤ m ∧
      scan (some ⟨n + 1, 0x80, 0xBF, v * 0x40 + (b.toNat - 0x80)⟩) r = cs.map some := by
  cases bs with
  | nil => cases cs <;> simp [scan] at h
  | cons b r =>
    by_cases hb : l ≤ b.toNat ∧ b.toNat ≤ m
    · rw [scan, if_pos hb] at h
      simp only at h
      rw [if_neg (by omega)] at h
      exact ⟨b, r, rfl, hb.1, hb.2, h⟩
    · rw [scan, if_neg hb] at h
      cases cs <;> split at h <;> simp at h

/-- The last octet of a character. -/
theorem scan_last {l m v : Nat} {bs : Octets} {c : Char} {cs : List Char}
    (h : scan (some ⟨1, l, m, v⟩) bs = (c :: cs).map some) :
    ∃ b r, bs = b :: r ∧ l ≤ b.toNat ∧ b.toNat ≤ m ∧
      c = Char.ofNat (v * 0x40 + (b.toNat - 0x80)) ∧ scan none r = cs.map some := by
  cases bs with
  | nil => simp [scan] at h
  | cons b r =>
    by_cases hb : l ≤ b.toNat ∧ b.toNat ≤ m
    · rw [scan, if_pos hb] at h
      simp only at h
      rw [if_pos (Nat.le_refl 1)] at h
      obtain ⟨hc, hr⟩ := List.cons.inj h
      exact ⟨b, r, rfl, hb.1, hb.2, (Option.some.inj hc).symm, hr⟩
    · rw [scan, if_neg hb] at h
      split at h <;> simp at h

theorem encodeChar_two {a b : UInt8} (ha : 0xC2 ≤ a.toNat ∧ a.toNat < 0xE0)
    (hb : 0x80 ≤ b.toNat ∧ b.toNat ≤ 0xBF) :
    encodeChar (Char.ofNat ((a.toNat - 0xC0) * 0x40 + (b.toNat - 0x80))) = [a, b] := by
  unfold encodeChar
  rw [toNat_ofNat (by omega)]
  simp only
  rw [if_neg (by omega), if_pos (by omega), Base64.ofNat_toNat_of_eq (b := a) (by omega),
    Base64.ofNat_toNat_of_eq (b := b) (by omega)]

theorem encodeChar_three {a b c : UInt8} (ha : 0xE0 ≤ a.toNat ∧ a.toNat < 0xF0)
    (hb : 0x80 ≤ b.toNat ∧ b.toNat ≤ 0xBF) (hc : 0x80 ≤ c.toNat ∧ c.toNat ≤ 0xBF)
    (hlong : a.toNat = 0xE0 → 0xA0 ≤ b.toNat) (hvalid : a.toNat = 0xED → b.toNat ≤ 0x9F) :
    encodeChar (Char.ofNat (((a.toNat - 0xE0) * 0x40 + (b.toNat - 0x80)) * 0x40 +
      (c.toNat - 0x80))) = [a, b, c] := by
  unfold encodeChar
  rw [toNat_ofNat (by omega)]
  simp only
  rw [if_neg (by omega), if_neg (by omega), if_pos (by omega),
    Base64.ofNat_toNat_of_eq (b := a) (by omega), Base64.ofNat_toNat_of_eq (b := b) (by omega),
    Base64.ofNat_toNat_of_eq (b := c) (by omega)]

theorem encodeChar_four {a b c d : UInt8} (ha : 0xF0 ≤ a.toNat ∧ a.toNat ≤ 0xF4)
    (hb : 0x80 ≤ b.toNat ∧ b.toNat ≤ 0xBF) (hc : 0x80 ≤ c.toNat ∧ c.toNat ≤ 0xBF)
    (hd : 0x80 ≤ d.toNat ∧ d.toNat ≤ 0xBF) (hlong : a.toNat = 0xF0 → 0x90 ≤ b.toNat)
    (hvalid : a.toNat = 0xF4 → b.toNat ≤ 0x8F) :
    encodeChar (Char.ofNat ((((a.toNat - 0xF0) * 0x40 + (b.toNat - 0x80)) * 0x40 +
      (c.toNat - 0x80)) * 0x40 + (d.toNat - 0x80))) = [a, b, c, d] := by
  unfold encodeChar
  rw [toNat_ofNat (by omega)]
  simp only
  rw [if_neg (by omega), if_neg (by omega), if_neg (by omega),
    Base64.ofNat_toNat_of_eq (b := a) (by omega), Base64.ofNat_toNat_of_eq (b := b) (by omega),
    Base64.ofNat_toNat_of_eq (b := c) (by omega), Base64.ofNat_toNat_of_eq (b := d) (by omega)]

/-- The octets of the first character that is read are those that it is written as. -/
theorem encodeChar_of_scan {bs : Octets} {c : Char} {cs : List Char}
    (h : scan none bs = (c :: cs).map some) :
    ∃ r, bs = encodeChar c ++ r ∧ scan none r = cs.map some := by
  cases bs with
  | nil => cases h
  | cons a bs =>
    rw [scan] at h
    cases hstart : start a with
    | invalid => simp [hstart] at h
    | whole d =>
      simp only [hstart] at h
      obtain ⟨hd, hr⟩ := List.cons.inj h
      obtain rfl := Option.some.inj hd
      obtain ⟨ha, rfl⟩ := start_eq_whole hstart
      refine ⟨bs, ?_, hr⟩
      rw [encodeChar, toNat_ofNat (by omega), if_pos ha, UInt8.ofNat_toNat]
      rfl
    | inside s =>
      simp only [hstart] at h
      rcases start_eq_inside hstart with ⟨rfl, ha⟩ | ⟨l, m, rfl, ha⟩ | ⟨l, m, rfl, ha⟩
      · obtain ⟨b, r, rfl, hl, hm, hc, hr⟩ := scan_last h
        refine ⟨r, ?_, hr⟩
        rw [hc, encodeChar_two ha ⟨hl, hm⟩]
        rfl
      · obtain ⟨b, r, rfl, hl, hm, h⟩ := scan_more h
        obtain ⟨d, r, rfl, hd, hd', hc, hr⟩ := scan_last h
        refine ⟨r, ?_, hr⟩
        rw [hc, encodeChar_three ⟨ha.1, ha.2.1⟩ (by omega) ⟨hd, hd'⟩ (by omega) (by omega)]
        rfl
      · obtain ⟨b, r, rfl, hl, hm, h⟩ := scan_more h
        obtain ⟨d, r, rfl, hd, hd', h⟩ := scan_more h
        obtain ⟨e, r, rfl, he, he', hc, hr⟩ := scan_last h
        refine ⟨r, ?_, hr⟩
        rw [hc, encodeChar_four ⟨ha.1, ha.2.1⟩ (by omega) ⟨hd, hd'⟩ ⟨he, he'⟩ (by omega)
          (by omega)]
        rfl

/-- A character that was begun ends somehow. -/
theorem scan_some_ne_nil (s : State) (bs : Octets) : scan (some s) bs ≠ [] := by
  induction bs generalizing s with
  | nil => exact List.cons_ne_nil _ _
  | cons b r ih =>
    rw [scan]
    split
    · simp only
      split
      · exact List.cons_ne_nil _ _
      · exact ih _
    · split <;> exact List.cons_ne_nil _ _

theorem scan_none_ne_nil (a : UInt8) (bs : Octets) : scan none (a :: bs) ≠ [] := by
  rw [scan]
  split
  · exact List.cons_ne_nil _ _
  · exact scan_some_ne_nil _ bs
  · exact List.cons_ne_nil _ _

theorem encode_of_scan {bs : Octets} {cs : List Char} (h : scan none bs = cs.map some) :
    bs = encode cs := by
  induction cs generalizing bs with
  | nil =>
    cases bs with
    | nil => rfl
    | cons a bs => exact absurd h (scan_none_ne_nil a bs)
  | cons c cs ih =>
    obtain ⟨r, rfl, hr⟩ := encodeChar_of_scan h
    rw [ih hr]
    rfl

theorem mapM_id_eq_some {os : List (Option Char)} {cs : List Char} (h : os.mapM id = some cs) :
    os = cs.map some := by
  induction os generalizing cs with
  | nil =>
    obtain rfl := Option.some.inj h
    rfl
  | cons o os ih =>
    simp only [List.mapM_cons, Option.bind_eq_bind, Option.bind_eq_some_iff] at h
    obtain ⟨c, hc, ds, hds, h⟩ := h
    obtain rfl := Option.some.inj h
    rw [show o = some c from hc, ih hds]
    rfl

/-- Characters are read from nothing but the octets that they are written as. -/
theorem decode?_eq_some_iff {bs : Octets} {cs : List Char} :
    decode? bs = some cs ↔ bs = encode cs := by
  constructor
  · intro h
    exact encode_of_scan (mapM_id_eq_some h)
  · rintro rfl
    exact decode?_encode cs

end Utf8
end AccessGateway
