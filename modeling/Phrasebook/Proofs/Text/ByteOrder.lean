import Mathlib

/-!
# Order by characters and order by bytes

Texts are compared character by character. To compare the bytes of their UTF-8
forms comes to the same: the greater of two characters has the greater first
byte or, with equal first bytes, as many bytes and the greater digit where they
first differ.
-/

namespace Phrasebook
namespace Text

def bytes (s : String) : List UInt8 :=
  s.toUTF8.data.toList

theorem bytes_eq_flatMap (s : String) :
    bytes s = s.toList.flatMap String.utf8EncodeChar := by
  rw [bytes, String.toUTF8_eq_toByteArray, ← String.utf8Encode_toList,
    List.utf8Encode, List.data_toByteArray]

/-! ## Bytes of a character -/

theorem ofNat_lt_ofNat {m n : Nat} (h : m < n) (hn : n < 256) :
    UInt8.ofNat m < UInt8.ofNat n := by
  rw [UInt8.lt_iff_toNat_lt, UInt8.toNat_ofNat_of_lt' (h.trans hn),
    UInt8.toNat_ofNat_of_lt' hn]
  exact h

/-- The last `k` digits of a number to the base 64, each as a byte behind the
first of a character. -/
def continuation : (k : Nat) → Nat → List UInt8
  | 0, _ => []
  | k + 1, n => UInt8.ofNat (n / 64 ^ k % 64 + 128) :: continuation k n

theorem continuation_append_lt {k m n : Nat} (htop : m / 64 ^ k = n / 64 ^ k)
    (h : m < n)
    (s t : List UInt8) : continuation k m ++ s < continuation k n ++ t := by
  induction k with
  | zero =>
      rw [pow_zero, Nat.div_one, Nat.div_one] at htop
      omega
  | succ k ih =>
      have hle : m / 64 ^ k ≤ n / 64 ^ k := Nat.div_le_div_right h.le
      rw [pow_succ, ← Nat.div_div_eq_div_mul, ← Nat.div_div_eq_div_mul] at htop
      rw [continuation, continuation, List.cons_append, List.cons_append,
        List.cons_lt_cons_iff]
      rcases hle.lt_or_eq with hlt | heq
      · exact .inl (ofNat_lt_ofNat (by omega) (by omega))
      · exact .inr ⟨by rw [heq], ih heq⟩

/-- The first byte of a character tells how many follow it. -/
theorem exists_utf8EncodeChar (c : Char) :
    ∃ k lead, String.utf8EncodeChar c =
        UInt8.ofNat (c.toNat / 64 ^ k + lead) :: continuation k c.toNat ∧
      (k = 0 ∧ lead = 0 ∧ c.toNat < 128 ∨
        k = 1 ∧ lead = 192 ∧ 128 ≤ c.toNat ∧ c.toNat < 2048 ∨
        k = 2 ∧ lead = 224 ∧ 2048 ≤ c.toNat ∧ c.toNat < 65536 ∨
        k = 3 ∧ lead = 240 ∧ 65536 ≤ c.toNat ∧ c.toNat < 1114112) := by
  have hlt : c.toNat < 1114112 := by
    rcases c.valid with h | ⟨-, h⟩
    · exact h.trans (by decide)
    · exact h
  have htoNat : c.val.toNat = c.toNat := rfl
  unfold String.utf8EncodeChar
  simp only [htoNat]
  split_ifs with h1 h2 h3
  · exact ⟨0, 0, by simp [continuation], by omega⟩
  · exact ⟨1, 192, by
      simp [continuation, Nat.mod_eq_of_lt (by omega : c.toNat / 64 < 32)],
      by omega⟩
  · exact ⟨2, 224, by
      simp [continuation, Nat.mod_eq_of_lt (by omega : c.toNat / 4096 < 16)],
      by omega⟩
  · exact ⟨3, 240, by
      simp [continuation, Nat.mod_eq_of_lt (by omega : c.toNat / 262144 < 8)],
      by omega⟩

theorem utf8EncodeChar_append_lt {c d : Char} (h : c < d) (s t : List UInt8) :
    String.utf8EncodeChar c ++ s < String.utf8EncodeChar d ++ t := by
  have hlt : c.toNat < d.toNat := h
  obtain ⟨k, lead, hc, hk⟩ := exists_utf8EncodeChar c
  obtain ⟨k', lead', hd, hk'⟩ := exists_utf8EncodeChar d
  have hfirst : c.toNat / 64 ^ k + lead < d.toNat / 64 ^ k' + lead' ∨
      k = k' ∧ lead = lead' ∧ c.toNat / 64 ^ k = d.toNat / 64 ^ k := by
    rcases hk with ⟨rfl, rfl, hk⟩ | ⟨rfl, rfl, hk⟩ | ⟨rfl, rfl, hk⟩ |
      ⟨rfl, rfl, hk⟩ <;>
      rcases hk' with ⟨rfl, rfl, hk'⟩ | ⟨rfl, rfl, hk'⟩ | ⟨rfl, rfl, hk'⟩ |
        ⟨rfl, rfl, hk'⟩ <;>
      omega
  have hbyte : d.toNat / 64 ^ k' + lead' < 256 := by
    rcases hk' with ⟨rfl, rfl, hk'⟩ | ⟨rfl, rfl, hk'⟩ | ⟨rfl, rfl, hk'⟩ |
      ⟨rfl, rfl, hk'⟩ <;> omega
  rw [hc, hd, List.cons_append, List.cons_append, List.cons_lt_cons_iff]
  rcases hfirst with hfirst | ⟨rfl, rfl, htop⟩
  · exact .inl (ofNat_lt_ofNat hfirst hbyte)
  · exact .inr ⟨by rw [htop], continuation_append_lt htop hlt s t⟩

/-! ## Bytes of a text -/

theorem flatMap_utf8EncodeChar_lt {s t : List Char} (h : s < t) :
    s.flatMap String.utf8EncodeChar < t.flatMap String.utf8EncodeChar := by
  induction h with
  | @nil c t =>
      obtain ⟨byte, rest, hc⟩ :=
        List.exists_cons_of_ne_nil (String.utf8EncodeChar_ne_nil (c := c))
      rw [List.flatMap_nil, List.flatMap_cons, hc]
      exact List.nil_lt_cons _ _
  | rel hcd => exact utf8EncodeChar_append_lt hcd _ _
  | cons _ ih =>
      rw [List.flatMap_cons, List.flatMap_cons]
      exact List.append_left_lt ih

/-- A text is before another just where its bytes are. -/
theorem bytes_lt_bytes {s t : String} : bytes s < bytes t ↔ s < t := by
  have hbytes : ∀ {s t : String}, s < t → bytes s < bytes t := by
    intro s t h
    rw [bytes_eq_flatMap, bytes_eq_flatMap]
    exact flatMap_utf8EncodeChar_lt (String.lt_iff_toList_lt.mp h)
  refine ⟨fun h => ?_, hbytes⟩
  rcases lt_trichotomy s t with hlt | rfl | hgt
  · exact hlt
  · exact absurd h (List.lt_irrefl _)
  · exact absurd (hbytes hgt) (List.lt_asymm h)

theorem bytes_le_bytes {s t : String} : bytes s ≤ bytes t ↔ s ≤ t :=
  not_congr bytes_lt_bytes

end Text
end Phrasebook
