import Mathlib.Tactic.SplitIfs
import NodeTelemetry.TextMap

/-!
# Texts in the order of their bytes

Texts are compared character by character. UTF-8 keeps this order: of two characters the smaller one has the smaller
first byte that is different, and no character's bytes are the beginning of another's. So a text is smaller
than another exactly when its bytes are.

## Main definitions

* `Text.bytes`: the bytes of a text in UTF-8.

## Main statements

* `Text.lt_iff_bytes_lt`, `Text.le_iff_bytes_le`: the order of texts is the order of their bytes.
-/

namespace NodeTelemetry.Text

/-- The bytes of a text in UTF-8. -/
def bytes (s : String) : List UInt8 :=
  s.toUTF8.data.toList

theorem bytes_eq (s : String) : bytes s = s.toList.flatMap String.utf8EncodeChar := by
  rw [bytes, String.toUTF8_eq_toByteArray, ← String.utf8Encode_toList, List.utf8Encode,
    List.toList_data_toByteArray]

/-- Numbers of 21 bits are compared like the digits that UTF-8 puts into four bytes. -/
theorem digits_lt {m n : Nat} (h : m < n) (hn : n < 2097152) :
    m / 262144 % 8 < n / 262144 % 8 ∨ m / 262144 % 8 = n / 262144 % 8 ∧
      (m / 4096 % 64 < n / 4096 % 64 ∨ m / 4096 % 64 = n / 4096 % 64 ∧
        (m / 64 % 64 < n / 64 % 64 ∨ m / 64 % 64 = n / 64 % 64 ∧ m % 64 < n % 64)) := by
  have hm : m = m / 262144 % 8 * 262144 + m / 4096 % 64 * 4096 + m / 64 % 64 * 64 + m % 64 := by
    omega
  have hn : n = n / 262144 % 8 * 262144 + n / 4096 % 64 * 4096 + n / 64 % 64 * 64 + n % 64 := by
    omega
  omega

/-- The bytes of a smaller character come before those of a greater one, whatever follows them. -/
theorem utf8EncodeChar_append_lt {c d : Char} (h : c < d) (u v : List UInt8) :
    String.utf8EncodeChar c ++ u < String.utf8EncodeChar d ++ v := by
  have hlt : c.val.toNat < d.val.toNat := h
  have hd : d.val.toNat < 0x110000 := by
    have := d.valid
    simp only [UInt32.isValidChar, Nat.isValidChar] at this
    omega
  simp only [String.utf8EncodeChar]
  generalize c.val.toNat = m at hlt ⊢
  generalize d.val.toNat = n at hlt hd ⊢
  -- up to three bytes the digits are few, and the first byte tells how many there are
  by_cases hm : m ≤ 0xffff
  · split_ifs
    all_goals
      simp only [List.cons_append, List.nil_append, List.cons_lt_cons_iff,
        UInt8.lt_iff_toNat_lt, ← UInt8.toNat_inj, UInt8.toNat_ofNat']
      omega
  · rw [if_neg (by omega), if_neg (by omega), if_neg hm, if_neg (by omega), if_neg (by omega),
      if_neg (by omega)]
    simp only [List.cons_append, List.nil_append, List.cons_lt_cons_iff,
      UInt8.lt_iff_toNat_lt, ← UInt8.toNat_inj, UInt8.toNat_ofNat']
    -- both characters have four bytes, and these are the digits of their numbers
    have hlead : ∀ k, (k % 8 + 240) % 2 ^ 8 = k % 8 + 240 := by omega
    have htail : ∀ k, (k % 64 + 128) % 2 ^ 8 = k % 64 + 128 := by omega
    simp only [hlead, htail, Nat.add_lt_add_iff_right, Nat.add_right_cancel_iff]
    rcases digits_lt hlt (by omega) with h | ⟨h₃, h | ⟨h₂, h | ⟨h₁, h⟩⟩⟩
    · exact .inl h
    · exact .inr ⟨h₃, .inl h⟩
    · exact .inr ⟨h₃, .inr ⟨h₂, .inl h⟩⟩
    · exact .inr ⟨h₃, .inr ⟨h₂, .inr ⟨h₁, .inl h⟩⟩⟩

theorem flatMap_utf8EncodeChar_lt {a b : List Char} (h : a < b) :
    a.flatMap String.utf8EncodeChar < b.flatMap String.utf8EncodeChar := by
  induction a generalizing b with
  | nil =>
    cases b with
    | nil => exact absurd h (List.lt_irrefl _)
    | cons d more =>
      obtain ⟨x, xs, hx⟩ := List.exists_cons_of_ne_nil (String.utf8EncodeChar_ne_nil (c := d))
      rw [List.flatMap_nil, List.flatMap_cons, hx, List.cons_append]
      exact List.nil_lt_cons _ _
  | cons c rest ih =>
    cases b with
    | nil => simp at h
    | cons d more =>
      rw [List.flatMap_cons, List.flatMap_cons]
      rcases List.cons_lt_cons_iff.1 h with hcd | ⟨rfl, hrest⟩
      · exact utf8EncodeChar_append_lt hcd _ _
      · exact List.append_left_lt (ih hrest)

theorem bytes_lt_of_lt {a b : String} (h : a < b) : bytes a < bytes b := by
  rw [bytes_eq, bytes_eq]
  exact flatMap_utf8EncodeChar_lt (String.lt_iff.1 h)

/-- A text is smaller than another exactly when its bytes are. -/
theorem lt_iff_bytes_lt (a b : String) : a < b ↔ bytes a < bytes b := by
  constructor
  · exact bytes_lt_of_lt
  · intro h
    by_cases hab : a < b
    · exact hab
    · rcases Decidable.em (b < a) with hba | hba
      · exact absurd h (List.lt_asymm (bytes_lt_of_lt hba))
      · rw [TextMap.eq_of_not_lt hab hba] at h
        exact absurd h (List.lt_irrefl _)

/-- A text is not greater than another exactly when its bytes are not. -/
theorem le_iff_bytes_le (a b : String) : a ≤ b ↔ bytes a ≤ bytes b := by
  rw [← String.not_lt, ← List.not_lt, lt_iff_bytes_lt]

end NodeTelemetry.Text
