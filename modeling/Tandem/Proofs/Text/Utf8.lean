import Mathlib
import Tandem.Text.Utf8

/-!
# Reading single-byte characters

A byte below `0x80` stands for the character of the same number, whatever comes after it
(`next_of_lt`). No longer sequence stands for such a character: what follows a lead byte brings the
value to `0x80` or more (`le_of_follow`), so a character below `0x80` comes from its own byte only
(`eq_of_next`). A reader that looks for one of these characters need not know the rest of UTF-8.
-/

namespace Tandem.Utf8

variable {b : UInt8} {rest rest' : Bytes} {c : Char}

theorem next_of_lt (h : b < 0x80) (rest : Bytes) :
    next b rest = (.scalar (Char.ofNat b.toNat), rest) := by
  rw [next, if_pos h]

/-- What reading on takes from the bytes that follow. -/
theorem exists_of_follow {need : ℕ} {low high : UInt8} {value : ℕ} {seen : Bytes}
    (h : follow (need + 1) low high value seen rest = (.scalar c, rest')) :
    ∃ b tail, low.toNat ≤ b.toNat ∧
      follow need 0x80 0xBF (value * 64 + (b.toNat - 0x80)) (b :: seen) tail
        = (.scalar c, rest') := by
  cases rest with
  | nil => simp [follow] at h
  | cons b tail =>
    simp only [follow] at h
    split at h
    · rename_i hb
      obtain ⟨hlow, -⟩ : low ≤ b ∧ b ≤ high := by simpa using hb
      exact ⟨b, tail, UInt8.le_iff_toNat_le.mp hlow, h⟩
    · simp at h

/-- Bytes that follow make the value only larger; the first of them counts from `low` on. -/
theorem le_of_follow {need : ℕ} {low high : UInt8} {value : ℕ} {seen : Bytes}
    (h : follow (need + 1) low high value seen rest = (.scalar c, rest')) :
    ∃ n, c = Char.ofNat n ∧ (value * 64 + (low.toNat - 0x80)) * 64 ^ need ≤ n := by
  induction need generalizing low high value seen rest with
  | zero =>
    obtain ⟨b, tail, hlow, h⟩ := exists_of_follow h
    simp only [follow, Prod.mk.injEq, Piece.scalar.injEq] at h
    exact ⟨_, h.1.symm, by omega⟩
  | succ need ih =>
    obtain ⟨b, tail, hlow, h⟩ := exists_of_follow h
    obtain ⟨n, hc, hn⟩ := ih h
    -- one byte more makes the value at least 64 times as large
    have hstep : value * 64 + (low.toNat - 0x80)
        ≤ (value * 64 + (b.toNat - 0x80)) * 64 + ((0x80 : UInt8).toNat - 0x80) := by omega
    refine ⟨n, hc, le_trans ?_ hn⟩
    rw [pow_succ', ← mul_assoc]
    exact Nat.mul_le_mul_right _ (by omega)

/-- A lead byte promises more bytes, and a value of at least `0x80`. -/
theorem Lead.le_of_ofByte? {lead : Lead} (h : Lead.ofByte? b = some lead) :
    ∃ need, lead.more = need + 1 ∧
      0x80 ≤ (lead.value * 64 + (lead.low.toNat - 0x80)) * 64 ^ need := by
  simp only [Lead.ofByte?] at h
  split at h
  · rename_i hb
    obtain ⟨hlow, -⟩ : 0xC2 ≤ b ∧ b ≤ 0xDF := by simpa using hb
    have hle := UInt8.le_iff_toNat_le.mp hlow
    cases h
    exact ⟨0, rfl, by simp at hle ⊢; omega⟩
  split at h
  · cases h; exact ⟨1, rfl, by decide⟩
  split at h
  · cases h; exact ⟨1, rfl, by decide⟩
  split at h
  · rename_i hb
    obtain ⟨hlow, -⟩ : 0xE1 ≤ b ∧ b ≤ 0xEF := by simpa using hb
    have hle := UInt8.le_iff_toNat_le.mp hlow
    cases h
    exact ⟨1, rfl, by simp at hle ⊢; omega⟩
  split at h
  · cases h; exact ⟨2, rfl, by decide⟩
  split at h
  · rename_i hb
    obtain ⟨hlow, -⟩ : 0xF1 ≤ b ∧ b ≤ 0xF3 := by simpa using hb
    have hle := UInt8.le_iff_toNat_le.mp hlow
    cases h
    exact ⟨2, rfl, by simp at hle ⊢; omega⟩
  split at h
  · cases h; exact ⟨2, rfl, by decide⟩
  · simp at h

/-- The character of a number has that number, unless there is no such character. -/
theorem toNat_ofNat_eq_or (n : ℕ) : (Char.ofNat n).toNat = n ∨ (Char.ofNat n).toNat = 0 := by
  rw [Char.toNat_ofNat]
  split
  · exact .inl rfl
  · exact .inr rfl

/-- **A character below `0x80` is read from its own byte only.** The character `0` is left out, as it
is also what the library makes of a number without a character. -/
theorem eq_of_next (h : next b rest = (.scalar c, rest')) (hpos : 0 < c.toNat)
    (hc : c.toNat < 0x80) : b.toNat = c.toNat ∧ rest' = rest := by
  rw [next] at h
  split at h
  · simp only [Prod.mk.injEq, Piece.scalar.injEq] at h
    obtain ⟨rfl, rfl⟩ := h
    have := toNat_ofNat_eq_or b.toNat
    exact ⟨by omega, rfl⟩
  split at h
  · rename_i lead hlead
    obtain ⟨need, hmore, hle⟩ := Lead.le_of_ofByte? hlead
    rw [hmore] at h
    -- a longer sequence would stand for a number from `0x80` on
    obtain ⟨n, rfl, hn⟩ := le_of_follow h
    have := toNat_ofNat_eq_or n
    omega
  · simp at h

end Tandem.Utf8
