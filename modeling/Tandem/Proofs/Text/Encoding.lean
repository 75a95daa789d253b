import Mathlib.Tactic
import Tandem.Text.Utf8

/-!
# Reading back what was encoded

The UTF-8 bytes of a character are one piece to a reader, whatever comes after them
(`pieces_encodeChar_append`): the first byte promises as many bytes as there are, and the narrowed
ranges for the second one leave out no character. So a text is shown as itself when its bytes are
(`lossy_encode`), and texts with the same bytes are the same (`encode_injective`).
-/

namespace Tandem.Utf8

variable {b : UInt8} {n : ℕ}

/-! ### Lead bytes -/

/-- One more byte is read if it lies in the range for it. -/
theorem follow_cons (need : ℕ) {low high : UInt8} (hlow : low.toNat ≤ b.toNat)
    (hhigh : b.toNat ≤ high.toNat) (value : ℕ) (seen rest : Bytes) :
    follow (need + 1) low high value seen (b :: rest)
      = follow need 0x80 0xBF (value * 64 + (b.toNat - 0x80)) (b :: seen) rest := by
  have hin : (low ≤ b && b ≤ high) = true := by
    simp [UInt8.le_iff_toNat_le, hlow, hhigh]
  simp only [follow, if_pos hin]

theorem next_of_lead {lead : Lead} (h : Lead.ofByte? b = some lead) (hb : 0x80 ≤ b.toNat)
    (rest : Bytes) :
    next b rest = follow lead.more lead.low lead.high lead.value [b] rest := by
  have hlt : ¬ b < 0x80 := by
    rw [UInt8.lt_iff_toNat_lt]
    exact Nat.not_lt.mpr hb
  rw [next, if_neg hlt, h]

/-- The first byte of two. -/
theorem Lead.ofByte?_two (hlow : 0xC2 ≤ b.toNat) (hhigh : b.toNat ≤ 0xDF) :
    Lead.ofByte? b = some ⟨1, 0x80, 0xBF, b.toNat - 0xC0⟩ := by
  have hin : (0xC2 ≤ b && b ≤ 0xDF) = true := by simp [UInt8.le_iff_toNat_le, hlow, hhigh]
  rw [Lead.ofByte?, if_pos hin]

/-- The first byte of three. It leaves out overlong forms and surrogates, and nothing else. -/
theorem Lead.exists_ofByte?_three (hlow : 0xE0 ≤ b.toNat) (hhigh : b.toNat ≤ 0xEF)
    (hn : 0x80 ≤ n ∧ n ≤ 0xBF) (hshort : b.toNat = 0xE0 → 0xA0 ≤ n)
    (hsurrogate : b.toNat = 0xED → n ≤ 0x9F) :
    ∃ low high, Lead.ofByte? b = some ⟨2, low, high, b.toNat - 0xE0⟩ ∧
      low.toNat ≤ n ∧ n ≤ high.toNat := by
  have htwo : ¬ (0xC2 ≤ b && b ≤ 0xDF) = true := by
    simp only [UInt8.le_iff_toNat_le, UInt8.reduceToNat, Bool.and_eq_true, decide_eq_true_eq]
    omega
  rw [Lead.ofByte?, if_neg htwo]
  by_cases hE0 : b = 0xE0
  · subst hE0
    exact ⟨0xA0, 0xBF, rfl, hshort rfl, hn.2⟩
  by_cases hED : b = 0xED
  · subst hED
    exact ⟨0x80, 0x9F, rfl, hn.1, hsurrogate rfl⟩
  have hin : (0xE1 ≤ b && b ≤ 0xEF) = true := by
    have hne : b.toNat ≠ 0xE0 := fun h => hE0 (UInt8.toNat_inj.mp h)
    simp only [UInt8.le_iff_toNat_le, UInt8.reduceToNat, Bool.and_eq_true, decide_eq_true_eq]
    omega
  rw [if_neg hE0, if_neg hED, if_pos hin]
  exact ⟨0x80, 0xBF, rfl, hn.1, hn.2⟩

/-- The first byte of four. It leaves out overlong forms and what is past the last character. -/
theorem Lead.exists_ofByte?_four (hlow : 0xF0 ≤ b.toNat) (hhigh : b.toNat ≤ 0xF4)
    (hn : 0x80 ≤ n ∧ n ≤ 0xBF) (hshort : b.toNat = 0xF0 → 0x90 ≤ n)
    (hlast : b.toNat = 0xF4 → n ≤ 0x8F) :
    ∃ low high, Lead.ofByte? b = some ⟨3, low, high, b.toNat - 0xF0⟩ ∧
      low.toNat ≤ n ∧ n ≤ high.toNat := by
  have hb : b = UInt8.ofNat b.toNat := UInt8.ofNat_toNat.symm
  generalize b.toNat = m at *
  subst hb
  obtain rfl | hmiddle | rfl : m = 0xF0 ∨ (m = 0xF1 ∨ m = 0xF2 ∨ m = 0xF3) ∨ m = 0xF4 := by
    omega
  · exact ⟨0x90, 0xBF, rfl, hshort rfl, hn.2⟩
  · refine ⟨0x80, 0xBF, ?_, hn.1, hn.2⟩
    rcases hmiddle with rfl | rfl | rfl <;> rfl
  · exact ⟨0x80, 0x8F, rfl, hn.1, hlast rfl⟩

/-! ### Characters -/

variable {v : ℕ} {b₁ b₂ b₃ : UInt8}

/-- A byte that follows lies in the widest range. -/
theorem follow_mod (need : ℕ) (h : b.toNat = v % 64 + 0x80) (value : ℕ) (seen rest : Bytes) :
    follow (need + 1) 0x80 0xBF value seen (b :: rest)
      = follow need 0x80 0xBF (value * 64 + v % 64) (b :: seen) rest := by
  have hlow : (0x80 : UInt8).toNat ≤ b.toNat := by simp [h]
  have hhigh : b.toNat ≤ (0xBF : UInt8).toNat := by
    rw [h]
    exact Nat.add_le_add_right (Nat.le_of_lt_succ (Nat.mod_lt v (by decide))) 0x80
  rw [follow_cons need hlow hhigh, h, Nat.add_sub_cancel]

theorem next_two (h : 0x80 ≤ v ∧ v < 0x800) (hb : b.toNat = v / 64 + 0xC0)
    (hb₁ : b₁.toNat = v % 64 + 0x80) (rest : Bytes) :
    next b (b₁ :: rest) = (.scalar (Char.ofNat v), rest) := by
  have hvalue : (b.toNat - 0xC0) * 64 + v % 64 = v := by omega
  rw [next_of_lead (Lead.ofByte?_two (by omega) (by omega)) (by omega), follow_mod 0 hb₁, hvalue,
    follow]

theorem next_three (h : 0x800 ≤ v ∧ v < 0x10000) (hvalid : v < 0xD800 ∨ 0xDFFF < v)
    (hb : b.toNat = v / 4096 + 0xE0) (hb₁ : b₁.toNat = v / 64 % 64 + 0x80)
    (hb₂ : b₂.toNat = v % 64 + 0x80) (rest : Bytes) :
    next b (b₁ :: b₂ :: rest) = (.scalar (Char.ofNat v), rest) := by
  obtain ⟨low, high, hlead, hlow, hhigh⟩ := Lead.exists_ofByte?_three (b := b) (n := b₁.toNat)
    (by omega) (by omega) (by omega) (by omega) (by omega)
  have hvalue : ((b.toNat - 0xE0) * 64 + (b₁.toNat - 0x80)) * 64 + v % 64 = v := by omega
  rw [next_of_lead hlead (by omega), follow_cons 1 hlow hhigh, follow_mod 0 hb₂, hvalue, follow]

theorem next_four (h : 0x10000 ≤ v ∧ v < 0x110000) (hb : b.toNat = v / 262144 + 0xF0)
    (hb₁ : b₁.toNat = v / 4096 % 64 + 0x80) (hb₂ : b₂.toNat = v / 64 % 64 + 0x80)
    (hb₃ : b₃.toNat = v % 64 + 0x80) (rest : Bytes) :
    next b (b₁ :: b₂ :: b₃ :: rest) = (.scalar (Char.ofNat v), rest) := by
  obtain ⟨low, high, hlead, hlow, hhigh⟩ := Lead.exists_ofByte?_four (b := b) (n := b₁.toNat)
    (by omega) (by omega) (by omega) (by omega) (by omega)
  have hvalue : (((b.toNat - 0xF0) * 64 + (b₁.toNat - 0x80)) * 64 + v / 64 % 64) * 64 + v % 64
      = v := by omega
  rw [next_of_lead hlead (by omega), follow_cons 2 hlow hhigh, follow_mod 1 hb₂, follow_mod 0 hb₃,
    hvalue, follow]

/-- **The bytes of a character are read as this character.** -/
theorem pieces_encodeChar_append (c : Char) (rest : Bytes) :
    pieces (String.utf8EncodeChar c ++ rest) = .scalar c :: pieces rest := by
  suffices hnext : ∃ b tail, String.utf8EncodeChar c ++ rest = b :: tail ∧
      next b tail = (.scalar (Char.ofNat c.toNat), rest) by
    obtain ⟨b, tail, heq, hnext⟩ := hnext
    rw [heq, pieces, hnext, Char.ofNat_toNat]
  have hvalid : c.toNat < 0xD800 ∨ 0xDFFF < c.toNat ∧ c.toNat < 0x110000 := c.valid
  have hbyte (k : ℕ) (hk : k < 256) : (UInt8.ofNat k).toNat = k := by
    rw [UInt8.toNat_ofNat', Nat.mod_eq_of_lt hk]
  rw [String.utf8EncodeChar, show c.val.toNat = c.toNat from rfl]
  generalize c.toNat = v at hvalid
  -- one case for each number of bytes, and the bytes as numbers
  by_cases hone : v ≤ 0x7F
  · rw [if_pos hone]
    have hlt : UInt8.ofNat v < 0x80 := by
      rw [UInt8.lt_iff_toNat_lt, hbyte v (by omega)]
      exact Nat.lt_succ_of_le hone
    refine ⟨_, _, rfl, ?_⟩
    rw [next, if_pos hlt, hbyte v (by omega)]
    rfl
  rw [if_neg hone]
  by_cases htwo : v ≤ 0x7FF
  · rw [if_pos htwo]
    refine ⟨_, _, rfl, next_two (by omega) ?_ (hbyte _ (by omega)) rest⟩
    rw [hbyte _ (by omega)]
    omega
  rw [if_neg htwo]
  by_cases hthree : v ≤ 0xFFFF
  · rw [if_pos hthree]
    refine ⟨_, _, rfl, next_three (by omega) (by omega) ?_ (hbyte _ (by omega))
      (hbyte _ (by omega)) rest⟩
    rw [hbyte _ (by omega)]
    omega
  rw [if_neg hthree]
  refine ⟨_, _, rfl, next_four (by omega) ?_ (hbyte _ (by omega)) (hbyte _ (by omega))
    (hbyte _ (by omega)) rest⟩
  rw [hbyte _ (by omega)]
  omega

/-! ### Texts -/

theorem pieces_encode (s : String) : pieces (encode s) = s.toList.map .scalar := by
  rw [encode]
  induction s.toList with
  | nil => rw [List.flatMap_nil, pieces, List.map_nil]
  | cons c cs ih => rw [List.flatMap_cons, pieces_encodeChar_append, ih, List.map_cons]

/-- **A text is shown as itself.** -/
theorem lossy_encode (s : String) : lossy (encode s) = s := by
  have hshown : Piece.shown ∘ Piece.scalar = id := rfl
  rw [lossy, pieces_encode, List.map_map, hshown, List.map_id, String.ofList_toList]

/-- Texts with the same bytes are the same. -/
theorem encode_injective : Function.Injective encode :=
  Function.LeftInverse.injective lossy_encode

theorem encode_append (s t : String) : encode (s ++ t) = encode s ++ encode t := by
  rw [encode, String.toList_append, List.flatMap_append, ← encode, ← encode]

/-! ### Byte strings that encode a text -/

/-- The byte string is the encoding of some text. -/
def IsText (bs : Bytes) : Prop := ∃ s, encode s = bs

theorem isText_encode (s : String) : IsText (encode s) := ⟨s, rfl⟩

section IsText

variable {as bs : Bytes}

/-- Nothing in the encoding of a text is ill-formed. -/
theorem IsText.isValid (h : IsText bs) : isValid bs = true := by
  obtain ⟨s, rfl⟩ := h
  rw [Utf8.isValid, pieces_encode, List.all_map, List.all_eq_true]
  exact fun _ _ => rfl

/-- What is shown of the encoding of a text has this encoding. -/
theorem IsText.encode_lossy (h : IsText bs) : encode (lossy bs) = bs := by
  obtain ⟨s, rfl⟩ := h
  rw [lossy_encode]

theorem IsText.append (has : IsText as) (hbs : IsText bs) : IsText (as ++ bs) := by
  obtain ⟨s, rfl⟩ := has
  obtain ⟨t, rfl⟩ := hbs
  exact ⟨s ++ t, encode_append s t⟩

theorem isText_flatMap {α : Type} {f : α → Bytes} {xs : List α} (h : ∀ x ∈ xs, IsText (f x)) :
    IsText (xs.flatMap f) := by
  induction xs with
  | nil => exact isText_encode ""
  | cons x xs ih =>
    rw [List.forall_mem_cons] at h
    exact h.1.append (ih h.2)

theorem isText_encodeChar (c : Char) : IsText (String.utf8EncodeChar c) := by
  refine ⟨String.ofList [c], ?_⟩
  rw [encode, String.toList_ofList, List.flatMap_singleton]

/-- Bytes below `0x80` are a text as they are. -/
theorem isText_of_lt (h : ∀ b ∈ bs, b < 0x80) : IsText bs := by
  rw [← List.flatMap_singleton' bs]
  refine isText_flatMap fun b hb => ?_
  have hlt : b.toNat < 0x80 := UInt8.lt_iff_toNat_lt.mp (h b hb)
  have hc : (Char.ofNat b.toNat).toNat = b.toNat := by
    rw [Char.ofNat, dif_pos (.inl (by omega))]
    rfl
  have hbyte : String.utf8EncodeChar (Char.ofNat b.toNat) = [b] := by
    rw [String.utf8EncodeChar, show (Char.ofNat b.toNat).val.toNat = b.toNat from hc,
      if_pos (by omega), UInt8.ofNat_toNat]
  exact hbyte ▸ isText_encodeChar _

end IsText

/-- **No byte of a longer character stands for a character of its own.** -/
theorem encodeChar_eq_singleton_or (c : Char) :
    (∃ b, String.utf8EncodeChar c = [b]) ∨ ∀ b ∈ String.utf8EncodeChar c, 0x80 ≤ b := by
  have hbyte (k : ℕ) (hlow : 0x80 ≤ k) (hhigh : k < 256) : 0x80 ≤ UInt8.ofNat k := by
    rw [UInt8.le_iff_toNat_le, UInt8.toNat_ofNat', Nat.mod_eq_of_lt hhigh]
    exact hlow
  have hvalid : c.toNat < 0xD800 ∨ 0xDFFF < c.toNat ∧ c.toNat < 0x110000 := c.valid
  rw [String.utf8EncodeChar, show c.val.toNat = c.toNat from rfl]
  generalize c.toNat = v at hvalid
  split
  · exact .inl ⟨_, rfl⟩
  refine .inr fun b hb => ?_
  split_ifs at hb <;> simp only [List.mem_cons, List.not_mem_nil, or_false] at hb
  · rcases hb with rfl | rfl <;> exact hbyte _ (by omega) (by omega)
  · rcases hb with rfl | rfl | rfl <;> exact hbyte _ (by omega) (by omega)
  · rcases hb with rfl | rfl | rfl | rfl <;> exact hbyte _ (by omega) (by omega)

end Tandem.Utf8
