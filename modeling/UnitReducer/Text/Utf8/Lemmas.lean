import UnitReducer.Text.Utf8
/-!
# UTF-8: reading back what was written, and writing back what was read

`decode_encode` says that the strict decoder accepts every encoded text and yields it unchanged,
`encode_of_decode` that it accepts nothing else: what it yields is written as the bytes it read.
-/

namespace UnitReducer.Utf8

private theorem toNat_ofNat {n : Nat} (h : n < 256) : (UInt8.ofNat n).toNat = n := by
  simpa using Nat.mod_eq_of_lt h

private theorem continuation_eq {b : UInt8} :
    continuation b = true ↔ 0x80 ≤ b.toNat ∧ b.toNat ≤ 0xBF := by
  simp [continuation, UInt8.le_iff_toNat_le]

private theorem second_eq {lead b : UInt8} :
    second lead b = true ↔ (0x80 ≤ b.toNat ∧ b.toNat ≤ 0xBF) ∧
      (lead.toNat = 0xE0 → 0xA0 ≤ b.toNat) ∧ (lead.toNat = 0xED → b.toNat < 0xA0) ∧
      (lead.toNat = 0xF0 → 0x90 ≤ b.toNat) ∧ (lead.toNat = 0xF4 → b.toNat < 0x90) := by
  simp only [second, Bool.and_eq_true, continuation_eq, Bool.or_eq_true, bne_iff_ne, ne_eq,
    decide_eq_true_eq, UInt8.le_iff_toNat_le, UInt8.lt_iff_toNat_lt, ← UInt8.toNat_inj,
    and_assoc]
  simp only [UInt8.reduceToNat, Decidable.imp_iff_not_or]

private theorem gather_succ {need size n : Nat} {ok : UInt8 → Bool} {b : UInt8} (bs : Bytes)
    (h : ok b = true) :
    gather (need + 1) size n ok (b :: bs) =
      gather need (size + 1) (0x40 * n + b.toNat % 0x40) continuation bs := by
  rw [gather, if_pos h]

private theorem head_two {lead : UInt8} {bs : Bytes} (h : 0xC2 ≤ lead.toNat ∧ lead.toNat < 0xE0) :
    head lead bs = gather 1 1 (lead.toNat - 0xC0) (second lead) bs := by
  simp only [head]
  rw [if_neg (by omega), if_neg (by omega), if_pos (by omega)]

private theorem head_three {lead : UInt8} {bs : Bytes}
    (h : 0xE0 ≤ lead.toNat ∧ lead.toNat < 0xF0) :
    head lead bs = gather 2 1 (lead.toNat - 0xE0) (second lead) bs := by
  simp only [head]
  rw [if_neg (by omega), if_neg (by omega), if_neg (by omega), if_pos (by omega)]

private theorem head_four {lead : UInt8} {bs : Bytes} (h : 0xF0 ≤ lead.toNat ∧ lead.toNat < 0xF5) :
    head lead bs = gather 3 1 (lead.toNat - 0xF0) (second lead) bs := by
  simp only [head]
  rw [if_neg (by omega), if_neg (by omega), if_neg (by omega), if_neg (by omega),
    if_pos (by omega)]

theorem head_encodeChar (c : Char) (rest : Bytes) :
    ∃ lead more, encodeChar c = lead :: more ∧
      head lead (more ++ rest) = .char c (more.length + 1) := by
  have hvalid : c.toNat < 0xD800 ∨ 0xDFFF < c.toNat ∧ c.toNat < 0x110000 := c.valid
  have hc : Char.ofNat c.toNat = c := Char.ofNat_toNat c
  have hbyte : ∀ n < 0x40, (UInt8.ofNat (0x80 + n)).toNat = 0x80 + n :=
    fun n hn => toNat_ofNat (by omega)
  simp only [encodeChar]
  generalize c.toNat = n at hvalid hc
  have h0 := hbyte (n % 0x40) (by omega)
  have h1 := hbyte (n / 0x40 % 0x40) (by omega)
  have h2 := hbyte (n / 0x1000 % 0x40) (by omega)
  split
  next h =>
    refine ⟨_, _, rfl, ?_⟩
    simp only [head, toNat_ofNat (show n < 256 by omega), if_pos h, hc]
    rfl
  next h =>
  split
  next h' =>
    refine ⟨_, _, rfl, ?_⟩
    have hlead := toNat_ofNat (show 0xC0 + n / 0x40 < 256 by omega)
    rw [head_two (by omega), List.cons_append, gather_succ _ (second_eq.2 (by omega)), gather,
      hlead, h0, show 0x40 * (0xC0 + n / 0x40 - 0xC0) + (0x80 + n % 0x40) % 0x40 = n by omega, hc]
    rfl
  next h' =>
  split
  next h'' =>
    refine ⟨_, _, rfl, ?_⟩
    have hlead := toNat_ofNat (show 0xE0 + n / 0x1000 < 256 by omega)
    rw [head_three (by omega), List.cons_append, gather_succ _ (second_eq.2 (by omega)),
      List.cons_append, gather_succ _ (continuation_eq.2 (by omega)), gather, hlead, h0, h1,
      show 0x40 * (0x40 * (0xE0 + n / 0x1000 - 0xE0) + (0x80 + n / 0x40 % 0x40) % 0x40) +
        (0x80 + n % 0x40) % 0x40 = n by omega, hc]
    rfl
  next h'' =>
    refine ⟨_, _, rfl, ?_⟩
    have hlead := toNat_ofNat (show 0xF0 + n / 0x40000 < 256 by omega)
    rw [head_four (by omega), List.cons_append, gather_succ _ (second_eq.2 (by omega)),
      List.cons_append, gather_succ _ (continuation_eq.2 (by omega)),
      List.cons_append, gather_succ _ (continuation_eq.2 (by omega)), gather, hlead, h0, h1, h2,
      show 0x40 * (0x40 * (0x40 * (0xF0 + n / 0x40000 - 0xF0) + (0x80 + n / 0x1000 % 0x40) % 0x40) +
        (0x80 + n / 0x40 % 0x40) % 0x40) + (0x80 + n % 0x40) % 0x40 = n by omega, hc]
    rfl

theorem decodeFrom_eq (position skip : Nat) (bs : Bytes) (h : skip ≤ bs.length) :
    decodeFrom position skip bs = decodeFrom (position + skip) 0 (bs.drop skip) := by
  induction bs generalizing position skip with
  | nil =>
    obtain rfl : skip = 0 := by simpa using h
    rfl
  | cons b bs ih =>
    cases skip with
    | zero => rfl
    | succ skip =>
      rw [decodeFrom, ih _ _ (by simpa using h), List.drop_succ_cons, Nat.add_right_comm,
        Nat.add_assoc]

theorem decodeFrom_encode (position : Nat) (t : Text) :
    decodeFrom position 0 (encode t) = .ok t := by
  induction t generalizing position with
  | nil => rfl
  | cons c t ih =>
    obtain ⟨lead, more, hc, hhead⟩ := head_encodeChar c (encode t)
    have : encode (c :: t) = lead :: (more ++ encode t) := by simp [encode, hc]
    rw [this, decodeFrom, hhead]
    simp only [Nat.add_sub_cancel]
    rw [decodeFrom_eq _ _ _ (by simp), List.drop_left, ih]

/-- What was encoded is decoded to the same text. -/
theorem decode_encode (t : Text) : decode (encode t) = .ok t :=
  decodeFrom_encode 0 t

theorem encode_eq_nil_iff {t : Text} : encode t = [] ↔ t = [] := by
  constructor
  · intro h
    have hdecode := decode_encode t
    rw [h] at hdecode
    exact (Except.ok.inj hdecode).symm
  · rintro rfl
    rfl

/-! ## Writing back what was read -/

private theorem toNat_charOfNat {n : Nat} (h : n.isValidChar) : (Char.ofNat n).toNat = n := by
  rw [Char.ofNat, dif_pos h]
  rfl

/-- A byte that has to follow is there, and the rest of the bytes is gathered behind it. -/
private theorem gather_succ_eq_char {need size n : Nat} {ok : UInt8 → Bool} {bs : Bytes} {c : Char}
    {total : Nat} (h : gather (need + 1) size n ok bs = .char c total) :
    ∃ b rest, bs = b :: rest ∧ ok b = true ∧
      gather need (size + 1) (0x40 * n + b.toNat % 0x40) continuation rest = .char c total := by
  cases bs with
  | nil => cases h
  | cons b rest =>
    rw [gather] at h
    split at h
    next hok => exact ⟨b, rest, rfl, hok, h⟩
    next => cases h

private theorem gather_zero_eq_char {size n : Nat} {ok : UInt8 → Bool} {bs : Bytes} {c : Char}
    {total : Nat} (h : gather 0 size n ok bs = .char c total) :
    c = Char.ofNat n ∧ total = size := by
  rw [gather, Head.char.injEq] at h
  exact ⟨h.1.symm, h.2.symm⟩

/-- The bytes that a character is read from are the ones it is written as. -/
theorem encodeChar_of_head {lead : UInt8} {bs : Bytes} {c : Char} {size : Nat}
    (h : head lead bs = .char c size) :
    encodeChar c ++ bs.drop (size - 1) = lead :: bs := by
  have hbyte : ∀ b : UInt8, ∀ n, n = b.toNat → UInt8.ofNat n = b := by
    rintro b n rfl
    exact UInt8.ofNat_toNat
  simp only [head] at h
  split at h
  next hlead =>
    rw [Head.char.injEq] at h
    obtain ⟨rfl, rfl⟩ := h
    have hc := toNat_charOfNat (Or.inl (show lead.toNat < 0xD800 by omega))
    simp only [encodeChar, hc, if_pos hlead, UInt8.ofNat_toNat]
    rfl
  next h0 =>
  split at h
  next => cases h
  next h1 =>
  split at h
  next h2 =>
    obtain ⟨b₁, rest, rfl, hb₁, h⟩ := gather_succ_eq_char h
    obtain ⟨rfl, rfl⟩ := gather_zero_eq_char h
    rw [second_eq] at hb₁
    generalize hn : 0x40 * (lead.toNat - 0xC0) + b₁.toNat % 0x40 = n
    have hc := toNat_charOfNat (Or.inl (show n < 0xD800 by omega))
    simp only [encodeChar, hc]
    rw [if_neg (by omega), if_pos (by omega), hbyte lead _ (by omega), hbyte b₁ _ (by omega)]
    rfl
  next h2 =>
  split at h
  next h3 =>
    obtain ⟨b₁, rest, rfl, hb₁, h⟩ := gather_succ_eq_char h
    obtain ⟨b₂, rest, rfl, hb₂, h⟩ := gather_succ_eq_char h
    obtain ⟨rfl, rfl⟩ := gather_zero_eq_char h
    rw [second_eq] at hb₁
    rw [continuation_eq] at hb₂
    generalize hn : 0x40 * (0x40 * (lead.toNat - 0xE0) + b₁.toNat % 0x40) + b₂.toNat % 0x40 = n
    have hvalid : n < 0xD800 ∨ 0xDFFF < n ∧ n < 0x110000 := by omega
    simp only [encodeChar, toNat_charOfNat hvalid]
    rw [if_neg (by omega), if_neg (by omega), if_pos (by omega), hbyte lead _ (by omega),
      hbyte b₁ _ (by omega), hbyte b₂ _ (by omega)]
    rfl
  next h3 =>
  split at h
  next h4 =>
    obtain ⟨b₁, rest, rfl, hb₁, h⟩ := gather_succ_eq_char h
    obtain ⟨b₂, rest, rfl, hb₂, h⟩ := gather_succ_eq_char h
    obtain ⟨b₃, rest, rfl, hb₃, h⟩ := gather_succ_eq_char h
    obtain ⟨rfl, rfl⟩ := gather_zero_eq_char h
    rw [second_eq] at hb₁
    rw [continuation_eq] at hb₂ hb₃
    generalize hn : 0x40 * (0x40 * (0x40 * (lead.toNat - 0xF0) + b₁.toNat % 0x40) +
      b₂.toNat % 0x40) + b₃.toNat % 0x40 = n
    have hvalid : n < 0xD800 ∨ 0xDFFF < n ∧ n < 0x110000 := by omega
    simp only [encodeChar, toNat_charOfNat hvalid]
    rw [if_neg (by omega), if_neg (by omega), if_neg (by omega), hbyte lead _ (by omega),
      hbyte b₁ _ (by omega), hbyte b₂ _ (by omega), hbyte b₃ _ (by omega)]
    rfl
  next => cases h

theorem encode_of_decodeFrom {position skip : Nat} {bs : Bytes} {t : Text}
    (h : decodeFrom position skip bs = .ok t) : encode t = bs.drop skip := by
  induction bs generalizing position skip t with
  | nil =>
    rw [decodeFrom] at h
    cases h
    rw [List.drop_nil]
    rfl
  | cons b bs ih =>
    cases skip with
    | succ skip =>
      rw [decodeFrom] at h
      rw [List.drop_succ_cons, ih h]
    | zero =>
      rw [decodeFrom] at h
      split at h
      next => cases h
      next c size hhead =>
        split at h
        next => cases h
        next rest hrest =>
          cases h
          rw [List.drop_zero, ← encodeChar_of_head hhead, ← ih hrest]
          rfl

/-- A decoded text is written as the bytes it was read from. -/
theorem encode_of_decode {bs : Bytes} {t : Text} (h : decode bs = .ok t) : encode t = bs := by
  rw [encode_of_decodeFrom h, List.drop_zero]

theorem encode_injective {t u : Text} (h : encode t = encode u) : t = u := by
  have hdecode := decode_encode t
  rw [h, decode_encode, Except.ok.injEq] at hdecode
  exact hdecode.symm

end UnitReducer.Utf8
