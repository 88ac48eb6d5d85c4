/-
# Reading back an encoded text

The bytes that encode a text are read as that text. A lead byte tells how many continuation
bytes follow and what the first of them may be, and each of them adds six bits to the number of
the character, so it is enough to follow one character through its bytes.
-/

import SourceDiagnostics.Text.Utf8

namespace SourceDiagnostics.Utf8

theorem continuation_zero {value low high n : Nat} {bytes : Bytes} (number : value = n) :
    continuation value low high 0 bytes = .ok (n, bytes) := by
  rw [continuation, number]

theorem continuation_cons {value low high length : Nat} {byte : UInt8} {bytes : Bytes}
    {result : Nat × Bytes} (between : low ≤ byte.toNat ∧ byte.toNat ≤ high)
    (read : continuation (value * 0x40 + (byte.toNat - 0x80)) 0x80 0xbf length bytes =
      .ok result) :
    continuation value low high (length + 1) (byte :: bytes) = .ok result := by
  rw [continuation, if_pos between, read]

/-! ## Lead bytes -/

section

variable {byte : UInt8}

private theorem ofByte?_one (high : byte.toNat < 0x80) :
    Lead.ofByte? byte = some ⟨byte.toNat, 0x80, 0xbf, 0⟩ :=
  if_pos high

private theorem ofByte?_two (low : 0xc2 ≤ byte.toNat) (high : byte.toNat < 0xe0) :
    Lead.ofByte? byte = some ⟨byte.toNat - 0xc0, 0x80, 0xbf, 1⟩ := by
  rw [Lead.ofByte?, if_neg (by omega), if_neg (by omega), if_pos high]

/-- What a lead byte of three bytes lets follow: nothing that has a shorter encoding, and no
surrogate. -/
private theorem ofByte?_three (low : 0xe0 ≤ byte.toNat) (high : byte.toNat < 0xf0) :
    ∃ least greatest,
      Lead.ofByte? byte = some ⟨byte.toNat - 0xe0, least, greatest, 2⟩ ∧
      (least = 0x80 ∨ byte.toNat = 0xe0 ∧ least = 0xa0) ∧
      (greatest = 0xbf ∨ byte.toNat = 0xed ∧ greatest = 0x9f) := by
  rw [Lead.ofByte?, if_neg (by omega), if_neg (by omega), if_neg (by omega)]
  split
  next first => exact ⟨_, _, by rw [first], .inr ⟨first, rfl⟩, .inl rfl⟩
  next =>
    split
    next last => exact ⟨_, _, by rw [last], .inl rfl, .inr ⟨last, rfl⟩⟩
    next => exact ⟨_, _, rfl, .inl rfl, .inl rfl⟩

/-- What a lead byte of four bytes lets follow: nothing that has a shorter encoding, and nothing
beyond the last character. -/
private theorem ofByte?_four (low : 0xf0 ≤ byte.toNat) (high : byte.toNat < 0xf5) :
    ∃ least greatest,
      Lead.ofByte? byte = some ⟨byte.toNat - 0xf0, least, greatest, 3⟩ ∧
      (least = 0x80 ∨ byte.toNat = 0xf0 ∧ least = 0x90) ∧
      (greatest = 0xbf ∨ byte.toNat = 0xf4 ∧ greatest = 0x8f) := by
  rw [Lead.ofByte?, if_neg (by omega), if_neg (by omega), if_neg (by omega), if_neg (by omega),
    if_neg (by omega), if_neg (by omega)]
  split
  next first => exact ⟨_, _, by rw [first], .inr ⟨first, rfl⟩, .inl rfl⟩
  next =>
    split
    next => exact ⟨_, _, rfl, .inl rfl, .inl rfl⟩
    next =>
      have last : byte.toNat = 0xf4 := by omega
      rw [if_pos last]
      exact ⟨_, _, by rw [last], .inl rfl, .inr ⟨last, rfl⟩⟩

end

/-! ## Characters -/

/-- A lead byte and the bytes behind it are read as a number, and nothing else is. -/
def Spells (byte : UInt8) (bytes : Bytes) (n : Nat) : Prop :=
  ∃ lead, Lead.ofByte? byte = some lead ∧
    ∀ rest, continuation lead.payload lead.low lead.high lead.length (bytes ++ rest) =
      .ok (n, rest)

theorem toNat_ofNat_of_lt {n : Nat} (small : n < 0x100) : (UInt8.ofNat n).toNat = n := by
  rw [UInt8.toNat_ofNat', Nat.mod_eq_of_lt small]

section

variable {n : Nat}

private theorem spells_one (high : n < 0x80) : Spells (UInt8.ofNat n) [] n := by
  have first : (UInt8.ofNat n).toNat = n := toNat_ofNat_of_lt (by omega)
  exact ⟨_, ofByte?_one (by omega), fun rest => continuation_zero first⟩

private theorem spells_two (low : 0x80 ≤ n) (high : n < 0x800) :
    Spells (UInt8.ofNat (n / 64 % 32 + 192)) [UInt8.ofNat (n % 64 + 128)] n := by
  have first := toNat_ofNat_of_lt (show n / 64 % 32 + 192 < 0x100 by omega)
  have second := toNat_ofNat_of_lt (show n % 64 + 128 < 0x100 by omega)
  refine ⟨_, ofByte?_two (by omega) (by omega), fun rest => ?_⟩
  refine continuation_cons (by dsimp only; omega) (continuation_zero ?_)
  dsimp only
  omega

private theorem spells_three (low : 0x800 ≤ n) (high : n < 0x10000)
    (character : n < 0xd800 ∨ 0xdfff < n) :
    Spells (UInt8.ofNat (n / 4096 % 16 + 224))
      [UInt8.ofNat (n / 64 % 64 + 128), UInt8.ofNat (n % 64 + 128)] n := by
  have first := toNat_ofNat_of_lt (show n / 4096 % 16 + 224 < 0x100 by omega)
  have second := toNat_ofNat_of_lt (show n / 64 % 64 + 128 < 0x100 by omega)
  have third := toNat_ofNat_of_lt (show n % 64 + 128 < 0x100 by omega)
  -- Below 0x800 the second byte would be too small, and for a surrogate it would be too great.
  obtain ⟨least, greatest, lead, bound, bound'⟩ :=
    ofByte?_three (show 0xe0 ≤ (UInt8.ofNat (n / 4096 % 16 + 224)).toNat by omega) (by omega)
  refine ⟨_, lead, fun rest => ?_⟩
  refine continuation_cons (by dsimp only; omega)
    (continuation_cons (by omega) (continuation_zero ?_))
  dsimp only
  omega

private theorem spells_four (low : 0x10000 ≤ n) (high : n < 0x110000) :
    Spells (UInt8.ofNat (n / 262144 % 8 + 240))
      [UInt8.ofNat (n / 4096 % 64 + 128), UInt8.ofNat (n / 64 % 64 + 128),
        UInt8.ofNat (n % 64 + 128)] n := by
  have first := toNat_ofNat_of_lt (show n / 262144 % 8 + 240 < 0x100 by omega)
  have second := toNat_ofNat_of_lt (show n / 4096 % 64 + 128 < 0x100 by omega)
  have third := toNat_ofNat_of_lt (show n / 64 % 64 + 128 < 0x100 by omega)
  have fourth := toNat_ofNat_of_lt (show n % 64 + 128 < 0x100 by omega)
  obtain ⟨least, greatest, lead, bound, bound'⟩ :=
    ofByte?_four (show 0xf0 ≤ (UInt8.ofNat (n / 262144 % 8 + 240)).toNat by omega) (by omega)
  refine ⟨_, lead, fun rest => ?_⟩
  refine continuation_cons (by dsimp only; omega)
    (continuation_cons (by omega) (continuation_cons (by omega) (continuation_zero ?_)))
  dsimp only
  omega

end

/-- The bytes that encode a character spell its number. -/
theorem exists_spells (c : Char) :
    ∃ byte bytes, String.utf8EncodeChar c = byte :: bytes ∧ Spells byte bytes c.toNat := by
  have valid : c.toNat < 0xd800 ∨ 0xdfff < c.toNat ∧ c.toNat < 0x110000 := c.valid
  have number : c.val.toNat = c.toNat := rfl
  rw [String.utf8EncodeChar, number]
  split
  next high => exact ⟨_, _, rfl, spells_one (by omega)⟩
  next =>
    split
    next high => exact ⟨_, _, rfl, spells_two (by omega) (by omega)⟩
    next =>
      split
      next high => exact ⟨_, _, rfl, spells_three (by omega) (by omega) (by omega)⟩
      next low => exact ⟨_, _, rfl, spells_four (by omega) (by omega)⟩

/-! ## Texts -/

theorem decodeFrom_encode (start : Nat) (text : Text) :
    decodeFrom start (encode text) = .ok text := by
  induction text generalizing start with
  | nil => rw [encode, List.flatMap_nil, decodeFrom]
  | cons c text ih =>
      obtain ⟨byte, bytes, encoded, lead, announced, read⟩ := exists_spells c
      rw [encode, List.flatMap_cons, encoded, List.cons_append, decodeFrom, announced]
      dsimp only
      split
      next fails => cases (read _).symm.trans fails
      next reads =>
        cases (read _).symm.trans reads
        rw [show text.flatMap String.utf8EncodeChar = encode text from rfl, ih, Char.ofNat_toNat]

/-- The bytes that encode a text are read as that text. -/
theorem decode_encode (text : Text) : decode (encode text) = .ok text :=
  decodeFrom_encode 0 text

end SourceDiagnostics.Utf8
