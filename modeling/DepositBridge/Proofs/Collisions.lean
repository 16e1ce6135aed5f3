import DepositBridge.Proofs.Commitment
import DepositBridge.Proofs.Spellings

/-!
# Fields that are hashed alike

A number that is too large for its field only makes the row of digits longer, and nothing in the row
tells where a field ends. So digits can move from one field to the next, and the hash does not tell
the fields apart any more (`DepositHash.packed_move`). Different fields are hashed alike in this way
only (`DepositHash.packed_eq_iff_of_hashed`).
-/

namespace DepositBridge

/-! ## Rows of digits -/

namespace Hex

theorem encodeChars_inj {first second : Octets} :
    encodeChars first = encodeChars second ↔ first = second := by
  constructor
  · intro h
    have hread := decodePairs?_encodeChars first
    rw [h, decodePairs?_encodeChars] at hread
    exact (Option.some.inj hread).symm
  · rintro rfl
    rfl

/-- In rows of the same width, two numbers have the same digits only if they are the same. -/
theorem digitsPadded_inj {width m n : Nat} :
    digitsPadded width m = digitsPadded width n ↔ m = n := by
  constructor
  · intro h
    obtain ⟨ds, hds, hdigits, hvalue⟩ := exists_digitsPadded width m
    obtain ⟨ds', hds', hdigits', hvalue'⟩ := exists_digitsPadded width n
    have hread : ds.map some = ds'.map some := by
      rw [← Numeral.map_value?_map_digit hds, ← Numeral.map_value?_map_digit hds', ← hdigits,
        ← hdigits', h]
    rw [← hvalue, ← hvalue', List.map_injective_iff.mpr (Option.some_injective Nat) hread]
  · rintro rfl
    rfl

/-- One digit more behind those of a number. -/
theorem digits_mul_add_digit {n d : Nat} (hn : 0 < n) (hd : d < 16) :
    digits (16 * n + d) = digits n ++ [digit d] := by
  have happend : Nat.toDigits 16 n ++ Nat.toDigits 16 d = Nat.toDigits 16 (16 * n + d) :=
    Nat.toDigits_append_toDigits (by decide) hn hd
  rw [digits, ← happend, Nat.toDigits_of_lt_base hd, digitChar_eq_digit d hd]
  rfl

/-- As many digits more, behind those of a number, as the number is moved by. -/
theorem digits_mul_add {n m : Nat} (hn : 0 < n) {count : Nat} (hcount : 0 < count)
    (hm : m < 16 ^ count) :
    digits (n * 16 ^ count + m) = digits n ++ digitsPadded count m := by
  induction count, hcount using Nat.le_induction generalizing m with
  | base =>
    rw [digitsPadded_one hm, ← digits_mul_add_digit hn hm, Nat.mul_comm]
    rfl
  | succ count hcount ih =>
    -- the last digit is split off, and what is in front of it is moved by one less
    have hmoved : 0 < n * 16 ^ count := Nat.mul_pos hn (Nat.pow_pos (by decide))
    have hsplit : n * 16 ^ (count + 1) + m = 16 * (n * 16 ^ count + m / 16) + m % 16 := by
      rw [Nat.pow_succ, ← Nat.mul_assoc]
      omega
    rw [hsplit, digits_mul_add_digit (by omega) (Nat.mod_lt m (by decide)), ih (by omega),
      digitsPadded_succ hcount, List.append_assoc]

/-- No zeros stand in front of a number that has as many digits as its row. -/
theorem digitsPadded_of_pow_le {width n : Nat} (h : 16 ^ (width - 1) ≤ n) :
    digitsPadded width n = digits n := by
  have hone : 0 < (digits n).length := Nat.length_toDigits_pos
  have hwidth : width ≤ (digits n).length := by
    by_contra hshort
    have hbelow : n < 16 ^ (width - 1) := (length_digits_le_iff (by omega)).mp (by omega)
    omega
  rw [digitsPadded, Nat.sub_eq_zero_of_le hwidth, List.replicate_zero, List.nil_append]

end Hex

namespace DepositHash

/-! ## The digits of the packed fields -/

/-- The packed fields are written by their digits. -/
theorem packedDigits_eq (salt : Octets) (index amount : Nat) :
    packedDigits salt index amount = Hex.encodeChars (packed salt index amount) := by
  have hwrites := Hex.decodePairs?_eq_some_iff.mp (decodePairs?_packedDigits salt index amount)
  have hsmall : ∀ d, d < 16 → (Hex.digit d).toLower = Hex.digit d := by decide
  have hlower : (packedDigits salt index amount).map Char.toLower =
      packedDigits salt index amount := by
    refine (List.map_congr_left fun c hc => ?_).trans (List.map_id _)
    obtain ⟨d, hd, rfl⟩ := exists_digit_of_mem_packedDigits hc
    exact hsmall d hd
  exact hlower.symm.trans hwrites

/-- The packed fields are the same if their digits are. -/
theorem packed_eq_packed_iff {salt salt' : Octets} {index index' amount amount' : Nat} :
    packed salt index amount = packed salt' index' amount' ↔
      packedDigits salt index amount = packedDigits salt' index' amount' := by
  rw [packedDigits_eq, packedDigits_eq, Hex.encodeChars_inj]

/-- The numbers of digits that an index and an amount have in the row. -/
def widths (index amount : Nat) : Nat × Nat :=
  ((Hex.digitsPadded 8 index).length, (Hex.digitsPadded 64 amount).length)

/-- Digits that are divided in the same way are those of the same fields. -/
theorem fields_eq_of_widths {salt salt' : Octets} {index index' amount amount' : Nat}
    (hsalt : salt.length = salt'.length) (hwidths : widths index amount = widths index' amount')
    (h : packedDigits salt index amount = packedDigits salt' index' amount') :
    salt = salt' ∧ index = index' ∧ amount = amount' := by
  obtain ⟨hindex, hamount⟩ := Prod.mk.inj hwidths
  have hsalts : (Hex.encodeChars salt).length = (Hex.encodeChars salt').length := by
    simp only [Hex.length_encodeChars, hsalt]
  have hrows : Hex.encodeChars salt ++ Hex.digitsPadded 8 index ++ Hex.digitsPadded 64 amount =
      Hex.encodeChars salt' ++ Hex.digitsPadded 8 index' ++ Hex.digitsPadded 64 amount' := by
    -- rows of the same length have a zero in front of both or of neither
    simp only [packedDigits, List.length_append, hsalts, hindex, hamount] at h
    split at h
    · exact (List.cons.inj h).2
    · exact h
  obtain ⟨hfront, hamounts⟩ := List.append_inj' hrows hamount
  obtain ⟨hsame, hindices⟩ := List.append_inj' hfront hindex
  rw [← Hex.digitsPadded_inj.mp hindices, ← Hex.digitsPadded_inj.mp hamounts,
    Hex.encodeChars_inj.mp hsame]
  exact ⟨rfl, rfl, rfl⟩

/-! ## Digits that move -/

/-- The last digits of a large index move in front of an amount that fits, and nothing changes in
what is hashed. -/
theorem packed_move (salt : Octets) {index moved amount count : Nat} (hcount : 0 < count)
    (hindex : 16 ^ 7 ≤ index) (hmoved : 16 ^ (count - 1) ≤ moved) (hlimit : moved < 16 ^ count)
    (hamount : amount < 2 ^ 256) :
    packed salt (index * 16 ^ count + moved) amount =
      packed salt index (moved * 16 ^ 64 + amount) := by
  have hone : 0 < 16 ^ (count - 1) := Nat.pow_pos (by decide)
  have hpower : 0 < 16 ^ count := Nat.pow_pos (by decide)
  have hmore : 16 ^ 7 ≤ index * 16 ^ count + moved := by
    have hlonger := Nat.le_mul_of_pos_right index hpower
    omega
  have hindices : Hex.digitsPadded 8 (index * 16 ^ count + moved) =
      Hex.digitsPadded 8 index ++ Hex.digits moved := by
    rw [Hex.digitsPadded_of_pow_le hmore, Hex.digitsPadded_of_pow_le hindex,
      Hex.digits_mul_add (by omega) hcount hlimit, Hex.digitsPadded_of_pow_le hmoved]
  have hamounts : Hex.digitsPadded 64 (moved * 16 ^ 64 + amount) =
      Hex.digits moved ++ Hex.digitsPadded 64 amount := by
    have hlarge : 16 ^ 63 ≤ moved * 16 ^ 64 + amount := by omega
    rw [Hex.digitsPadded_of_pow_le hlarge, Hex.digits_mul_add (by omega) (by decide) hamount]
  rw [packed_eq_packed_iff]
  simp only [packedDigits, hindices, hamounts, List.append_assoc]

/-! ## Fields that are hashed alike -/

/-- Fields have the same digits, which are divided among them in different ways. This needs numbers
that do not fit on both sides. -/
structure Redivided (salt salt' : Octets) (index index' amount amount' : Int) : Prop where
  digits : packedDigits salt index.toNat amount.toNat =
    packedDigits salt' index'.toNat amount'.toNat
  widths : widths index.toNat amount.toNat ≠ widths index'.toNat amount'.toNat
  large : ¬ Fits index amount
  large' : ¬ Fits index' amount'

/-- Different fields that have a hash are hashed alike exactly if they have the same digits, divided
in different ways. -/
theorem packed_eq_iff_of_hashed {salt salt' digest digest' : Octets}
    {index index' amount amount' : Int}
    (h : ofValues (.bytes salt) (.int index) (.int amount) = .ok digest)
    (h' : ofValues (.bytes salt') (.int index') (.int amount') = .ok digest') :
    packed salt index.toNat amount.toNat = packed salt' index'.toNat amount'.toNat ↔
      (salt = salt' ∧ index = index' ∧ amount = amount') ∨
        Redivided salt salt' index index' amount amount' := by
  obtain ⟨hsalt, ⟨hindex, hamount⟩, -⟩ := ofValues_eq_ok_iff.mp h
  obtain ⟨hsalt', ⟨hindex', hamount'⟩, -⟩ := ofValues_eq_ok_iff.mp h'
  constructor
  · intro hpacked
    by_cases hsame : salt = salt' ∧ index = index' ∧ amount = amount'
    · exact .inl hsame
    have hdigits := packed_eq_packed_iff.mp hpacked
    have hseparate := (hash_commits hsalt index amount).separates _ _ _ _ _ h h' hpacked
    refine .inr ⟨hdigits, fun hwidths => hsame ?_, fun hfits => hsame (hseparate (.inl hfits)),
      fun hfits => hsame (hseparate (.inr hfits))⟩
    obtain ⟨hsalts, hindices, hamounts⟩ :=
      fields_eq_of_widths (hsalt.trans hsalt'.symm) hwidths hdigits
    exact ⟨hsalts, by omega, by omega⟩
  · rintro (⟨rfl, rfl, rfl⟩ | hredivided)
    · rfl
    · exact packed_eq_packed_iff.mpr hredivided.digits

/-! ## Nine digits of an index -/

/-- Indices of nine and of eight digits have a hash, and amounts of sixty-five digits. -/
theorem ofValues_nine {salt : Octets} (hsalt : salt.length = 32) :
    ofValues (.bytes salt) (.int 4294967297) (.int 0) = .ok (hash salt 4294967297 0) ∧
      ofValues (.bytes salt) (.int 268435456) (.int (Nat.pow 2 256 : Nat)) =
        .ok (hash salt 268435456 (Nat.pow 2 256)) :=
  ⟨ofValues_eq_ok_iff.mpr ⟨hsalt, by decide, rfl⟩,
    ofValues_eq_ok_iff.mpr ⟨hsalt, ⟨by decide, Int.natCast_nonneg _⟩, rfl⟩⟩

/-- The ninth digit of an index moves in front of the amount. -/
theorem packed_nine (salt : Octets) :
    packed salt 4294967297 0 = packed salt 268435456 (Nat.pow 2 256) :=
  @packed_move salt 268435456 1 0 1 (by decide) (by decide) (by decide) (by decide) (by decide)

/-- The digits are divided among the fields in two ways. -/
theorem redivided_of_hashed_nine :
    ofValues (.bytes (List.replicate 32 7)) (.int 4294967297) (.int 0) =
        .ok (hash (List.replicate 32 7) 4294967297 0) ∧
      ofValues (.bytes (List.replicate 32 7)) (.int 268435456) (.int (Nat.pow 2 256 : Nat)) =
        .ok (hash (List.replicate 32 7) 268435456 (Nat.pow 2 256)) ∧
      Redivided (List.replicate 32 7) (List.replicate 32 7) 4294967297 268435456 0
        (Nat.pow 2 256 : Nat) := by
  obtain ⟨hfirst, hsecond⟩ := @ofValues_nine (List.replicate 32 7) rfl
  have hcases := (packed_eq_iff_of_hashed hfirst hsecond).mp (packed_nine _)
  exact ⟨hfirst, hsecond, hcases.resolve_left fun hsame => absurd hsame.2.1 (by decide)⟩

/-- Fields that differ in the index and in the amount are hashed alike. -/
theorem exists_hashed_alike :
    ∃ digest, ofValues (.bytes (List.replicate 32 7)) (.int 4294967297) (.int 0) = .ok digest ∧
      ofValues (.bytes (List.replicate 32 7)) (.int 268435456) (.int (Nat.pow 2 256 : Nat)) =
        .ok digest ∧
      packed (List.replicate 32 7) 4294967297 0 =
        packed (List.replicate 32 7) 268435456 (Nat.pow 2 256) ∧
      (4294967297 : Int) ≠ 268435456 := by
  obtain ⟨hfirst, hsecond⟩ := @ofValues_nine (List.replicate 32 7) rfl
  refine ⟨_, hfirst, ?_, packed_nine _, by decide⟩
  rw [hsecond, hash, hash, packed_nine]

end DepositHash

end DepositBridge
