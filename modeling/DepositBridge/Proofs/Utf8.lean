import DepositBridge.Text.Utf8
import Mathlib.Tactic.SplitIfs

/-!
# UTF-8, there and back

The octets of a character have one of four forms (`Encodes`). They are what is written of the
character and what it is read from, so octets are read as a text exactly when they are the octets of
the text (`decodeUtf8_eq_ok_iff`).
-/

namespace DepositBridge.Text

/-! ## Characters -/

theorem toNat_octet {n : Nat} (h : n < 256) : (UInt8.ofNat n).toNat = n :=
  UInt8.toNat_ofNat_of_lt' h

theorem isContinuation_iff {b : UInt8} : isContinuation b = true ↔ b.toNat / 64 = 2 := by
  simp only [isContinuation, Bool.and_eq_true, decide_eq_true_eq]
  omega

theorem isSecond_iff {first second : UInt8} :
    isSecond first second = true ↔ second.toNat / 64 = 2 ∧
      (first.toNat = 0xe0 → 0xa0 ≤ second.toNat) ∧ (first.toNat = 0xed → second.toNat < 0xa0) ∧
      (first.toNat = 0xf0 → 0x90 ≤ second.toNat) ∧ (first.toNat = 0xf4 → second.toNat < 0x90) := by
  have hsame : ∀ n : Nat, n < 256 → (first = UInt8.ofNat n ↔ first.toNat = n) := by
    intro n hn
    rw [← UInt8.toNat_inj, toNat_octet hn]
  have h1 : first = 0xe0 ↔ first.toNat = 0xe0 := hsame 0xe0 (by decide)
  have h2 : first = 0xed ↔ first.toNat = 0xed := hsame 0xed (by decide)
  have h3 : first = 0xf0 ↔ first.toNat = 0xf0 := hsame 0xf0 (by decide)
  have h4 : first = 0xf4 ↔ first.toNat = 0xf4 := hsame 0xf4 (by decide)
  simp only [isSecond, Bool.and_eq_true, isContinuation_iff, h1, h2, h3, h4]
  split_ifs <;> simp <;> omega

/-- No character stands for half a surrogate pair. -/
theorem toNat_ranges (c : Char) : c.toNat < 0xd800 ∨ 0xdfff < c.toNat ∧ c.toNat < 0x110000 :=
  c.valid

theorem toNat_ofNat_of_ranges {n : Nat} (h : n < 0xd800 ∨ 0xdfff < n ∧ n < 0x110000) :
    (Char.ofNat n).toNat = n := by
  have hvalid : n.isValidChar := h
  rw [Char.ofNat, dif_pos hvalid]
  rfl

/-- The octets of a character: the first one, and up to three others. -/
inductive Encodes (c : Char) : UInt8 → Octets → Prop
  | one {b : UInt8} (h : b.toNat < 0x80) (hc : c.toNat = b.toNat) : Encodes c b []
  | two {b b₁ : UInt8} (h : 0xc2 ≤ b.toNat) (h' : b.toNat < 0xe0) (h₁ : b₁.toNat / 64 = 2)
    (hc : c.toNat = b.toNat % 32 * 64 + b₁.toNat % 64) : Encodes c b [b₁]
  | three {b b₁ b₂ : UInt8} (h : b.toNat / 16 = 14) (h₁ : isSecond b b₁ = true)
    (h₂ : b₂.toNat / 64 = 2)
    (hc : c.toNat = (b.toNat % 16 * 64 + b₁.toNat % 64) * 64 + b₂.toNat % 64) :
    Encodes c b [b₁, b₂]
  | four {b b₁ b₂ b₃ : UInt8} (h : 0xf0 ≤ b.toNat) (h' : b.toNat < 0xf5) (h₁ : isSecond b b₁ = true)
    (h₂ : b₂.toNat / 64 = 2) (h₃ : b₃.toNat / 64 = 2)
    (hc : c.toNat = ((b.toNat % 8 * 64 + b₁.toNat % 64) * 64 + b₂.toNat % 64) * 64 +
      b₃.toNat % 64) : Encodes c b [b₁, b₂, b₃]

/-- What is written of a character has one of the forms. -/
theorem exists_encodes (c : Char) : ∃ b octets, encodeChar c = b :: octets ∧ Encodes c b octets := by
  have hvalid := toNat_ranges c
  have htail : ∀ n : Nat, (UInt8.ofNat (0x80 + n % 64)).toNat = 0x80 + n % 64 := fun n =>
    toNat_octet (by omega)
  unfold encodeChar
  dsimp only
  split_ifs with h1 h2 h3
  · have hb : (UInt8.ofNat c.toNat).toNat = c.toNat := toNat_octet (by omega)
    exact ⟨_, _, rfl, .one (by omega) hb.symm⟩
  · have hb : (UInt8.ofNat (0xc0 + c.toNat / 64)).toNat = 0xc0 + c.toNat / 64 :=
      toNat_octet (by omega)
    refine ⟨_, _, rfl, .two ?_ ?_ ?_ ?_⟩ <;> simp only [hb, htail] <;> omega
  · have hb : (UInt8.ofNat (0xe0 + c.toNat / 4096)).toNat = 0xe0 + c.toNat / 4096 :=
      toNat_octet (by omega)
    refine ⟨_, _, rfl, .three ?_ (isSecond_iff.mpr ?_) ?_ ?_⟩ <;> simp only [hb, htail] <;> omega
  · have hb : (UInt8.ofNat (0xf0 + c.toNat / 262144)).toNat = 0xf0 + c.toNat / 262144 :=
      toNat_octet (by omega)
    refine ⟨_, _, rfl, .four ?_ ?_ (isSecond_iff.mpr ?_) ?_ ?_ ?_⟩ <;> simp only [hb, htail] <;>
      omega

theorem ofNat_eq_of_toNat {b : UInt8} {n : Nat} (h : n = b.toNat) : UInt8.ofNat n = b := by
  rw [h, UInt8.ofNat_toNat]

/-- The forms leave no choice of the octets. -/
theorem Encodes.encodeChar_eq {c : Char} {b : UInt8} {octets : Octets} (h : Encodes c b octets) :
    encodeChar c = b :: octets := by
  unfold encodeChar
  dsimp only
  cases h with
  | one h hc =>
    rw [if_pos (by omega), ofNat_eq_of_toNat hc]
  | @two b₁ h h' h₁ hc =>
    have hb : 0xc0 + c.toNat / 64 = b.toNat := by omega
    have hb₁ : 0x80 + c.toNat % 64 = b₁.toNat := by omega
    rw [if_neg (by omega), if_pos (by omega), ofNat_eq_of_toNat hb, ofNat_eq_of_toNat hb₁]
  | @three b₁ b₂ h h₁ h₂ hc =>
    obtain ⟨hcont, hlow, -⟩ := isSecond_iff.mp h₁
    have hb : 0xe0 + c.toNat / 4096 = b.toNat := by omega
    have hb₁ : 0x80 + c.toNat / 64 % 64 = b₁.toNat := by omega
    have hb₂ : 0x80 + c.toNat % 64 = b₂.toNat := by omega
    rw [if_neg (by omega), if_neg (by omega), if_pos (by omega), ofNat_eq_of_toNat hb,
      ofNat_eq_of_toNat hb₁, ofNat_eq_of_toNat hb₂]
  | @four b₁ b₂ b₃ h h' h₁ h₂ h₃ hc =>
    obtain ⟨hcont, -, -, hlow, hhigh⟩ := isSecond_iff.mp h₁
    have hb : 0xf0 + c.toNat / 262144 = b.toNat := by omega
    have hb₁ : 0x80 + c.toNat / 4096 % 64 = b₁.toNat := by omega
    have hb₂ : 0x80 + c.toNat / 64 % 64 = b₂.toNat := by omega
    have hb₃ : 0x80 + c.toNat % 64 = b₃.toNat := by omega
    rw [if_neg (by omega), if_neg (by omega), if_neg (by omega), ofNat_eq_of_toNat hb,
      ofNat_eq_of_toNat hb₁, ofNat_eq_of_toNat hb₂, ofNat_eq_of_toNat hb₃]

/-- The octets of a character are read as the character, whatever follows. -/
theorem Encodes.decodeChar_eq {c : Char} {b : UInt8} {octets : Octets} (h : Encodes c b octets)
    (rest : Octets) : decodeChar b (octets ++ rest) = .ok (c, octets.length + 1) := by
  unfold decodeChar
  dsimp only
  cases h with
  | one h hc =>
    rw [if_pos h, ← hc, Char.ofNat_toNat]
    rfl
  | two h h' h₁ hc =>
    rw [if_neg (by omega), if_neg (by omega), if_pos h']
    simp only [List.cons_append]
    rw [if_pos (isContinuation_iff.mpr h₁), ← hc, Char.ofNat_toNat]
    rfl
  | three h h₁ h₂ hc =>
    rw [if_neg (by omega), if_neg (by omega), if_neg (by omega), if_pos (by omega)]
    simp only [List.cons_append, h₁, isContinuation_iff.mpr h₂, Bool.not_true, Bool.false_eq_true,
      if_false, ← hc, Char.ofNat_toNat]
    rfl
  | four h h' h₁ h₂ h₃ hc =>
    rw [if_neg (by omega), if_neg (by omega), if_neg (by omega), if_neg (by omega),
      if_pos (by omega)]
    simp only [List.cons_append, h₁, isContinuation_iff.mpr h₂, isContinuation_iff.mpr h₃,
      Bool.not_true, Bool.false_eq_true, if_false, ← hc, Char.ofNat_toNat]
    rfl

/-- Nothing else is read as a character. -/
theorem encodes_of_decodeChar {c : Char} {b : UInt8} {rest : Octets} {count : Nat}
    (h : decodeChar b rest = .ok (c, count)) :
    ∃ octets more, rest = octets ++ more ∧ count = octets.length + 1 ∧ Encodes c b octets := by
  unfold decodeChar at h
  dsimp only at h
  split_ifs at h with h1 h2 h3 h4 h5
  · cases h
    exact ⟨[], rest, rfl, rfl, .one h1 (toNat_ofNat_of_ranges (by omega))⟩
  · rcases rest with _ | ⟨b₁, more⟩
    · cases h
    · simp only at h
      split_ifs at h with hcont
      cases h
      rw [isContinuation_iff] at hcont
      exact ⟨[b₁], more, rfl, rfl,
        .two (by omega) h3 hcont (toNat_ofNat_of_ranges (by omega))⟩
  · rcases rest with _ | ⟨b₁, _ | ⟨b₂, more⟩⟩
    · cases h
    · simp only at h
      split_ifs at h
    · simp only [Bool.not_eq_true'] at h
      split_ifs at h with hsecond hcont
      cases h
      rw [Bool.not_eq_false] at hsecond hcont
      rw [isContinuation_iff] at hcont
      obtain ⟨hcont₁, hlow, hhigh, -⟩ := isSecond_iff.mp hsecond
      exact ⟨[b₁, b₂], more, rfl, rfl,
        .three (by omega) hsecond hcont (toNat_ofNat_of_ranges (by omega))⟩
  · rcases rest with _ | ⟨b₁, _ | ⟨b₂, _ | ⟨b₃, more⟩⟩⟩
    · cases h
    · simp only at h
      split_ifs at h
    · simp only at h
      split_ifs at h
    · simp only [Bool.not_eq_true'] at h
      split_ifs at h with hsecond hcont₂ hcont₃
      cases h
      rw [Bool.not_eq_false] at hsecond hcont₂ hcont₃
      rw [isContinuation_iff] at hcont₂ hcont₃
      obtain ⟨hcont₁, -, -, hlow, hhigh⟩ := isSecond_iff.mp hsecond
      exact ⟨[b₁, b₂, b₃], more, rfl, rfl,
        .four (by omega) h5 hsecond hcont₂ hcont₃ (toNat_ofNat_of_ranges (by omega))⟩

/-! ## Texts -/

theorem decodeUtf8From_skip (octets more : Octets) (position : Nat) :
    decodeUtf8From position octets.length (octets ++ more) =
      decodeUtf8From (position + octets.length) 0 more := by
  induction octets generalizing position with
  | nil => rfl
  | cons b rest ih =>
    rw [List.length_cons, List.cons_append, decodeUtf8From, ih]
    congr 1
    omega

/-- One character is read before the others. -/
theorem decodeUtf8From_encodeChar (position : Nat) (c : Char) (more : Octets) :
    decodeUtf8From position 0 (encodeChar c ++ more) =
      (decodeUtf8From (position + (encodeChar c).length) 0 more).map (c :: ·) := by
  obtain ⟨b, octets, heq, hencodes⟩ := exists_encodes c
  rw [heq, List.cons_append, decodeUtf8From, hencodes.decodeChar_eq]
  simp only [Nat.add_sub_cancel, decodeUtf8From_skip, List.length_cons]
  congr 2
  omega

theorem decodeUtf8From_flatMap (position : Nat) (text : List Char) :
    decodeUtf8From position 0 (text.flatMap encodeChar) = .ok text := by
  induction text generalizing position with
  | nil => rfl
  | cons c rest ih =>
    rw [List.flatMap_cons, decodeUtf8From_encodeChar, ih]
    rfl

theorem flatMap_of_decodeUtf8From {position : Nat} {bytes : Octets} {text : List Char}
    (h : decodeUtf8From position 0 bytes = .ok text) : bytes = text.flatMap encodeChar := by
  -- a character takes up to four octets, so the induction is on how many are left
  induction hlength : bytes.length using Nat.strongRecOn generalizing position bytes text with
  | ind length ih =>
    cases bytes with
    | nil =>
      cases h
      rfl
    | cons b rest =>
      rw [decodeUtf8From] at h
      cases hchar : decodeChar b rest with
      | error fault => simp [hchar] at h
      | ok found =>
        obtain ⟨c, count⟩ := found
        obtain ⟨octets, more, rfl, rfl, hencodes⟩ := encodes_of_decodeChar hchar
        simp only [hchar, Nat.add_sub_cancel, decodeUtf8From_skip] at h
        cases hmore : decodeUtf8From (position + 1 + octets.length) 0 more with
        | error fault => simp [hmore, Except.map] at h
        | ok others =>
          rw [hmore] at h
          cases h
          have hshort : more.length < length := by
            rw [← hlength, List.length_cons, List.length_append]
            omega
          rw [List.flatMap_cons, hencodes.encodeChar_eq, ← ih _ hshort hmore rfl]
          rfl

/-- Octets are read as the text that they are the octets of, and as nothing else. -/
theorem decodeUtf8_eq_ok_iff {bytes : Octets} {text : String} :
    decodeUtf8 bytes = .ok text ↔ bytes = encodeUtf8 text := by
  rw [decodeUtf8, encodeUtf8]
  constructor
  · intro h
    cases hchars : decodeUtf8From 0 0 bytes with
    | error fault => simp [hchars, Except.map] at h
    | ok chars =>
      rw [hchars] at h
      cases h
      rw [String.toList_ofList]
      exact flatMap_of_decodeUtf8From hchars
  · rintro rfl
    rw [decodeUtf8From_flatMap]
    exact congrArg Except.ok String.ofList_toList

end DepositBridge.Text
