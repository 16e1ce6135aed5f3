import DepositBridge.Client.Read
import DepositBridge.Proofs.DepositHash

/-!
# Reading hexadecimal text back

Marked octets and quantities, as nodes write them, read back as what they were written for.
-/

namespace DepositBridge

/-! ## Octets -/

theorem Hex.toList_encodeMarked (bytes : Octets) :
    (Hex.encodeMarked bytes).toList = '0' :: 'x' :: Hex.encodeChars bytes := by
  simp [encodeMarked, encode, String.toList_append]

theorem Hex.exists_digit_of_mem_encodeChars {bytes : Octets} {c : Char}
    (h : c ∈ Hex.encodeChars bytes) : ∃ n, n < 16 ∧ c = Hex.digit n := by
  induction bytes with
  | nil => cases h
  | cons b rest ih =>
    have hb := b.toNat_lt
    simp only [encodeChars, List.mem_cons] at h
    rcases h with rfl | rfl | h
    · exact ⟨b.toNat / 16, by omega, rfl⟩
    · exact ⟨b.toNat % 16, by omega, rfl⟩
    · exact ih h

/-- Marked octets read back. -/
@[simp] theorem Hex.decodeLoose?_encodeMarked (bytes : Octets) :
    Hex.decodeLoose? (Hex.encodeMarked bytes) = some bytes := by
  have hmark : dropMark ('0' :: 'x' :: encodeChars bytes) = encodeChars bytes := rfl
  have heven : ¬ (encodeChars bytes).length % 2 = 1 := by
    rw [length_encodeChars]
    omega
  simp only [decodeLoose?, toList_encodeMarked, hmark, if_neg heven, decodePairs?_encodeChars]

/-! ## Pairs of digits -/

theorem Hex.isDigit_digit : ∀ n, n < 16 → isDigit (digit n) = true := by decide

theorem Hex.isDigit_of_mem_encodeChars {bytes : Octets} :
    ∀ c ∈ encodeChars bytes, isDigit c = true := by
  intro c hc
  obtain ⟨n, hn, rfl⟩ := exists_digit_of_mem_encodeChars hc
  exact isDigit_digit n hn

theorem Hex.not_isBlank_of_isDigit {c : Char} (h : isDigit c = true) : isBlank c = false := by
  by_contra hblank
  simp only [isBlank, Bool.or_eq_true, decide_eq_true_eq, Bool.not_eq_false] at hblank
  rcases hblank with ((((rfl | rfl) | rfl) | rfl) | rfl) | rfl <;> cases h

/-- Only digits are read in pairs, two for each octet. -/
theorem Hex.digits_of_decodePairs? {text : List Char} {bytes : Octets}
    (h : decodePairs? text = some bytes) :
    text.length = 2 * bytes.length ∧ ∀ c ∈ text, isDigit c = true := by
  induction text using decodePairs?.induct generalizing bytes with
  | case1 =>
    cases h
    simp
  | case2 c => cases h
  | case3 high low rest ih =>
    simp only [decodePairs?, Option.bind_eq_bind, Option.bind_eq_some_iff, Option.pure_def,
      Option.some.injEq] at h
    obtain ⟨n, hhigh, m, hlow, more, hmore, rfl⟩ := h
    obtain ⟨hlength, hdigits⟩ := ih hmore
    refine ⟨by simp only [List.length_cons, hlength]; omega, ?_⟩
    simp only [List.forall_mem_cons]
    exact ⟨by simp [isDigit, hhigh], by simp [isDigit, hlow], hdigits⟩

/-- Without blanks it makes no difference whether they are left out. -/
theorem Hex.decodeSpaced?_eq {text : List Char} (h : ∀ c ∈ text, isBlank c = false) :
    decodeSpaced? text = decodePairs? text := by
  induction text using decodeSpaced?.induct with
  | case1 => rfl
  | case2 c hblank => simp [h c] at hblank
  | case3 c hblank => simp [decodeSpaced?, decodePairs?, hblank]
  | case4 c next rest hblank ih => simp [h c] at hblank
  | case5 c next rest hblank ih =>
    have hrest := ih fun c' hc' => h c' (by simp [hc'])
    simp only [decodeSpaced?, decodePairs?, hblank, Bool.false_eq_true, if_false, hrest]

/-! ## Numbers -/

namespace Numeral

theorem ofDigits_append_singleton (base : Base) (ds : List Nat) (d : Nat) :
    ofDigits base (ds ++ [d]) = ofDigits base ds * base.toNat + d := by
  simp [ofDigits]

/-- The digit of a number below a base. -/
theorem digit?_digit {base : Base} {d : Nat} (h : d < base.toNat) :
    digit? base (Hex.digit d) = some d := by
  have hten : ∀ d, d < 10 → digit? .ten (Hex.digit d) = some d := by decide
  cases base with
  | ten => exact hten d h
  | sixteen => exact Hex.value?_digit d h

theorem lt_sixteen_of_lt {base : Base} {d : Nat} (h : d < base.toNat) : d < 16 := by
  cases base with
  | ten => exact Nat.lt_trans h (by decide)
  | sixteen => exact h

theorem one_lt_toNat (base : Base) : 1 < base.toNat := by cases base <;> decide

/-- The digits of a number stand for digit values that write the number. -/
theorem exists_digits (base : Base) (n : Nat) :
    ∃ ds : List Nat, ds ≠ [] ∧ (∀ d ∈ ds, d < base.toNat) ∧
      Nat.toDigits base.toNat n = ds.map Hex.digit ∧ ofDigits base ds = n := by
  have hbase := one_lt_toNat base
  induction n using Nat.strongRecOn with
  | ind n ih =>
    by_cases hsmall : n < base.toNat
    · refine ⟨[n], by simp, by simpa using hsmall, ?_, by simp [ofDigits]⟩
      rw [Nat.toDigits_of_lt_base hsmall, Hex.digitChar_eq_digit n (lt_sixteen_of_lt hsmall)]
      rfl
    · -- the last digit is split off, and the ones in front of it are those of the quotient
      have hquotient : n / base.toNat < n := Nat.div_lt_self (by omega) hbase
      obtain ⟨ds, -, hds, hdigits, hvalue⟩ := ih (n / base.toNat) hquotient
      have hlast : n % base.toNat < base.toNat := Nat.mod_lt n (by omega)
      refine ⟨ds ++ [n % base.toNat], by simp, ?_, ?_, ?_⟩
      · simp only [List.mem_append, List.mem_singleton]
        rintro d (hd | rfl)
        · exact hds d hd
        · exact hlast
      · rw [Nat.toDigits_of_base_le hbase (by omega),
          Hex.digitChar_eq_digit _ (lt_sixteen_of_lt hlast), hdigits, List.map_append]
        rfl
      · rw [ofDigits_append_singleton, hvalue]
        exact Nat.div_add_mod' n base.toNat

/-- A text that consists of the digits of some values is scanned to the end. -/
theorem scanDigits_of_values {base : Base} {closed : Bool} {text : List Char} {ds : List Nat}
    (hclosed : closed = true → ds ≠ []) (h : text.map (digit? base) = ds.map some) :
    scanDigits base closed text = some (ds, []) := by
  have hunderscore : digit? base '_' = none := by cases base <;> rfl
  induction text generalizing closed ds with
  | nil =>
    obtain rfl : ds = [] := List.map_eq_nil_iff.mp h.symm
    cases closed with
    | false => rfl
    | true => exact absurd rfl (hclosed rfl)
  | cons c text ih =>
    obtain ⟨d, more, rfl⟩ : ∃ d more, ds = d :: more := by
      cases ds with
      | nil => cases h
      | cons d more => exact ⟨d, more, rfl⟩
    obtain ⟨hc, hrest⟩ := List.cons.inj h
    have hdigit : c ≠ '_' := by
      intro hsame
      rw [hsame, hunderscore] at hc
      cases hc
    have hscan : scanDigits base false text = some (more, []) := ih (by simp) hrest
    simp only [scanDigits, if_neg hdigit, hc, hscan, Option.map_some]

theorem map_digit?_map_digit {base : Base} {ds : List Nat} (h : ∀ d ∈ ds, d < base.toNat) :
    (ds.map Hex.digit).map (digit? base) = ds.map some := by
  rw [List.map_map]
  exact List.map_congr_left fun d hd => digit?_digit (h d hd)

theorem map_value?_map_digit {ds : List Nat} (h : ∀ d ∈ ds, d < 16) :
    (ds.map Hex.digit).map Hex.value? = ds.map some :=
  @map_digit?_map_digit .sixteen ds h

/-- Zeros in front of digit values make no difference. -/
theorem ofDigits_zeros_append (base : Base) (count : Nat) (ds : List Nat) :
    ofDigits base (List.replicate count 0 ++ ds) = ofDigits base ds := by
  induction count with
  | zero => rfl
  | succ count ih =>
    rw [← ih, List.replicate_succ, List.cons_append, ofDigits, List.foldl_cons, Nat.zero_mul]
    rfl

/-- Behind any number of zeros the digits of a number stand for digit values that write it. -/
theorem exists_digits_behind_zeros (zeros n : Nat) :
    ∃ ds : List Nat, ds ≠ [] ∧ (∀ d ∈ ds, d < 16) ∧
      List.replicate zeros '0' ++ Hex.digits n = ds.map Hex.digit ∧ ofDigits .sixteen ds = n := by
  obtain ⟨ds, hne, hds, hdigits, hvalue⟩ := exists_digits .sixteen n
  replace hdigits : Hex.digits n = ds.map Hex.digit := hdigits
  refine ⟨List.replicate zeros 0 ++ ds, by simp [hne], ?_, ?_, ?_⟩
  · intro d hd
    rcases List.mem_append.mp hd with hzero | hd
    · rw [List.eq_of_mem_replicate hzero]
      decide
    · exact hds d hd
  · rw [hdigits, List.map_append, List.map_replicate]
    rfl
  · rw [ofDigits_zeros_append, hvalue]

/-- Digits are ASCII characters. -/
theorem all_ascii_map_digit {base : Base} {ds : List Nat} (h : ∀ d ∈ ds, d < base.toNat) :
    ((ds.map Hex.digit).all fun c => c.toNat < 128) = true := by
  have hascii : ∀ d, d < 16 → (Hex.digit d).toNat < 128 := by decide
  simp only [List.all_map, List.all_eq_true, Function.comp, decide_eq_true_eq]
  exact fun d hd => hascii d (lt_sixteen_of_lt (h d hd))

/-- Digits in either case behind a mark are read to the end. -/
theorem readAscii_marked {mark : Char} {text : List Char} {ds : List Nat}
    (hmark : mark = 'x' ∨ mark = 'X') (hne : ds ≠ []) (h : text.map Hex.value? = ds.map some) :
    readAscii .sixteen ('0' :: mark :: text) = .ok (ofDigits .sixteen ds : Int) := by
  have hscan : scanDigits .sixteen true text = some (ds, []) :=
    scanDigits_of_values (fun _ => hne) h
  have hstart : splitSign (('0' :: mark :: text).dropWhile Text.isAsciiBlank) =
      (false, '0' :: mark :: text) := rfl
  have hmarked : Hex.isMarked ('0' :: mark :: text) = true := by
    rcases hmark with rfl | rfl <;> rfl
  have hdrop : Hex.dropMark ('0' :: mark :: text) = text := by
    rcases hmark with rfl | rfl <;> rfl
  obtain ⟨c, rest, rfl⟩ : ∃ c rest, text = c :: rest := by
    cases text with
    | nil => exact absurd (List.map_eq_nil_iff.mp h.symm) hne
    | cons c rest => exact ⟨c, rest, rfl⟩
  have hc : c ≠ '_' := by
    intro hsame
    subst hsame
    cases ds with
    | nil => cases h
    | cons d more => cases (List.cons.inj h).1
  simp only [readAscii, hstart, hmarked, hdrop, and_self, if_true]
  simp [hc, hscan, hne, signed]

/-- A quantity reads back as the number. -/
@[simp] theorem read_quantity (n : Nat) : read .sixteen (Hex.quantity n) = .ok (n : Int) := by
  obtain ⟨ds, hne, hds, hdigits, hvalue⟩ := exists_digits .sixteen n
  have hchars : (Hex.quantity n).toList = '0' :: 'x' :: ds.map Hex.digit := by
    have hsign : ¬ (n : Int) < 0 := by omega
    simp [Hex.quantity, hsign, String.toList_append, Hex.digits, ← hdigits, Base.toNat]
  have hall : (('0' :: 'x' :: ds.map Hex.digit).all fun c => c.toNat < 128) = true := by
    rw [List.all_cons, List.all_cons, all_ascii_map_digit hds]
    rfl
  have hread := readAscii_marked (.inl rfl) hne (map_value?_map_digit hds)
  simp only [read, hchars, hall, if_true, hread, hvalue]

end Numeral

/-! ## Decimal digits -/

/-- The text of a number has its digits behind a minus sign or none. -/
theorem Numeral.toList_toString (n : Int) :
    (toString n).toList = (if n < 0 then ['-'] else []) ++ Nat.toDigits 10 n.natAbs := by
  cases n with
  | ofNat n =>
    rw [if_neg (by simp)]
    simp [Int.toString_eq_repr, Int.repr, Nat.repr_eq_ofList_toDigits]
  | negSucc n =>
    simp [Int.toString_eq_repr, Int.repr, Nat.repr_eq_ofList_toDigits, Int.negSucc_lt_zero]

/-! ## Answers -/

namespace Client.Read

@[simp] theorem octets_encodeMarked (bytes : Octets) :
    octets (.text (Hex.encodeMarked bytes)) = .ok bytes := by
  simp [octets]

@[simp] theorem quantity_quantity (n : Nat) :
    quantity (.text (Hex.quantity n)) = .ok (n : Int) := by
  simp [quantity, Except.mapError]

@[simp] theorem numberIfText_quantity (n : Nat) :
    numberIfText (.text (Hex.quantity n)) = .ok (.int n) := by
  simp [numberIfText, Except.mapError, Except.map]

end Client.Read

end DepositBridge
