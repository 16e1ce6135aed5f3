import DepositBridge.Json.Reader
import DepositBridge.Json.Writer
import DepositBridge.Proofs.Hexadecimal
import DepositBridge.Proofs.Utf8
import Mathlib.Tactic.SplitIfs

/-!
# Integers and strings in JSON

The digits of an integer are read as the integer if nothing behind them continues a number, unless
there are too many of them (`readScalar_write_int`). The escapes of a string are read in pieces, one
or two for each character, that are joined to the string (`readString_writeString`).
-/

namespace DepositBridge.Json

/-! ## Ends of numbers -/

/-- Nothing at the front of a text continues a number. -/
def EndsNumber (text : List Char) : Prop :=
  ∀ c ∈ text.head?, c.isDigit = false ∧ c ≠ '.' ∧ c ≠ 'e' ∧ c ≠ 'E'

theorem endsNumber_nil : EndsNumber [] := by simp [EndsNumber]

theorem endsNumber_cons {c : Char} (h : c ∈ [',', ']', '\x7d']) (text : List Char) :
    EndsNumber (c :: text) := by
  simp only [List.mem_cons, List.not_mem_nil, or_false] at h
  rcases h with rfl | rfl | rfl <;> simp [EndsNumber]

theorem splitFraction_of_endsNumber {text : List Char} (h : EndsNumber text) :
    splitFraction text = ([], text) := by
  unfold splitFraction
  split
  · exact absurd rfl (h '.' rfl).2.1
  · rfl

theorem splitExponent_of_endsNumber {text : List Char} (h : EndsNumber text) :
    splitExponent text = (none, text) := by
  cases text with
  | nil => rfl
  | cons c rest =>
    obtain ⟨-, -, he, hE⟩ := h c rfl
    simp only [splitExponent, he, hE, or_self, if_false]

theorem takeWhile_append {digits text : List Char} {p : Char → Bool} (hdigits : ∀ c ∈ digits, p c)
    (htext : ∀ c ∈ text.head?, p c = false) : (digits ++ text).takeWhile p = digits := by
  rw [List.takeWhile_append_of_pos hdigits]
  cases text with
  | nil => simp
  | cons c rest => simp [htext c rfl]

/-- Digits are read as a whole number unless something behind them continues it. -/
theorem readNumber_digits {digits text : List Char} (hne : digits ≠ [])
    (hdigits : ∀ c ∈ digits, c.isDigit = true) (hzero : digits.head? = some '0' → digits = ['0'])
    (htext : EndsNumber text) (negative : Bool) :
    readNumber negative (digits ++ text) =
      some (if digits.length > Numeral.digitLimit then .error (.numeral (.tooLong digits.length))
        else .ok (.int (Numeral.signed negative (Nat.ofDigitChars 10 digits 0))), text) := by
  have hdecimal : digits.foldl (fun n c => n * 10 + (c.toNat - 48)) 0 =
      Nat.ofDigitChars 10 digits 0 := by
    simp only [Nat.ofDigitChars, Nat.mul_comm 10]
    rfl
  have hrest : (digits ++ text).drop digits.length = text := List.drop_left
  unfold readNumber
  obtain ⟨c, others, rfl⟩ := List.exists_cons_of_ne_nil hne
  rw [takeWhile_append]
  rotate_left
  · exact hdigits
  · exact fun c hc => (htext c hc).1
  rw [← hdecimal]
  -- a zero in front is all of the digits, so both readings of them agree
  split
  · next heq =>
    cases heq
    obtain rfl : others = [] := (List.cons.inj (hzero rfl)).2
    simp only [List.cons_append, List.nil_append, List.length_singleton, List.drop_one,
      List.tail_cons, splitFraction_of_endsNumber htext, splitExponent_of_endsNumber htext]
    rfl
  · simp only [hrest, splitFraction_of_endsNumber htext, splitExponent_of_endsNumber htext,
      List.isEmpty_cons, List.isEmpty_nil, Option.isNone_none, and_self, if_true,
      Bool.false_eq_true, if_false]
    split <;> rfl

/-! ## Integers -/

theorem exists_toDigits (n : Nat) : ∃ c rest, Nat.toDigits 10 n = c :: rest ∧ c.isDigit = true := by
  obtain ⟨c, rest, hdigits⟩ := List.exists_cons_of_ne_nil (Nat.toDigits_ne_nil (b := 10) (n := n))
  refine ⟨c, rest, hdigits, ?_⟩
  apply Nat.isDigit_of_mem_toDigits (b := 10) (n := n) (by decide) (by decide)
  simp [hdigits]

theorem toNat_of_isDigit {c : Char} (h : c.isDigit = true) : 48 ≤ c.toNat ∧ c.toNat ≤ 57 := by
  simp only [Char.isDigit, Bool.and_eq_true, decide_eq_true_eq] at h
  exact ⟨UInt32.le_iff_toNat_le.mp h.1, UInt32.le_iff_toNat_le.mp h.2⟩

/-- Only zero has a zero in front. -/
theorem toDigits_eq_of_head?_eq {n : Nat} (h : (Nat.toDigits 10 n).head? = some '0') :
    Nat.toDigits 10 n = ['0'] := by
  induction n using Nat.strongRecOn with
  | ind n ih =>
    by_cases hsmall : n < 10
    · rw [Nat.toDigits_of_lt_base hsmall] at h ⊢
      exact congrArg (fun c => [c]) (Option.some.inj h)
    · -- the quotient has the same digit in front, so it would be zero
      obtain ⟨c, rest, hdigits, -⟩ := exists_toDigits (n / 10)
      rw [Nat.toDigits_of_base_le (by decide) (by omega), hdigits, List.cons_append,
        List.head?_cons] at h
      have hquotient := ih (n / 10) (by omega) (by rw [hdigits, List.head?_cons, h])
      have hzero : n / 10 = 0 := by
        rw [← Nat.ofDigitChars_toDigits (b := 10) (n := n / 10) (by decide) (by decide), hquotient]
        rfl
      omega

theorem readNumber_toDigits {text : List Char} (htext : EndsNumber text) (negative : Bool)
    (n : Nat) : readNumber negative (Nat.toDigits 10 n ++ text) =
      some (if (Nat.toDigits 10 n).length > Numeral.digitLimit then
          .error (.numeral (.tooLong (Nat.toDigits 10 n).length))
        else .ok (.int (Numeral.signed negative n)), text) := by
  have hdigits : ∀ c ∈ Nat.toDigits 10 n, c.isDigit = true := fun c hc =>
    Nat.isDigit_of_mem_toDigits (by decide) (by decide) hc
  rw [readNumber_digits Nat.toDigits_ne_nil hdigits toDigits_eq_of_head?_eq htext,
    Nat.ofDigitChars_toDigits (by decide) (by decide)]

theorem write_int (n : Int) :
    write (.int n) = (if n < 0 then ['-'] else []) ++ Nat.toDigits 10 n.natAbs := by
  rw [write, Numeral.toList_toString]

/-- The text of an integer starts with a minus sign or a digit. -/
theorem exists_write_int (n : Int) :
    ∃ c text, write (.int n) = c :: text ∧ (c = '-' ∨ c.isDigit = true) := by
  rw [write_int]
  by_cases hneg : n < 0
  · rw [if_pos hneg]
    exact ⟨_, _, rfl, .inl rfl⟩
  · rw [if_neg hneg]
    obtain ⟨c, rest, hdigits, hdigit⟩ := exists_toDigits n.natAbs
    exact ⟨c, rest, hdigits, .inr hdigit⟩

/-- No word starts with a digit, or with a minus sign and a digit. -/
theorem find?_words {c : Char} (h : c.isDigit = true) (text : List Char) :
    words.find? (fun (word, _) => word.isPrefixOf (c :: text)) = none ∧
      words.find? (fun (word, _) => word.isPrefixOf ('-' :: c :: text)) = none := by
  have hne : ∀ d : Char, d.isDigit = false → (d == c) = false := by
    intro d hd
    rw [beq_eq_false_iff_ne]
    rintro rfl
    cases h.symm.trans hd
  simp [words, List.isPrefixOf, hne]

theorem readScalar_minus {text rest : List Char} {result : Except Fault Value}
    (hword : words.find? (fun (word, _) => word.isPrefixOf ('-' :: text)) = none)
    (hnumber : readNumber true text = some (result, rest)) :
    readScalar ('-' :: text) = result.map (·, rest) := by
  simp only [readScalar, hword, hnumber]
  cases result <;> rfl

theorem readScalar_digit {c : Char} {text rest : List Char} {result : Except Fault Value}
    (hc : c ≠ '-') (hword : words.find? (fun (word, _) => word.isPrefixOf (c :: text)) = none)
    (hnumber : readNumber false (c :: text) = some (result, rest)) :
    readScalar (c :: text) = result.map (·, rest) := by
  simp only [readScalar, hword, List.cons.injEq, hc, false_and, imp_self, implies_true, hnumber]
  cases result <;> rfl

/-- An integer is read back, or refused for its many digits. -/
theorem readScalar_write_int {text : List Char} (htext : EndsNumber text) (n : Int) :
    readScalar (write (.int n) ++ text) =
      if (Nat.toDigits 10 n.natAbs).length > Numeral.digitLimit then
        .error (.numeral (.tooLong (Nat.toDigits 10 n.natAbs).length))
      else .ok (.int n, text) := by
  obtain ⟨c, others, hdigits, hdigit⟩ := exists_toDigits n.natAbs
  have hnumber := fun negative => readNumber_toDigits htext negative n.natAbs
  obtain ⟨hplain, hnegative⟩ := find?_words hdigit (others ++ text)
  rw [write_int]
  rw [hdigits] at hnumber ⊢
  by_cases hneg : n < 0
  · have hsigned : Numeral.signed true n.natAbs = n := by
      simp only [Numeral.signed, if_true]
      omega
    rw [if_pos hneg]
    refine (readScalar_minus hnegative (hnumber true)).trans ?_
    rw [hsigned]
    split <;> rfl
  · have hsigned : Numeral.signed false n.natAbs = n := by
      simp only [Numeral.signed, Bool.false_eq_true, if_false]
      omega
    have hminus : c ≠ '-' := by
      rintro rfl
      revert hdigit
      decide
    rw [if_neg hneg]
    refine (readScalar_digit hminus hplain (hnumber false)).trans ?_
    rw [hsigned]
    split <;> rfl

/-! ## Strings -/

/-- Whether a text inside a string is read as pieces, before whatever else is read of it. -/
def ReadsAs (text : List Char) (pieces : List Piece) : Prop :=
  ∀ start rest found more, rest ≠ [] → readPieces start rest = .ok (found, more) →
    readPieces start (text ++ rest) = .ok (pieces ++ found, more)

theorem ReadsAs.append {text other : List Char} {pieces others : List Piece}
    (h : ReadsAs text pieces) (h' : ReadsAs other others) :
    ReadsAs (text ++ other) (pieces ++ others) := by
  intro start rest found more hne hrest
  rw [List.append_assoc, List.append_assoc]
  exact h _ _ _ _ (by simp [hne]) (h' _ _ _ _ hne hrest)

theorem readsAs_plain {c : Char} (hquote : c ≠ '"') (hslash : c ≠ '\\') (hc : 32 ≤ c.toNat) :
    ReadsAs [c] [.plain c] := by
  intro start rest found more hne hrest
  have hlt : ¬ c.toNat < 32 := by omega
  simp only [List.cons_append, List.nil_append, hslash, imp_false, IsEmpty.forall_iff, implies_true,
    readPieces, hlt, if_false, hrest, Except.map]
  rfl

theorem readsAs_escape {c e : Char} (hc : c ≠ 'u') (he : plainEscape? c = some e) :
    ReadsAs ['\\', c] [.plain e] := by
  intro start rest found more hne hrest
  simp only [List.cons_append, List.nil_append, readPieces, he, hrest, Except.map]
  rfl

/-- Four digits are enough for a code unit. -/
theorem fourDigits?_digitsPadded {n : Nat} (h : n < 0x10000) :
    ∃ a b c d, Hex.digitsPadded 4 n = [a, b, c, d] ∧ fourDigits? a b c d = some n := by
  have hdigit : ∀ m : Nat, Hex.value? (Hex.digit (m % 16)) = some (m % 16) := fun m =>
    Hex.value?_digit (m % 16) (Nat.mod_lt m (by decide))
  refine ⟨Hex.digit (n / 256 / 16 % 16), Hex.digit (n / 256 % 16), Hex.digit (n / 16 % 16),
    Hex.digit (n % 16), ?_, ?_⟩
  · rw [Hex.digitsPadded_eq 1 n h, Hex.encodeChars_ofNatWidth_succ,
      Hex.encodeChars_ofNatWidth_succ]
    rfl
  · simp only [fourDigits?, hdigit, Option.bind_eq_bind, Option.bind_some]
    refine congrArg some ?_
    omega

theorem readsAs_unit {n : Nat} (h : n < 0x10000) : ReadsAs (escapeUnit n) [.unit n] := by
  intro start rest found more hne hrest
  obtain ⟨a, b, c, d, hdigits, hvalue⟩ := fourDigits?_digitsPadded h
  have hmore : rest.isEmpty = false := by simpa using hne
  rw [escapeUnit, hdigits]
  simp only [List.cons_append, List.nil_append, readPieces, hmore, Bool.false_eq_true, if_false,
    hvalue, hrest, Except.map]
  rfl

/-- What is written of a character is read as pieces that are joined to the character. -/
theorem exists_pieces (c : Char) :
    ∃ pieces, ReadsAs (escapeChar c) pieces ∧
      ∀ others, joinPieces none (pieces ++ others) = c :: joinPieces none others := by
  have hescape : ∀ {d : Char}, d ≠ 'u' → plainEscape? d = some c → ∃ pieces,
      ReadsAs ['\\', d] pieces ∧
        ∀ others, joinPieces none (pieces ++ others) = c :: joinPieces none others := fun hd hc =>
    ⟨[.plain c], readsAs_escape hd hc, fun _ => rfl⟩
  have hranges := Text.toNat_ranges c
  unfold escapeChar
  dsimp only
  split_ifs with h1 h2 h3 h4 h5 h6 h7 h8 h9
  · exact hescape (by decide) (by subst h1; rfl)
  · exact hescape (by decide) (by subst h2; rfl)
  · exact hescape (by decide) (by subst h3; rfl)
  · exact hescape (by decide) (by subst h4; rfl)
  · exact hescape (by decide) (by subst h5; rfl)
  · exact hescape (by decide) (by subst h6; rfl)
  · exact hescape (by decide) (by subst h7; rfl)
  · exact ⟨[.plain c], readsAs_plain h1 h2 h8.1, fun _ => rfl⟩
  · refine ⟨[.unit c.toNat], readsAs_unit h9, fun others => ?_⟩
    have hhigh : isHighSurrogate c.toNat = false := by
      simp only [isHighSurrogate, Bool.and_eq_false_iff, decide_eq_false_iff_not]
      omega
    have hlow : isLowSurrogate c.toNat = false := by
      simp only [isLowSurrogate, Bool.and_eq_false_iff, decide_eq_false_iff_not]
      omega
    simp [joinPieces, hhigh, hlow, Char.ofNat_toNat]
  · -- a character beyond the first plane is the pair of surrogates that it is written as
    refine ⟨_, (readsAs_unit (n := 0xd800 + (c.toNat - 0x10000) / 0x400) (by omega)).append
      (readsAs_unit (n := 0xdc00 + (c.toNat - 0x10000) % 0x400) (by omega)), fun others => ?_⟩
    have hhigh : isHighSurrogate (0xd800 + (c.toNat - 0x10000) / 0x400) = true := by
      simp only [isHighSurrogate, Bool.and_eq_true, decide_eq_true_eq]
      omega
    have hlow : isLowSurrogate (0xdc00 + (c.toNat - 0x10000) % 0x400) = true := by
      simp only [isLowSurrogate, Bool.and_eq_true, decide_eq_true_eq]
      omega
    have hpair : 0x10000 + (0xd800 + (c.toNat - 0x10000) / 0x400 - 0xd800) * 0x400 +
        (0xdc00 + (c.toNat - 0x10000) % 0x400 - 0xdc00) = c.toNat := by omega
    simp only [List.cons_append, List.nil_append, joinPieces, hhigh, hlow, if_true, hpair,
      Char.ofNat_toNat]

theorem readPieces_flatMap (start : Nat) (text rest : List Char) :
    ∃ pieces, readPieces start (text.flatMap escapeChar ++ '"' :: rest) = .ok (pieces, rest) ∧
      joinPieces none pieces = text := by
  induction text with
  | nil => exact ⟨[], rfl, rfl⟩
  | cons c others ih =>
    obtain ⟨found, hfound, hjoin⟩ := ih
    obtain ⟨pieces, hpieces, hchar⟩ := exists_pieces c
    refine ⟨pieces ++ found, ?_, by rw [hchar, hjoin]⟩
    rw [List.flatMap_cons, List.append_assoc]
    exact hpieces _ _ _ _ (by simp) hfound

/-- A written string is read back. -/
theorem readString_writeString (s : String) (rest : List Char) :
    readString (s.toList.flatMap escapeChar ++ '"' :: rest) = .ok (s, rest) := by
  obtain ⟨pieces, hpieces, hjoin⟩ := readPieces_flatMap _ s.toList rest
  rw [readString, hpieces]
  simp [Except.map, hjoin]

end DepositBridge.Json
