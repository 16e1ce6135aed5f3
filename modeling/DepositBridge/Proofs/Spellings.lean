import DepositBridge.Proofs.Fields
import DepositBridge.Proofs.Hexadecimal

/-!
# Spellings

An address, a word of thirty-two octets and a number have many spellings each. What a text writes is
told without a reader here: by its letters in small case, behind the mark in front of them and
between the blanks around pairs. The readers of fields read exactly what is written.
-/

namespace DepositBridge

/-! ## Digits in either case -/

namespace Hex

/-- No character beyond ASCII has a small case of its own. -/
theorem toLower_of_le {c : Char} (h : 128 ≤ c.toNat) : c.toLower = c := by
  unfold Char.toLower
  rw [dif_neg]
  simp only [ge_iff_le, UInt32.le_iff_toNat_le, not_and, Nat.not_le]
  intro _
  exact Nat.lt_of_lt_of_le (by decide) h

theorem value?_of_le {c : Char} (h : 128 ≤ c.toNat) : value? c = none := by
  have hbeyond : ∀ last : Char, last.toNat < 128 → ¬ c ≤ last := by
    intro last hlast hle
    have hle : c.toNat ≤ last.toNat := Char.le_def.mp hle
    omega
  simp only [value?, hbeyond '9' (by decide), hbeyond 'f' (by decide), hbeyond 'F' (by decide),
    and_false, if_false]

/-- A character is the digit of a number if its small case is. -/
theorem value?_eq_some_iff {c : Char} {n : Nat} :
    value? c = some n ↔ n < 16 ∧ c.toLower = digit n := by
  by_cases hascii : c.toNat < 128
  · have hall : ∀ code, code < 128 →
        ((∀ n, n < 16 → (value? (.ofNat code) = some n ↔ (Char.ofNat code).toLower = digit n)) ∧
          ∀ n ∈ value? (.ofNat code), n < 16) := by decide +kernel
    obtain ⟨hvalue, hsmall⟩ := hall c.toNat hascii
    rw [Char.ofNat_toNat] at hvalue hsmall
    constructor
    · intro h
      exact ⟨hsmall n h, (hvalue n (hsmall n h)).mp h⟩
    · intro h
      exact (hvalue n h.1).mpr h.2
  · have hdigit : ∀ n, n < 16 → (digit n).toNat < 128 := by decide
    rw [value?_of_le (by omega), toLower_of_le (by omega)]
    constructor
    · intro h
      cases h
    · intro h
      obtain ⟨hn, rfl⟩ := h
      exact absurd (hdigit n hn) hascii

/-! ## Octets in pairs of digits -/

/-- A text writes octets: in small case it has their digits, two for each. -/
def Writes (text : List Char) (octets : Octets) : Prop :=
  text.map Char.toLower = encodeChars octets

theorem writes_pair_iff {high low : Char} {b : UInt8} :
    Writes [high, low] [b] ↔
      ∃ h l, value? high = some h ∧ value? low = some l ∧ UInt8.ofNat (16 * h + l) = b := by
  have hb := b.toNat_lt
  simp only [Writes, List.map_cons, List.map_nil, encodeChars, List.cons.injEq, and_true,
    value?_eq_some_iff]
  constructor
  · intro hdigits
    refine ⟨b.toNat / 16, b.toNat % 16, ⟨by omega, hdigits.1⟩, ⟨by omega, hdigits.2⟩, ?_⟩
    rw [Nat.div_add_mod, UInt8.ofNat_toNat]
  · intro hvalues
    obtain ⟨h, l, ⟨hh, hhigh⟩, ⟨hl, hlow⟩, rfl⟩ := hvalues
    have hoctet : (UInt8.ofNat (16 * h + l)).toNat = 16 * h + l :=
      UInt8.toNat_ofNat_of_lt' (show 16 * h + l < 256 by omega)
    have hdiv : (16 * h + l) / 16 = h := by omega
    have hmod : (16 * h + l) % 16 = l := by omega
    rw [hoctet, hdiv, hmod]
    exact ⟨hhigh, hlow⟩

theorem writes_cons_iff {high low : Char} {text : List Char} {b : UInt8} {octets : Octets} :
    Writes (high :: low :: text) (b :: octets) ↔ Writes [high, low] [b] ∧ Writes text octets := by
  simp only [Writes, List.map_cons, List.map_nil, encodeChars, List.cons.injEq, and_true]
  exact and_assoc.symm

/-- Reading pairs gives the octets that are written. -/
theorem decodePairs?_eq_some_iff {text : List Char} {octets : Octets} :
    decodePairs? text = some octets ↔ Writes text octets := by
  induction text using decodePairs?.induct generalizing octets with
  | case1 => cases octets <;> simp [decodePairs?, Writes, encodeChars]
  | case2 c => cases octets <;> simp [decodePairs?, Writes, encodeChars]
  | case3 high low rest ih =>
    cases octets with
    | nil => simp [decodePairs?, Writes, encodeChars, Option.bind_eq_some_iff]
    | cons b octets =>
      rw [writes_cons_iff, writes_pair_iff, ← ih]
      simp only [decodePairs?, Option.bind_eq_bind, Option.bind_eq_some_iff, Option.pure_def,
        Option.some.injEq, List.cons.injEq]
      constructor
      · intro hread
        obtain ⟨h, hhigh, l, hlow, more, hmore, rfl, rfl⟩ := hread
        exact ⟨⟨h, l, hhigh, hlow, rfl⟩, hmore⟩
      · intro hwritten
        obtain ⟨⟨h, l, hhigh, hlow, rfl⟩, hmore⟩ := hwritten
        exact ⟨h, hhigh, l, hlow, octets, hmore, rfl, rfl⟩

/-- A text writes octets with blanks before, between and after the pairs. -/
inductive WritesSpaced : List Char → Octets → Prop where
  | nil : WritesSpaced [] []
  | blank {c : Char} {text : List Char} {octets : Octets} (hblank : isBlank c = true)
      (hrest : WritesSpaced text octets) : WritesSpaced (c :: text) octets
  | pair {high low : Char} {text : List Char} {b : UInt8} {octets : Octets}
      (hpair : Writes [high, low] [b]) (hrest : WritesSpaced text octets) :
      WritesSpaced (high :: low :: text) (b :: octets)

theorem Writes.not_isBlank {high low : Char} {b : UInt8} (h : Writes [high, low] [b]) :
    isBlank high = false := by
  obtain ⟨n, -, hhigh, -⟩ := writes_pair_iff.mp h
  exact not_isBlank_of_isDigit (by simp [isDigit, hhigh])

/-- Behind a blank the same octets are written as without it. -/
theorem writesSpaced_blank_iff {c : Char} {text : List Char} {octets : Octets}
    (hblank : isBlank c = true) : WritesSpaced (c :: text) octets ↔ WritesSpaced text octets := by
  constructor
  · intro h
    cases h with
    | blank _ hrest => exact hrest
    | pair hpair _ =>
      rw [hpair.not_isBlank] at hblank
      cases hblank
  · exact .blank hblank

/-- Reading with blanks gives the octets that are written with blanks. -/
theorem decodeSpaced?_eq_some_iff {text : List Char} {octets : Octets} :
    decodeSpaced? text = some octets ↔ WritesSpaced text octets := by
  induction text using decodeSpaced?.induct generalizing octets with
  | case1 =>
    constructor
    · intro h
      cases h
      exact .nil
    · intro h
      cases h
      rfl
  | case2 c hblank =>
    have hnil : WritesSpaced [] octets ↔ octets = [] := by
      constructor
      · intro h
        cases h
        rfl
      · intro h
        exact h ▸ .nil
    rw [writesSpaced_blank_iff hblank, hnil]
    simp [decodeSpaced?, hblank, eq_comm]
  | case3 c hblank =>
    -- a character on its own is neither a blank nor a pair
    constructor
    · intro h
      simp [decodeSpaced?, hblank] at h
    · intro h
      cases h with
      | blank hblank' _ => exact absurd hblank' hblank
  | case4 c next rest hblank ih =>
    rw [writesSpaced_blank_iff hblank, ← ih]
    simp [decodeSpaced?, hblank]
  | case5 c next rest hblank ih =>
    simp only [decodeSpaced?, hblank, Bool.false_eq_true, if_false, Option.bind_eq_bind,
      Option.bind_eq_some_iff, Option.pure_def, Option.some.injEq]
    constructor
    · intro hread
      obtain ⟨h, hhigh, l, hlow, more, hmore, rfl⟩ := hread
      exact .pair (writes_pair_iff.mpr ⟨h, l, hhigh, hlow, rfl⟩) (ih.mp hmore)
    · intro hwritten
      cases hwritten with
      | blank hblank' _ => exact absurd hblank' hblank
      | pair hpair hrest =>
        obtain ⟨h, l, hhigh, hlow, rfl⟩ := writes_pair_iff.mp hpair
        exact ⟨h, hhigh, l, hlow, _, ih.mpr hrest, rfl⟩

end Hex

/-! ## Addresses and words -/

/-- A text writes an address if it writes the octets, behind one mark or none. -/
theorem Address.ofText?_eq_some_iff {text : String} {address : Address} :
    ofText? text = some address ↔ Hex.Writes (Hex.dropMark text.toList) address.octets := by
  simp only [ofText?, Option.bind_eq_some_iff, Hex.decodePairs?_eq_some_iff]
  constructor
  · intro h
    obtain ⟨octets, hwrites, hoctets⟩ := h
    simp only [ofOctets?, Option.dite_none_right_eq_some, Option.some.injEq] at hoctets
    obtain ⟨_, rfl⟩ := hoctets
    exact hwrites
  · intro h
    exact ⟨_, h, by rw [ofOctets?, dif_pos address.length_eq]⟩

/-- A text writes a word if it writes thirty-two octets with blanks, behind one mark or none. -/
theorem Bytes32.ofText_eq_ok_iff_writes {text : String} {octets : Octets} :
    ofText text = .ok octets ↔
      Hex.WritesSpaced (Hex.dropMark text.toList) octets ∧ octets.length = 32 := by
  rw [ofText_eq_ok_iff, Hex.decodeSpaced?_eq_some_iff]

namespace Value

/-- A value writes an address: it is a text, or octets that are one, of forty digits in either case
behind one mark or none. -/
def WritesAddress (v : Value) (address : Address) : Prop :=
  ∃ text, Field.text v = .ok text ∧ Hex.Writes (Hex.dropMark text.toList) address.octets

/-- A value writes a word: it is the thirty-two octets themselves, or a text of their digits in
either case, in pairs with blanks around them, behind one mark or none. -/
def WritesWord (v : Value) (octets : Octets) : Prop :=
  octets.length = 32 ∧ (v = .bytes octets ∨
    ∃ text, v = .text text ∧ Hex.WritesSpaced (Hex.dropMark text.toList) octets)

/-- A value writes a number: it is the number, or a numeral of it in base sixteen behind a mark and
in base ten without one. -/
def WritesNumber (v : Value) (n : Nat) : Prop :=
  v = .int n ∨ ∃ text, v = .text text ∧ TokenId.readNumber text = .ok (n : Int)

end Value

/-- The field of an address takes what a value writes. -/
theorem Field.address_eq_ok_iff {v : Value} {a : Address} :
    address v = .ok a ↔ v.WritesAddress a := by
  simp only [address, bind_eq_ok_iff, Value.WritesAddress, ← Address.ofText?_eq_some_iff,
    Address.ofValue]
  constructor
  · intro h
    obtain ⟨text, htext, hread⟩ := h
    refine ⟨text, htext, ?_⟩
    cases hof : Address.ofText? text with
    | none =>
      rw [hof] at hread
      cases hread
    | some b =>
      rw [hof] at hread
      cases hread
      rfl
  · intro h
    obtain ⟨text, htext, hread⟩ := h
    refine ⟨text, htext, ?_⟩
    rw [hread]
    rfl

/-- The field of a hash takes what a value writes. -/
theorem Field.hash_eq_ok_iff_writes {v : Value} {octets : Octets} :
    hash v = .ok octets ↔ v.WritesWord octets := by
  cases v with
  | text s =>
    have htext : hash (.text s) = .ok octets ↔ Bytes32.ofText s = .ok octets := by
      cases h : Bytes32.ofText s <;> simp [hash, h]
    rw [htext, Bytes32.ofText_eq_ok_iff_writes]
    simp [Value.WritesWord, and_comm]
  | bytes content =>
    rw [hash_eq_ok_iff]
    constructor
    · intro h
      obtain ⟨hlength, rfl⟩ := h
      exact ⟨hlength, .inl rfl⟩
    · intro h
      obtain ⟨hlength, hsame | ⟨_, hkind, -⟩⟩ := h
      · cases hsame
        exact ⟨hlength, rfl⟩
      · cases hkind
  | _ => simp [hash, Value.WritesWord]

/-! ## Numbers -/

namespace Numeral

theorem splitSign_cons {c : Char} {rest : List Char} (hplus : c ≠ '+') (hminus : c ≠ '-') :
    splitSign (c :: rest) = (false, c :: rest) := by
  unfold splitSign
  split
  · rename_i heq
    exact absurd (List.cons.inj heq).1 hplus
  · rename_i heq
    exact absurd (List.cons.inj heq).1 hminus
  · rfl

/-- Decimal digits are no marked numeral. -/
theorem isMarked_map_digit {ds : List Nat} (h : ∀ d ∈ ds, d < 10) :
    Hex.isMarked (ds.map Hex.digit) = false := by
  have hdigits : ∀ c ∈ ds.map Hex.digit, c ≠ 'x' ∧ c ≠ 'X' := by
    have hall : ∀ d, d < 10 → Hex.digit d ≠ 'x' ∧ Hex.digit d ≠ 'X' := by decide
    intro c hc
    obtain ⟨d, hd, rfl⟩ := List.mem_map.mp hc
    exact hall d (h d hd)
  unfold Hex.isMarked
  split
  · rename_i heq
    exact absurd rfl (hdigits 'x' (by simp [heq])).1
  · rename_i heq
    exact absurd rfl (hdigits 'X' (by simp [heq])).2
  · rfl

/-- A decimal numeral with a minus sign or none is read to the end, unless it has too many
digits. -/
theorem readAscii_ten {ds : List Nat} (hne : ds ≠ []) (h : ∀ d ∈ ds, d < 10) (negative : Bool) :
    readAscii .ten ((if negative then ['-'] else []) ++ ds.map Hex.digit) =
      if ds.length > digitLimit then .error (some ds.length)
      else .ok (signed negative (ofDigits .ten ds)) := by
  have hscan : scanDigits .ten true (ds.map Hex.digit) = some (ds, []) :=
    scanDigits_of_values (fun _ => hne) (map_digit?_map_digit h)
  obtain ⟨d, more, rfl⟩ := List.exists_cons_of_ne_nil hne
  -- a digit is neither a blank nor a sign, so the digits are taken as they are
  have hfirst : ∀ d, d < 10 → Text.isAsciiBlank (Hex.digit d) = false ∧ Hex.digit d ≠ '+' ∧
      Hex.digit d ≠ '-' := by decide
  obtain ⟨hblank, hplus, hminus⟩ := hfirst d (h d (by simp))
  have hsign : splitSign (((if negative then ['-'] else []) ++
      (d :: more).map Hex.digit).dropWhile Text.isAsciiBlank) =
        (negative, (d :: more).map Hex.digit) := by
    cases negative with
    | false =>
      simp only [Bool.false_eq_true, if_false, List.nil_append, List.map_cons]
      rw [List.dropWhile_cons_of_neg (by simp [hblank]), splitSign_cons hplus hminus]
    | true => rfl
  simp only [readAscii, hsign, reduceCtorEq, false_and, if_false, hscan, true_and,
    List.isEmpty_cons, Bool.false_eq_true, List.all_nil, if_true]

/-- The decimal digits of a number that may be written are not more than may be read. -/
theorem length_toDigits_le_digitLimit {n : Nat} (h : n < Nat.pow 10 digitLimit) :
    (Nat.toDigits 10 n).length ≤ digitLimit := by
  have hlimit : 0 < digitLimit := by decide
  generalize digitLimit = limit at h hlimit
  exact (Nat.length_toDigits_le_iff (by decide) hlimit).mpr h

/-- The decimal text of a number reads as the number, unless it has too many digits. -/
theorem readNumber_toString (n : Int) :
    TokenId.readNumber (toString n) =
      if (Nat.toDigits 10 n.natAbs).length > digitLimit then
        .error (.tooLong (Nat.toDigits 10 n.natAbs).length)
      else .ok n := by
  obtain ⟨ds, hne, hds, hdigits, hvalue⟩ := exists_digits .ten n.natAbs
  replace hdigits : Nat.toDigits 10 n.natAbs = ds.map Hex.digit := hdigits
  have hchars : (toString n).toList =
      (if decide (n < 0) then ['-'] else []) ++ ds.map Hex.digit := by
    simp only [toList_toString, hdigits, decide_eq_true_eq]
  have hbase : TokenId.baseOf (toString n) = .ten := by
    rw [TokenId.baseOf, hchars]
    by_cases hneg : n < 0
    · simp [hneg, Hex.isMarked]
    · simp [hneg, isMarked_map_digit hds]
  have hascii : ((if decide (n < 0) then ['-'] else []) ++ ds.map Hex.digit).all
      (fun c => c.toNat < 128) = true := by
    rw [List.all_append, all_ascii_map_digit hds, Bool.and_true]
    split <;> rfl
  have hsigned : signed (decide (n < 0)) n.natAbs = n := by
    simp only [signed, decide_eq_true_eq]
    split <;> omega
  simp only [TokenId.readNumber, hbase, read, hchars, hascii, if_true,
    readAscii_ten hne hds (decide (n < 0)), hvalue, hsigned, hdigits, List.length_map]
  by_cases hlimit : ds.length > digitLimit
  · rw [if_pos hlimit, if_pos hlimit]
  · rw [if_neg hlimit, if_neg hlimit]

/-- A numeral that is written for a number reads back as the number. -/
theorem readNumber_write {n : Int} {text : String} (h : write n = .ok text) :
    TokenId.readNumber text = .ok n := by
  simp only [write] at h
  split at h
  · rename_i hsmall
    cases h
    have hlimit := length_toDigits_le_digitLimit hsmall
    rw [readNumber_toString, if_neg (by omega)]
  · cases h

end Numeral

namespace Request

theorem tokenIdOfText_eq_ok_iff {text : String} {id : TokenId} :
    tokenIdOfText text = .ok id ↔
      id.text = text ∧ TokenId.readNumber text = .ok (id.number : Int) ∧
        id.number < Nat.pow 2 256 := by
  unfold tokenIdOfText
  cases hread : TokenId.readNumber text with
  | error fault => simp
  | ok n =>
    by_cases hrange : 0 ≤ n ∧ n < Nat.pow 2 256
    · simp only [hrange, and_self, if_true, Except.ok.injEq]
      constructor
      · intro h
        subst h
        exact ⟨rfl, (Int.toNat_of_nonneg hrange.1).symm, (Int.toNat_lt hrange.1).mpr hrange.2⟩
      · intro h
        obtain ⟨rfl, rfl, -⟩ := h
        rfl
    · simp only [hrange, if_false, reduceCtorEq, Except.ok.injEq, false_iff]
      intro h
      obtain ⟨-, rfl, hsmall⟩ := h
      exact hrange ⟨Int.natCast_nonneg _, Int.ofNat_lt.mpr hsmall⟩

theorem tokenIdField_text (text : String) : tokenIdField (.text text) = tokenIdOfText text := by
  delta tokenIdField
  rfl

/-- A number is taken by way of its numeral. -/
theorem tokenIdField_of_write {n : Int} {text : String} (h : Numeral.write n = .ok text) :
    tokenIdField (.int n) = tokenIdOfText text := by
  -- not by the equations of the field: to state them the limit of a numeral would be computed
  delta tokenIdField
  dsimp only
  rw [h]

/-- A number without a numeral is refused. -/
theorem tokenIdField_of_write_error {n : Int} {fault : Numeral.Fault}
    (h : Numeral.write n = .error fault) :
    tokenIdField (.int n) = .error (.refused (.numeral fault)) := by
  delta tokenIdField
  dsimp only
  rw [h]

theorem exists_write_of_tokenIdField {n : Int} {id : TokenId} (h : tokenIdField (.int n) = .ok id) :
    ∃ text, Numeral.write n = .ok text ∧ tokenIdOfText text = .ok id := by
  cases hwrite : Numeral.write n with
  | error fault =>
    rw [tokenIdField_of_write_error hwrite] at h
    cases h
  | ok text =>
    rw [tokenIdField_of_write hwrite] at h
    exact ⟨text, rfl, h⟩

/-- Whatever the value of a field is, an identifier is read from a numeral. -/
theorem exists_tokenIdOfText {v : Value} {id : TokenId} (h : tokenIdField v = .ok id) :
    ∃ text, tokenIdOfText text = .ok id := by
  cases v with
  | int n =>
    obtain ⟨text, -, htext⟩ := exists_write_of_tokenIdField h
    exact ⟨text, htext⟩
  | text text => exact ⟨text, tokenIdField_text text ▸ h⟩
  | _ =>
    delta tokenIdField at h
    cases h

/-- The identifier of a request reads back from its own numeral, also the one that stands for a
field that is left out. -/
theorem tokenIdOfText_text {field : Option Value} {id : TokenId}
    (h : Field.withDefault TokenId.zero tokenIdField field = .ok id) :
    tokenIdOfText id.text = .ok id := by
  cases field with
  | none =>
    obtain rfl : TokenId.zero = id := Except.ok.inj h
    have hzero : TokenId.readNumber "0" = .ok 0 := rfl
    exact tokenIdOfText_eq_ok_iff.mpr ⟨rfl, hzero, by decide⟩
  | some v =>
    obtain ⟨text, htext⟩ := exists_tokenIdOfText h
    rwa [(tokenIdOfText_eq_ok_iff.mp htext).1]

/-- The number of an identifier is the one that its numeral is read as. -/
theorem number_of_tokenIdOfText {text : String} {id : TokenId} {n : Int}
    (htaken : tokenIdOfText text = .ok id) (hread : TokenId.readNumber text = .ok n) :
    (id.number : Int) = n := by
  have hnumber := (tokenIdOfText_eq_ok_iff.mp htaken).2.1
  exact Except.ok.inj (hnumber.symm.trans hread)

/-- The number of an identifier that a request takes is the one that its value writes. -/
theorem number_of_tokenIdField {v : Value} {id : TokenId} {n : Nat}
    (htaken : tokenIdField v = .ok id) (hwrites : v.WritesNumber n) : id.number = n := by
  rcases hwrites with rfl | ⟨text, rfl, hread⟩
  · obtain ⟨text, hwrite, htext⟩ := exists_write_of_tokenIdField htaken
    exact Int.ofNat.inj (number_of_tokenIdOfText htext (Numeral.readNumber_write hwrite))
  · rw [tokenIdField_text] at htaken
    exact Int.ofNat.inj (number_of_tokenIdOfText htaken hread)

end Request

end DepositBridge
