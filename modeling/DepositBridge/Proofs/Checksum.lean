import DepositBridge.Proofs.NormalForm

/-!
# Addresses and their checksum

An address has many spellings: its digits are in either case, and a mark may stand in front of them.
One spelling stands for all others, the one in which a hash of the digits tells the case of the
letters. Here is which texts are read as an address (`hasDigits_iff`), what they denote, and what
their checksum is (`shows_of_writes`).
-/

namespace DepositBridge

/-! ## Digits behind a mark -/

namespace Hex

/-- The digits, with the letters in both cases. -/
def alphabet : List Char :=
  ['0', '1', '2', '3', '4', '5', '6', '7', '8', '9', 'a', 'b', 'c', 'd', 'e', 'f', 'A', 'B', 'C',
    'D', 'E', 'F']

theorem isDigit_iff_mem {c : Char} : isDigit c = true ↔ c ∈ alphabet := by
  by_cases hascii : c.toNat < 128
  · have hall : ∀ code, code < 128 →
        (isDigit (.ofNat code) = true ↔ Char.ofNat code ∈ alphabet) := by decide +kernel
    have hcode := hall c.toNat hascii
    rwa [Char.ofNat_toNat] at hcode
  · refine iff_of_false ?_ ?_
    · rw [isDigit, value?_of_le (by omega)]
      exact Bool.false_ne_true
    · intro hmem
      have hall : (alphabet.all fun d => d.toNat < 128) = true := by decide
      exact hascii (of_decide_eq_true (List.all_eq_true.mp hall c hmem))

/-- A text is what is left of it without a mark, or that behind one. -/
theorem mem_marked (text : List Char) :
    text ∈ [dropMark text, '0' :: 'x' :: dropMark text, '0' :: 'X' :: dropMark text] := by
  unfold dropMark
  split <;> simp

/-- Digits have no mark. -/
theorem dropMark_of_isDigit {text : List Char} (h : ∀ c ∈ text, isDigit c = true) :
    dropMark text = text := by
  unfold dropMark
  split
  · cases h 'x' (by simp)
  · cases h 'X' (by simp)
  · rfl

end Hex

namespace Address

variable {text : String} {digits : List Char} {address : Address}

/-- A text has the form of an address: forty digits in either case, behind one mark or none. -/
structure HasDigits (text : String) (digits : List Char) : Prop where
  marked : text.toList ∈ [digits, '0' :: 'x' :: digits, '0' :: 'X' :: digits]
  length : digits.length = 40
  digit : ∀ c ∈ digits, c ∈ Hex.alphabet

theorem HasDigits.dropMark (h : HasDigits text digits) :
    Hex.dropMark text.toList = digits := by
  have hdigits : Hex.dropMark digits = digits :=
    Hex.dropMark_of_isDigit fun c hc => Hex.isDigit_iff_mem.mpr (h.digit c hc)
  have hmarked := h.marked
  simp only [List.mem_cons, List.not_mem_nil, or_false] at hmarked
  rcases hmarked with htext | htext | htext
  · rw [htext, hdigits]
  · rw [htext]
    rfl
  · rw [htext]
    rfl

/-- The texts of that form are those whose digits write an address. -/
theorem hasDigits_iff :
    HasDigits text digits ↔
      Hex.dropMark text.toList = digits ∧ ∃ address : Address, Hex.Writes digits address.octets := by
  constructor
  · intro h
    have hdigits : ∀ c ∈ digits, Hex.isDigit c = true :=
      fun c hc => Hex.isDigit_iff_mem.mpr (h.digit c hc)
    obtain ⟨octets, hread⟩ := Hex.exists_decodePairs? (by rw [h.length]) hdigits
    have hlength : digits.length = 2 * octets.length := (Hex.digits_of_decodePairs? hread).1
    have htwenty : octets.length = 20 := by
      rw [h.length] at hlength
      omega
    exact ⟨h.dropMark, ⟨octets, htwenty⟩, Hex.decodePairs?_eq_some_iff.mp hread⟩
  · intro h
    obtain ⟨rfl, address, hwrites⟩ := h
    obtain ⟨hlength, hdigits⟩ :=
      Hex.digits_of_decodePairs? (Hex.decodePairs?_eq_some_iff.mpr hwrites)
    exact {
      marked := Hex.mem_marked _
      length := by rw [hlength, address.length_eq]
      digit := fun c hc => Hex.isDigit_iff_mem.mp (hdigits c hc) }

theorem exists_hasDigits_iff :
    (∃ digits, HasDigits text digits) ↔ ∃ address, ofText? text = some address := by
  simp only [hasDigits_iff, ofText?_eq_some_iff, exists_eq_left']

/-! ## What a text denotes -/

/-- A text denotes the octets whose digits it has. -/
def Denotes (text : String) (octets : Octets) : Prop :=
  ∃ digits, HasDigits text digits ∧ Hex.Writes digits octets

/-- A text denotes the octets of the address that is read from it. -/
theorem denotes_iff {octets : Octets} :
    Denotes text octets ↔ ∃ address, ofText? text = some address ∧ address.octets = octets := by
  simp only [ofText?_eq_some_iff]
  constructor
  · intro h
    obtain ⟨digits, hdigits, hwrites⟩ := h
    obtain ⟨rfl, address, haddress⟩ := hasDigits_iff.mp hdigits
    refine ⟨address, haddress, ?_⟩
    rw [← Hex.decodePairs?_eq_some_iff] at hwrites haddress
    exact Option.some.inj (haddress.symm.trans hwrites)
  · intro h
    obtain ⟨address, hwrites, rfl⟩ := h
    exact ⟨_, hasDigits_iff.mpr ⟨rfl, address, hwrites⟩, hwrites⟩

theorem eq_of_octets {a b : Address} (h : a.octets = b.octets) : a = b := by
  cases a
  cases b
  cases h
  rfl

/-- Addresses with the same text are the same. -/
theorem text_inj {a b : Address} : a.text = b.text ↔ a = b := by
  constructor
  · intro h
    have hread := ofText?_text a
    rw [h, ofText?_text] at hread
    exact (Option.some.inj hread).symm
  · intro h
    rw [h]

/-! ## The case of the letters -/

/-- Digits in the case of their checksum. The hash is that of the digits in small case: a letter is
a capital where it has a half of eight or more. -/
def cased (digits : List Char) : List Char :=
  let small := digits.map Char.toLower
  applyCase small (nibbles (Keccak.hash (small.map fun c => UInt8.ofNat c.toNat)))

/-- However the digits of an address are written, their checksum is that of the address. -/
theorem cased_of_writes (h : Hex.Writes digits address.octets) :
    cased digits = address.digits := by
  rw [cased, h]
  rfl

/-- The digits with the checksum are digits of the address. -/
theorem writes_digits (address : Address) : Hex.Writes address.digits address.octets := by
  refine Hex.decodePairs?_eq_some_iff.mp (decodePairs?_applyCase _ _ ?_)
  simp [address.length_eq]

theorem hasDigits_text (address : Address) : HasDigits address.text address.digits := by
  refine hasDigits_iff.mpr ⟨?_, address, writes_digits address⟩
  rw [text, String.toList_ofList]
  rfl

theorem text_ne_empty (address : Address) : address.text ≠ "" := by
  intro h
  have hchars := congrArg String.toList h
  rw [text, String.toList_ofList] at hchars
  cases hchars

/-- What is shown for digits is the same digits, forty of them, in the case of their checksum. -/
structure Shows (shown digits : List Char) : Prop where
  eq_cased : shown = cased digits
  length : shown.length = 40
  digit : ∀ c ∈ shown, c ∈ Hex.alphabet
  sameDigits : shown.map Char.toLower = digits.map Char.toLower

theorem shows_of_writes (h : Hex.Writes digits address.octets) : Shows address.digits digits where
  eq_cased := (cased_of_writes h).symm
  length := (hasDigits_text address).length
  digit := (hasDigits_text address).digit
  sameDigits := (writes_digits address).trans h.symm

/-! ## Checksums -/

theorem checksum_eq_ok_iff {shown : String} :
    checksum (.text text) = .ok shown ↔
      ∃ address, ofText? text = some address ∧ address.text = shown := by
  cases h : ofText? text with
  | none => simp [checksum, ofValue, h]
  | some address => simp [checksum, ofValue, h]

theorem checksum_of_ofText?_none (h : ofText? text = none) :
    checksum (.text text) = .error (.address (.text text)) := by
  simp only [checksum, ofValue, h]
  rfl

/-- A text that is its own checksum. -/
def IsChecksummed (text : String) : Prop := checksum (.text text) = .ok text

/-- These are the texts of the addresses. -/
theorem isChecksummed_iff : IsChecksummed text ↔ ∃ address : Address, address.text = text := by
  constructor
  · intro h
    obtain ⟨address, -, htext⟩ := checksum_eq_ok_iff.mp h
    exact ⟨address, htext⟩
  · intro h
    obtain ⟨address, rfl⟩ := h
    exact checksum_text address

end Address

end DepositBridge
