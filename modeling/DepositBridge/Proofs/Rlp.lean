import DepositBridge.Proofs.Octets
import DepositBridge.Rlp

/-!
# Reading RLP back

An item that can be written reads back from the front of its octets, whatever stands behind them
(`decodeFrom_encode_append`), and alone with nothing left over (`decode?_encode`).
-/

namespace DepositBridge.Rlp

/-! ## Headers -/

/-- A header is a first octet from the range of its base, behind which the size is read back. -/
theorem header_eq {base size : Nat} (hbase : base ≤ 192) (h : size < sizeLimit) :
    ∃ first tail, header base size = first :: tail ∧ base ≤ first.toNat ∧ first.toNat < base + 64 ∧
      ∀ rest, readSize base first (tail ++ rest) = some (size, rest) := by
  by_cases hshort : size < 56
  · -- a short size is told by the first octet alone
    have hfirst : (UInt8.ofNat (base + size)).toNat = base + size := by
      rw [UInt8.toNat_ofNat']
      omega
    refine ⟨UInt8.ofNat (base + size), [], by simp [header, hshort], by omega, by omega, ?_⟩
    intro rest
    rw [readSize, hfirst, Nat.add_sub_cancel_left, if_pos hshort]
    rfl
  · -- of a long one the first octet tells how many octets of size follow, which are eight at most
    have hwidth : (Octets.ofNat size).length ≤ 8 := by
      rw [Octets.length_ofNat]
      exact Octets.sizeOfNat_le h
    have hpos : 0 < (Octets.ofNat size).length := by
      rw [Octets.length_ofNat]
      exact Octets.sizeOfNat_pos (by omega)
    have hfirst : (UInt8.ofNat (base + 55 + (Octets.ofNat size).length)).toNat =
        base + 55 + (Octets.ofNat size).length := by
      rw [UInt8.toNat_ofNat']
      omega
    refine ⟨_, Octets.ofNat size, by rw [header, if_neg hshort], by omega, by omega, ?_⟩
    intro rest
    have hn : base + 55 + (Octets.ofNat size).length - base - 55 = (Octets.ofNat size).length := by
      omega
    have hlong : ¬ base + 55 + (Octets.ofNat size).length - base < 56 := by omega
    rw [readSize, hfirst, if_neg hlong]
    simp only [hn, List.take_left, List.drop_left, Octets.toNat_ofNat, true_and]
    rw [if_pos ⟨by omega, trivial⟩]

/-- Content of a size is split off. -/
theorem splitContent_append (content rest : Octets) :
    splitContent content.length (content ++ rest) = some (content, rest) := by
  simp [splitContent]

theorem length_header_pos (base size : Nat) : 0 < (header base size).length := by
  unfold header
  split <;> simp

/-! ## Items -/

/-- Octets are written as they are if they are a single one below 128, else behind a header. -/
theorem encode_octets (content : Octets) :
    (∃ b, content = [b] ∧ b.toNat < 128 ∧ encode (.octets content) = [b]) ∨
    ((∀ b, content = [b] → ¬ b.toNat < 128) ∧
      encode (.octets content) = header 128 content.length ++ content) := by
  match content with
  | [] => exact .inr ⟨by simp, by simp [encode]⟩
  | [b] =>
    by_cases h : b.toNat < 128
    · exact .inl ⟨b, rfl, h, by rw [encode, if_pos h]⟩
    · refine .inr ⟨?_, by rw [encode, if_neg h]; rfl⟩
      rintro _ ⟨⟩
      exact h
  | b :: c :: rest => exact .inr ⟨by simp, by simp [encode]⟩

theorem length_encode_pos (item : Item) : 0 < (encode item).length := by
  cases item with
  | octets content =>
    rcases encode_octets content with ⟨b, -, -, hb⟩ | ⟨-, hheader⟩
    · simp [hb]
    · have := length_header_pos 128 content.length
      rw [hheader, List.length_append]
      omega
  | list items =>
    have := length_header_pos 192 (encodeAll items).length
    rw [encode, List.length_append]
    omega

/-- Octets read back. -/
theorem decodeFrom_octets_append {content : Octets} (h : content.length < sizeLimit) (fuel : Nat)
    (rest : Octets) :
    decodeFrom (fuel + 1) (encode (.octets content) ++ rest) = some (.octets content, rest) := by
  rcases encode_octets content with ⟨b, rfl, hb, hencode⟩ | ⟨hsingle, hencode⟩
  · rw [hencode, List.singleton_append, decodeFrom, if_pos hb]
  obtain ⟨first, tail, hheader, hlow, hhigh, hread⟩ :=
    header_eq (show 128 ≤ 192 by decide) h
  rw [hencode, hheader, List.cons_append, List.cons_append, List.append_assoc, decodeFrom,
    if_neg (by omega), if_pos (by omega), hread]
  simp only [Option.bind_eq_bind, Option.bind_some, splitContent_append]
  split
  · next b => rw [if_neg (hsingle b rfl)]; rfl
  · rfl

mutual

/-- An item that can be written reads back from the front of its octets. -/
theorem decodeFrom_encode_append (item : Item) (h : isWritable item = true) (fuel : Nat)
    (rest : Octets) (hfuel : 2 * (encode item).length ≤ fuel + 1) :
    decodeFrom fuel (encode item ++ rest) = some (item, rest) := by
  have hpos := length_encode_pos item
  obtain ⟨fuel, rfl⟩ : ∃ less, fuel = less + 1 := ⟨fuel - 1, by omega⟩
  cases item with
  | octets content => exact decodeFrom_octets_append (by simpa [isWritable] using h) fuel rest
  | list items =>
    simp only [isWritable, Bool.and_eq_true, decide_eq_true_eq] at h
    obtain ⟨first, tail, hheader, hlow, -, hread⟩ := header_eq (Nat.le_refl 192) h.2
    -- the header takes an octet at least, so the fuel that is left suffices for the items
    rw [encode, hheader] at hfuel
    simp only [List.length_append, List.length_cons] at hfuel
    rw [encode, hheader, List.cons_append, List.cons_append, List.append_assoc, decodeFrom,
      if_neg (by omega), if_neg (by omega), hread]
    simp only [Option.bind_eq_bind, Option.bind_some, splitContent_append]
    rw [decodeAll_encodeAll items h.1 fuel (by omega)]
    rfl

/-- Items that can be written read back. -/
theorem decodeAll_encodeAll (items : List Item) (h : allWritable items = true) (fuel : Nat)
    (hfuel : 2 * (encodeAll items).length ≤ fuel) :
    decodeAll fuel (encodeAll items) = some items := by
  cases items with
  | nil => simp [encodeAll, decodeAll]
  | cons item items =>
    simp only [allWritable, Bool.and_eq_true] at h
    have hpos := length_encode_pos item
    simp only [encodeAll, List.length_append] at hfuel ⊢
    obtain ⟨fuel, rfl⟩ : ∃ less, fuel = less + 1 := ⟨fuel - 1, by omega⟩
    obtain ⟨first, tail, hfirst⟩ : ∃ first tail, encode item = first :: tail := by
      cases hitem : encode item with
      | nil => simp [hitem] at hpos
      | cons first tail => exact ⟨first, tail, rfl⟩
    have hitem := decodeFrom_encode_append item h.1 fuel (encodeAll items) (by omega)
    rw [hfirst, List.cons_append] at hitem ⊢
    rw [decodeAll, hitem]
    · simp only [Option.bind_eq_bind, Option.bind_some]
      rw [decodeAll_encodeAll items h.2 fuel (by omega)]
      rfl
    · simp

end

/-- An item that can be written reads back with nothing left over. -/
theorem decode?_encode (item : Item) (h : isWritable item = true) :
    decode? (encode item) = some item := by
  have hread := decodeFrom_encode_append item h (2 * (encode item).length + 2) [] (by omega)
  rw [List.append_nil] at hread
  rw [decode?, hread]

end DepositBridge.Rlp
