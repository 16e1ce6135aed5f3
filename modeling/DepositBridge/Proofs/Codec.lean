import DepositBridge.Abi.Codec
import DepositBridge.Proofs.Octets

/-!
# Reading calls back

Data of one word each, and lists of such data, read back from the octets of a call
(`decodeAll?_encodeAll`). The data stand in their places one after the other; what stands behind the
places is found by its offset.
-/

namespace DepositBridge.Abi

/-! ## Words -/

@[simp] theorem length_word (n : Int) : (word n).length = 32 := Octets.length_ofNatWidth _ _

/-- A word reads back as the number that it is made of. -/
theorem toNat_word {n : Nat} (h : n < 2 ^ 256) : Octets.toNat (word n) = n := by
  have hmod : ((n : Int) % Nat.pow 2 256).toNat = n := by
    rw [Int.emod_eq_of_lt (by omega) (by exact_mod_cast h), Int.toNat_natCast]
  rw [word, hmod]
  exact Octets.toNat_ofNatWidth_of_lt (by simpa using h)

/-- The word behind the octets in front of a place. -/
theorem wordAt?_append (front : Octets) {w : Octets} (rest : Octets) (h : w.length = 32) :
    wordAt? (front ++ (w ++ rest)) front.length = some w := by
  rw [wordAt?, List.drop_left, List.take_left' h]
  simp [h]

theorem length_of_wordAt? {octets w : Octets} {place : Nat} (h : wordAt? octets place = some w) :
    w.length = 32 := by
  rw [wordAt?, Option.ite_none_right_eq_some] at h
  exact Option.some.inj h.2 ▸ h.1

theorem numberAt?_append (front : Octets) {n : Nat} (rest : Octets) (h : n < 2 ^ 256) :
    numberAt? (front ++ (word n ++ rest)) front.length = some n := by
  rw [numberAt?, wordAt?_append front rest (length_word n), Option.map_some, toNat_word h]

/-! ## Data of one word -/

/-- Data of a type whose encoding is one word. -/
inductive IsWord : Ty → Datum → Prop where
  | uint {bits n : Nat} : bits ≤ 256 → n < 2 ^ bits → IsWord (.uint bits) (.number n)
  | bool (b : Bool) : IsWord .bool (.flag b)
  | address (a : Address) : IsWord .address (.address a)
  | fixedBytes {size : Nat} {content : Octets} : size ≤ 32 → content.length = size →
      IsWord (.fixedBytes size) (.octets content)

variable {t item : Ty} {d : Datum}

theorem IsWord.isDynamic_eq (h : IsWord t d) : t.isDynamic = false := by
  cases h <;> rfl

theorem IsWord.headSize_eq (h : IsWord t d) : t.headSize = 32 := by
  cases h <;> rfl

theorem IsWord.length_encode (h : IsWord t d) : (encode t d).length = 32 := by
  cases h with
  | uint _ _ => simp [encode]
  | bool b => simp [encode]
  | address a => simp [encode, Octets.padLeft, a.length_eq]
  | fixedBytes hsize hlength =>
    simp only [encode, Octets.padRight, List.length_append, List.length_replicate]
    omega

/-- Where the word of a datum stands, the datum is read. -/
theorem IsWord.decodeBody_eq (h : IsWord t d) {octets : Octets} {place : Nat}
    (hword : wordAt? octets place = some (encode t d)) (depth : Nat) :
    decodeBody (depth + 1) t octets place = some d := by
  cases h with
  | @uint bits n hbits hn =>
    have hsmall : n < 2 ^ 256 := Nat.lt_of_lt_of_le hn (Nat.pow_le_pow_right (by decide) hbits)
    simp only [encode] at hword
    simp [decodeBody, numberAt?, hword, toNat_word hsmall, hn]
  | bool b =>
    simp only [encode] at hword
    cases b with
    | true =>
      have hone : Octets.toNat (word 1) = 1 := toNat_word (n := 1) (by decide)
      simp [decodeBody, numberAt?, hword, hone]
    | false =>
      have hzero : Octets.toNat (word 0) = 0 := toNat_word (n := 0) (by decide)
      simp [decodeBody, numberAt?, hword, hzero]
  | address a =>
    simp only [encode, Octets.padLeft, a.length_eq] at hword
    simp only [decodeBody, hword, Option.bind_eq_bind, Option.bind_some]
    rw [List.take_left' (by simp), List.drop_left' (by simp), if_pos (by simp)]
    simp [Address.ofOctets?, a.length_eq]
  | @fixedBytes size content hsize hlength =>
    simp only [encode, Octets.padRight] at hword
    simp only [decodeBody, hword, Option.bind_eq_bind, Option.bind_some]
    rw [List.take_left' hlength, List.drop_left' hlength, if_pos (by simp)]
    rfl

theorem IsWord.decodeAt_eq (h : IsWord t d) {octets : Octets} {place : Nat}
    (hword : wordAt? octets place = some (encode t d)) (start depth : Nat) :
    decodeAt (depth + 2) t octets start place = some d := by
  rw [decodeAt, h.isDynamic_eq]
  exact h.decodeBody_eq hword depth

/-! ## Lists of words -/

/-- The encodings of data one after another. -/
def encodeEach (item : Ty) (data : List Datum) : Octets := data.flatMap (encode item)

theorem length_encodeEach {data : List Datum} (h : ∀ d ∈ data, IsWord item d) :
    (encodeEach item data).length = 32 * data.length := by
  induction data with
  | nil => rfl
  | cons d rest ih =>
    have hd := (h d (by simp)).length_encode
    have hrest := ih fun d hd => h d (by simp [hd])
    simp only [encodeEach, List.flatMap_cons, List.length_append, List.length_cons] at hrest ⊢
    omega

/-- Data of one word each stand one after the other. -/
theorem assemble_itemParts {data : List Datum} (h : ∀ d ∈ data, IsWord item d) :
    assemble (itemParts item data) = encodeEach item data := by
  have hboth : ∀ offset, places offset (itemParts item data) = encodeEach item data ∧
      tails (itemParts item data) = [] := by
    induction data with
    | nil => exact fun _ => ⟨rfl, rfl⟩
    | cons d rest ih =>
      intro offset
      have hrest := ih (fun d hd => h d (by simp [hd])) offset
      simp [itemParts, (h d (by simp)).isDynamic_eq, places, tails, hrest, encodeEach]
  rw [assemble, (hboth _).1, (hboth 0).2, List.append_nil]

/-- Data of one word each read back from where they stand. -/
theorem decodeItems_encodeEach {data : List Datum} (h : ∀ d ∈ data, IsWord item d)
    (front rest : Octets) (start : Nat) {depth : Nat} (hdepth : data.length + 2 ≤ depth) :
    decodeItems depth item (front ++ (encodeEach item data ++ rest)) start front.length
      data.length =
      some data := by
  induction data generalizing front depth with
  | nil => simp [decodeItems]
  | cons d data ih =>
    have hword := h d (by simp)
    obtain ⟨depth, rfl⟩ : ∃ less, depth = less + 3 := ⟨depth - 3, by simp at hdepth; omega⟩
    have hfirst : wordAt? (front ++ (encodeEach item (d :: data) ++ rest)) front.length =
        some (encode item d) := by
      rw [encodeEach, List.flatMap_cons, List.append_assoc]
      exact wordAt?_append front _ hword.length_encode
    have hlater := ih (fun d hd => h d (by simp [hd])) (front ++ encode item d)
      (show data.length + 2 ≤ depth + 2 by simp at hdepth; omega)
    have hlength : (front ++ encode item d).length = front.length + 32 := by
      rw [List.length_append, hword.length_encode]
    rw [hlength, List.append_assoc, ← List.append_assoc (encode item d)] at hlater
    rw [List.length_cons, decodeItems, hword.decodeAt_eq hfirst]
    simp only [Option.bind_eq_bind, Option.bind_some, hword.headSize_eq]
    rw [encodeEach, List.flatMap_cons]
    rw [encodeEach] at hlater
    rw [hlater]
    rfl

theorem encode_list_eq {data : List Datum} (h : ∀ d ∈ data, IsWord item d) :
    encode (.array item) (.list data) = word data.length ++ encodeEach item data := by
  rw [encode, assemble_itemParts h]

/-- A list reads back from where it stands. -/
theorem decodeBody_array {data : List Datum} (h : ∀ d ∈ data, IsWord item d) (front rest : Octets)
    {octets : Octets} (hoctets : octets = front ++ (encode (.array item) (.list data) ++ rest))
    (hsize : octets.length < 2 ^ 256) {depth : Nat} (hdepth : data.length + 2 ≤ depth) :
    decodeBody (depth + 1) (.array item) octets front.length = some (.list data) := by
  have hlength := congrArg List.length hoctets
  rw [encode_list_eq h] at hoctets hlength
  simp only [List.length_append, length_word, length_encodeEach h] at hlength
  have hcount : numberAt? octets front.length = some data.length := by
    rw [hoctets, List.append_assoc]
    exact numberAt?_append front _ (by omega)
  have hitems : decodeItems depth item octets (front.length + 32) (front.length + 32) data.length =
      some data := by
    have hread :=
      decodeItems_encodeEach h (front ++ word data.length) rest (front.length + 32) hdepth
    rw [List.length_append, length_word] at hread
    rw [hoctets]
    simpa only [List.append_assoc] using hread
  have hfits : ¬ data.length > octets.length := by omega
  simp only [decodeBody, hcount, Option.bind_eq_bind, Option.bind_some, hfits, if_false, hitems,
    Option.map_some]

/-! ## Parameters -/

/-- Data of a type that is one word, or a list of such data. -/
inductive IsFlat : Ty → Datum → Prop where
  | word {t : Ty} {d : Datum} : IsWord t d → IsFlat t d
  | array {item : Ty} {data : List Datum} : (∀ d ∈ data, IsWord item d) →
      IsFlat (.array item) (.list data)

theorem length_places (offset : Nat) (ps : List Part) :
    (places offset ps).length = placesSize ps := by
  induction ps generalizing offset with
  | nil => rfl
  | cons p ps ih =>
    cases p with
    | inPlace content => simp [places, placesSize, ih]
    | behind content => simp [places, placesSize, ih]

theorem length_le_placesSize {types : List Ty} {data : List Datum}
    (h : List.Forall₂ IsFlat types data) : types.length ≤ placesSize (parts types data) := by
  induction h with
  | nil => simp
  | cons hflat _ ih =>
    cases hflat with
    | word hword =>
      simp only [parts, hword.isDynamic_eq, Bool.false_eq_true, if_false, placesSize,
        hword.length_encode, List.length_cons]
      omega
    | array _ =>
      simp only [parts, Ty.isDynamic, if_true, placesSize, List.length_cons]
      omega

/-- Data read back from their places. `front` is what stands in front of the place of the first of
them, and `middle` what stands between all places and what belongs to the first of them behind. -/
theorem decodeList_parts {types : List Ty} {data : List Datum} (h : List.Forall₂ IsFlat types data)
    (front middle : Octets) {offset depth : Nat} {octets : Octets}
    (hoffset : offset = front.length + placesSize (parts types data) + middle.length)
    (hoctets : octets =
      front ++ (places offset (parts types data) ++ (middle ++ tails (parts types data))))
    (hsize : octets.length < 2 ^ 256) (hdepth : types.length + octets.length + 4 ≤ depth) :
    decodeList depth types octets 0 front.length = some data := by
  -- the induction is on the data: the place of the first one goes over to `front`, and what belongs
  -- to it behind to `middle`, so that the octets are the same throughout
  induction h generalizing front middle offset depth with
  | nil => simp [decodeList]
  | @cons t d types data hflat _ ih =>
    obtain ⟨depth, rfl⟩ : ∃ less, depth = less + 1 := ⟨depth - 1, by simp at hdepth; omega⟩
    simp only [List.length_cons] at hdepth
    cases hflat with
    | word hword =>
      simp only [parts, hword.isDynamic_eq, Bool.false_eq_true, if_false, places, placesSize, tails,
        hword.length_encode] at hoffset hoctets
      have hfirst : wordAt? octets front.length = some (encode t d) := by
        rw [hoctets, List.append_assoc]
        exact wordAt?_append front _ hword.length_encode
      have hlater := @ih (front ++ encode t d) middle offset depth
        (by rw [List.length_append, hword.length_encode]; omega)
        (by rw [hoctets]; simp only [List.append_assoc]) (by omega)
      rw [List.length_append, hword.length_encode] at hlater
      obtain ⟨depth, rfl⟩ : ∃ less, depth = less + 2 := ⟨depth - 2, by omega⟩
      simp only [decodeList, hword.decodeAt_eq hfirst, hword.headSize_eq, hlater,
        Option.bind_eq_bind, Option.bind_some, Option.pure_def]
    | @array item items hitems =>
      simp only [parts, Ty.isDynamic, if_true, places, placesSize, tails] at hoffset hoctets
      -- only the size of the content matters for where the later ones are
      generalize hcontent : encode (.array item) (.list items) = content at hoffset hoctets
      have hlength := congrArg List.length hoctets
      simp only [List.length_append, length_word, length_places] at hlength
      have hcount : 32 * items.length ≤ octets.length := by
        rw [encode_list_eq hitems] at hcontent
        rw [← hcontent, List.length_append, length_encodeEach hitems] at hlength
        omega
      have hplace : numberAt? octets front.length = some offset := by
        rw [hoctets, List.append_assoc]
        exact numberAt?_append front _ (by omega)
      -- the offset leads over all places and what is behind them already
      have hbody : ∀ depth, items.length + 2 ≤ depth →
          decodeBody (depth + 1) (.array item) octets offset = some (.list items) := by
        intro depth hdepth
        have hread := @decodeBody_array item items hitems
          (front ++
            (word offset ++ (places (offset + content.length) (parts types data) ++ middle)))
          (tails (parts types data)) octets
          (by rw [hoctets, hcontent]; simp only [List.append_assoc]) hsize depth hdepth
        simpa only [List.length_append, length_word, length_places, hoffset, Nat.add_assoc,
          Nat.add_left_comm] using hread
      have hlater := @ih (front ++ word offset) (middle ++ content) (offset + content.length) depth
        (by simp only [List.length_append, length_word]; omega)
        (by rw [hoctets]; simp only [List.append_assoc]) (by omega)
      rw [List.length_append, length_word] at hlater
      have hfits : ¬ offset > octets.length := by omega
      obtain ⟨depth, rfl⟩ : ∃ less, depth = less + 2 := ⟨depth - 2, by omega⟩
      simp only [decodeList, decodeAt, Ty.isDynamic, if_true, hplace, Option.bind_some, hfits,
        if_false, Nat.zero_add, hbody depth (by omega), Ty.headSize, hlater, Option.bind_eq_bind,
        Option.pure_def]

/-- Parameters of one word each, or lists of such, read back from the octets of a call. -/
theorem decodeAll?_encodeAll {types : List Ty} {data : List Datum}
    (h : List.Forall₂ IsFlat types data) (hsize : (encodeAll types data).length < 2 ^ 256) :
    decodeAll? types (encodeAll types data) = some data := by
  have htypes : types.length ≤ (encodeAll types data).length := by
    rw [encodeAll, assemble, List.length_append, length_places]
    exact Nat.le_trans (length_le_placesSize h) (Nat.le_add_right _ _)
  exact @decodeList_parts types data h [] [] (placesSize (parts types data)) _ _ (by simp)
    (by simp [encodeAll, assemble]) hsize (by omega)

end DepositBridge.Abi
