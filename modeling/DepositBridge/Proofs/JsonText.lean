import DepositBridge.Proofs.Commitment
import DepositBridge.Proofs.JsonTokens
import DepositBridge.Proofs.Results

/-!
# Values in JSON

What is written of a value is read back as the value (`read_write`), and it is plain text in ASCII
without line ends (`printable_write`). Floats and octets are left out, as their texts are those of
other values too, and so are integers with more digits than may be read.
-/

namespace DepositBridge.Json

mutual

/-- Whether a value has a JSON form of its own that can be read. -/
def IsJson : Value → Prop
  | .null => True
  | .bool _ => True
  | .int n => (Nat.toDigits 10 n.natAbs).length ≤ Numeral.digitLimit
  | .float _ => False
  | .text _ => True
  | .bytes _ => False
  | .list items => ItemsAreJson items
  | .object members => (members.map Prod.fst).Nodup ∧ MembersAreJson members
  | .hidden _ => False

/-- Whether the items of a list have one. -/
def ItemsAreJson : List Value → Prop
  | [] => True
  | v :: rest => IsJson v ∧ ItemsAreJson rest

/-- Whether the members of an object have one. -/
def MembersAreJson : List (String × Value) → Prop
  | [] => True
  | (_, v) :: rest => IsJson v ∧ MembersAreJson rest

end

/-! ## Blanks -/

theorem skip_blank (text : List Char) : skip (' ' :: text) = skip text := rfl

theorem skip_cons {c : Char} (h : 32 < c.toNat) (text : List Char) :
    skip (c :: text) = c :: text := by
  have hne : ∀ d : Char, d.toNat ≤ 32 → c ≠ d := by
    rintro d hd rfl
    omega
  simp [skip, isBlank, hne]

/-- The text of an integer starts with no blank and no bracket. -/
theorem exists_write_int_bounds (n : Int) :
    ∃ c text, write (.int n) = c :: text ∧ 32 < c.toNat ∧ c.toNat < 127 ∧ c ≠ ']' := by
  obtain ⟨c, text, htext, rfl | hdigit⟩ := exists_write_int n
  · exact ⟨_, _, htext, by decide, by decide, by decide⟩
  · have hc := toNat_of_isDigit hdigit
    refine ⟨c, text, htext, by omega, by omega, ?_⟩
    rintro rfl
    cases hdigit

/-- The text of a value starts with none of the characters that its readers pass over. -/
theorem exists_write {v : Value} (h : IsJson v) :
    ∃ c text, write v = c :: text ∧ 32 < c.toNat ∧ c.toNat < 127 ∧ c ≠ ']' := by
  cases v with
  | null => exact ⟨_, _, rfl, by decide, by decide, by decide⟩
  | bool b => cases b <;> exact ⟨_, _, rfl, by decide, by decide, by decide⟩
  | int n => exact exists_write_int_bounds n
  | float x => cases h
  | text s => exact ⟨_, _, rfl, by decide, by decide, by decide⟩
  | bytes octets => cases h
  | list items => cases items <;> exact ⟨_, _, rfl, by decide, by decide, by decide⟩
  | object members => cases members <;> exact ⟨_, _, rfl, by decide, by decide, by decide⟩
  | hidden s => cases h

theorem skip_write {v : Value} (h : IsJson v) (text : List Char) :
    skip (write v ++ text) = write v ++ text := by
  obtain ⟨c, others, hwrite, hc, -⟩ := exists_write h
  rw [hwrite]
  exact skip_cons hc _

/-! ## There and back -/

theorem readValue_write_int {text : List Char} (htext : EndsNumber text) (fuel : Nat) (n : Int) :
    readValue (fuel + 1) (write (.int n) ++ text) =
      if (Nat.toDigits 10 n.natAbs).length > Numeral.digitLimit then
        .error (.numeral (.tooLong (Nat.toDigits 10 n.natAbs).length))
      else .ok (.int n, text) := by
  rw [← readScalar_write_int htext n]
  obtain ⟨c, others, hwrite, hc⟩ := exists_write_int n
  have hne : ∀ d : Char, d ≠ '-' → d.isDigit = false → c ≠ d := by
    rintro d hminus hdigit rfl
    rcases hc with rfl | hc
    · exact hminus rfl
    · cases hc.symm.trans hdigit
  rw [hwrite]
  simp [readValue, hne]

theorem length_writeItems_pos (items : List Value) : 0 < (writeItems items).length := by
  cases items <;> simp [writeItems]

theorem endsNumber_writeItems (items : List Value) (rest : List Char) :
    EndsNumber (writeItems items ++ rest) := by
  cases items <;> exact endsNumber_cons (by simp) _

theorem endsNumber_writeMembers (members : List (String × Value)) (rest : List Char) :
    EndsNumber (writeMembers members ++ rest) := by
  rcases members with _ | ⟨⟨name, v⟩, others⟩ <;> exact endsNumber_cons (by simp) _

/-- A member with a new name is put behind the others. -/
theorem putMember_of_not_mem {members : List (String × Value)} {name : String}
    (h : name ∉ members.map Prod.fst) (v : Value) :
    Value.putMember members name v = members ++ [(name, v)] := by
  have hany : members.any (·.1 = name) = false := by
    rw [List.any_eq_false]
    intro entry hentry
    simp only [decide_eq_true_eq]
    rintro rfl
    exact h (List.mem_map.mpr ⟨entry, hentry, rfl⟩)
  simp [Value.putMember, hany]

-- Each reader takes one step for a value and one to get to the next, and either has at least one
-- character of its own, so the length of a text is fuel enough for it. The items behind the bracket
-- of a list, and the members behind the brace of an object, are written as those behind a comma.
mutual

theorem readValue_write : ∀ (v : Value), IsJson v → ∀ (fuel : Nat) (rest : List Char),
    EndsNumber rest → (write v).length ≤ fuel → readValue fuel (write v ++ rest) = .ok (v, rest)
  | .null, _, fuel + 1, rest, _, _ => rfl
  | .bool true, _, fuel + 1, rest, _, _ => rfl
  | .bool false, _, fuel + 1, rest, _, _ => rfl
  | .int n, h, 0, rest, _, hfuel => by
    obtain ⟨c, others, hwrite, -⟩ := exists_write_int n
    simp [hwrite] at hfuel
  | .int n, h, fuel + 1, rest, hrest, _ => by
    rw [readValue_write_int hrest, if_neg (Nat.not_lt.mpr h)]
  | .text s, _, fuel + 1, rest, _, _ => by
    have hread := readString_writeString s rest
    have hwrite : write (.text s) ++ rest = '"' :: (s.toList.flatMap escapeChar ++ '"' :: rest) := by
      simp [write, writeString]
    rw [hwrite, readValue, hread]
    rfl
  | .list [], _, fuel + 1, rest, _, _ => rfl
  | .list (v :: items), h, fuel + 1, rest, _, hfuel => by
    have hlength : (writeItems (v :: items)).length ≤ fuel + 2 := by
      simp only [write, writeItems, List.cons_append, List.length_cons] at hfuel ⊢
      omega
    have hitems := readItems_write (v :: items) (by simp) h fuel rest hlength
    obtain ⟨c, others, hwrite, hc, -, hne⟩ := exists_write h.1
    have hskip := skip_cons hc (others ++ (writeItems items ++ rest))
    simp only [write, writeItems, hwrite, List.cons_append, List.append_assoc, List.drop_succ_cons,
      List.drop_zero] at hitems ⊢
    simp [readValue, hskip, hne, hitems, Except.map]
  | .object [], _, fuel + 1, rest, _, _ => rfl
  | .object ((name, v) :: members), h, fuel + 1, rest, _, hfuel => by
    have hlength : (writeMembers ((name, v) :: members)).length ≤ fuel + 2 := by
      simp only [write, writeMembers, List.cons_append, List.length_cons] at hfuel ⊢
      omega
    have hmembers := readMembers_write ((name, v) :: members) (by simp) h.2 [] fuel rest h.1 hlength
    simp only [write, writeMembers, writeString, List.cons_append, List.drop_succ_cons,
      List.drop_zero] at hmembers ⊢
    exact hmembers

theorem readItems_write : ∀ (items : List Value), items ≠ [] → ItemsAreJson items →
    ∀ (fuel : Nat) (rest : List Char), (writeItems items).length ≤ fuel + 2 →
    readItems fuel ((writeItems items).drop 2 ++ rest) = .ok (items, rest)
  | v :: items, _, h, 0, rest, hfuel => by
    have hpos := length_writeItems_pos items
    simp only [writeItems, List.cons_append, List.length_cons, List.length_append] at hfuel
    omega
  | v :: items, _, h, fuel + 1, rest, hfuel => by
    have hpos := length_writeItems_pos items
    simp only [writeItems, List.cons_append, List.length_cons, List.length_append] at hfuel
    have hv := readValue_write v h.1 fuel _ (endsNumber_writeItems items rest) (by omega)
    simp only [writeItems, List.cons_append, List.append_assoc, List.drop_succ_cons,
      List.drop_zero, readItems, hv]
    cases items with
    | nil => rfl
    | cons w others =>
      have hitems := readItems_write (w :: others) (by simp) h.2 fuel rest (by omega)
      have hskip := skip_write h.2.1 (writeItems others ++ rest)
      simp only [writeItems, List.cons_append, List.append_assoc, List.drop_succ_cons,
        List.drop_zero] at hitems ⊢
      simp [skip_cons, skip_blank, hskip, hitems]

theorem readMembers_write : ∀ (members : List (String × Value)), members ≠ [] →
    MembersAreJson members → ∀ (before : List (String × Value)) (fuel : Nat) (rest : List Char),
    ((before ++ members).map Prod.fst).Nodup → (writeMembers members).length ≤ fuel + 2 →
    readMembers fuel before ((writeMembers members).drop 2 ++ rest) =
      .ok (.object (before ++ members), rest)
  | (name, v) :: members, _, h, before, 0, rest, _, hfuel => by
    simp only [writeMembers, writeString, List.cons_append, List.length_cons, List.length_append,
      List.append_assoc] at hfuel
    omega
  | (name, v) :: members, _, h, before, fuel + 1, rest, hnodup, hfuel => by
    simp only [writeMembers, writeString, List.cons_append, List.length_cons, List.length_append,
      List.append_assoc, List.nil_append] at hfuel
    have hstring := readString_writeString name
      (':' :: ' ' :: (write v ++ (writeMembers members ++ rest)))
    have hskip := skip_write h.1 (writeMembers members ++ rest)
    have hv := readValue_write v h.1 fuel _ (endsNumber_writeMembers members rest) (by omega)
    have hput : Value.putMember before name v = before ++ [(name, v)] := by
      refine putMember_of_not_mem (fun hmem => ?_) v
      rw [List.map_append] at hnodup
      exact (List.nodup_append.mp hnodup).2.2 name hmem name (by simp) rfl
    simp only [writeMembers, writeString, List.cons_append, List.append_assoc, List.drop_succ_cons,
      List.drop_zero, List.nil_append, readMembers, hstring, ok_bind]
    simp only [Char.reduceToNat, Nat.reduceLT, skip_cons, skip_blank, hskip, hv, ok_bind, hput]
    cases members with
    | nil =>
      simp only [writeMembers, List.cons_append, List.nil_append, Char.reduceToNat, Nat.reduceLT,
        skip_cons]
      rfl
    | cons entry others =>
      have hmembers := readMembers_write (entry :: others) (by simp) h.2 (before ++ [(name, v)])
        fuel rest (by simpa using hnodup) (by omega)
      simp only [writeMembers, writeString, List.cons_append, List.append_assoc,
        List.drop_succ_cons, List.drop_zero, List.nil_append] at hmembers ⊢
      simp [skip_cons, skip_blank, hmembers]

end

theorem read_of_readValue {result : Except Fault Value} {c : Char} {text : List Char}
    (hc : 32 < c.toNat) (hascii : c.toNat < 127)
    (h : readValue (2 * (c :: text).length + 2) (c :: text) = result.map (·, [])) :
    read (c :: text) = result := by
  have hmark : c ≠ '\ufeff' := by
    rintro rfl
    revert hascii
    decide
  unfold read
  split
  · next heq =>
    cases heq
    exact absurd rfl hmark
  · rw [skip_cons hc, h]
    cases result <;> rfl

/-- What is written of a value is read back. -/
theorem read_write {v : Value} (h : IsJson v) : read (write v) = .ok v := by
  have hread := readValue_write v h (2 * (write v).length + 2) [] endsNumber_nil (by omega)
  obtain ⟨c, others, hwrite, hc, hascii, -⟩ := exists_write h
  rw [List.append_nil] at hread
  rw [hwrite] at hread ⊢
  exact read_of_readValue hc hascii hread

/-- An integer with too many digits is refused. -/
theorem read_write_long {n : Int} (h : Numeral.digitLimit < (Nat.toDigits 10 n.natAbs).length) :
    read (write (.int n)) = .error (.numeral (.tooLong (Nat.toDigits 10 n.natAbs).length)) := by
  have hread := readValue_write_int endsNumber_nil (2 * (write (.int n)).length + 1) n
  rw [List.append_nil, if_pos h] at hread
  obtain ⟨c, others, hwrite, hc, hascii, -⟩ := exists_write_int_bounds n
  rw [hwrite] at hread ⊢
  exact read_of_readValue hc hascii hread

/-! ## Plain text -/

/-- Whether a text consists of characters of ASCII that can be seen, and blanks. -/
def Printable (text : List Char) : Prop := ∀ c ∈ text, 32 ≤ c.toNat ∧ c.toNat < 127

@[simp] theorem printable_nil : Printable [] := by simp [Printable]

@[simp] theorem printable_cons {c : Char} {text : List Char} :
    Printable (c :: text) ↔ (32 ≤ c.toNat ∧ c.toNat < 127) ∧ Printable text :=
  List.forall_mem_cons

@[simp] theorem printable_append {text other : List Char} :
    Printable (text ++ other) ↔ Printable text ∧ Printable other :=
  List.forall_mem_append

theorem toNat_of_isHexDigit {c : Char} (h : Hex.isDigit c = true) :
    32 ≤ c.toNat ∧ c.toNat < 127 := by
  have hrange : ∃ low high : Char, low ≤ c ∧ c ≤ high ∧ 32 ≤ low.toNat ∧ high.toNat < 127 := by
    unfold Hex.isDigit Hex.value? at h
    split_ifs at h with h1 h2 h3
    · exact ⟨_, _, h1.1, h1.2, by decide, by decide⟩
    · exact ⟨_, _, h2.1, h2.2, by decide, by decide⟩
    · exact ⟨_, _, h3.1, h3.2, by decide, by decide⟩
    · cases h
  obtain ⟨low, high, hlow, hhigh, hfirst, hlast⟩ := hrange
  have hlow : low.toNat ≤ c.toNat := UInt32.le_iff_toNat_le.mp hlow
  have hhigh : c.toNat ≤ high.toNat := UInt32.le_iff_toNat_le.mp hhigh
  omega

theorem printable_escapeUnit (n : Nat) : Printable (escapeUnit n) := by
  have hdigits : Printable (Hex.digitsPadded 4 n) := fun c hc =>
    toNat_of_isHexDigit (Hex.isDigit_of_mem_digitsPadded c hc)
  simp [escapeUnit, hdigits]

theorem printable_escapeChar (c : Char) : Printable (escapeChar c) := by
  unfold escapeChar
  dsimp only
  split_ifs with h1 h2 h3 h4 h5 h6 h7 h8 h9 <;> simp [printable_escapeUnit]
  exact h8

theorem printable_writeString (s : String) : Printable (writeString s) := by
  have hchars : Printable (s.toList.flatMap escapeChar) := by
    intro c hc
    obtain ⟨d, -, hd⟩ := List.mem_flatMap.mp hc
    exact printable_escapeChar d c hd
  simp [writeString, hchars]

theorem printable_write_int (n : Int) : Printable (write (.int n)) := by
  have hdigits : Printable (Nat.toDigits 10 n.natAbs) := by
    intro c hc
    have hbounds := toNat_of_isDigit (Nat.isDigit_of_mem_toDigits (by decide) (by decide) hc)
    omega
  rw [write_int]
  split <;> simp [hdigits]

mutual

/-- The text of a value is plain: all else is escaped. -/
theorem printable_write : ∀ v : Value, IsJson v → Printable (write v)
  | .null, _ => by simp [write]
  | .bool true, _ => by simp [write]
  | .bool false, _ => by simp [write]
  | .int n, _ => printable_write_int n
  | .text s, _ => printable_writeString s
  | .list [], _ => by simp [write]
  | .list (v :: items), h => by
    simp [write, printable_write v h.1, printable_writeItems items h.2]
  | .object [], _ => by simp [write]
  | .object ((name, v) :: members), h => by
    simp [write, printable_writeString, printable_write v h.2.1,
      printable_writeMembers members h.2.2]

theorem printable_writeItems : ∀ items : List Value, ItemsAreJson items →
    Printable (writeItems items)
  | [], _ => by simp [writeItems]
  | v :: items, h => by
    simp [writeItems, printable_write v h.1, printable_writeItems items h.2]

theorem printable_writeMembers : ∀ members : List (String × Value), MembersAreJson members →
    Printable (writeMembers members)
  | [], _ => by simp [writeMembers]
  | (name, v) :: members, h => by
    simp [writeMembers, printable_writeString, printable_write v h.1,
      printable_writeMembers members h.2]

end

end DepositBridge.Json
