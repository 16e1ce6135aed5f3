import DepositBridge.Proofs.JsonTokens
import DepositBridge.Proofs.Results
import Mathlib.Data.List.TakeWhile
import Mathlib.Tactic.SplitIfs

/-!
# What refuses a JSON text

The readers of JSON take what they read off the front of a text. Most texts that they refuse are no
JSON; the others hold an integer with more digits than may be read (`numeral_of_read`).
-/

namespace DepositBridge.Json

variable {α β : Type} {text rest : List Char}

/-- Digits in a text, as many as are too many for a numeral. -/
structure IsLongRun (text digits : List Char) : Prop where
  inside : digits <:+: text
  isDigit : ∀ c ∈ digits, c.isDigit = true
  long : Numeral.digitLimit < digits.length

/-- Whether what is read of a text leaves its end, and what is refused is either no JSON or a
numeral with too many digits in the text. -/
def Leaves (text : List Char) : Except Fault (α × List Char) → Prop
  | .ok (_, rest) => rest <:+ text
  | .error (.malformed ..) => True
  | .error (.numeral fault) => ∃ digits, IsLongRun text digits ∧ fault = .tooLong digits.length

theorem Leaves.of_suffix {result : Except Fault (α × List Char)} (h : Leaves rest result)
    (hrest : rest <:+ text) : Leaves text result := by
  match result, h with
  | .ok (_, _), h => exact h.trans hrest
  | .error (.malformed ..), _ => trivial
  | .error (.numeral fault), ⟨digits, hrun, hfault⟩ =>
    exact ⟨digits, ⟨hrun.inside.trans hrest.isInfix, hrun.isDigit, hrun.long⟩, hfault⟩

theorem Leaves.bind {result : Except Fault (α × List Char)}
    {next : α × List Char → Except Fault (β × List Char)} (h : Leaves text result)
    (hnext : ∀ a rest, rest <:+ text → Leaves rest (next (a, rest))) :
    Leaves text (result >>= next) := by
  match result, h with
  | .ok (a, rest), h => exact (hnext a rest h).of_suffix h
  | .error (.malformed ..), _ => trivial
  | .error (.numeral fault), h => exact h

theorem Leaves.map {result : Except Fault (α × List Char)} (h : Leaves text result)
    (f : α × List Char → β × List Char) (hf : ∀ found, (f found).2 = found.2) :
    Leaves text (result.map f) := by
  match result, h with
  | .ok (a, rest), h =>
    have hrest := hf (a, rest)
    show (f (a, rest)).2 <:+ text
    rw [hrest]
    exact h
  | .error (.malformed ..), _ => trivial
  | .error (.numeral fault), h => exact h

theorem Leaves.cons {result : Except Fault (α × List Char)} (h : Leaves text result) (c : Char) :
    Leaves (c :: text) result :=
  h.of_suffix (List.suffix_cons c text)

theorem Leaves.skip {result : Except Fault (α × List Char)} (h : Leaves (skip text) result) :
    Leaves text result :=
  h.of_suffix (List.dropWhile_suffix _)

/-! ## Strings and numbers -/

theorem leaves_readPieces (start : Nat) (text : List Char) : Leaves text (readPieces start text) := by
  fun_induction readPieces start text with
  | case2 rest => exact List.suffix_cons _ rest
  | case5 a b c d more _ n _ ih =>
    exact .cons (.cons (.cons (.cons (.cons (.cons (.map ih _ (by intro _; rfl)) d) c) b) a) 'u') '\\'
  | case8 c rest _ e _ ih => exact .cons (.cons (.map ih _ (by intro _; rfl)) c) '\\'
  | case11 c rest _ _ _ _ _ ih => exact .cons (.map ih _ (by intro _; rfl)) c
  | _ => trivial

theorem leaves_readString (text : List Char) : Leaves text (readString text) :=
  (leaves_readPieces _ text).map _ fun _ => rfl

theorem splitFraction_suffix (text : List Char) : (splitFraction text).2 <:+ text := by
  unfold splitFraction
  split
  · split
    · exact (List.dropWhile_suffix _).trans ((List.suffix_cons _ _).trans (List.suffix_cons _ _))
    · exact List.suffix_rfl
  · exact List.suffix_rfl

theorem splitSign_suffix (text : List Char) : (Numeral.splitSign text).2 <:+ text := by
  unfold Numeral.splitSign
  split
  · exact List.suffix_cons _ _
  · exact List.suffix_cons _ _
  · exact List.suffix_rfl

theorem splitExponent_suffix (text : List Char) : (splitExponent text).2 <:+ text := by
  cases text with
  | nil => exact List.suffix_rfl
  | cons mark rest =>
    simp only [splitExponent]
    split
    · split
      · exact List.suffix_rfl
      · exact (List.dropWhile_suffix _).trans ((splitSign_suffix rest).trans (List.suffix_cons _ _))
    · exact List.suffix_rfl

theorem leaves_readNumber {negative : Bool} {result : Except Fault Value}
    (h : readNumber negative text = some (result, rest)) :
    Leaves text (result.map (·, rest)) := by
  unfold readNumber at h
  extract_lets whole at h
  have hwhole : whole <+: text ∧ ∀ c ∈ whole, c.isDigit = true := by
    unfold whole
    split
    · simp
    · refine ⟨List.takeWhile_prefix _, fun c hc => ?_⟩
      exact List.mem_takeWhile_imp hc
  have hdrop : text.drop whole.length <:+ text := List.drop_suffix _ _
  have hrest := (splitExponent_suffix _).trans ((splitFraction_suffix _).trans hdrop)
  clear_value whole
  dsimp only at h
  split_ifs at h with hempty hplain hlong
  · cases h
    exact ⟨whole, ⟨hwhole.1.isInfix, hwhole.2, hlong⟩, rfl⟩
  · cases h
    exact hrest
  · cases h
    exact hrest

/-- A word is taken off the front as it is, and a number with its sign. -/
theorem leaves_readScalar (text : List Char) : Leaves text (readScalar text) := by
  unfold readScalar
  split
  · next word v _ => exact List.drop_suffix _ _
  · extract_lets number
    have hnumber : ∀ result rest, number = some (result, rest) →
        Leaves text (result.map (·, rest)) := by
      intro result rest h
      unfold number at h
      split at h
      · exact (leaves_readNumber h).cons '-'
      · exact leaves_readNumber h
    clear_value number
    split
    · next v rest => exact hnumber _ _ rfl
    · next fault rest => exact hnumber (.error fault) rest rfl
    · trivial

/-! ## Values -/

section Readers

variable {fuel : Nat}

theorem leaves_readValue_succ (hitems : ∀ text, Leaves text (readItems fuel text))
    (hmembers : ∀ members text, Leaves text (readMembers fuel members text)) (text : List Char) :
    Leaves text (readValue (fuel + 1) text) := by
  unfold readValue
  split
  · next rest => exact .cons (.map (leaves_readString rest) _ (by intro _; rfl)) _
  · next rest =>
    refine .cons (.skip ?_) _
    generalize skip rest = after
    split
    · exact List.suffix_cons _ _
    · exact hmembers [] after
  · next rest =>
    refine .cons (.skip ?_) _
    generalize skip rest = after
    split
    · exact List.suffix_cons _ _
    · exact .map (hitems after) _ (by intro _; rfl)
  · exact leaves_readScalar text

theorem leaves_readItems_succ (hvalue : ∀ text, Leaves text (readValue fuel text))
    (hitems : ∀ text, Leaves text (readItems fuel text)) (text : List Char) :
    Leaves text (readItems (fuel + 1) text) := by
  unfold readItems
  refine (hvalue text).bind fun v rest _ => .skip ?_
  dsimp only
  generalize skip rest = after
  split
  · exact List.suffix_cons _ _
  · next more =>
    refine .cons (.skip ?_) _
    exact (hitems (skip more)).bind fun items rest _ => List.suffix_rfl
  · trivial

theorem leaves_readMembers_succ (hvalue : ∀ text, Leaves text (readValue fuel text))
    (hmembers : ∀ members text, Leaves text (readMembers fuel members text))
    (members : List (String × Value)) (text : List Char) :
    Leaves text (readMembers (fuel + 1) members text) := by
  unfold readMembers
  split
  · next rest =>
    refine .cons ((leaves_readString rest).bind fun name rest _ => .skip ?_) _
    dsimp only
    generalize skip rest = after
    split
    · next more =>
      refine .cons (.skip ((hvalue (skip more)).bind fun v rest _ => .skip ?_)) _
      dsimp only
      generalize skip rest = after
      split
      · exact List.suffix_cons _ _
      · next more => exact .cons (.skip (hmembers _ (skip more))) _
      · trivial
    · trivial
  · trivial

end Readers

/-- What the readers of values, items and members leave. -/
theorem leaves_readers (fuel : Nat) :
    (∀ text, Leaves text (readValue fuel text)) ∧ (∀ text, Leaves text (readItems fuel text)) ∧
      ∀ members text, Leaves text (readMembers fuel members text) := by
  induction fuel with
  | zero => exact ⟨fun _ => trivial, fun _ => trivial, fun _ _ => trivial⟩
  | succ fuel ih =>
    obtain ⟨hvalue, hitems, hmembers⟩ := ih
    exact ⟨leaves_readValue_succ hitems hmembers, leaves_readItems_succ hvalue hitems,
      leaves_readMembers_succ hvalue hmembers⟩

/-- An integer with too many digits stands in the text that it is refused in. -/
theorem numeral_of_read {fault : Numeral.Fault} (h : read text = .error (.numeral fault)) :
    ∃ digits, IsLongRun text digits ∧ fault = .tooLong digits.length := by
  unfold read at h
  split at h
  · cases h
  · have hleaves := (leaves_readers (2 * text.length + 2)).1 (skip text)
    cases hvalue : readValue (2 * text.length + 2) (skip text) with
    | ok found =>
      obtain ⟨v, rest⟩ := found
      rw [hvalue, ok_bind] at h
      dsimp only at h
      split at h <;> cases h
    | error fault =>
      rw [hvalue] at h hleaves
      cases h
      exact hleaves.skip

end DepositBridge.Json
