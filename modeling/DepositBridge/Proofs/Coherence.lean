import DepositBridge.Abi.Coherence
import DepositBridge.Proofs.Results
import Mathlib.Data.List.Nodup

/-!
# Coherent interfaces

What is checked before a client is made of an interface: each entry by itself is sound, and no two
functions share a selector (`checkEntries_eq_ok_iff`). An entry that is written as compilers write
it is sound unless it has a reserved name (`IsWellFormed.isSound`).
-/

namespace DepositBridge

/-! ## Depth -/

namespace Value

variable {v w : Value} {name : String}

theorem depth_le_itemsDepth {items : List Value} (h : v ∈ items) : v.depth ≤ itemsDepth items := by
  induction items with
  | nil => cases h
  | cons first rest ih =>
    rw [itemsDepth]
    rcases List.mem_cons.mp h with rfl | h
    · exact Nat.le_max_left _ _
    · exact Nat.le_trans (ih h) (Nat.le_max_right _ _)

theorem depth_le_membersDepth {members : List (String × Value)} (h : (name, v) ∈ members) :
    v.depth ≤ membersDepth members := by
  induction members with
  | nil => cases h
  | cons first rest ih =>
    rw [membersDepth]
    rcases List.mem_cons.mp h with rfl | h
    · exact Nat.le_max_left _ _
    · exact Nat.le_trans (ih h) (Nat.le_max_right _ _)

theorem mem_of_foldl_member {members : List (String × Value)} {found : Option Value}
    (h : members.foldl (fun found (key, v) => if key = name then some v else found) found =
      some v) : found = some v ∨ (name, v) ∈ members := by
  induction members generalizing found with
  | nil => exact .inl h
  | cons first rest ih =>
    obtain ⟨key, w⟩ := first
    rcases ih h with hfirst | hrest
    · by_cases hkey : key = name
      · simp only [hkey, if_true, Option.some.injEq] at hfirst
        exact .inr (by simp [hkey, hfirst])
      · simp only [hkey, if_false] at hfirst
        exact .inl hfirst
    · exact .inr (List.mem_cons_of_mem _ hrest)

/-- A member lies less deep than its object. -/
theorem depth_lt_of_get? (h : v.get? name = some w) : w.depth < v.depth := by
  cases v <;> simp only [get?, reduceCtorEq] at h
  next members =>
    rcases mem_of_foldl_member h with ⟨⟨⟩⟩ | hmem
    exact Nat.lt_succ_of_le (depth_le_membersDepth hmem)

end Value

namespace Abi

variable {entry parameter v w : Value} {entries : List Value}

/-! ## Written types -/

theorem fieldOf_of_get? {name : String} (h : v.get? name = some w) : fieldOf v name = .ok w := by
  cases v <;> simp only [Value.get?, reduceCtorEq] at h
  simp only [fieldOf, h]

/-- A parameter as compilers write it: it has a type, and a tuple has components. -/
inductive IsParameter : Value → Prop
  | plain {v : Value} {name : String} (htype : v.get? "type" = some (.text name))
    (hplain : ¬ "tuple".toList <+: name.toList) : IsParameter v
  | tuple {v : Value} {name : String} {components : List Value}
    (htype : v.get? "type" = some (.text name))
    (hcomponents : v.get? "components" = some (.list components))
    (hall : ∀ component ∈ components, IsParameter component) : IsParameter v

/-- The type of a parameter is written if the bound reaches as deep as the parameter. -/
theorem exists_writtenTypeWithin (h : IsParameter parameter) {depth : Nat}
    (hdepth : parameter.depth ≤ depth) : ∃ type, writtenTypeWithin depth parameter = .ok type := by
  have hsucc {v w : Value} {field : String} {depth : Nat} (hfield : v.get? field = some w)
      (hdepth : v.depth ≤ depth) : ∃ n, depth = n + 1 ∧ w.depth ≤ n :=
    ⟨depth - 1, by have := Value.depth_lt_of_get? hfield; omega⟩
  induction h generalizing depth with
  | @plain v name htype hplain =>
    obtain ⟨depth, rfl, -⟩ := hsucc htype hdepth
    simp only [writtenTypeWithin, fieldOf_of_get? htype, ok_bind]
    split
    · next hname => exact absurd ⟨_, hname.symm⟩ hplain
    · exact ⟨_, rfl⟩
  | @tuple v name components htype hcomponents hall ih =>
    obtain ⟨depth, rfl, hitems⟩ := hsucc hcomponents hdepth
    simp only [writtenTypeWithin, fieldOf_of_get? htype, fieldOf_of_get? hcomponents, ok_bind]
    split
    · have htypes : ∀ component ∈ components,
          ∃ type, writtenTypeWithin depth component = .ok type := fun component hmem =>
        ih component hmem (Nat.le_trans (Value.depth_le_itemsDepth hmem) (Nat.le_of_succ_le hitems))
      obtain ⟨types, htypes⟩ := exists_mapM_ok htypes
      exact ⟨_, by rw [htypes]; rfl⟩
    · exact ⟨_, rfl⟩

/-- The signature of a function is written if its parameters are as compilers write them. -/
theorem exists_writtenSignature
    (h : ∀ parameter ∈ parametersOf "inputs" entry, IsParameter parameter) :
    ∃ signature, writtenSignature entry = .ok signature := by
  have htypes : ∀ parameter ∈ parametersOf "inputs" entry,
      ∃ type, writtenType parameter = .ok type := fun parameter hmem =>
    exists_writtenTypeWithin (h parameter hmem) (Nat.le_refl _)
  obtain ⟨types, htypes⟩ := exists_mapM_ok htypes
  exact ⟨_, by rw [writtenSignature, htypes]; rfl⟩

/-! ## Selectors -/

/-- Functions collide unless their selectors are different from each other. -/
theorem collisions_eq_nil_iff {signatures : List String} :
    collisions signatures = [] ↔ (signatures.map selectorOf).Nodup := by
  have hcount (selector : Octets) : (((signatures.map fun signature =>
      (selectorOf signature, signature)).filter (·.1 = selector)).map (·.2)).length =
        (signatures.map selectorOf).count selector := by
    rw [List.length_map, ← List.countP_eq_length_filter, List.count, List.countP_map,
      List.countP_map]
    exact List.countP_congr fun signature _ => by simp
  simp only [collisions, List.filter_eq_nil_iff, List.forall_mem_map, List.mem_eraseDups, hcount,
    decide_eq_true_eq, Nat.not_lt]
  rw [List.nodup_iff_count_le_one]
  constructor
  · intro h selector
    by_cases hmem : selector ∈ signatures.map selectorOf
    · obtain ⟨signature, hsignature, rfl⟩ := List.mem_map.mp hmem
      exact h signature hsignature
    · exact Nat.le_trans (Nat.le_of_eq (List.count_eq_zero.mpr hmem)) (Nat.zero_le 1)
  · exact fun h signature _ => h _

/-- The selectors of the functions of an interface. -/
def selectors (entries : List Value) : List Octets :=
  (entries.filter (isKind "function")).filterMap fun entry =>
    (writtenSignature entry).toOption.map selectorOf

theorem selectors_eq {signatures : List String}
    (h : (entries.filter (isKind "function")).mapM writtenSignature = .ok signatures) :
    selectors entries = signatures.map selectorOf := by
  rw [mapM_eq_ok_iff] at h
  unfold selectors
  generalize entries.filter (isKind "function") = functions at h ⊢
  induction h with
  | nil => rfl
  | cons hfirst _ ih =>
    rw [List.filterMap_cons, hfirst, ih]
    rfl

/-! ## Sound entries -/

/-- What is checked of an entry by itself. -/
structure IsSound (entry : Value) : Prop where
  isObject : ∃ members, entry = .object members
  hasKind : ∃ kind, fieldOf entry "type" = .ok kind
  hasSignature : isKind "function" entry = true →
    ∃ signature, writtenSignature entry = .ok signature
  isNotReserved : checkName entry = .ok ()
  hasName : isKind "function" entry = true ∨ isKind "event" entry = true →
    requireName entry = .ok ()

/-- A client can be made of an interface exactly if its entries are sound and its functions have
selectors of their own. -/
theorem checkEntries_eq_ok_iff :
    checkEntries entries = .ok () ↔
      (∀ entry ∈ entries, IsSound entry) ∧ (selectors entries).Nodup := by
  unfold checkEntries
  simp only [unless_eq_ok_iff, bind_eq_ok_iff, forM_eq_ok_iff, Bool.not_eq_true', Bool.not_eq_false,
    List.all_eq_true, List.isEmpty_iff, collisions_eq_nil_iff]
  constructor
  · rintro ⟨hobjects, ⟨⟩, hkinds, signatures, hsignatures, hdistinct, ⟨⟩, hnames, hrequired⟩
    rw [forM_eq_ok_iff] at hkinds hnames
    refine ⟨fun entry hentry => ⟨?_, ?_, ?_, hnames entry hentry, ?_⟩, ?_⟩
    · have hobject := hobjects entry hentry
      split at hobject
      · exact ⟨_, rfl⟩
      · cases hobject
    · obtain ⟨kind, hkind, -⟩ := map_eq_ok_iff.mp (hkinds entry hentry)
      exact ⟨kind, hkind⟩
    · exact fun hfunction =>
        exists_ok_of_mapM hsignatures (List.mem_filter.mpr ⟨hentry, hfunction⟩)
    · rintro (hfunction | hevent)
      · exact hrequired entry (by simp [hentry, hfunction])
      · exact hrequired entry (by simp [hentry, hevent])
    · rwa [selectors_eq hsignatures]
  · rintro ⟨hsound, hdistinct⟩
    obtain ⟨signatures, hsignatures⟩ : ∃ signatures,
        (entries.filter (isKind "function")).mapM writtenSignature = .ok signatures := by
      refine exists_mapM_ok fun entry hentry => ?_
      obtain ⟨hentry, hfunction⟩ := List.mem_filter.mp hentry
      exact (hsound entry hentry).hasSignature hfunction
    rw [selectors_eq hsignatures] at hdistinct
    refine ⟨?_, (), ?_, signatures, hsignatures, hdistinct, (), ?_, ?_⟩
    · intro entry hentry
      obtain ⟨members, rfl⟩ := (hsound entry hentry).isObject
      rfl
    · refine forM_eq_ok_iff.mpr fun entry hentry => ?_
      obtain ⟨kind, hkind⟩ := (hsound entry hentry).hasKind
      exact map_eq_ok_iff.mpr ⟨kind, hkind, rfl⟩
    · exact forM_eq_ok_iff.mpr fun entry hentry => (hsound entry hentry).isNotReserved
    · intro entry hentry
      rcases List.mem_append.mp hentry with hentry | hentry
      · obtain ⟨hentry, hfunction⟩ := List.mem_filter.mp hentry
        exact (hsound entry hentry).hasName (.inl hfunction)
      · obtain ⟨hentry, hevent⟩ := List.mem_filter.mp hentry
        exact (hsound entry hentry).hasName (.inr hevent)

/-- The kinds that an entry can have. -/
def entryKinds : List String := ["function", "event", "error", "constructor", "fallback", "receive"]

/-- An entry as compilers write it: it has one of the kinds, a function, event or error has a name,
and what it takes are parameters. -/
structure IsWellFormed (entry : Value) : Prop where
  kind : ∃ kind ∈ entryKinds, entry.get? "type" = some (.text kind)
  name : ∀ kind ∈ ["function", "event", "error"], isKind kind entry = true →
    ∃ name, entry.get? "name" = some (.text name)
  inputs : ∀ parameter ∈ parametersOf "inputs" entry, IsParameter parameter

theorem isObject_of_get? {name : String} (h : v.get? name = some w) :
    ∃ members, v = .object members := by
  cases v <;> simp only [Value.get?, reduceCtorEq] at h
  exact ⟨_, rfl⟩

/-- A well-formed entry is sound unless it has a reserved name. -/
theorem IsWellFormed.isSound (h : IsWellFormed entry) (hname : checkName entry = .ok ()) :
    IsSound entry := by
  obtain ⟨kind, -, hkind⟩ := h.kind
  refine ⟨isObject_of_get? hkind, ⟨_, fieldOf_of_get? hkind⟩,
    fun _ => exists_writtenSignature h.inputs, hname, fun hnamed => ?_⟩
  obtain ⟨name, hname⟩ : ∃ name, entry.get? "name" = some (.text name) :=
    hnamed.elim (h.name _ (by simp)) (h.name _ (by simp))
  rw [requireName, fieldOf_of_get? hname]
  rfl

end Abi

end DepositBridge
