import DepositBridge.CommandLine.Run
import Mathlib.Data.List.Nodup
import Mathlib.Data.List.TakeWhile

/-!
# Merging a file into an environment

A file never overrides an environment: it adds the names that the environment lacks, and reading
settings is then the same as reading them from the environment with these additions, also when the
file is merged once more (`load_completes`). Which names a file gives a value is told by its text
alone, although the values may refer to the environment; so what is added once is all that the file
can ever add.
-/

namespace DepositBridge

namespace EnvFile

variable {environment : Environment} {bindings : Bindings} {name : String}

/-! ## Bindings -/

/-- Whether the names of a file have a value, without the values. -/
def Bindings.outline (bindings : Bindings) : List (String × Bool) :=
  bindings.map fun binding => (binding.1, binding.2.isSome)

theorem Bindings.mem_outline {given : Bool} :
    (name, given) ∈ bindings.outline ↔
      ∃ value, (name, value) ∈ bindings ∧ value.isSome = given := by
  simp only [outline, List.mem_map, Prod.mk.injEq]
  constructor
  · rintro ⟨⟨_, value⟩, hmem, rfl, rfl⟩
    exact ⟨value, hmem, rfl⟩
  · rintro ⟨value, hmem, rfl⟩
    exact ⟨_, hmem, rfl, rfl⟩

/-- Putting a binding changes the outline alike, whatever the values are. -/
theorem Bindings.outline_put (value : Option String) :
    (bindings.put name value).outline =
      if bindings.outline.any (·.1 = name) then
        bindings.outline.map fun entry => if entry.1 = name then (entry.1, value.isSome) else entry
      else bindings.outline ++ [(name, value.isSome)] := by
  have hany : bindings.outline.any (·.1 = name) = bindings.any (·.1 = name) := by
    simp [outline, List.any_map, Function.comp_def]
  rw [hany, put]
  split
  · simp only [outline, List.map_map]
    refine List.map_congr_left fun binding _ => ?_
    by_cases h : binding.1 = name <;> simp [h]
  · simp [outline]

theorem Bindings.names_put (value : Option String) :
    (bindings.put name value).map Prod.fst =
      if name ∈ bindings.map Prod.fst then bindings.map Prod.fst
      else bindings.map Prod.fst ++ [name] := by
  have hany : bindings.any (·.1 = name) = true ↔ name ∈ bindings.map Prod.fst := by
    simp
  rw [put]
  simp only [hany]
  split
  · rw [List.map_map]
    refine List.map_congr_left fun binding _ => ?_
    by_cases h : binding.1 = name <;> simp [h]
  · simp

theorem Bindings.nodup_put (h : (bindings.map Prod.fst).Nodup) (value : Option String) :
    ((bindings.put name value).map Prod.fst).Nodup := by
  rw [names_put]
  split
  · exact h
  · next hnew =>
    refine List.nodup_append.mpr ⟨h, List.nodup_singleton name, ?_⟩
    rintro key hkey _ hname rfl
    exact hnew (List.mem_singleton.mp hname ▸ hkey)

theorem Bindings.mem_put {key : String} {value given : Option String}
    (h : (key, given) ∈ bindings.put name value) :
    key = name ∧ given = value ∨ (key, given) ∈ bindings := by
  rw [put] at h
  split at h
  · obtain ⟨⟨old, was⟩, hmem, heq⟩ := List.mem_map.mp h
    by_cases hname : old = name
    · simp only [hname, if_true, Prod.mk.injEq] at heq
      exact .inl ⟨heq.1.symm, heq.2.symm⟩
    · simp only [hname, if_false, Prod.mk.injEq] at heq
      exact .inr (heq.1 ▸ heq.2 ▸ hmem)
  · simpa [or_comm] using h

/-- The names of a file are bound once each. -/
theorem nodup_bind (environment : Environment) (assignments : List Assignment) :
    ((bind environment assignments).map Prod.fst).Nodup :=
  List.foldlRecOn assignments _ (motive := fun bindings : Bindings => (bindings.map Prod.fst).Nodup)
    List.nodup_nil fun _ h _ _ => Bindings.nodup_put h _

/-- A bound name is one that the file assigns, with a value if it has one. -/
theorem assigned_of_mem_bind {assignments : List Assignment} {value : Option String}
    (h : (name, value) ∈ bind environment assignments) :
    ∃ assignment ∈ assignments,
      String.ofList assignment.name = name ∧ assignment.value.isSome = value.isSome := by
  revert name value
  refine List.foldlRecOn assignments _ (motive := fun bindings : Bindings =>
    ∀ {name value}, (name, value) ∈ bindings → ∃ assignment ∈ assignments,
      String.ofList assignment.name = name ∧ assignment.value.isSome = value.isSome)
    (by simp) ?_
  intro bindings ih assignment hmem name value h
  obtain ⟨rfl, rfl⟩ | hold := Bindings.mem_put h
  · exact ⟨assignment, hmem, rfl, Option.isSome_map.symm⟩
  · exact ih hold

/-- Which names a file gives a value does not depend on the environment. -/
theorem outline_bind (environment other : Environment) (assignments : List Assignment) :
    (bind environment assignments).outline = (bind other assignments).outline := by
  refine List.foldl_rel (r := fun bindings others : Bindings =>
    bindings.outline = others.outline) rfl ?_
  intro assignment _ bindings others h
  simp only [Bindings.outline_put, h, Option.isSome_map]

/-! ## What is added -/

theorem Environment.get?_append (environment added : Environment) (name : String) :
    Environment.get? (environment ++ added) name =
      (environment.get? name).or (added.get? name) :=
  List.lookup_append

theorem Environment.mem_additions {value : String} :
    (name, value) ∈ environment.additions bindings ↔
      (name, some value) ∈ bindings ∧ environment.get? name = none := by
  simp only [additions, List.mem_filterMap, Prod.exists]
  constructor
  · rintro ⟨key, given, hmem, h⟩
    split at h
    · cases h
    · next hnew =>
      obtain ⟨_, rfl, heq⟩ := Option.map_eq_some_iff.mp h
      cases heq
      exact ⟨hmem, by simpa using hnew⟩
  · rintro ⟨hmem, hnew⟩
    exact ⟨name, some value, hmem, by simp [hnew]⟩

/-- In a list with one value a name, looking a name up finds the value that stands beside it. -/
theorem lookup_eq_some_iff_mem {α : Type} {entries : List (String × α)} {value : α}
    (hnodup : (entries.map Prod.fst).Nodup) :
    entries.lookup name = some value ↔ (name, value) ∈ entries := by
  induction entries with
  | nil => simp
  | cons entry rest ih =>
    obtain ⟨key, given⟩ := entry
    obtain ⟨hfresh, hrest⟩ := List.nodup_cons.mp hnodup
    by_cases hname : name = key
    · subst hname
      have habsent : (name, value) ∉ rest := fun hmem => hfresh (List.mem_map.mpr ⟨_, hmem, rfl⟩)
      simp [habsent, eq_comm]
    · have hother : (name == key) = false := by simpa using hname
      simp [List.lookup_cons, hother, ih hrest, hname]

theorem Environment.nodup_additions (hnodup : (bindings.map Prod.fst).Nodup) :
    ((environment.additions bindings).map Prod.fst).Nodup := by
  refine List.pairwise_map.mpr (List.Pairwise.filterMap _ ?_ (List.pairwise_map.mp hnodup))
  -- what a binding adds bears the name of the binding
  have hname : ∀ (binding : String × Option String) (added : String × String),
      (if (environment.get? binding.1).isSome then none
        else binding.2.map fun value => (binding.1, value)) = some added → added.1 = binding.1 := by
    intro binding added h
    split at h
    · cases h
    · obtain ⟨_, -, rfl⟩ := Option.map_eq_some_iff.mp h
      rfl
  intro binding other hne added hadded later hlater
  rw [hname binding added hadded, hname other later hlater]
  exact hne

/-- A new variable has the value that its name is bound to. -/
theorem Environment.get?_additions (hnodup : (bindings.map Prod.fst).Nodup)
    (hnew : environment.get? name = none) :
    (environment.additions bindings).get? name = (bindings.lookup name).join := by
  refine Option.ext fun value => ?_
  rw [get?, lookup_eq_some_iff_mem (nodup_additions hnodup), mem_additions, Option.join_eq_some_iff,
    lookup_eq_some_iff_mem hnodup]
  exact and_iff_left hnew

/-- Whether an environment can hold all that a text adds to it. -/
def Legal (environment : Environment) (text : List Char) : Prop :=
  ∀ added ∈ environment.additions (bind environment (assignments text)),
    fault? added.1 added.2 = none

instance (environment : Environment) (text : List Char) : Decidable (Legal environment text) :=
  inferInstanceAs (Decidable (∀ _ ∈ _, _))

theorem mergeText_of_legal {text : List Char} (h : Legal environment text) :
    mergeText environment text =
      ⟨environment ++ environment.additions (bind environment (assignments text)), none⟩ := by
  simp only [mergeText, Environment.addMissing, Merge.mk.injEq, List.append_cancel_left_eq]
  constructor
  · rw [List.takeWhile_eq_self_iff]
    intro added hmem
    exact Option.isNone_iff_eq_none.mpr (h added hmem)
  · exact List.findSome?_eq_none_iff.mpr h

/-- Once a text has added what it can, it has nothing more to add. -/
theorem additions_again (environment : Environment) (text : List Char) :
    let after := environment ++ environment.additions (bind environment (assignments text))
    Environment.additions after (bind after (assignments text)) = [] := by
  intro after
  refine List.eq_nil_iff_forall_not_mem.mpr ?_
  rintro ⟨name, value⟩ hmem
  obtain ⟨hbound, hnew⟩ := Environment.mem_additions.mp hmem
  obtain ⟨hlacks, hnot⟩ := Option.or_eq_none_iff.mp (Environment.get?_append .. ▸ hnew)
  -- the name has a value in this text, whatever environment it is read in
  have hgiven : (name, true) ∈ (bind environment (assignments text)).outline := by
    rw [outline_bind environment after]
    exact Bindings.mem_outline.mpr ⟨_, hbound, rfl⟩
  obtain ⟨given, hfirst, hsome⟩ := Bindings.mem_outline.mp hgiven
  obtain ⟨first, rfl⟩ := Option.isSome_iff_exists.mp hsome
  have hadded := Environment.mem_additions.mpr ⟨hfirst, hlacks⟩
  have hfound := (lookup_eq_some_iff_mem
    (Environment.nodup_additions (nodup_bind environment (assignments text)))).mpr hadded
  cases hfound.symm.trans hnot

end EnvFile

open EnvFile

namespace Settings

variable {tree : FileTree} {file : Option String} {environment : Environment}

/-- What reading settings leaves behind: the environment, and the settings or why there are none. -/
structure Loading where
  environment : Environment
  outcome : Except Failure Settings

/-- Merges a file into an environment and reads settings from what it has become. -/
def load (tree : FileTree) (file : Option String) (environment : Environment) : Loading :=
  let merge := mergeFile tree file environment
  ⟨merge.environment, match merge.fault with
    | some fault => .error (.environment fault)
    | none => (ofEnvironment merge.environment).mapError .settings⟩

/-- A command reads its settings so. -/
theorem outcome_load (file : String) :
    (load tree (some file) environment).outcome = CommandLine.settingsFor tree file environment :=
  rfl

/-- What a file holds. No file, or none that is there, holds nothing. -/
def content (tree : FileTree) (file : Option String) : Octets :=
  ((file.filter (· ≠ "")).bind fun name => tree.read? (Path.ofText name)).getD []

theorem merge_nil (environment : Environment) :
    EnvFile.merge environment [] = ⟨environment, none⟩ := by
  have htext : Text.ofFile [] = .ok [] := rfl
  have hbind : EnvFile.bind environment (assignments []) = [] := rfl
  simp only [EnvFile.merge, htext, mergeText, hbind, Environment.addMissing,
    Environment.additions, List.filterMap_nil, List.takeWhile_nil, List.append_nil,
    List.findSome?_nil]

theorem mergeFile_eq (tree : FileTree) (file : Option String) (environment : Environment) :
    mergeFile tree file environment = EnvFile.merge environment (content tree file) := by
  unfold mergeFile
  split
  · exact (merge_nil environment).symm
  · exact (merge_nil environment).symm
  · next name hname =>
    have hcontent : content tree (some name) = (tree.read? (Path.ofText name)).getD [] := by
      have : name ≠ "" := hname
      simp [content, Option.filter, this]
    rw [hcontent]
    cases tree.read? (Path.ofText name) with
    | none => exact (merge_nil environment).symm
    | some octets => rfl

/-- Reading settings with a file at hand. -/
structure Completes (tree : FileTree) (file : Option String) (environment : Environment) :
    Prop where
  /-- The environment wins, also where a value is empty. -/
  keeps : ∀ name value, environment.get? name = some value →
    (load tree file environment).environment.get? name = some value
  /-- A new variable is one that the file gives a value. -/
  adds : ∀ name, environment.get? name = none →
    ((load tree file environment).environment.get? name).isSome →
    ∃ text, Text.ofFile (content tree file) = .ok text ∧
      ∃ assignment ∈ assignments text,
        String.ofList assignment.name = name ∧ assignment.value.isSome
  /-- A file that is no text leaves the environment as it is, and there are no settings. -/
  noText : ∀ fault, Text.ofFile (content tree file) = .error fault →
    load tree file environment = ⟨environment, .error (.environment (.encoding fault))⟩
  /-- The names that are not there get what the file binds them to. -/
  gives : ∀ text, Text.ofFile (content tree file) = .ok text → Legal environment text →
    ∀ name, environment.get? name = none →
      (load tree file environment).environment.get? name =
        ((bind environment (assignments text)).lookup name).join
  /-- The outcome is that of the environment that the file has completed. -/
  outcome : ∀ text, Text.ofFile (content tree file) = .ok text → Legal environment text →
    (load tree file environment).outcome =
      (ofEnvironment (load tree file environment).environment).mapError .settings
  /-- Reading once more finds nothing to add, and comes to the same, also if the file is no text. -/
  again : (∀ text, Text.ofFile (content tree file) = .ok text → Legal environment text) →
    load tree file (load tree file environment).environment = load tree file environment

theorem load_of_text {text : List Char} (htext : Text.ofFile (content tree file) = .ok text)
    (hlegal : Legal environment text) :
    load tree file environment =
      let after := environment ++ environment.additions (bind environment (assignments text))
      ⟨after, (ofEnvironment after).mapError .settings⟩ := by
  simp only [load, mergeFile_eq, EnvFile.merge, htext, mergeText_of_legal hlegal]

theorem load_of_noText {fault : Text.Utf8Fault}
    (h : Text.ofFile (content tree file) = .error fault) :
    load tree file environment = ⟨environment, .error (.environment (.encoding fault))⟩ := by
  simp only [load, mergeFile_eq, EnvFile.merge, h]

/-- What a reading adds to an environment comes from the additions of the file. -/
theorem load_environment (tree : FileTree) (file : Option String) (environment : Environment) :
    ∃ added, (load tree file environment).environment = environment ++ added ∧
      (added = [] ∨ ∃ text, Text.ofFile (content tree file) = .ok text ∧
        ∀ entry ∈ added, entry ∈ environment.additions (bind environment (assignments text))) := by
  simp only [load, mergeFile_eq, EnvFile.merge]
  split
  · next text htext =>
    exact ⟨_, rfl, .inr ⟨text, htext, fun entry h => (List.takeWhile_sublist _).subset h⟩⟩
  · exact ⟨[], (List.append_nil _).symm, .inl rfl⟩

/-- A file completes an environment and never overrides it, whatever file and environment are. -/
theorem load_completes (tree : FileTree) (file : Option String) (environment : Environment) :
    Completes tree file environment where
  keeps name value h := by
    obtain ⟨added, heq, -⟩ := load_environment tree file environment
    rw [heq, Environment.get?_append, h, Option.some_or]
  adds name hnew hafter := by
    obtain ⟨added, heq, hadded⟩ := load_environment tree file environment
    rw [heq, Environment.get?_append, hnew, Option.none_or] at hafter
    obtain ⟨value, hvalue⟩ := Option.isSome_iff_exists.mp hafter
    obtain rfl | ⟨text, htext, hsub⟩ := hadded
    · cases hvalue
    · obtain ⟨before, after, rfl, -⟩ := List.lookup_eq_some_iff.mp hvalue
      have hmem := hsub (name, value) (by simp)
      obtain ⟨assignment, hassigned, hname, hgiven⟩ :=
        assigned_of_mem_bind (Environment.mem_additions.mp hmem).1
      exact ⟨text, htext, assignment, hassigned, hname, hgiven⟩
  noText fault h := load_of_noText h
  gives text htext hlegal name hnew := by
    rw [load_of_text htext hlegal, Environment.get?_append, hnew, Option.none_or]
    exact Environment.get?_additions (nodup_bind _ _) hnew
  outcome text htext hlegal := by
    rw [load_of_text htext hlegal]
  again hlegal := by
    cases htext : Text.ofFile (content tree file) with
    | error fault => simp only [load_of_noText htext]
    | ok text =>
      have hnothing := additions_again environment text
      have hagain : Legal
          (environment ++ environment.additions (bind environment (assignments text))) text := by
        rw [Legal, hnothing]
        simp
      rw [load_of_text htext (hlegal text htext), load_of_text htext hagain, hnothing,
        List.append_nil]

/-- An environment with an empty variable, before a file is merged. -/
def sampleVariables : Environment := [("EMPTY", ""), ("HOST", "example.org")]

/-- A file that quotes, exports, repeats, leaves out values and refers forwards and backwards. -/
def sampleText : List Char :=
  ("export URL='http://$\x7bHOST\x7d'  # where\n" ++ "EMPTY=other\n" ++
    "GREETING=\"$\x7bEMPTY\x7d$\x7bLATE:-early\x7d\"\n" ++ "LATE=late\nLATE=later\nBARE\n").toList

def sampleTree : FileTree :=
  ⟨[([".env".toList], .file (sampleText.flatMap Text.encodeChar))], []⟩

/-- The file gives the new names their last values, and the empty variable stays empty; reading once
more changes nothing although the reference forwards would now find a value. -/
theorem load_completes_sample :
    let completed := sampleVariables ++
      [("URL", "http://example.org"), ("GREETING", "early"), ("LATE", "later")]
    Text.ofFile (content sampleTree (some ".env")) = .ok sampleText ∧
      Legal sampleVariables sampleText ∧
      (load sampleTree (some ".env") sampleVariables).environment = completed ∧
      load sampleTree (some ".env") completed = load sampleTree (some ".env") sampleVariables := by
  have htext : Text.ofFile (content sampleTree (some ".env")) = .ok sampleText := by decide +kernel
  have hlegal : Legal sampleVariables sampleText := by decide +kernel
  have hafter : (load sampleTree (some ".env") sampleVariables).environment = sampleVariables ++
      [("URL", "http://example.org"), ("GREETING", "early"), ("LATE", "later")] := by
    decide +kernel
  refine ⟨htext, hlegal, hafter, ?_⟩
  rw [← hafter]
  refine (load_completes sampleTree (some ".env") sampleVariables).again fun text h => ?_
  exact Except.ok.inj (htext.symm.trans h) ▸ hlegal

end Settings

end DepositBridge
