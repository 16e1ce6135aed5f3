import DepositBridge.Proofs.CommandLine
import DepositBridge.Proofs.Merging
import DepositBridge.Proofs.NormalForm

/-!
# Settings, variable by variable

A variable is judged by its own text. What is missing is listed before anything is read. Otherwise
an environment is accepted if each of its texts would be among valid ones, and a text that would not
be is reported once, with what would be reported of it there (`ofEnvironment_judges`).
-/

namespace DepositBridge.Settings

open EnvFile (Environment)

variable {environment : Environment} {name text : String} {settings : Settings}

/-! ## Texts of variables -/

/-- The text of a variable. One that is absent counts as empty. -/
def textOf (environment : Environment) (name : String) : String := (environment.get? name).getD ""

theorem textOf_eq_empty_iff :
    textOf environment name = "" ↔
      environment.get? name = none ∨ environment.get? name = some "" := by
  rw [textOf]
  cases environment.get? name <;> simp

/-- The required variables that are absent or empty. -/
def unset (environment : Environment) : List String :=
  requiredVariables.filter fun name => textOf environment name = ""

theorem mem_unset_iff :
    name ∈ unset environment ↔ name ∈ requiredVariables ∧
      (environment.get? name = none ∨ environment.get? name = some "") := by
  rw [unset, List.mem_filter, decide_eq_true_iff, textOf_eq_empty_iff]

theorem unset_eq_nil_iff :
    unset environment = [] ↔ ∀ name ∈ requiredVariables, textOf environment name ≠ "" := by
  simp [unset, List.filter_eq_nil_iff]

/-- The values of the variables of an environment. -/
def given (environment : Environment) : List (String × Value) :=
  environment.map fun (name, text) => (name, .text text)

theorem member?_given (hnodup : (environment.map Prod.fst).Nodup) (name : String) :
    Value.member? (given environment) name = (environment.get? name).map .text := by
  have hnames : (given environment).map Prod.fst = environment.map Prod.fst := by
    simp [given, List.map_map, Function.comp_def]
  cases hget : environment.get? name with
  | none =>
    refine Value.foldl_member_of_not_mem ?_ none
    rw [hnames]
    intro hmem
    obtain ⟨⟨_, text⟩, hentry, rfl⟩ := List.mem_map.mp hmem
    cases hget.symm.trans ((EnvFile.lookup_eq_some_iff_mem hnodup).mpr hentry)
  | some text =>
    refine Value.member?_of_mem (hnames ▸ hnodup) ?_
    exact List.mem_map.mpr ⟨(name, text), (EnvFile.lookup_eq_some_iff_mem hnodup).mp hget, rfl⟩

/-- A variable that is not empty has a value. -/
theorem member?_of_textOf (hnodup : (environment.map Prod.fst).Nodup)
    (h : textOf environment name ≠ "") :
    Value.member? (given environment) name = some (.text (textOf environment name)) := by
  rw [member?_given hnodup]
  unfold textOf at h ⊢
  cases hget : environment.get? name with
  | none => simp [hget] at h
  | some text => rfl

/-- Only variables that are not empty are given. -/
theorem isGiven_eq (hnodup : (environment.map Prod.fst).Nodup) (name : String) :
    ((Value.member? (given environment) name).map Value.isGiven).getD false =
      decide (textOf environment name ≠ "") := by
  rw [member?_given hnodup]
  unfold textOf
  cases environment.get? name with
  | none => rfl
  | some text => by_cases h : text = "" <;> simp [Value.isGiven, h]

theorem filter_not_isGiven (hnodup : (environment.map Prod.fst).Nodup) :
    (requiredVariables.filter fun name =>
      !((Value.member? (given environment) name).map Value.isGiven).getD false) =
        unset environment := by
  simp [isGiven_eq hnodup, unset]

/-! ## Problems -/

/-- What is wrong with the text of a required variable, if anything. -/
def problem? (name text : String) : Option Problem :=
  let input : Input := .field (.raw (.text text))
  if name ∈ ["L1_RPC_URL", "L2_RPC_URL"] then
    Checked.problem? name input (Field.url (.text text))
  else if name ∈ ["L1_CHAIN_ID", "L2_CHAIN_ID"] then
    Checked.problem? name input (chainId (.text text))
  else if name ∈ ["LIQUIDITY_CONTRACT_ADDRESS", "ROLLUP_CONTRACT_ADDRESS"] then
    Checked.problem? name input (Field.address (.text text))
  else Checked.problem? name input (blockNumber (.text text))

theorem problem?_field {problem : Problem} (h : problem? name text = some problem) :
    problem.field = name := by
  have hfield : ∀ {α : Type} {input : Input} {value : Except FieldFault α},
      Checked.problem? name input value = some problem → problem.field = name := by
    rintro α input (fault | a) h
    · cases h
      rfl
    · cases h
  unfold problem? at h
  split_ifs at h <;> exact hfield h

/-- What is wrong with the required variables of an environment, in their order. -/
def problems (environment : Environment) : List Problem :=
  requiredVariables.filterMap fun name => problem? name (textOf environment name)

theorem problems_eq_nil_iff :
    problems environment = [] ↔
      ∀ name ∈ requiredVariables, problem? name (textOf environment name) = none :=
  List.filterMap_eq_nil_iff

theorem fields_problems (environment : Environment) :
    (problems environment).map Problem.field =
      requiredVariables.filter fun name => (problem? name (textOf environment name)).isSome := by
  rw [problems]
  induction requiredVariables with
  | nil => rfl
  | cons name rest ih =>
    rw [List.filterMap_cons]
    cases h : problem? name (textOf environment name) with
    | none => rw [List.filter_cons_of_neg (by simp [h]), ih]
    | some problem =>
      rw [List.filter_cons_of_pos (by simp [h]), List.map_cons, ih, problem?_field h]

/-! ## Reading -/

/-- The directory of the artifacts that a text writes. -/
def directoryOf (text : String) : Option Path := if text = "" then none else some (Path.ofText text)

theorem directory_given (hnodup : (environment.map Prod.fst).Nodup) :
    directory (Value.member? (given environment) "ABI_DIR") =
      .ok (directoryOf (textOf environment "ABI_DIR")) := by
  rw [member?_given hnodup]
  unfold textOf
  cases environment.get? "ABI_DIR" with
  | none => rfl
  | some text =>
    by_cases h : text = ""
    · subst h
      rfl
    · have hempty : text.isEmpty = false := by simpa using h
      simp [directory, directoryOf, Value.isGiven, h, hempty]

/-- Every setting is what the text of its own variable is read as. -/
structure Reads (text : String → String) (settings : Settings) : Prop where
  l1Url : Field.url (.text (text "L1_RPC_URL")) = .ok settings.l1Url
  l1ChainId : chainId (.text (text "L1_CHAIN_ID")) = .ok settings.l1ChainId
  liquidityAddress :
    Field.address (.text (text "LIQUIDITY_CONTRACT_ADDRESS")) = .ok settings.liquidityAddress
  l2Url : Field.url (.text (text "L2_RPC_URL")) = .ok settings.l2Url
  l2ChainId : chainId (.text (text "L2_CHAIN_ID")) = .ok settings.l2ChainId
  rollupAddress :
    Field.address (.text (text "ROLLUP_CONTRACT_ADDRESS")) = .ok settings.rollupAddress
  deployedBlock :
    blockNumber (.text (text "ROLLUP_CONTRACT_DEPLOYED_BLOCK_NUMBER")) = .ok settings.deployedBlock
  abiDirectory : settings.abiDirectory = directoryOf (text "ABI_DIR")

theorem exists_reads (h : problems environment = []) :
    ∃ settings, Reads (textOf environment) settings := by
  have hall := problems_eq_nil_iff.mp h
  simp [requiredVariables, problem?, Checked.problem?_eq_none_iff] at hall
  obtain ⟨⟨l1Url, h1⟩, ⟨l1ChainId, h2⟩, ⟨liquidity, h3⟩, ⟨l2Url, h4⟩, ⟨l2ChainId, h5⟩,
    ⟨rollup, h6⟩, ⟨block, h7⟩⟩ := hall
  exact ⟨⟨l1Url, l1ChainId, liquidity, l2Url, l2ChainId, rollup, block, _⟩,
    h1, h2, h3, h4, h5, h6, h7, rfl⟩

/-- What is read from an environment in which every required variable is set is a record of what is
read from the texts of the variables. -/
theorem exists_record (hnodup : (environment.map Prod.fst).Nodup) (hset : unset environment = []) :
    ∃ record : Checked Settings, ofEnvironment environment = record.toExcept .invalid ∧
      record.problems = problems environment ∧
      ∀ settings, Reads (textOf environment) settings → record = .valid settings := by
  have hof : ofEnvironment environment = ofVariables (given environment) := rfl
  have hvalue : ∀ name ∈ requiredVariables,
      Value.member? (given environment) name = some (.text (textOf environment name)) :=
    fun name hname => member?_of_textOf hnodup (unset_eq_nil_iff.mp hset name hname)
  simp only [requiredVariables, List.forall_mem_cons] at hvalue
  obtain ⟨h1, h2, h3, h4, h5, h6, h7, -⟩ := hvalue
  rw [hof, ofVariables, filter_not_isGiven hnodup, hset]
  simp only [h1, h2, h3, h4, h5, h6, h7, directory_given hnodup, Field.required, Option.map_some,
    Input.ofField_some]
  refine ⟨_, rfl, ?_, ?_⟩
  · simp [problems, requiredVariables, problem?, List.filterMap_eq_flatMap_toList]
    simp [Checked.problem?]
  · intro settings h
    simp only [h.l1Url, h.l1ChainId, h.liquidityAddress, h.l2Url, h.l2ChainId, h.rollupAddress,
      h.deployedBlock, ← h.abiDirectory]
    rfl

theorem ofEnvironment_of_unset (hnodup : (environment.map Prod.fst).Nodup)
    (h : unset environment ≠ []) :
    ofEnvironment environment = .error (.missing (unset environment)) := by
  have hof : ofEnvironment environment = ofVariables (given environment) := rfl
  rw [hof, ofVariables, filter_not_isGiven hnodup]
  split
  · next heq => exact absurd heq h
  · rfl

theorem ofEnvironment_of_problems (hnodup : (environment.map Prod.fst).Nodup)
    (hset : unset environment = []) (h : problems environment ≠ []) :
    ofEnvironment environment = .error (.invalid (problems environment)) := by
  obtain ⟨record, hof, hproblems, -⟩ := exists_record hnodup hset
  rw [hof, ← hproblems]
  exact Checked.toExcept_of_problems (hproblems ▸ h) _

theorem ofEnvironment_of_reads (hnodup : (environment.map Prod.fst).Nodup)
    (hset : unset environment = []) (h : Reads (textOf environment) settings) :
    ofEnvironment environment = .ok settings := by
  obtain ⟨record, hof, -, hvalid⟩ := exists_record hnodup hset
  rw [hof, hvalid settings h]
  rfl

/-- Settings are only read where nothing is wrong. -/
theorem reads_of_ofEnvironment (hnodup : (environment.map Prod.fst).Nodup)
    (h : ofEnvironment environment = .ok settings) :
    unset environment = [] ∧ problems environment = [] ∧ Reads (textOf environment) settings := by
  have hset : unset environment = [] := by
    by_contra hmissing
    cases h.symm.trans (ofEnvironment_of_unset hnodup hmissing)
  have hproblems : problems environment = [] := by
    by_contra hproblems
    cases h.symm.trans (ofEnvironment_of_problems hnodup hset hproblems)
  obtain ⟨read, hreads⟩ := exists_reads hproblems
  cases h.symm.trans (ofEnvironment_of_reads hnodup hset hreads)
  exact ⟨hset, hproblems, hreads⟩

/-! ## Accepted environments -/

/-- Whether settings can be read from an environment. -/
def IsAccepted (environment : Environment) : Prop :=
  ∃ settings, ofEnvironment environment = .ok settings

theorem isAccepted_iff (hnodup : (environment.map Prod.fst).Nodup) :
    IsAccepted environment ↔ unset environment = [] ∧ problems environment = [] := by
  constructor
  · rintro ⟨settings, h⟩
    obtain ⟨hset, hproblems, -⟩ := reads_of_ofEnvironment hnodup h
    exact ⟨hset, hproblems⟩
  · rintro ⟨hset, hproblems⟩
    obtain ⟨settings, hreads⟩ := exists_reads hproblems
    exact ⟨settings, ofEnvironment_of_reads hnodup hset hreads⟩

theorem pos_of_chainId {v : Value} {n : Int} (h : chainId v = .ok n) : 0 < n := by
  obtain ⟨m, -, hm⟩ := bind_eq_ok_iff.mp h
  split_ifs at hm with hpos
  cases hm
  omega

theorem nonneg_of_blockNumber {v : Value} {n : Int} (h : blockNumber v = .ok n) : 0 ≤ n := by
  obtain ⟨m, -, hm⟩ := bind_eq_ok_iff.mp h
  split_ifs at hm with hneg
  cases hm
  omega

/-- Settings are in range, and each is read from the text of its own variable. -/
structure Reflects (environment : Environment) (settings : Settings) : Prop where
  reads : Reads (textOf environment) settings
  l1ChainId : 0 < settings.l1ChainId
  l2ChainId : 0 < settings.l2ChainId
  deployedBlock : 0 ≤ settings.deployedBlock
  liquidityAddress : Address.checksum (.text settings.liquidityAddress.text) =
    .ok settings.liquidityAddress.text
  rollupAddress : Address.checksum (.text settings.rollupAddress.text) =
    .ok settings.rollupAddress.text
  abiDirectory : settings.abiDirectory = none ↔
    environment.get? "ABI_DIR" = none ∨ environment.get? "ABI_DIR" = some ""

theorem Reads.reflects (h : Reads (textOf environment) settings) :
    Reflects environment settings where
  reads := h
  l1ChainId := pos_of_chainId h.l1ChainId
  l2ChainId := pos_of_chainId h.l2ChainId
  deployedBlock := nonneg_of_blockNumber h.deployedBlock
  liquidityAddress := Address.checksum_text _
  rollupAddress := Address.checksum_text _
  abiDirectory := by
    rw [h.abiDirectory, directoryOf, ← textOf_eq_empty_iff]
    simp

/-! ## One text among valid ones -/

/-- The environment with another text for one variable. -/
def withText (environment : Environment) (name text : String) : Environment :=
  (name, text) :: environment.filter fun entry => entry.1 ≠ name

theorem nodup_withText (hnodup : (environment.map Prod.fst).Nodup) (name text : String) :
    ((withText environment name text).map Prod.fst).Nodup := by
  refine List.nodup_cons.mpr ⟨?_, hnodup.sublist (List.filter_sublist.map _)⟩
  intro hmem
  obtain ⟨entry, hentry, hname⟩ := List.mem_map.mp hmem
  simpa [hname] using (List.mem_filter.mp hentry).2

@[simp] theorem textOf_withText (environment : Environment) (name text : String) :
    textOf (withText environment name text) name = text := by
  simp [textOf, withText, Environment.get?]

theorem textOf_withText_of_ne {other : String} (h : other ≠ name) :
    textOf (withText environment name text) other = textOf environment other := by
  have hlookup : (environment.filter fun entry => entry.1 ≠ name).lookup other =
      environment.lookup other := by
    induction environment with
    | nil => rfl
    | cons entry rest ih =>
      obtain ⟨key, value⟩ := entry
      by_cases hkey : key = name
      · have hother : (other == key) = false := by simpa [hkey] using h
        rw [List.filter_cons_of_neg (by simpa using hkey), List.lookup_cons, hother]
        exact ih
      · rw [List.filter_cons_of_pos (by simpa using hkey), List.lookup_cons, List.lookup_cons, ih]
  have hother : (other == name) = false := by simpa using h
  rw [textOf, textOf, Environment.get?, withText, List.lookup_cons, hother, hlookup]
  rfl

theorem unset_withText (hset : unset environment = []) (htext : text ≠ "") (name : String) :
    unset (withText environment name text) = [] := by
  rw [unset_eq_nil_iff] at hset ⊢
  intro other hother
  by_cases h : other = name
  · rwa [h, textOf_withText]
  · rw [textOf_withText_of_ne h]
    exact hset other hother

/-- Where only one element can have an image, that is all there is. -/
theorem filterMap_eq_toList {α β : Type} {entries : List α} {f : α → Option β} {a : α}
    (hnodup : entries.Nodup) (hmem : a ∈ entries) (h : ∀ b ∈ entries, b ≠ a → f b = none) :
    entries.filterMap f = (f a).toList := by
  obtain ⟨front, rest, rfl⟩ := List.append_of_mem hmem
  obtain ⟨habsent, -⟩ := List.nodup_cons.mp (List.nodup_middle.mp hnodup)
  have hothers : ∀ b ∈ front ++ rest, f b = none := fun b hb =>
    h b (by simp at hb ⊢; tauto) fun heq => habsent (heq ▸ hb)
  have hfront : front.filterMap f = [] :=
    List.filterMap_eq_nil_iff.mpr fun b hb => hothers b (List.mem_append_left _ hb)
  have hrest : rest.filterMap f = [] :=
    List.filterMap_eq_nil_iff.mpr fun b hb => hothers b (List.mem_append_right _ hb)
  cases hvalue : f a <;> simp [List.filterMap_append, hfront, hrest, hvalue]

theorem problems_withText (hvalid : problems environment = []) (hname : name ∈ requiredVariables)
    (text : String) : problems (withText environment name text) = (problem? name text).toList := by
  have hothers : ∀ other ∈ requiredVariables, other ≠ name →
      problem? other (textOf (withText environment name text) other) = none := by
    intro other hother hne
    rw [textOf_withText_of_ne hne]
    exact problems_eq_nil_iff.mp hvalid other hother
  rw [problems, filterMap_eq_toList (by decide) hname hothers, textOf_withText]

/-- Among valid texts, nothing but what is wrong with another text is reported. -/
theorem ofEnvironment_withText (hnodup : (environment.map Prod.fst).Nodup)
    (haccepted : IsAccepted environment) (hname : name ∈ requiredVariables) (htext : text ≠ "") :
    (problem? name text = none ∧ IsAccepted (withText environment name text)) ∨
    ∃ problem, problem? name text = some problem ∧
      ofEnvironment (withText environment name text) = .error (.invalid [problem]) := by
  obtain ⟨hset, hvalid⟩ := (isAccepted_iff hnodup).mp haccepted
  have hnodup' := nodup_withText hnodup name text
  have hset' := unset_withText hset htext name
  have hproblems := problems_withText hvalid hname text
  cases hproblem : problem? name text with
  | none =>
    rw [hproblem] at hproblems
    exact .inl ⟨rfl, (isAccepted_iff hnodup').mpr ⟨hset', hproblems⟩⟩
  | some problem =>
    rw [hproblem] at hproblems
    refine .inr ⟨problem, rfl, ?_⟩
    rw [ofEnvironment_of_problems hnodup' hset' (by simp [hproblems]), hproblems]
    rfl

theorem isAccepted_withText_iff (hnodup : (environment.map Prod.fst).Nodup)
    (haccepted : IsAccepted environment) (hname : name ∈ requiredVariables) (htext : text ≠ "") :
    IsAccepted (withText environment name text) ↔ problem? name text = none := by
  rcases ofEnvironment_withText hnodup haccepted hname htext with
    ⟨hnone, hok⟩ | ⟨problem, hsome, herror⟩
  · exact iff_of_true hok hnone
  · refine iff_of_false ?_ (by simp [hsome])
    rintro ⟨settings, hok⟩
    cases hok.symm.trans herror

/-! ## Judgement -/

/-- How the texts of its variables decide what becomes of an environment. -/
structure Judges (environment : Environment) : Prop where
  /-- The unset variables stand in the order of the required ones, each once. -/
  sublist_unset : (unset environment).Sublist requiredVariables
  mem_unset : ∀ name, name ∈ unset environment ↔ name ∈ requiredVariables ∧
    (environment.get? name = none ∨ environment.get? name = some "")
  missing : unset environment ≠ [] →
    ofEnvironment environment = .error (.missing (unset environment)) ∧
      Fault.message (.missing (unset environment)) =
        "Missing environment variables: " ++ String.intercalate ", " (unset environment)
  accepted : unset environment = [] →
    ∀ valid : Environment, (valid.map Prod.fst).Nodup → IsAccepted valid →
      (IsAccepted environment ↔ ∀ name ∈ requiredVariables,
        IsAccepted (withText valid name (textOf environment name)))
  rejected : unset environment = [] → ¬ IsAccepted environment →
    ofEnvironment environment = .error (.invalid (problems environment)) ∧
      Fault.message (.invalid (problems environment)) =
        "Invalid configuration: " ++ String.intercalate "; " ((problems environment).map
          fun problem => problem.field ++ ": " ++ problem.fault.message)
  /-- The reported variables stand in the order of the required ones, each once. -/
  sublist_problems : ((problems environment).map Problem.field).Sublist requiredVariables
  /-- Reported is what is reported of a text among any valid ones. -/
  mem_problems : unset environment = [] →
    ∀ valid : Environment, (valid.map Prod.fst).Nodup → IsAccepted valid →
      (∀ name ∈ requiredVariables, name ∈ (problems environment).map Problem.field ↔
        ¬ IsAccepted (withText valid name (textOf environment name))) ∧
      ∀ problem ∈ problems environment,
        ofEnvironment (withText valid problem.field (textOf environment problem.field)) =
          .error (.invalid [problem])
  reflects : ∀ settings, ofEnvironment environment = .ok settings → Reflects environment settings

/-- The texts of the variables decide, each on its own, what becomes of an environment. -/
theorem ofEnvironment_judges (hnodup : (environment.map Prod.fst).Nodup) : Judges environment where
  sublist_unset := List.filter_sublist
  mem_unset _ := mem_unset_iff
  missing hmissing := ⟨ofEnvironment_of_unset hnodup hmissing, rfl⟩
  accepted hset valid hvalid haccepted := by
    rw [isAccepted_iff hnodup, problems_eq_nil_iff]
    have htexts := unset_eq_nil_iff.mp hset
    constructor
    · rintro ⟨-, hproblems⟩ name hname
      exact (isAccepted_withText_iff hvalid haccepted hname (htexts name hname)).mpr
        (hproblems name hname)
    · intro hall
      exact ⟨hset, fun name hname =>
        (isAccepted_withText_iff hvalid haccepted hname (htexts name hname)).mp (hall name hname)⟩
  rejected hset hrejected := by
    have hproblems : problems environment ≠ [] := fun h =>
      hrejected ((isAccepted_iff hnodup).mpr ⟨hset, h⟩)
    exact ⟨ofEnvironment_of_problems hnodup hset hproblems, rfl⟩
  sublist_problems := by
    rw [fields_problems]
    exact List.filter_sublist
  mem_problems hset valid hvalid haccepted := by
    have htexts := unset_eq_nil_iff.mp hset
    constructor
    · intro name hname
      rw [isAccepted_withText_iff hvalid haccepted hname (htexts name hname), fields_problems,
        List.mem_filter, Option.isSome_iff_ne_none]
      exact ⟨And.right, fun h => ⟨hname, h⟩⟩
    · intro problem hmem
      obtain ⟨name, hname, hproblem⟩ := List.mem_filterMap.mp hmem
      obtain rfl := problem?_field hproblem
      rcases ofEnvironment_withText hvalid haccepted hname (htexts _ hname) with
        ⟨hnone, -⟩ | ⟨found, hfound, herror⟩
      · cases hnone.symm.trans hproblem
      · cases hfound.symm.trans hproblem
        exact herror
  reflects _ h := (reads_of_ofEnvironment hnodup h).2.2.reflects

/-- An environment that sets every variable, three of them to nothing sensible. -/
def malformed : Environment := [
  ("L1_RPC_URL", "http://localhost:8545"),
  ("ROLLUP_CONTRACT_DEPLOYED_BLOCK_NUMBER", "-1"),
  ("L1_CHAIN_ID", "0"),
  ("LIQUIDITY_CONTRACT_ADDRESS", "0x5fbdb2315678afecb367f032d93f642f64180aa3"),
  ("L2_RPC_URL", "http://localhost:8546"),
  ("L2_CHAIN_ID", "31338"),
  ("ROLLUP_CONTRACT_ADDRESS", "0xdead"),
  ("ABI_DIR", "")]

theorem ofEnvironment_judges_malformed :
    (malformed.map Prod.fst).Nodup ∧ unset malformed = [] ∧
      (problems malformed).map Problem.field =
        ["L1_CHAIN_ID", "ROLLUP_CONTRACT_ADDRESS", "ROLLUP_CONTRACT_DEPLOYED_BLOCK_NUMBER"] ∧
      (∃ fault, ofEnvironment malformed = .error fault ∧ fault.message =
        "Invalid configuration: L1_CHAIN_ID: Value error, chain id must be positive, got 0; " ++
          "ROLLUP_CONTRACT_ADDRESS: Value error, Invalid address: '0xdead'; " ++
          "ROLLUP_CONTRACT_DEPLOYED_BLOCK_NUMBER: Value error, block number must not be " ++
          "negative, got -1") ∧
      IsAccepted CommandLine.sampleEnvironment ∧
      ∀ problem ∈ problems malformed,
        ofEnvironment (withText CommandLine.sampleEnvironment problem.field
          (textOf malformed problem.field)) = .error (.invalid [problem]) := by
  have hnodup : (malformed.map Prod.fst).Nodup := by decide +kernel
  have hset : unset malformed = [] := by decide +kernel
  have hfields : (problems malformed).map Problem.field =
      ["L1_CHAIN_ID", "ROLLUP_CONTRACT_ADDRESS", "ROLLUP_CONTRACT_DEPLOYED_BLOCK_NUMBER"] := by
    decide +kernel
  have hrejected : ¬ IsAccepted malformed := by
    rw [isAccepted_iff hnodup]
    rintro ⟨-, hproblems⟩
    rw [hproblems] at hfields
    cases hfields
  have hsample : IsAccepted CommandLine.sampleEnvironment := by
    obtain ⟨settings, hsettings, -⟩ := exists_ok_of_map CommandLine.l1ChainId_sampleEnvironment
    exact ⟨settings, hsettings⟩
  have hjudges := ofEnvironment_judges hnodup
  obtain ⟨herror, -⟩ := hjudges.rejected hset hrejected
  refine ⟨hnodup, hset, hfields, ⟨_, herror, by decide +kernel⟩, hsample, ?_⟩
  exact (hjudges.mem_problems hset _ (by decide +kernel) hsample).2

end DepositBridge.Settings
