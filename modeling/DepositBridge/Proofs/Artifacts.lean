import DepositBridge.Abi.Artifact
import DepositBridge.Proofs.Coherence
import DepositBridge.Proofs.JsonFaults
import DepositBridge.Proofs.JsonText
import DepositBridge.Proofs.LeafLogs

/-!
# Artifacts in files

An artifact that is written as JSON is loaded as the entries it was written of (`load_write`).
Whatever else is in the file of an artifact, or is not there, is reported as a fault of the
configuration, but for octets that are no text and integers with too many digits (`load_refuses`).
-/

namespace DepositBridge

/-! ## Texts of files -/

namespace Text

/-- Without carriage returns there are no line ends to change. -/
theorem unifyLineEnds_eq {text : List Char} (h : '\r' ∉ text) : unifyLineEnds text = text := by
  fun_induction unifyLineEnds text with
  | case1 rest ih => simp at h
  | case2 rest _ ih => simp at h
  | case3 c rest _ _ ih => rw [ih fun hmem => h (List.mem_cons_of_mem c hmem)]
  | case4 => rfl

theorem ofFile_eq_ok_iff {content : Octets} {chars : List Char} :
    ofFile content = .ok chars ↔
      ∃ text, content = encodeUtf8 text ∧ chars = unifyLineEnds text.toList := by
  rw [ofFile, map_eq_ok_iff]
  constructor
  · rintro ⟨text, htext, rfl⟩
    exact ⟨text, decodeUtf8_eq_ok_iff.mp htext, rfl⟩
  · rintro ⟨text, rfl, rfl⟩
    exact ⟨text, decodeUtf8_eq_ok_iff.mpr rfl, rfl⟩

end Text

/-- A plain text is read from a file as it is. -/
theorem Json.ofFile_of_printable {chars : List Char} (h : Printable chars) :
    Text.ofFile (Text.encodeUtf8 (String.ofList chars)) = .ok chars := by
  have hreturn : '\r' ∉ chars := by
    intro hmem
    have hprintable := h _ hmem
    simp at hprintable
  refine Text.ofFile_eq_ok_iff.mpr ⟨_, rfl, ?_⟩
  rw [String.toList_ofList, Text.unifyLineEnds_eq hreturn]

namespace Abi

variable {tree : FileTree} {name : String} {directory : Path} {v : Value}

/-- The file of an artifact. -/
def artifactFile (directory : Path) (name : String) : Path :=
  directory.join (Path.ofText (name ++ ".json"))

theorem load_of_read? {content : Octets}
    (h : tree.read? (artifactFile directory name) = some content) :
    load tree name (some directory) = readArtifact name content := by
  simp only [load]
  rw [artifactFile] at h
  rw [h]

/-! ## There and back -/

theorem readArtifact_write (h : Json.IsJson v) :
    readArtifact name (Text.encodeUtf8 (String.ofList (Json.write v))) =
      match entries? v with
      | some entries => .ok entries
      | none => .error (.noEntries name) := by
  rw [readArtifact, Json.ofFile_of_printable (Json.printable_write v h)]
  cases hentries : entries? v <;> simp only [Json.read_write h, hentries]

/-- An artifact is the list of its entries, or holds it under `abi`. -/
theorem entries?_eq_some_iff (h : Json.IsJson v) {entries : List Value} :
    entries? v = some entries ↔ v = .list entries ∨
      ∃ members, v = .object members ∧ ("abi", Value.list entries) ∈ members := by
  cases v with
  | list items => simp [entries?]
  | object members =>
    have hmember : Value.member? members "abi" = some (.list entries) ↔
        ("abi", Value.list entries) ∈ members := by
      constructor
      · intro hfound
        rcases Value.mem_of_foldl_member hfound with ⟨⟨⟩⟩ | hmem
        exact hmem
      · exact Value.member?_of_mem h.1
    simp only [entries?, reduceCtorEq, false_or, Value.object.injEq, exists_eq_left', ← hmember]
    split
    · next heq => simp [heq]
    · next hother =>
      simp only [reduceCtorEq, false_iff]
      exact hother entries
  | _ => simp [entries?]

/-- What is loaded from the file that holds the JSON of a value. -/
structure ReadsBack (tree : FileTree) (name : String) (directory : Path) (v : Value) : Prop where
  list : ∀ entries, v = .list entries → load tree name (some directory) = .ok entries
  object : ∀ members entries, v = .object members → ("abi", .list entries) ∈ members →
    load tree name (some directory) = .ok entries
  other : (∀ entries, v ≠ .list entries) →
    (∀ members entries, v = .object members → ("abi", Value.list entries) ∉ members) →
    load tree name (some directory) = .error (.noEntries name) ∧
      ArtifactFault.isConfiguration (.noEntries name) = true

/-- The entries that an artifact was written of are loaded from it. -/
theorem load_write (hjson : Json.IsJson v)
    (hfile : tree.read? (artifactFile directory name) =
      some (Text.encodeUtf8 (String.ofList (Json.write v)))) :
    ReadsBack tree name directory v := by
  have hload := (load_of_read? hfile).trans (readArtifact_write hjson)
  constructor
  · intro entries hlist
    rw [hload, (entries?_eq_some_iff hjson).mpr (.inl hlist)]
  · intro members entries hobject hmem
    rw [hload, (entries?_eq_some_iff hjson).mpr (.inr ⟨members, hobject, hmem⟩)]
  · intro hlist hobject
    refine ⟨?_, rfl⟩
    cases hentries : entries? v with
    | none => rw [hload, hentries]
    | some entries =>
      rcases (entries?_eq_some_iff hjson).mp hentries with heq | ⟨members, heq, hmem⟩
      · exact absurd heq (hlist entries)
      · exact absurd hmem (hobject members entries heq)

/-- An artifact with a name that has to be escaped, beyond the first plane too. -/
def escapedArtifact : Value := .object [
  ("contractName", .text "Liquidité 😀\n"),
  ("abi", .list [.object [("name", .text "getTokenIndex"), ("anonymous", .bool false)],
    .list [], .null, .int (-12)]),
  ("bytecode", .text "0x")]

/-- A working directory with its file. -/
def escapedTree : FileTree where
  entries := [(["abi".toList, "Liquidity.json".toList],
    .file (Text.encodeUtf8 (String.ofList (Json.write escapedArtifact))))]
  elsewhere := []

theorem load_write_escaped :
    Json.write escapedArtifact =
      ("\x7b\"contractName\": \"Liquidit\\u00e9 \\ud83d\\ude00\\n\", \"abi\": [" ++
        "\x7b\"name\": \"getTokenIndex\", \"anonymous\": false\x7d, [], null, -12], " ++
        "\"bytecode\": \"0x\"\x7d").toList ∧
      load escapedTree liquidityName (some (Path.ofText "abi")) =
        .ok [.object [("name", .text "getTokenIndex"), ("anonymous", .bool false)],
          .list [], .null, .int (-12)] := by
  have hjson : Json.IsJson escapedArtifact := by
    have hlength : (Nat.toDigits 10 (-12 : Int).natAbs).length ≤ Numeral.digitLimit := by
      decide +kernel
    simpa [escapedArtifact, Json.IsJson, Json.ItemsAreJson, Json.MembersAreJson] using hlength
  have hfile : escapedTree.read? (artifactFile (Path.ofText "abi") liquidityName) =
      some (Text.encodeUtf8 (String.ofList (Json.write escapedArtifact))) := by
    decide +kernel
  refine ⟨by decide +kernel, ?_⟩
  exact (load_write hjson hfile).object _ _ rfl (by simp)

/-! ## Refusal -/

/-- Why a fault that is none of the configuration comes of a file: its octets are no text, or an
integer in it has too many digits. -/
def Escapes (content : Octets) (fault : ArtifactFault) : Prop :=
  ((∀ text, content ≠ Text.encodeUtf8 text) ∧ ∃ cause, fault = .encoding cause) ∨
    ∃ text digits, Text.ofFile content = .ok text ∧ Json.IsLongRun text digits ∧
      fault = .numeral (.tooLong digits.length)

theorem escapes_of_readArtifact {content : Octets} {fault : ArtifactFault}
    (h : readArtifact name content = .error fault) (hfault : fault.isConfiguration = false) :
    Escapes content fault := by
  rw [readArtifact] at h
  cases htext : Text.ofFile content with
  | error cause =>
    simp only [htext] at h
    cases h
    refine .inl ⟨fun text heq => ?_, cause, rfl⟩
    cases htext.symm.trans (Text.ofFile_eq_ok_iff.mpr ⟨text, heq, rfl⟩)
  | ok text =>
    simp only [htext] at h
    cases hread : Json.read text with
    | ok artifact =>
      simp only [hread] at h
      split at h
      · cases h
      · cases h
        cases hfault
    | error reason =>
      simp only [hread] at h
      cases reason with
      | malformed cause left =>
        cases h
        cases hfault
      | numeral reason =>
        cases h
        obtain ⟨digits, hrun, rfl⟩ := Json.numeral_of_read hread
        exact .inr ⟨text, digits, htext, hrun, rfl⟩

/-- The faults of built-in interfaces are all of the configuration. -/
theorem isConfiguration_of_bundled {fault : ArtifactFault} (h : bundled name = .error fault) :
    fault.isConfiguration = true := by
  unfold bundled at h
  extract_lets at h
  split at h
  · split at h <;> cases h
  · cases h
    rfl

theorem escapes_of_load {directory : Option Path} {fault : ArtifactFault}
    (h : load tree name directory = .error fault) (hfault : fault.isConfiguration = false) :
    ∃ base content, directory = some base ∧
      tree.read? (artifactFile base name) = some content ∧ Escapes content fault := by
  cases directory with
  | none => cases hfault.symm.trans (isConfiguration_of_bundled h)
  | some base =>
    cases hread : tree.read? (artifactFile base name) with
    | none =>
      rw [artifactFile] at hread
      simp only [load, hread] at h
      cases h
      cases hfault
    | some content =>
      rw [load_of_read? hread] at h
      exact ⟨base, content, rfl, hread, escapes_of_readArtifact h hfault⟩

/-- What comes of loading an interface where it does not come from a sound artifact. -/
structure Refuses (tree : FileTree) (name : String) (directory : Option Path) : Prop where
  /-- With texts whose integers can be read, all faults are of the configuration. -/
  settled : (∀ base content, directory = some base →
      tree.read? (artifactFile base name) = some content →
      ∃ text, Text.ofFile content = .ok text ∧ ∀ digits, ¬ Json.IsLongRun text digits) →
    (∃ entries, load tree name directory = .ok entries) ∨
      ∃ fault, load tree name directory = .error fault ∧ fault.isConfiguration = true
  escapes : ∀ fault, load tree name directory = .error fault → fault.isConfiguration = false →
    ∃ base content, directory = some base ∧
      tree.read? (artifactFile base name) = some content ∧ Escapes content fault
  /-- Octets that are no text always escape, -/
  noText : ∀ base content, directory = some base →
    tree.read? (artifactFile base name) = some content →
    (∀ text, content ≠ Text.encodeUtf8 text) →
    ∃ cause, load tree name directory = .error (.encoding cause)
  /-- and so does a file with nothing but an integer that has too many digits. -/
  longInteger : ∀ base n, directory = some base →
    tree.read? (artifactFile base name) =
      some (Text.encodeUtf8 (String.ofList (Json.write (.int n)))) →
    Numeral.digitLimit < (Nat.toDigits 10 n.natAbs).length →
    load tree name directory =
      .error (.numeral (.tooLong (Nat.toDigits 10 n.natAbs).length))

/-- What is no sound artifact is refused as a fault of the configuration, but for what cannot be
read as text or as a number. -/
theorem load_refuses (tree : FileTree) (name : String) (directory : Option Path) :
    Refuses tree name directory where
  settled := by
    intro htexts
    cases hload : load tree name directory with
    | ok entries => exact .inl ⟨entries, rfl⟩
    | error fault =>
      refine .inr ⟨fault, rfl, ?_⟩
      by_contra hfault
      obtain ⟨base, content, hbase, hread, hescapes⟩ :=
        escapes_of_load hload (by simpa using hfault)
      obtain ⟨text, htext, hshort⟩ := htexts base content hbase hread
      rcases hescapes with ⟨hnone, -⟩ | ⟨chars, digits, hchars, hrun, -⟩
      · obtain ⟨written, hwritten, -⟩ := Text.ofFile_eq_ok_iff.mp htext
        exact hnone written hwritten
      · cases htext.symm.trans hchars
        exact hshort digits hrun
  escapes _ := escapes_of_load
  noText := by
    rintro base content rfl hread hnone
    rw [load_of_read? hread, readArtifact]
    cases htext : Text.ofFile content with
    | error cause => exact ⟨cause, rfl⟩
    | ok text =>
      obtain ⟨written, hwritten, -⟩ := Text.ofFile_eq_ok_iff.mp htext
      exact absurd hwritten (hnone written)
  longInteger := by
    rintro base n rfl hread hlong
    rw [load_of_read? hread, readArtifact,
      Json.ofFile_of_printable (Json.printable_write_int n)]
    simp only [Json.read_write_long hlong]

/-- An octet that starts no character is not reported as a fault of the configuration. -/
theorem load_notText :
    load ⟨[(["abi".toList, "Liquidity.json".toList], .file [0xff])], []⟩ liquidityName
        (some (Path.ofText "abi")) = .error (.encoding ⟨.start, 0, [0xff]⟩) ∧
      ArtifactFault.isConfiguration (.encoding ⟨.start, 0, [0xff]⟩) = false :=
  ⟨rfl, rfl⟩

end Abi

end DepositBridge
