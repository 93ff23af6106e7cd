import Mathlib
import ProxyLog.Config.Source
import ProxyLog.Yaml.Document

/-!
# Settings from any configuration

A setting is converted to its type, and a value that does not fit is refused as a bad one. Two conversions fall short:
the encoding is taken as it is, and the conversion to an integer knows values that are not bad but of a wrong type, or
infinite. This is so whatever reader turns the text of the file into a mapping.

* `isWellAnswered result`: settings with a text for encoding, or a bad value.
* `Value.lacksInteger v`: asking the value for an integer raises something else than a bad value.
* `fromFile entries env key variableName`: what a configuration file says about a setting, if that counts.
* `textOf_error`, `integerOf_error`, `booleanOf_error`: how the conversions fail.
* `Settings.isWellAnswered_ofEntries`: which mappings are answered well.
* `Settings.ofEntries_congr`: what the file says counts for nothing where the variable is set.
-/

set_option autoImplicit false

namespace ProxyLog

open Yaml (Value)
open File (Directory)

variable {entries entries' : Entries} {env : Environment} {v : Value} {fault : SettingFault}

/-! ## Values and faults -/

def Yaml.Value.isText : Value → Bool
  | text _ => true
  | _ => false

/-- The value is of a type without integers, or infinite, or of another type of which something else is raised than a
bad value. -/
def Yaml.Value.lacksInteger : Value → Bool
  | null | sequence _ | mapping _ | float (.infinite _) => true
  | foreign v =>
    match v.integer with
    | .ok _ => false
    | .error raised => raised.kind != .value
  | _ => false

/-- The answer is settings, of which only the encoding could be of a wrong type, or that some value is bad. -/
def isWellAnswered : Except ConfigFault Settings → Bool
  | .ok s => s.encoding.isText
  | .error fault => fault.kind == .value

/-! ## Conversions -/

section Told
variable {ε δ α : Type} {x : Except ε α} {told : ε → δ}

theorem mapError_eq_error_iff {e : δ} : x.mapError told = .error e ↔ ∃ e', x = .error e' ∧ told e' = e := by
  cases x <;> simp [Except.mapError]

theorem mapError_eq_ok_iff {a : α} : x.mapError told = .ok a ↔ x = .ok a := by
  cases x <;> simp [Except.mapError]

end Told

theorem textOf_error (h : textOf v = .error fault) : v.hasLongInteger = true ∧ fault.kind = .value := by
  unfold textOf at h
  split at h
  · cases h
    exact ⟨‹_›, rfl⟩
  · cases h

theorem integerOf_error (h : integerOf v = .error fault) : (fault.kind == .value) = !v.lacksInteger := by
  cases v with
  | bool b => cases h
  | int n => cases h
  | float x =>
    cases x with
    | finite negative mantissa exponent => cases h
    | infinite negative =>
      cases h
      rfl
    | nan =>
      cases h
      rfl
  | text s =>
    obtain ⟨fault, -, rfl⟩ := mapError_eq_error_iff.mp h
    rfl
  | foreign v =>
    obtain ⟨raised, hv, rfl⟩ := mapError_eq_error_iff.mp h
    simp [Value.lacksInteger, hv, SettingFault.kind, bne]
  | _ =>
    cases h
    rfl

theorem lacksInteger_of_integerOf {n : Int} (h : integerOf v = .ok n) : v.lacksInteger = false := by
  cases v with
  | float x =>
    cases x with
    | infinite negative => cases h
    | _ => rfl
  | foreign v =>
    have hv : v.integer = .ok n := mapError_eq_ok_iff.mp h
    simp [Value.lacksInteger, hv]
  | null => cases h
  | sequence items => cases h
  | mapping entries => cases h
  | _ => rfl

theorem booleanOf_error (h : booleanOf v = .error fault) : fault.kind = .value := by
  unfold booleanOf at h
  split at h
  · cases h
  · cases htext : textOf v with
    | error fault' =>
      rw [htext] at h
      cases h
      exact (textOf_error htext).2
    | ok word =>
      rw [htext] at h
      simp only [bind, Except.bind] at h
      split at h
      · cases h
      · split at h
        · cases h
        · cases h
          rfl

/-! ## What the file says -/

/-- What the file says about a setting, unless the variable is set. -/
def fromFile (entries : Entries) (env : Environment) (key variableName : String) : Option Value :=
  match env.get? variableName with
  | some _ => none
  | none => valueAt? entries key

/-- The settings with their variables. -/
def settingNames : List (String × String) := [
  ("log_level", "VSL_LOG_LEVEL"), ("max_parent_depth", "VSL_MAX_PARENT_DEPTH"), ("encoding", "VSL_ENCODING"),
  ("include_sessions", "VSL_INCLUDE_SESSIONS")]

section Given
variable {key variableName : String} {default : Value}

theorem given_congr (h : fromFile entries env key variableName = fromFile entries' env key variableName) :
    given entries env key variableName default = given entries' env key variableName default := by
  unfold fromFile at h
  unfold given
  cases hset : env.get? variableName with
  | some s => rfl
  | none =>
    simp only [hset] at h
    simp only [h]

/-- What holds of texts and of the default holds of a setting if it holds of what the file says. -/
theorem given_iff {P : Value → Prop} (htext : ∀ s, P (.text s)) (hdefault : P default) :
    P (given entries env key variableName default) ↔ ∀ v, fromFile entries env key variableName = some v → P v := by
  unfold given fromFile
  cases env.get? variableName with
  | some s => exact iff_of_true (htext s) fun v h => nomatch h
  | none =>
    cases valueAt? entries key with
    | none => exact iff_of_true hdefault fun v h => nomatch h
    | some v =>
      refine ⟨fun h w hw => ?_, fun h => h v rfl⟩
      cases hw
      exact h

end Given

/-! ## Settings from all sources -/

namespace Settings

/-- The value that is converted to the level. -/
def givenLevel (entries : Entries) (env : Environment) : Value :=
  given entries env "log_level" "VSL_LOG_LEVEL" (.text initial.logLevel)

/-- The value that is converted to the depth. -/
def givenDepth (entries : Entries) (env : Environment) : Value :=
  given entries env "max_parent_depth" "VSL_MAX_PARENT_DEPTH" (.int initial.maxDepth)

/-- The value that is converted to the choice of sessions. -/
def givenSessions (entries : Entries) (env : Environment) : Value :=
  given entries env "include_sessions" "VSL_INCLUDE_SESSIONS" (.bool initial.includeSessions)

def givenEncoding (entries : Entries) (env : Environment) : Value :=
  given entries env "encoding" "VSL_ENCODING" initial.encoding

theorem ofEntries_eq (entries : Entries) (env : Environment) : ofEntries entries env =
    (textOf (givenLevel entries env)).bind fun logLevel =>
      (integerOf (givenDepth entries env)).bind fun maxDepth =>
        (booleanOf (givenSessions entries env)).bind fun includeSessions =>
          .ok ⟨Text.toUpper logLevel, maxDepth, givenEncoding entries env, includeSessions⟩ :=
  rfl

theorem isWellAnswered_ofEntries : isWellAnswered ((ofEntries entries env).mapError .setting) = true ↔
    ((givenLevel entries env).hasLongInteger = false →
      (givenDepth entries env).lacksInteger = false ∧
        ((givenEncoding entries env).isText = true ∨ (∃ fault, integerOf (givenDepth entries env) = .error fault) ∨
          ∃ fault, booleanOf (givenSessions entries env) = .error fault)) := by
  rw [ofEntries_eq]
  cases hlevel : textOf (givenLevel entries env) with
  | error fault =>
    obtain ⟨hlong, hkind⟩ := textOf_error hlevel
    show (fault.kind == .value) = true ↔ _
    simp [hlong, hkind]
  | ok logLevel =>
    have hshort : (givenLevel entries env).hasLongInteger = false := by
      by_contra hlong
      rw [textOf, if_pos (by simpa using hlong)] at hlevel
      cases hlevel
    cases hdepth : integerOf (givenDepth entries env) with
    | error fault =>
      have hbad := integerOf_error hdepth
      show (fault.kind == .value) = true ↔ _
      rw [hbad]
      simp [hshort]
    | ok maxDepth =>
      have hinteger := lacksInteger_of_integerOf hdepth
      cases hsessions : booleanOf (givenSessions entries env) with
      | error fault =>
        show (fault.kind == .value) = true ↔ _
        rw [booleanOf_error hsessions]
        simp [hinteger]
      | ok includeSessions =>
        show (givenEncoding entries env).isText = true ↔ _
        simp [hinteger, hshort]

theorem ofEntries_congr (h : ∀ s ∈ settingNames, fromFile entries env s.1 s.2 = fromFile entries' env s.1 s.2) :
    ofEntries entries env = ofEntries entries' env := by
  have hlevel := h ("log_level", "VSL_LOG_LEVEL") (by simp [settingNames])
  have hdepth := h ("max_parent_depth", "VSL_MAX_PARENT_DEPTH") (by simp [settingNames])
  have hencoding := h ("encoding", "VSL_ENCODING") (by simp [settingNames])
  have hsessions := h ("include_sessions", "VSL_INCLUDE_SESSIONS") (by simp [settingNames])
  unfold ofEntries
  rw [given_congr hlevel, given_congr hdepth, given_congr hencoding, given_congr hsessions]

end Settings

/-! ## Settings of a run -/

section Load
variable {read : Yaml.Reader} {d d' : Directory} {path path' : Option String}

theorem result_loadSettings (h : (readEntries read d ((env.get? "CONFIG_PATH").or path)).result = .ok entries) :
    (loadSettings read d env path).result = (Settings.ofEntries entries env).mapError .setting := by
  unfold loadSettings
  rw [Outcome.bind_of_ok h, Outcome.bind_of_ok rfl]
  rfl

/-- Whatever reads the file: a mapping is answered well just when the file gives no value without integers as the
depth, and no encoding that is no text, unless another setting is refused. Where a variable is set, what the file says
counts for nothing. -/
theorem isWellAnswered_loadSettings (read : Yaml.Reader)
    (h : (readEntries read d ((env.get? "CONFIG_PATH").or path)).result = .ok entries)
    (h' : (readEntries read d' ((env.get? "CONFIG_PATH").or path')).result = .ok entries') :
    (isWellAnswered (loadSettings read d env path).result = true ↔
      ((∀ v, fromFile entries env "log_level" "VSL_LOG_LEVEL" = some v → v.hasLongInteger = false) →
        (∀ v, fromFile entries env "max_parent_depth" "VSL_MAX_PARENT_DEPTH" = some v → v.lacksInteger = false) ∧
          ((∀ v, fromFile entries env "encoding" "VSL_ENCODING" = some v → v.isText = true) ∨
            (∃ fault, integerOf (Settings.givenDepth entries env) = .error fault) ∨
              ∃ fault, booleanOf (Settings.givenSessions entries env) = .error fault))) ∧
      ((∀ s ∈ settingNames, fromFile entries env s.1 s.2 = fromFile entries' env s.1 s.2) →
        (loadSettings read d env path).result = (loadSettings read d' env path').result) := by
  rw [result_loadSettings h, result_loadSettings h', Settings.isWellAnswered_ofEntries]
  constructor
  · refine imp_congr ?_ (and_congr ?_ (or_congr_left ?_))
    · exact given_iff (P := fun v => v.hasLongInteger = false) (fun _ => rfl) rfl
    · exact given_iff (P := fun v => v.lacksInteger = false) (fun _ => rfl) rfl
    · exact given_iff (P := fun v => v.isText = true) (fun _ => rfl) rfl
  · intro hsame
    rw [Settings.ofEntries_congr hsame]

end Load

/-! ## Files that are read -/

theorem result_readEntries {read : Yaml.Reader} {d : Directory} {path text : String} {octets : List UInt8}
    (hpath : path ≠ "") (hfile : d.resolve path = .ok (.file octets)) (htext : configText octets = .ok text) :
    (readEntries read d (some path)).result = entriesOfText read path text := by
  unfold readEntries
  split
  · next h => cases h
  · next h =>
    cases h
    exact absurd rfl hpath
  · next h =>
    cases h
    simp only [hfile, htext]
    rw [Outcome.bind_of_ok rfl]
    show (Outcome.ofExcept (entriesOfText read path text) >>= _).result = _
    cases hentries : entriesOfText read path text with
    | ok entries =>
      rw [Outcome.bind_of_ok rfl]
      rfl
    | error e =>
      rw [Outcome.bind_of_error rfl]

/-- A folder with one configuration file, `c`. -/
def folderOf (text : String) : Directory := ⟨[("c", .file (Text.Utf8.encode text.toList))]⟩

theorem result_readEntries_folderOf {text : String} (htext : configText (Text.Utf8.encode text.toList) = .ok text) :
    (readEntries Yaml.read (folderOf text) (some "c")).result = entriesOfText Yaml.read "c" text := by
  have hfile (octets : List UInt8) : Directory.resolve ⟨[("c", .file octets)]⟩ "c" = .ok (.file octets) := by cbv
  exact result_readEntries (by decide) (hfile _) htext

theorem exists_entries (text : String) (P : Entries → Bool)
    (htext : configText (Text.Utf8.encode text.toList) = .ok text)
    (h : (entriesOfText Yaml.read "c" text).toOption.any P = true) :
    ∃ entries, (readEntries Yaml.read (folderOf text) (some "c")).result = .ok entries ∧ P entries = true := by
  rw [result_readEntries_folderOf htext]
  cases hentries : entriesOfText Yaml.read "c" text with
  | ok entries =>
    rw [hentries] at h
    exact ⟨entries, rfl, h⟩
  | error e =>
    rw [hentries] at h
    cases h

/-- A date for the encoding, and nothing for the depth. -/
def unfitText : String := "encoding: 2001-12-14\nmax_parent_depth: null\n"

/-- The same keys with other values. -/
def otherText : String := "encoding: utf-8\nmax_parent_depth: [1]\n"

/-- The variables of both keys. -/
def bothVariables : Environment := ⟨[("VSL_ENCODING", "latin-1"), ("VSL_MAX_PARENT_DEPTH", "7")]⟩

/-- The mapping leaves the level and the choice of sessions to the defaults. -/
def leavesOthers (entries : Entries) : Bool :=
  (valueAt? entries "log_level").isNone && (valueAt? entries "include_sessions").isNone

theorem fromFile_of_leavesOthers (h : leavesOthers entries = true) :
    ∀ s ∈ settingNames, fromFile entries bothVariables s.1 s.2 = none := by
  simp only [leavesOthers, Bool.and_eq_true, Option.isNone_iff_eq_none] at h
  simp only [settingNames, List.forall_mem_cons]
  exact ⟨h.1, rfl, rfl, h.2, fun s hs => nomatch hs⟩

theorem isWellAnswered_loadSettings_unfit :
    isWellAnswered (loadSettings Yaml.read (folderOf unfitText) bothVariables (some "c")).result = true ∧
      (loadSettings Yaml.read (folderOf unfitText) bothVariables (some "c")).result =
        (loadSettings Yaml.read (folderOf otherText) bothVariables (some "c")).result := by
  obtain ⟨entries, hread, hothers⟩ := exists_entries unfitText leavesOthers rfl (by decide +kernel)
  obtain ⟨entries', hread', hothers'⟩ := exists_entries otherText leavesOthers rfl (by decide +kernel)
  have hpath : (bothVariables.get? "CONFIG_PATH").or (some "c") = some "c" := rfl
  obtain ⟨hanswer, hsame⟩ := isWellAnswered_loadSettings Yaml.read (hpath ▸ hread) (hpath ▸ hread')
  refine ⟨hanswer.mpr fun _ => ⟨?_, Or.inl ?_⟩, hsame ?_⟩
  · intro v hv
    cases hv
  · intro v hv
    cases hv
  · intro s hs
    rw [fromFile_of_leavesOthers hothers s hs, fromFile_of_leavesOthers hothers' s hs]

/-- The file is read without fault, and yet not answered well if no variable is set. -/
def IsUnfit (text : String) : Prop :=
  (∃ entries, (readEntries Yaml.read (folderOf text) (some "c")).result = .ok entries) ∧
    isWellAnswered (loadSettings Yaml.read (folderOf text) ⟨[]⟩ (some "c")).result = false

theorem isUnfit_of_entries {text : String} (htext : configText (Text.Utf8.encode text.toList) = .ok text)
    (h : (entriesOfText Yaml.read "c" text).toOption.any
      (fun entries => !isWellAnswered ((Settings.ofEntries entries ⟨[]⟩).mapError .setting)) = true) :
    IsUnfit text := by
  obtain ⟨entries, hread, hbad⟩ := exists_entries text _ htext h
  have hpath : ((Environment.mk []).get? "CONFIG_PATH").or (some "c") = some "c" := rfl
  refine ⟨⟨entries, hread⟩, ?_⟩
  rw [result_loadSettings (hpath ▸ hread)]
  exact (Bool.not_eq_true' _).mp hbad

/-- A number or a date stands for the encoding, and a depth that says nothing or is a date is not refused as a bad
value. -/
theorem not_isWellAnswered_unfit :
    IsUnfit "encoding: 5\n" ∧ IsUnfit "encoding: 2001-12-14\n" ∧ IsUnfit "max_parent_depth: null\n" ∧
      IsUnfit "max_parent_depth: 2001-12-14\n" := by
  refine ⟨?_, ?_, ?_, ?_⟩
  · exact isUnfit_of_entries rfl (by decide +kernel)
  · exact isUnfit_of_entries rfl (by decide +kernel)
  · exact isUnfit_of_entries rfl (by decide +kernel)
  · exact isUnfit_of_entries rfl (by decide +kernel)

end ProxyLog
