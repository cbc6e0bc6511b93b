import OverlayStore.Proofs.Config.Setting

/-!
# Settings from the environment

The environment variables that are set are read one after the other, each into its own setting, and
the first one whose text denotes no value ends the reading. `Config.ofLookup_eq` puts this as a
choice between the first flaw in the order of the settings and the default settings with some values
replaced. So the variables do not interfere (`Config.variables_override_independently`): settings
are accepted exactly if every variable that is set denotes a value and the result is usable, each
setting depends on its own variable only, and it is the first variable that fails that is reported.
-/

namespace OverlayStore.Config

/-! ## One setting in an environment -/

namespace Setting

variable (lookup : String → Option String) (setting : Setting)

/-- What the variable of the setting says, if it is set. -/
def reading? : Option (Except Flaw setting.Value) :=
  (lookup setting.variableName).map setting.kind.read

/-- The variable of the setting is not set, or its text denotes a value. -/
def Parses : Prop :=
  ∀ reading, setting.reading? lookup = some reading → ∃ value, reading = .ok value

/-- The setting is what the environment says: the value that its variable denotes, or the default if
the variable is not set. -/
def Follows (config : Config) : Prop :=
  match setting.reading? lookup with
  | none => setting.get config = setting.get {}
  | some reading => reading = .ok (setting.get config)

/-- What is wrong with the variable of the setting. -/
def flaw? : Option Flaw :=
  match setting.reading? lookup with
  | some (.error flaw) => some flaw
  | _ => none

/-- The value that the variable of the setting denotes, or else the one given. -/
def valueIn (given : setting.Value) : setting.Value :=
  match setting.reading? lookup with
  | some (.ok value) => value
  | _ => given

variable {lookup setting}

/-- There is no flaw where the variable can be read or is not set. -/
theorem flaw?_eq_none_iff : setting.flaw? lookup = none ↔ setting.Parses lookup := by
  unfold flaw? Parses
  cases setting.reading? lookup with
  | none => simp
  | some reading => cases reading <;> simp

/-- Reading a variable twice is no different from reading it once. -/
theorem valueIn_valueIn (given : setting.Value) :
    setting.valueIn lookup (setting.valueIn lookup given) = setting.valueIn lookup given := by
  unfold valueIn
  cases setting.reading? lookup with
  | none => rfl
  | some reading => cases reading <;> rfl

/-- A setting with the value that its variable denotes, or else with its default, is what the
environment says, unless the variable has a flaw. -/
theorem follows_of_parses (h : setting.Parses lookup) {config : Config}
    (hget : setting.get config = setting.valueIn lookup (setting.get {})) :
    setting.Follows lookup config := by
  unfold Follows
  rw [hget, valueIn]
  cases hreading : setting.reading? lookup with
  | none => rfl
  | some reading =>
    -- the reading is no flaw
    obtain ⟨value, rfl⟩ := h reading hreading
    rfl

/-- Only the variable of a setting decides what it is. -/
theorem Follows.get_eq {other : String → Option String} {config config' : Config}
    (h : setting.Follows lookup config) (h' : setting.Follows other config')
    (hsame : other setting.variableName = lookup setting.variableName) :
    setting.get config' = setting.get config := by
  unfold Follows reading? at h h'
  rw [hsame] at h'
  cases hset : lookup setting.variableName with
  | none =>
    rw [hset] at h h'
    exact h'.trans h.symm
  | some text =>
    rw [hset] at h h'
    exact Except.ok.inj (h'.symm.trans h)

end Setting

/-! ## All variables -/

variable (lookup : String → Option String)

/-- The flaws of the variables of some settings, in their order. -/
def flawsOf (settings : List Setting) : List (Setting × Flaw) :=
  settings.filterMap fun setting => (setting.flaw? lookup).map fun flaw => (setting, flaw)

/-- The flaws of all variables, those for storage before those for logging. -/
def flaws : List (Setting × Flaw) := flawsOf lookup Setting.all

/-- The default settings, with the values that variables denote in place of the defaults. -/
def overridden : Config := ofValues fun setting => setting.valueIn lookup (setting.get {})

/-- The settings after some of them have been overridden one after the other. -/
def overrideEach (settings : List Setting) (config : Config) : Config :=
  settings.foldl
    (fun config setting => setting.set (setting.valueIn lookup (setting.get config)) config) config

variable {lookup}

/-- To override settings is to override each of them for itself. -/
theorem get_overrideEach (settings : List Setting) (config : Config) (setting : Setting) :
    setting.get (overrideEach lookup settings config) =
      if setting ∈ settings then setting.valueIn lookup (setting.get config)
      else setting.get config := by
  induction settings generalizing config with
  | nil => rfl
  | cons first settings ih =>
    refine (ih _).trans ?_
    by_cases hfirst : setting = first
    · -- it is overridden now, and once more if it is among the others
      subst hfirst
      rw [Setting.get_set, if_pos (List.mem_cons_self ..), Setting.valueIn_valueIn, ite_self]
    · rw [Setting.get_set_of_ne _ _ hfirst]
      simp only [List.mem_cons, hfirst, false_or]

/-- Overriding setting by setting overrides all of them. -/
theorem overrideEach_all : overrideEach lookup Setting.all {} = overridden lookup := by
  refine eq_of_get fun setting => ?_
  rw [get_overrideEach, if_pos setting.mem_all, overridden, get_ofValues]

/-- A variable overrides its setting unless it has a flaw, which is reported under its name. -/
theorem apply_ofSetting (config : Config) (setting : Setting) :
    Variable.apply lookup config (.ofSetting setting) =
      match setting.flaw? lookup with
      | none => .ok (setting.set (setting.valueIn lookup (setting.get config)) config)
      | some flaw => .error (flaw.error setting.variableName) := by
  unfold Variable.apply Variable.ofSetting Setting.flaw? Setting.valueIn Setting.reading?
  cases lookup setting.variableName with
  | none =>
    -- to leave a setting alone is to set it to what it is
    exact congrArg Except.ok (Setting.set_get config).symm
  | some text =>
    simp only [Option.map_some]
    cases setting.kind.read text <;> rfl

/-- The first flaw ends the reading. -/
theorem foldlM_apply (settings : List Setting) (config : Config) :
    (settings.map Variable.ofSetting).foldlM (Variable.apply lookup) config =
      match (flawsOf lookup settings).head? with
      | none => .ok (overrideEach lookup settings config)
      | some (setting, flaw) => .error (flaw.error setting.variableName) := by
  induction settings generalizing config with
  | nil => rfl
  | cons setting settings ih =>
    rw [List.map_cons, List.foldlM_cons, apply_ofSetting, flawsOf, List.filterMap_cons]
    -- without a flaw the others are read with this setting overridden, hence the general `config`
    cases setting.flaw? lookup with
    | none => exact ih _
    | some flaw => rfl

/-- The first flaw is the answer. Where there is none, the overridden configuration is validated. -/
theorem ofLookup_eq (lookup : String → Option String) :
    ofLookup lookup =
      match (flaws lookup).head? with
      | none => (overridden lookup).validated
      | some (setting, flaw) => .error (flaw.error setting.variableName) := by
  rw [ofLookup, ← Variable.map_ofSetting, foldlM_apply, overrideEach_all, flaws]
  cases (flawsOf lookup Setting.all).head? <;> rfl

theorem flaws_eq_nil_iff : flaws lookup = [] ↔ ∀ setting : Setting, setting.Parses lookup := by
  rw [flaws, flawsOf, List.filterMap_eq_nil_iff]
  simp only [Option.map_eq_none_iff, Setting.flaw?_eq_none_iff, Setting.mem_all, forall_const]

/-! ## Acceptance and refusal -/

/-- Validation lets usable settings through as they are. -/
theorem validated_eq_ok_iff {config result : Config} :
    config.validated = .ok result ↔ result = config ∧ config.storage.validate = .ok () := by
  unfold validated
  cases config.storage.validate <;> simp [eq_comm]

theorem validated_eq_error_iff {config : Config} {why : Error} :
    config.validated = .error why ↔ config.storage.validate = .error why := by
  unfold validated
  cases config.storage.validate <;> simp

/-- The check as a whole refuses settings for one kind of reason only. -/
theorem exists_of_validate_eq_error {settings : Storage} {why : Error}
    (h : settings.validate = .error why) : ∃ reason, why = .validationFailed reason := by
  unfold Storage.validate at h
  split at h
  · cases h
  · exact ⟨_, (Except.error.inj h).symm⟩

/-- Settings are accepted exactly if every variable that is set denotes a value and they are
usable. -/
theorem ofLookup_eq_ok_iff {config : Config} :
    ofLookup lookup = .ok config ↔ (∀ setting : Setting, setting.Parses lookup) ∧
      config = overridden lookup ∧ config.storage.validate = .ok () := by
  rw [ofLookup_eq, ← flaws_eq_nil_iff]
  cases flaws lookup with
  | nil =>
    refine validated_eq_ok_iff.trans ?_
    constructor
    · rintro ⟨rfl, hvalid⟩
      exact ⟨rfl, rfl, hvalid⟩
    · rintro ⟨-, rfl, hvalid⟩
      exact ⟨rfl, hvalid⟩
  | cons first flaws => simp

/-- Settings are refused because of the first flaw, or without a flaw because they are unusable. -/
theorem ofLookup_eq_error_iff {why : Error} :
    ofLookup lookup = .error why ↔
      ((∀ setting : Setting, setting.Parses lookup) ∧
        (overridden lookup).storage.validate = .error why) ∨
      ∃ setting flaw, (flaws lookup).head? = some (setting, flaw) ∧
        flaw.error setting.variableName = why := by
  rw [ofLookup_eq, ← flaws_eq_nil_iff]
  cases flaws lookup with
  | nil => simp [validated_eq_error_iff]
  | cons first flaws =>
    obtain ⟨setting, flaw⟩ := first
    simp

/-- All errors but one are about the first flaw. -/
theorem ofLookup_eq_error_iff_first {why : Error} (h : ∀ reason, why ≠ .validationFailed reason) :
    ofLookup lookup = .error why ↔ ∃ setting flaw,
      (flaws lookup).head? = some (setting, flaw) ∧ flaw.error setting.variableName = why := by
  refine ofLookup_eq_error_iff.trans (or_iff_right ?_)
  rintro ⟨-, hvalid⟩
  obtain ⟨reason, hwhy⟩ := exists_of_validate_eq_error hvalid
  exact h reason hwhy

/-- Variables that belong to no setting have no effect. -/
theorem ofLookup_congr {other : String → Option String}
    (h : ∀ setting : Setting, other setting.variableName = lookup setting.variableName) :
    ofLookup other = ofLookup lookup := by
  -- an environment is only looked at through what the variables of the settings say
  have hreading : ∀ setting : Setting, setting.reading? other = setting.reading? lookup := by
    intro setting
    rw [Setting.reading?, h, Setting.reading?]
  have hflaws : flaws other = flaws lookup := by
    simp only [flaws, flawsOf, Setting.flaw?, hreading]
  have hvalues : overridden other = overridden lookup := by
    simp only [overridden, Setting.valueIn, hreading]
  rw [ofLookup_eq, ofLookup_eq, hflaws, hvalues]

/-! ## The main theorem -/

/-- What is decided about the settings in an environment. -/
structure Decided (lookup : String → Option String) (outcome : Except Error Config) : Prop where
  /-- Settings are accepted exactly if every variable that is set denotes a value and they are
  usable. -/
  accepted (config : Config) : outcome = .ok config ↔
    (∀ setting : Setting, setting.Parses lookup) ∧ config = overridden lookup ∧
      config.storage.validate = .ok ()
  /-- The settings accepted have the values denoted, and the defaults where no variable is set. -/
  replaced (config : Config) : outcome = .ok config → ∀ setting : Setting,
    setting.Follows lookup config
  /-- A malformed variable is reported by its name exactly if it is the first with a flaw. -/
  malformed (name reason : String) : outcome = .error (.invalidValue name reason) ↔
    ∃ setting, (flaws lookup).head? = some (setting, .malformed reason) ∧
      setting.variableName = name
  /-- The program comes down exactly if reading the first variable with a flaw brings it down. -/
  overrun : outcome = .error .overrun ↔
    ∃ setting, (flaws lookup).head? = some (setting, .overrun)
  /-- Settings are refused as unusable exactly if no variable has a flaw and they are unusable. -/
  unusable (why : String) : outcome = .error (.validationFailed why) ↔
    (∀ setting : Setting, setting.Parses lookup) ∧
      (overridden lookup).storage.validate = .error (.validationFailed why)

/-- What is made of the variables is decided by them, one by one. -/
theorem decided_ofLookup (lookup : String → Option String) :
    Decided lookup (ofLookup lookup) where
  accepted _ := ofLookup_eq_ok_iff
  replaced config hconfig setting := by
    obtain ⟨hparses, rfl, -⟩ := ofLookup_eq_ok_iff.mp hconfig
    exact Setting.follows_of_parses (hparses setting) (get_ofValues _ setting)
  malformed name reason := by
    refine (ofLookup_eq_error_iff_first ?_).trans ?_
    · exact fun _ => nofun
    · simp [Flaw.error_eq_invalidValue_iff]
  overrun := by
    refine (ofLookup_eq_error_iff_first ?_).trans ?_
    · exact fun _ => nofun
    · simp [Flaw.error_eq_overrun_iff]
  unusable why := by
    -- a flaw of one variable is never reported as one of the whole
    refine ofLookup_eq_error_iff.trans (or_iff_left ?_)
    rintro ⟨setting, flaw, -, herror⟩
    exact flaw.error_ne_validationFailed _ why herror

/-- In every environment each variable decides about its own setting and about no other. Settings
are accepted exactly if every variable that is set denotes a value of the kind of its setting and
the default settings with these values are usable. Variables that belong to no setting have no
effect, and where two environments differ in one variable only, the settings differ in the setting
of this variable at most. Among several variables that are malformed, the first one in the order of
the settings is reported. Which texts denote values is a matter of the kinds alone, and so is it
that reading a duration may bring the program down instead of finding it malformed. -/
theorem variables_override_independently (lookup : String → Option String) :
    Decided lookup (ofLookup lookup) ∧ Function.Injective Setting.variableName ∧
    (∀ other : String → Option String,
      (∀ setting : Setting, other setting.variableName = lookup setting.variableName) →
        ofLookup other = ofLookup lookup) ∧
    ∀ (other : String → Option String) (name : String) (config config' : Config),
      (∀ key, key ≠ name → other key = lookup key) →
      ofLookup lookup = .ok config → ofLookup other = .ok config' →
      ∀ setting : Setting, setting.variableName ≠ name →
        setting.get config' = setting.get config := by
  refine ⟨decided_ofLookup lookup, Setting.variableName_injective, fun _ => ofLookup_congr, ?_⟩
  intro other name config config' hsame hconfig hconfig' setting hname
  have hfollows := (decided_ofLookup lookup).replaced config hconfig setting
  have hfollows' := (decided_ofLookup other).replaced config' hconfig' setting
  exact hfollows.get_eq hfollows' (hsame _ hname)

/-- Of two malformed variables the one for storage is reported. -/
example :
    let lookup (name : String) : Option String :=
      if name = "KADMOS_LOGGING_JSON" then some "maybe"
      else if name = "KADMOS_DHT_PUBLISHER_PERIOD" then some "soon" else none
    ofLookup lookup =
      .error (.invalidValue "KADMOS_DHT_PUBLISHER_PERIOD" "expected number at 0") :=
  rfl

end OverlayStore.Config
