import HourlyIngest.Proofs.Setting.Field

/-!
# Texts from the environment

A variable of the environment is a text, but what it sets is not: a text that reads as a truth value
or as a number becomes one, and where a field wants a text, that value is written out again.  So the
field holds what was retold (`Environment.retold`), and that is the text itself for some texts only
(`Environment.Verbatim`): words other than the truth values, and spellings of a value that are the
ones in which the value is written.  A password of digits that begins with a zero is not among them.
-/

namespace HourlyIngest

open Number Text

namespace Key

/-- The key under which a single value is kept: its last name is brought into lower case. -/
def kept : Key → Key
  | .name own => .name (lowercase own)
  | .child above own => .child above (lowercase own)
  | .item above index => .item above index

end Key

theorem Layer.spread_of_not_table {key : Key} {value : Setting} (hvalue : ¬ value.IsTable) :
    spread (key, value) = [(key.kept, value)] := by
  cases key with
  | name own => exact Setting.spread_name (Or.inr hvalue)
  | child above own => rfl
  | item above index => rfl

namespace Environment

/-! ## Variables -/

/-- The name of the variable that sets a field. -/
def variableOf : Key → String
  | .name own => "NOAA_LOADER_" ++ String.ofList (own.toList.map Char.toUpper)
  | .child above own => variableOf above ++ "__" ++ String.ofList (own.toList.map Char.toUpper)
  | .item above _ => variableOf above

/-- The key that a variable's name spells, if it is one of a setting. -/
def key? (name : String) : Option Key :=
  (setting? (name, "")).map fun setting => setting.1.kept

/-- The environment sets a field to a text, and nothing else under another spelling of the field's
name. -/
structure Sets (environment : Environment) (key : Key) (text : String) : Prop where
  mem : (variableOf key, text) ∈ environment
  only : ∀ entry ∈ environment, key? entry.1 = some key → entry.2 = text

theorem key?_variableOf : ∀ key ∈ Settings.fields, key? (variableOf key) = some key := by
  decide +kernel

variable {environment : Environment} {key : Key} {text : String}

theorem setting?_eq (entry : String × String) :
    setting? entry = (setting? (entry.1, "")).map fun setting =>
      (setting.1, .scalar (some origin) (readValue entry.2)) := by
  cases hmarker : marker.isPrefixOf (lowercase entry.1).toList <;>
    simp only [setting?, hmarker, Bool.false_eq_true, if_true, if_false, Option.map_none,
      Option.map_some]

/-- What a variable says is a single value, under the key that its name spells. -/
theorem mem_sayings_iff {saying : Key × Setting} :
    saying ∈ environment.layer.sayings ↔ ∃ entry ∈ environment, key? entry.1 = some saying.1 ∧
      saying.2 = .scalar (some origin) (readValue entry.2) := by
  have hsingle : ∀ (own : Key) (value : Scalar),
      Layer.spread (own, .scalar (some origin) value) =
        [(own.kept, .scalar (some origin) value)] :=
    fun own value => Layer.spread_of_not_table (by simp [Setting.IsTable])
  simp only [Layer.sayings, layer, List.mem_flatMap, List.mem_filterMap]
  constructor
  · rintro ⟨given, ⟨entry, hentry, hsetting⟩, hsaying⟩
    rw [setting?_eq] at hsetting
    obtain ⟨own, hown, rfl⟩ := Option.map_eq_some_iff.mp hsetting
    rw [hsingle, List.mem_singleton] at hsaying
    subst hsaying
    exact ⟨entry, hentry, by rw [key?, hown]; rfl, rfl⟩
  · rintro ⟨entry, hentry, hname, hvalue⟩
    obtain ⟨own, hown, hkept⟩ := Option.map_eq_some_iff.mp hname
    refine ⟨(own.1, .scalar (some origin) (readValue entry.2)), ⟨entry, hentry, ?_⟩, ?_⟩
    · rw [setting?_eq, hown]
      rfl
    · rw [hsingle, List.mem_singleton, hkept, ← hvalue]

/-- What a variable sets is what the environment supplies. -/
theorem Sets.supplied (hsets : environment.Sets key text) (hkey : key ∈ Settings.fields) :
    environment.layer.supplied key = some (.scalar (some origin) (readValue text)) := by
  refine latest_of_mem ?_ ?_
  · exact mem_sayings_iff.mpr ⟨_, hsets.mem, key?_variableOf key hkey, rfl⟩
  · intro saying hsaying hsame
    obtain ⟨entry, hentry, hname, hvalue⟩ := mem_sayings_iff.mp hsaying
    rw [hvalue, hsets.only entry hentry (by rw [hname, hsame])]

/-! ## Reading and writing out -/

/-- The text that comes of a variable's text when its value is written out. -/
def retold (text : String) : String :=
  (readValue text).text?.getD ""

/-- The text reads neither as a truth value nor as a whole number. -/
structure Unread (text : String) : Prop where
  ne_true : lowercase text ≠ "true"
  ne_false : lowercase text ≠ "false"
  not_whole : ∀ value, readSigned64 text.toList ≠ .ok value

/-- The text is written out as it was given. -/
inductive Verbatim : String → Prop where
  | word (value : Bool) : Verbatim (if value then "true" else "false")
  | whole {value : Int} : IsSigned64 value → Verbatim (toString value)
  /-- A number that is not whole, in the spelling in which it is written. -/
  | real {text : String} {value : Binary64} : Unread text →
      readBinary64? text.toList = some value → value.toText = text → Verbatim text
  /-- No truth value and no number at all. -/
  | plain {text : String} : Unread text → readBinary64? text.toList = none → Verbatim text

/-- What a text can be read as. -/
inductive Reads (text : String) : Scalar → Prop where
  | word {value : Bool} : lowercase text = (if value then "true" else "false") →
      Reads text (.boolean value)
  | whole {value : Int} : readSigned64 text.toList = .ok value → Reads text (.integer value)
  | real {value : Binary64} : Unread text → readBinary64? text.toList = some value →
      Reads text (.real value)
  | plain : Unread text → readBinary64? text.toList = none → Reads text (.text text)

theorem reads_readValue (text : String) : Reads text (readValue text) := by
  unfold readValue
  split
  · next hword => exact @Reads.word text true hword
  · next hword => exact @Reads.word text false hword
  · next htrue hfalse =>
    split
    · next value hvalue => exact .whole hvalue
    · next fault hfault =>
      have hunread : Unread text := ⟨htrue, hfalse, by simp [hfault]⟩
      split
      · next value hvalue => exact .real hunread hvalue
      · next hnone => exact .plain hunread hnone

theorem Unread.readValue_eq (hunread : Unread text) :
    readValue text =
      match readBinary64? text.toList with
      | some value => .real value
      | none => .text text := by
  unfold readValue
  split
  · next hword => exact absurd hword hunread.ne_true
  · next hword => exact absurd hword hunread.ne_false
  · split
    · next value hvalue => exact absurd hvalue (hunread.not_whole value)
    · rfl

/-- The characters of a numeral have no case. -/
theorem lowercase_of_numeral {v : Int} (htext : Numeral text.toList v) :
    lowercase text = text ∧ text ≠ "true" ∧ text ≠ "false" := by
  have hchars : ∀ c ∈ text.toList, c.toNat < 0x41 := htext.lt_of_mem
  refine ⟨lowercase_of_isLower fun c hc => isLower_of_lt (hchars c hc), ?_, ?_⟩
  · rintro rfl
    exact absurd (hchars 't' (by decide)) (by decide)
  · rintro rfl
    exact absurd (hchars 'f' (by decide)) (by decide)

/-- A numeral is a whole number if it has 64 bits, and the nearest double otherwise. -/
theorem readValue_of_numeral {v : Int} (htext : Numeral text.toList v) :
    readValue text = if IsSigned64 v then .integer v else .real (Binary64.ofInt v) := by
  obtain ⟨hlower, htrue, hfalse⟩ := lowercase_of_numeral htext
  have hwhole := readSigned64_of_numeral htext
  by_cases hfits : IsSigned64 v
  · rw [if_pos hfits] at hwhole
    rw [if_pos hfits, readValue, hlower, hwhole]
    split
    · exact absurd rfl htrue
    · exact absurd rfl hfalse
    · rfl
  · rw [if_neg hfits] at hwhole
    have hunread : Unread text := by
      refine ⟨by rwa [hlower], by rwa [hlower], ?_⟩
      rw [hwhole]
      simp
    have hzero : v ≠ 0 := by
      rintro rfl
      exact hfits (by decide)
    rw [if_neg hfits, hunread.readValue_eq, readBinary64?_of_numeral htext hzero]

theorem text?_readValue (text : String) : (readValue text).text? = some (retold text) := by
  have hread := reads_readValue text
  unfold retold
  generalize readValue text = value at hread ⊢
  cases hread <;> rfl

/-- **A text is retold as itself just when it is written in the spelling of its value.** -/
theorem retold_eq_iff (text : String) : retold text = text ↔ Verbatim text := by
  constructor
  · intro hsame
    have hread := reads_readValue text
    unfold retold at hsame
    generalize readValue text = value at hread hsame
    cases hread with
    | @word value hword => exact hsame ▸ .word value
    | @whole value hwhole =>
        obtain rfl : toString value = text := hsame
        rw [readSigned64_of_numeral (numeral_toString value)] at hwhole
        by_cases hfits : IsSigned64 value
        · exact .whole hfits
        · rw [if_neg hfits] at hwhole
          cases hwhole
    | real hunread hreal => exact .real hunread hreal hsame
    | plain hunread hnone => exact .plain hunread hnone
  · intro hverbatim
    cases hverbatim with
    | word value => cases value <;> decide +kernel
    | whole hfits =>
        rw [retold, readValue_of_numeral (numeral_toString _), if_pos hfits]
        rfl
    | real hunread hreal hsame =>
        rw [retold, hunread.readValue_eq, hreal]
        exact hsame
    | plain hunread hnone =>
        rw [retold, hunread.readValue_eq, hnone]
        rfl

end Environment

namespace Settings

variable {formats : FileFormats} {fs : FileSystem} {config : Option Path}
  {environment : Environment} {file : Layer} {given : Overrides} {settings : Settings} {key : Key}
  {text : String}

/-- The environment's word counts where the command line is silent. -/
theorem winner_of_sets (hsets : environment.Sets key text) (hkey : key ∈ fields)
    (hgiven : given.value? key = none) :
    winner file environment given key =
      some (.scalar (some Environment.origin) (Environment.readValue text)) := by
  rw [winner, hgiven, hsets.supplied hkey]
  rfl

/-- **A text from the environment is retold**, whatever the other layers hold that fits the field: it
is in the settings as it was given just when it is the spelling of what it reads as. -/
theorem text_from_environment (hkey : key ∈ textFields) (hsets : environment.Sets key text)
    (hgiven : given.value? key = none)
    (hread : SettingsFile.layer formats fs (config.getD defaultFile) config.isSome = .ok file)
    (hfits : ∀ entry ∈ file ++ environment.layer, Layer.Fits key entry)
    (hload : load formats fs environment config given = .ok settings) :
    settings.text? key = some (Environment.retold text) ∧
      (settings.text? key = some text ↔ Environment.Verbatim text) := by
  have hfield : key ∈ fields := textFields_subset hkey
  have hfound := at?_of_winner hfield hfits (winner_of_sets hsets hfield hgiven)
    (by simp [Setting.IsTable])
  obtain ⟨hok, -⟩ := ofSetting_of_load hread hload
  have htext : settings.text? key = some (Environment.retold text) := by
    rw [text?_of_ofSetting hok hkey hfound, Environment.text?_readValue]
  refine ⟨htext, ?_⟩
  rw [htext, Option.some.injEq]
  exact Environment.retold_eq_iff text

/-- An environment with a password of three digits. -/
def Sample.digits : Environment :=
  [("NOAA_LOADER_DATABASE__PASSWORD", "007"), ("PATH", "/bin")]

/-- What the command line has to say at least. -/
def Sample.source : Overrides := { sourceDirectory := some (encode "/data") }

/-- What is loaded with the password of three digits. -/
def Sample.retoldSettings : Settings where
  sourceDirectory := "/data"
  table := "noaa_hourly_raw"
  batchSize := 4000
  deleteAfterLoad := true
  failFast := false
  database := { password := some "7" }

/-- No file is found, and the password is retold as another one. -/
theorem text_from_environment_sample :
    let fs : FileSystem := ⟨[], [], []⟩
    ∃ file : Layer, SettingsFile.layer .plain fs defaultFile false = .ok file ∧
      Sample.digits.Sets (databaseKey "password") "007" ∧
      (∀ entry ∈ file ++ Sample.digits.layer, Layer.Fits (databaseKey "password") entry) ∧
      load .plain fs Sample.digits none Sample.source = .ok Sample.retoldSettings ∧
      Sample.retoldSettings.text? (databaseKey "password") = some (Environment.retold "007") ∧
      (Sample.retoldSettings.text? (databaseKey "password") = some "007" ↔
        Environment.Verbatim "007") := by
  intro fs
  have hkey : databaseKey "password" ∈ textFields := by decide
  have hgiven : Sample.source.value? (databaseKey "password") = none := by decide
  have hsets : Sample.digits.Sets (databaseKey "password") "007" :=
    ⟨by decide +kernel, by decide +kernel⟩
  obtain ⟨file, hread, hfile⟩ := exists_layer fs defaultFile false
    (fun file => decide (∀ entry ∈ file ++ Sample.digits.layer,
      Layer.Fits (databaseKey "password") entry))
    (by decide +kernel)
  have hfits := of_decide_eq_true hfile
  have hload : load .plain fs Sample.digits none Sample.source = .ok Sample.retoldSettings := by
    decide +kernel
  exact ⟨file, hread, hsets, hfits, hload,
    text_from_environment hkey hsets hgiven hread hfits hload⟩

/-- The environment sets the password, the command line does not, and the settings are loaded with
another password. -/
theorem password_retold :
    Sample.digits.Sets (databaseKey "password") "007" ∧
      Sample.source.value? (databaseKey "password") = none ∧
        ∃ settings, load .plain ⟨[], [], []⟩ Sample.digits none Sample.source = .ok settings ∧
          settings.database.password = some "7" ∧
            settings.text? (databaseKey "password") ≠ some "007" := by
  refine ⟨⟨by decide +kernel, by decide +kernel⟩, by decide, Sample.retoldSettings, ?_, rfl, ?_⟩
  all_goals decide +kernel

end Settings

end HourlyIngest
