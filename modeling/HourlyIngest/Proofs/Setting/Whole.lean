import HourlyIngest.Proofs.Json.Numeral
import HourlyIngest.Proofs.Setting.Variable
import HourlyIngest.Proofs.Toml.Numeral

/-!
# Whole numbers in the settings

Each layer has its own type for whole numbers: TOML has 64 bits with a sign, JSON and the environment
go over to doubles where these do not suffice, and the command line has 64 bits without a sign, of
which the highest is taken for one.  So what came of a whole number is one of three things
(`Scalar.Holds`): the number, a negative number in the place of a large one, or a double far out.

A field takes the first and refuses the second.  The third it takes as well, rounded and cut off at
its own bounds, which is how the number of seconds for a connection can come out changed, and how a
port below all numbers of 64 bits becomes port zero.
-/

namespace HourlyIngest

open Number

/-- What came of a whole number in one of the layers. -/
inductive Setting.Given (v : Int) : Setting → Prop where
  /-- A decimal numeral in TOML. -/
  | toml {origin : Option String} {text : List Char} {value : Toml} : Numeral text v →
      Toml.readToken? text = some value → Given v (.ofToml origin value)
  /-- A whole number of TOML in another spelling. -/
  | spelled {origin : Option String} : Given v (.ofToml origin (.integer v))
  | json {origin : Option String} {text : List Char} {value : Json} : Numeral text v →
      Json.readNumber? text = some (value, []) → Given v (.ofJson origin value)
  | environment {text : String} : Numeral text.toList v →
      Given v (.scalar (some Environment.origin) (Environment.readValue text))
  /-- A number on the command line, of 64 bits without a sign. -/
  | option {n : Nat} : n ≤ maxUnsigned64 → v = n →
      Given v (.scalar none (.integer (Settings.signed64 n)))

/-- What a single value that came of a whole number holds. -/
inductive Scalar.Holds (v : Int) : Scalar → Prop where
  | whole : Holds v (.integer v)
  /-- The highest bit was taken for a sign. -/
  | wrapped {w : Int} : w < 0 → (maxSigned64 : Int) < v → Holds v (.integer w)
  | beyond {x : Binary64} : Binary64.Beyond v x → Holds v (.real x)

variable {v : Int} {n : Nat}

theorem holds_signed64 (hn : n ≤ maxUnsigned64) :
    Scalar.Holds n (.integer (Settings.signed64 n)) := by
  have hmodulus : maxUnsigned64 + 1 = 2 * (maxSigned64 + 1) := by decide
  by_cases hroom : n ≤ maxSigned64
  · have hkept : Settings.signed64 n = n := by
      apply Int.bmod_eq_of_le <;> omega
    rw [hkept]
    exact .whole
  · have hwrapped : Settings.signed64 n = n - (maxUnsigned64 + 1 : Nat) := by
      have hmod : (n : Int) % (maxUnsigned64 + 1 : Nat) = n := by
        apply Int.emod_eq_of_lt <;> omega
      rw [Settings.signed64, Int.bmod_def, hmod, if_neg (by omega)]
    apply Scalar.Holds.wrapped
    · rw [hwrapped]
      omega
    · omega

/-- Every layer makes a single value of a whole number. -/
theorem Setting.Given.holds {setting : Setting} (hgiven : setting.Given v) :
    ∃ origin value, setting = .scalar origin value ∧ value.Holds v := by
  cases hgiven with
  | toml htext hread =>
      obtain ⟨rfl, -⟩ := Toml.readToken?_of_numeral htext hread
      exact ⟨_, _, rfl, .whole⟩
  | spelled => exact ⟨_, _, rfl, .whole⟩
  | json htext hread =>
      cases Json.readNumber?_of_numeral htext hread with
      | kept =>
          refine ⟨_, _, rfl, ?_⟩
          by_cases hroom : v ≤ Int.ofNat maxSigned64
          · rw [if_pos hroom]
            exact .whole
          · rw [if_neg hroom]
            exact .beyond (Binary64.beyond_ofInt fun hfits => hroom hfits.2)
      | rounded hbeyond => exact ⟨_, _, rfl, .beyond hbeyond⟩
  | environment htext =>
      refine ⟨_, _, rfl, ?_⟩
      rw [Environment.readValue_of_numeral htext]
      by_cases hfits : IsSigned64 v
      · rw [if_pos hfits]
        exact .whole
      · rw [if_neg hfits]
        exact .beyond (Binary64.beyond_ofInt hfits)
  | option hn hv => exact ⟨_, _, rfl, hv ▸ holds_signed64 hn⟩

/-- A number in a field is not the one that was given: that one needs more than 64 bits and came as a
double.  Below zero nothing is left of it, and above it is still large. -/
structure Setting.Strays (v : Int) (setting : Setting) (n : Nat) : Prop where
  outside : ¬ IsSigned64 v
  rounded : ∃ origin x, setting = .scalar origin (.real x) ∧ n = x.toNatUpTo maxUnsigned64
  low : v < 0 → n = 0
  high : 0 < v → 2 ^ 60 ≤ n

/-- A small number that strays is zero, in the place of one below all numbers of 64 bits. -/
theorem Setting.Strays.of_lt {setting : Setting} (hstrays : setting.Strays v n)
    (hn : n < 2 ^ 60) : v < 0 ∧ n = 0 := by
  have hnonzero : v ≠ 0 := by
    rintro rfl
    exact hstrays.outside (by decide)
  have hnegative : v < 0 := by
    by_contra hpositive
    have hlarge := hstrays.high (by omega)
    omega
  exact ⟨hnegative, hstrays.low hnegative⟩

/-- Negative numbers are refused, and others are kept. -/
theorem Setting.toUnsigned_integer_eq_ok_iff {path : String} {origin : Option String} {w : Int} :
    toUnsigned path (.scalar origin (.integer w)) = .ok n ↔ (n : Int) = w := by
  unfold toUnsigned
  dsimp only
  split
  · next hpositive =>
    rw [Except.ok.injEq]
    omega
  · next hnegative =>
    refine iff_of_false (by simp) ?_
    omega

/-- A field refuses what was wrapped, and strays only with a double. -/
theorem Setting.Given.eq_or_strays {setting : Setting} (hgiven : setting.Given v) {path : String}
    (hok : toUnsigned path setting = .ok n) : (n : Int) = v ∨ setting.Strays v n := by
  obtain ⟨origin, value, rfl, hvalue⟩ := hgiven.holds
  cases hvalue with
  | whole =>
      left
      exact toUnsigned_integer_eq_ok_iff.mp hok
  | wrapped hnegative =>
      have hsame := toUnsigned_integer_eq_ok_iff.mp hok
      omega
  | @beyond x hbeyond =>
      obtain rfl : x.toNatUpTo maxUnsigned64 = n := Except.ok.inj hok
      have hlimit : 2 ^ 60 ≤ maxUnsigned64 := by decide
      obtain ⟨hv, hzero⟩ | ⟨hv, hout, hzero⟩ | ⟨hv, hout, hlarge⟩ := hbeyond.toNatUpTo hlimit
      · left
        rw [hzero, hv]
        rfl
      · right
        exact ⟨hout, ⟨origin, x, rfl, rfl⟩, fun _ => hzero, fun hpositive => by omega⟩
      · right
        exact ⟨hout, ⟨origin, x, rfl, rfl⟩, fun hnegative => by omega, fun _ => hlarge⟩

namespace Settings

variable {formats : FileFormats} {fs : FileSystem} {config : Option Path}
  {environment : Environment} {file : Layer} {given : Overrides} {settings : Settings} {key : Key}
  {setting : Setting}

/-- **A whole number from the highest layer comes through unchanged**, unless it has no room in 64
bits and came as a double.  Even so no port is above its bound, and none was given above it, and the
number of rows in a statement is always the one that was given. -/
theorem number_from_highest_layer (hkey : key ∈ numberFields)
    (hread : SettingsFile.layer formats fs (config.getD defaultFile) config.isSome = .ok file)
    (hfits : ∀ entry ∈ file ++ environment.layer, Layer.Fits key entry)
    (hwinner : winner file environment given key = some setting) (hsetting : setting.Given v)
    (hload : load formats fs environment config given = .ok settings) :
    ∃ n, settings.number? key = some n ∧ ((n : Int) = v ∨ setting.Strays v n) ∧
      (key = databaseKey "port" → n ≤ maxUnsigned16 ∧ v ≤ maxUnsigned16) ∧
      (key = .name "batch_size" → (n : Int) = v ∧ 1 ≤ n ∧ n ≤ Sql.maxBatch) := by
  have hsingle : ¬ setting.IsTable := by
    obtain ⟨origin, value, rfl, -⟩ := hsetting.holds
    simp [Setting.IsTable]
  have hfound := at?_of_winner (numberFields_subset hkey) hfits hwinner hsingle
  obtain ⟨hok, hrules⟩ := ofSetting_of_load hread hload
  obtain ⟨path, n, hunsigned, hnumber, hport⟩ := number?_of_ofSetting hok hkey hfound
  have hkept := hsetting.eq_or_strays hunsigned
  refine ⟨n, hnumber, hkept, ?_, ?_⟩
  · intro hkey
    have hbound := hport hkey
    have hfar : maxUnsigned16 < 2 ^ 60 := by decide
    refine ⟨hbound, ?_⟩
    rcases hkept with rfl | hstrays
    · exact_mod_cast hbound
    · have hnegative := (hstrays.of_lt (by omega)).1
      omega
  · rintro rfl
    obtain ⟨hleast, hmost⟩ := batchSize_of_violations hrules
    obtain rfl : settings.batchSize = n := Option.some.inj hnumber
    have hfar : Sql.maxBatch < 2 ^ 60 := by decide
    refine ⟨?_, hleast, hmost⟩
    rcases hkept with hsame | hstrays
    · exact hsame
    · -- the rules allow neither zero nor a number far out
      have hzero := (hstrays.of_lt (by omega)).2
      omega

/-- An environment with a number of seconds that has no room in 64 bits with a sign. -/
def Sample.seconds : Environment :=
  [("NOAA_LOADER_DATABASE__CONNECT_TIMEOUT_SECS", "9223372036854775809"), ("PATH", "/bin")]

/-- An environment with a port below all numbers of 64 bits. -/
def Sample.port : Environment :=
  [("NOAA_LOADER_DATABASE__PORT", "-9223372036854775809"), ("PATH", "/bin")]

/-- What is loaded with some connection to the database. -/
def Sample.connecting (database : DatabaseSettings) : Settings where
  sourceDirectory := "/data"
  table := "noaa_hourly_raw"
  batchSize := 4000
  deleteAfterLoad := true
  failFast := false
  database := database

theorem Sample.numeral_seconds : Numeral "9223372036854775809".toList 9223372036854775809 := by
  have hspelling : toString (9223372036854775809 : Int) = "9223372036854775809" := by
    decide +kernel
  exact hspelling ▸ numeral_toString 9223372036854775809

theorem Sample.numeral_port : Numeral "-9223372036854775809".toList (-9223372036854775809) := by
  have hspelling : toString (-9223372036854775809 : Int) = "-9223372036854775809" := by
    decide +kernel
  exact hspelling ▸ numeral_toString (-9223372036854775809)

/-- The number of seconds has no room in 64 bits with a sign, and strays by one. -/
theorem number_from_highest_layer_sample :
    let fs : FileSystem := ⟨[], [], []⟩
    let key := databaseKey "connect_timeout_secs"
    let setting : Setting :=
      .scalar (some Environment.origin) (Environment.readValue "9223372036854775809")
    let settings := Sample.connecting { connectTimeout := 9223372036854775808 }
    ∃ file : Layer, SettingsFile.layer .plain fs defaultFile false = .ok file ∧
      (∀ entry ∈ file ++ Sample.seconds.layer, Layer.Fits key entry) ∧
      winner file Sample.seconds Sample.source key = some setting ∧
      setting.Given 9223372036854775809 ∧
      load .plain fs Sample.seconds none Sample.source = .ok settings ∧
      ∃ n, settings.number? key = some n ∧
        ((n : Int) = 9223372036854775809 ∨ setting.Strays 9223372036854775809 n) ∧
        (key = databaseKey "port" →
          n ≤ maxUnsigned16 ∧ (9223372036854775809 : Int) ≤ maxUnsigned16) ∧
        (key = .name "batch_size" →
          (n : Int) = 9223372036854775809 ∧ 1 ≤ n ∧ n ≤ Sql.maxBatch) := by
  intro fs key setting settings
  have hkey : key ∈ numberFields := by decide
  have hsets : Sample.seconds.Sets key "9223372036854775809" :=
    ⟨by decide +kernel, by decide +kernel⟩
  obtain ⟨file, hread, hfile⟩ := exists_layer fs defaultFile false
    (fun file => decide (∀ entry ∈ file ++ Sample.seconds.layer, Layer.Fits key entry))
    (by decide +kernel)
  have hfits := of_decide_eq_true hfile
  have hwinner : winner file Sample.seconds Sample.source key = some setting :=
    winner_of_sets hsets (numberFields_subset hkey) (by decide)
  have hsetting : setting.Given 9223372036854775809 := .environment Sample.numeral_seconds
  have hload : load .plain fs Sample.seconds none Sample.source = .ok settings := by decide +kernel
  exact ⟨file, hread, hfits, hwinner, hsetting, hload,
    number_from_highest_layer hkey hread hfits hwinner hsetting hload⟩

/-- The environment gives a number of seconds and a port, the command line does not, and the settings
are loaded with other ones. -/
theorem timeout_and_port_altered :
    Numeral "9223372036854775809".toList 9223372036854775809 ∧
      Sample.seconds.Sets (databaseKey "connect_timeout_secs") "9223372036854775809" ∧
      Sample.source.value? (databaseKey "connect_timeout_secs") = none ∧
      (load .plain ⟨[], [], []⟩ Sample.seconds none Sample.source).toOption.map
        (·.database.connectTimeout) = some 9223372036854775808 ∧
    Numeral "-9223372036854775809".toList (-9223372036854775809) ∧
      Sample.port.Sets (databaseKey "port") "-9223372036854775809" ∧
      Sample.source.value? (databaseKey "port") = none ∧
      (load .plain ⟨[], [], []⟩ Sample.port none Sample.source).toOption.map
        (·.database.port) = some 0 := by
  refine ⟨Sample.numeral_seconds, ⟨?_, ?_⟩, rfl, ?_, Sample.numeral_port, ⟨?_, ?_⟩, rfl, ?_⟩
  all_goals decide +kernel

end Settings

end HourlyIngest
