import HourlyIngest.Database.Writer
import HourlyIngest.Proofs.Setting.Conversion

/-!
# The rules on single values

There are five rules on what the fields hold: four texts may not be empty, and the number of rows in a
statement has to lie between 1 and 4095.  A rule is reported if it is broken and not otherwise
(`exists_mem_violations`, `broken_of_mem_violations`), and no rule twice (`nodup_violations`).

The values are those of the highest layers (`effective?`).  Where they can be converted, loading
succeeds just if the source directory is supplied and no rule is broken, and if it fails the fault is
the missing source directory or all of the broken rules (`load_of_rules`).
-/

namespace HourlyIngest

open Number Text

/-- The value that breaks the rule. -/
def Violation.value : Violation → Scalar
  | .empty _ => .text ""
  | .outOfRange _ _ _ value => .integer value

namespace Settings

open Setting

variable {key : Key} {settings : Settings} {violation : Violation}

/-! ## The rules -/

/-- The fields with a rule. -/
def ruled : List Key :=
  [databaseKey "dbname", databaseKey "host", databaseKey "user", .name "table",
    .name "batch_size"]

/-- The rules: a text is not empty, and a number of rows lies between 1 and 4095. -/
def Allowed : Scalar → Prop
  | .text value => value ≠ ""
  | .integer value => 1 ≤ value ∧ value ≤ 4095
  | _ => True

theorem mem_checkText_iff {field value : String} :
    violation ∈ checkText field value ↔ violation = .empty field ∧ value = "" := by
  unfold checkText
  split <;> simp [*]

/-- Whatever is reported breaks a rule: the field is named, and the value is the one in it. -/
theorem broken_of_mem_violations (hmem : violation ∈ settings.violations) :
    ∃ key ∈ ruled, violation.field = key.dotted ∧
      settings.value? key = some violation.value ∧ ¬ Allowed violation.value := by
  have hempty : ∀ key ∈ ruled, ∀ text, settings.value? key = some (.text text) →
      violation = .empty key.dotted ∧ text = "" → ∃ key ∈ ruled, violation.field = key.dotted ∧
        settings.value? key = some violation.value ∧ ¬ Allowed violation.value := by
    rintro key hkey text hvalue ⟨rfl, rfl⟩
    exact ⟨key, hkey, rfl, hvalue, fun hallowed => hallowed rfl⟩
  simp only [violations, List.mem_append, mem_checkText_iff] at hmem
  rcases hmem with (((hdbname | hhost) | huser) | htable) | hsize
  · exact hempty (databaseKey "dbname") (by decide) _ rfl hdbname
  · exact hempty (databaseKey "host") (by decide) _ rfl hhost
  · exact hempty (databaseKey "user") (by decide) _ rfl huser
  · exact hempty (.name "table") (by decide) _ rfl htable
  · split at hsize
    · cases hsize
    · next hrange =>
      obtain rfl := List.mem_singleton.mp hsize
      refine ⟨.name "batch_size", by decide, rfl, rfl, fun hallowed => hrange ?_⟩
      exact ⟨Int.ofNat_le.mp hallowed.1, Int.ofNat_le.mp hallowed.2⟩

theorem empty_mem_violations (hkey : key ∈ ruled)
    (hvalue : settings.value? key = some (.text "")) :
    .empty key.dotted ∈ settings.violations := by
  simp only [violations, List.mem_append, mem_checkText_iff]
  simp only [ruled, List.mem_cons, List.not_mem_nil, or_false] at hkey
  rcases hkey with rfl | rfl | rfl | rfl | rfl
  · exact .inl (.inl (.inl (.inl ⟨rfl, Scalar.text.inj (Option.some.inj hvalue)⟩)))
  · exact .inl (.inl (.inl (.inr ⟨rfl, Scalar.text.inj (Option.some.inj hvalue)⟩)))
  · exact .inl (.inl (.inr ⟨rfl, Scalar.text.inj (Option.some.inj hvalue)⟩))
  · exact .inl (.inr ⟨rfl, Scalar.text.inj (Option.some.inj hvalue)⟩)
  · cases hvalue

theorem outOfRange_mem_violations
    (hrange : ¬ (1 ≤ settings.batchSize ∧ settings.batchSize ≤ Sql.maxBatch)) :
    .outOfRange "batch_size" 1 Sql.maxBatch settings.batchSize ∈ settings.violations := by
  unfold violations
  rw [if_neg hrange]
  exact List.mem_append_right _ (List.mem_singleton_self _)

/-- Every broken rule is reported. -/
theorem exists_mem_violations {value : Scalar} (hkey : key ∈ ruled)
    (hvalue : settings.value? key = some value) (hbroken : ¬ Allowed value) :
    ∃ violation ∈ settings.violations, violation.field = key.dotted ∧ violation.value = value := by
  cases value with
  | text text =>
      obtain rfl : text = "" := Decidable.not_not.mp hbroken
      exact ⟨_, empty_mem_violations hkey hvalue, rfl, rfl⟩
  | integer number =>
      simp only [ruled, List.mem_cons, List.not_mem_nil, or_false] at hkey
      rcases hkey with rfl | rfl | rfl | rfl | rfl
      case inr.inr.inr.inr =>
        obtain rfl : (settings.batchSize : Int) = number :=
          Scalar.integer.inj (Option.some.inj hvalue)
        refine ⟨_, outOfRange_mem_violations fun hrange => hbroken ?_, rfl, rfl⟩
        exact ⟨Int.ofNat_le.mpr hrange.1, Int.ofNat_le.mpr hrange.2⟩
      all_goals cases hvalue
  | _ => exact absurd trivial hbroken

/-- No rule is reported twice. -/
theorem nodup_violations (settings : Settings) :
    (settings.violations.map Violation.field).Nodup := by
  have htext : ∀ field value,
      ((checkText field value).map Violation.field).Sublist [field] := by
    intro field value
    unfold checkText
    split
    · exact List.Sublist.refl _
    · exact List.nil_sublist _
  have hsize : ((if 1 ≤ settings.batchSize ∧ settings.batchSize ≤ Sql.maxBatch then []
      else [Violation.outOfRange "batch_size" 1 Sql.maxBatch settings.batchSize]).map
        Violation.field).Sublist ["batch_size"] := by
    split
    · exact List.nil_sublist _
    · exact List.Sublist.refl _
  have hall : (settings.violations.map Violation.field).Sublist (ruled.map Key.dotted) := by
    simp only [violations, List.map_append]
    exact ((((htext _ _).append (htext _ _)).append (htext _ _)).append (htext _ _)).append hsize
  exact hall.nodup (by decide)

/-- Fields with a rule are never without a value. -/
theorem exists_value_of_ruled (settings : Settings) (hkey : key ∈ ruled) :
    ∃ value, settings.value? key = some value := by
  simp only [ruled, List.mem_cons, List.not_mem_nil, or_false] at hkey
  rcases hkey with rfl | rfl | rfl | rfl | rfl
  all_goals exact ⟨_, rfl⟩

/-- The settings break no rule just if all values are allowed. -/
theorem violations_eq_nil_iff :
    settings.violations = [] ↔
      ∀ key ∈ ruled, ∃ value, settings.value? key = some value ∧ Allowed value := by
  rw [List.eq_nil_iff_forall_not_mem]
  constructor
  · intro hnone key hkey
    obtain ⟨value, hvalue⟩ := exists_value_of_ruled settings hkey
    refine ⟨value, hvalue, ?_⟩
    by_contra hbroken
    obtain ⟨violation, hmem, -⟩ := exists_mem_violations hkey hvalue hbroken
    exact hnone violation hmem
  · intro hall violation hmem
    obtain ⟨key, hkey, -, hbroken⟩ := broken_of_mem_violations hmem
    obtain ⟨value, hvalue, hallowed⟩ := hall key hkey
    rw [hvalue] at hbroken
    exact hbroken.2 (Option.some.inj hbroken.1 ▸ hallowed)

/-! ## Loading -/

variable {formats : FileFormats} {fs : FileSystem} {config : Option Path}
  {environment : Environment} {file : Layer} {given : Overrides}

/-- The value in effect for a field: that of the highest layer that supplies it. -/
def effective? (file : Layer) (environment : Environment) (given : Overrides) (key : Key) :
    Option Scalar :=
  effect? key (winner file environment given key)

/-- Some layer supplies the source directory. -/
def SuppliesSource (file : Layer) (environment : Environment) (given : Overrides) : Prop :=
  given.sourceDirectory.isSome ∨ (environment.layer.supplied (.name "source_dir")).isSome ∨
    (file.supplied (.name "source_dir")).isSome

/-- There is no default for the source directory. -/
theorem suppliesSource_iff :
    SuppliesSource file environment given ↔
      (winner file environment given (.name "source_dir")).isSome := by
  have hdefault : defaults.supplied (.name "source_dir") = none := by decide +kernel
  simp [SuppliesSource, winner, hdefault, Overrides.value?, Option.isSome_or]

/-- All other fields that need a value have a default. -/
theorem isSome_winner (hkey : key ∈ fields) (hneeded : key ∉ optionalFields)
    (hsource : key ≠ .name "source_dir") : (winner file environment given key).isSome := by
  have hdefaults : ∀ key ∈ fields, key ∉ optionalFields → key ≠ .name "source_dir" →
      (defaults.supplied key).isSome := by decide +kernel
  simp [winner, hdefaults key hkey hneeded hsource]

/-- What the layers amount to comes into its types, but for the source directory. -/
theorem ofSetting_combine
    (hfits : ∀ key ∈ fields, ∀ entry ∈ file ++ environment.layer, Layer.Fits key entry)
    (hconverts : ∀ key ∈ fields, ∀ setting, winner file environment given key = some setting →
      Converts key setting) :
    (¬ SuppliesSource file environment given →
      ofSetting (combine file environment given) = .error (.missing "source_dir")) ∧
    (SuppliesSource file environment given →
      ∃ settings, ofSetting (combine file environment given) = .ok settings ∧
        ∀ key ∈ fields, settings.value? key = effective? file environment given key) := by
  have hfile : ∀ key ∈ fields, ∀ entry ∈ file, Layer.Fits key entry :=
    fun key hkey entry hentry => hfits key hkey entry (List.mem_append_left _ hentry)
  have henvironment : ∀ key ∈ fields, ∀ entry ∈ environment.layer, Layer.Fits key entry :=
    fun key hkey entry hentry => hfits key hkey entry (List.mem_append_right _ hentry)
  have hfound : ∀ key ∈ fields,
      (combine file environment given).at? key = winner file environment given key :=
    fun key hkey => at?_combine_of_fits (hfile key hkey) (henvironment key hkey) hkey
      fun setting hsetting => (hconverts key hkey setting hsetting).not_isTable
  have hhost : databaseKey "host" ∈ fields := by decide
  have hsource : Key.name "source_dir" ∈ fields := by decide
  obtain ⟨hmissing, hok⟩ := ofSetting_of_converts
    (hasGroup_combine (hfile _ hhost) (henvironment _ hhost))
    (fun key hkey setting hsetting =>
      hconverts key hkey setting ((hfound key hkey).symm.trans hsetting))
    fun key hkey hneeded hother => by
      rw [hfound key hkey]
      exact isSome_winner hkey hneeded hother
  rw [hfound _ hsource] at hmissing hok
  rw [suppliesSource_iff]
  refine ⟨fun hnone => hmissing (Option.not_isSome_iff_eq_none.mp hnone), fun hsome => ?_⟩
  obtain ⟨settings, hsettings, hvalues⟩ := hok hsome
  refine ⟨settings, hsettings, fun key hkey => ?_⟩
  rw [hvalues key hkey, hfound key hkey]
  rfl

/-- A writer takes a number of rows that keeps to its rule as it is. -/
theorem batch_ofSize {settings : Settings} (hnone : settings.violations = []) :
    (Database.Writer.ofSize settings.table settings.batchSize).batch = settings.batchSize := by
  obtain ⟨hleast, hmost⟩ := batchSize_of_violations hnone
  simp only [Database.Writer.ofSize]
  omega

/-- **The settings are loaded just if the source directory is supplied and no rule is broken.**  Let
the settings file and the environment speak of the fields as such, and let what the highest layers
say be convertible.  Then the settings that are loaded have the values in effect, and the writer does
not change the number of rows; without a source directory that is the fault; and if rules are broken
all of them are reported, each of them once, with the field and the value in effect. -/
theorem load_of_rules
    (hread : SettingsFile.layer formats fs (config.getD defaultFile) config.isSome = .ok file)
    (hfits : ∀ key ∈ fields, ∀ entry ∈ file ++ environment.layer, Layer.Fits key entry)
    (hconverts : ∀ key ∈ fields, ∀ setting, winner file environment given key = some setting →
      Converts key setting) :
    ((∃ settings, load formats fs environment config given = .ok settings) ↔
      SuppliesSource file environment given ∧
        ∀ key ∈ ruled, ∃ value, effective? file environment given key = some value ∧
          Allowed value) ∧
    (∀ settings, load formats fs environment config given = .ok settings →
      (∀ key ∈ fields, settings.value? key = effective? file environment given key) ∧
      (Database.Writer.ofSize settings.table settings.batchSize).batch = settings.batchSize) ∧
    (¬ SuppliesSource file environment given →
      load formats fs environment config given = .error (.settings (.missing "source_dir"))) ∧
    (SuppliesSource file environment given →
      (∃ key ∈ ruled, ∃ value, effective? file environment given key = some value ∧
        ¬ Allowed value) →
      ∃ found, load formats fs environment config given = .error (.violations found) ∧
        (found.map Violation.field).Nodup ∧
        (∀ violation ∈ found, ∃ key ∈ ruled, violation.field = key.dotted ∧
          effective? file environment given key = some violation.value ∧
          ¬ Allowed violation.value) ∧
        ∀ key ∈ ruled, ∀ value, effective? file environment given key = some value →
          ¬ Allowed value →
          ∃ violation ∈ found, violation.field = key.dotted ∧ violation.value = value) := by
  have hruled : ∀ key ∈ ruled, key ∈ fields := by decide
  obtain ⟨hmissing, hsettings⟩ := ofSetting_combine hfits hconverts
  rw [load_eq_checked hread, checked]
  by_cases hsource : SuppliesSource file environment given
  · obtain ⟨settings, hok, hvalues⟩ := hsettings hsource
    have heffective : ∀ key ∈ ruled,
        settings.value? key = effective? file environment given key :=
      fun key hkey => hvalues key (hruled key hkey)
    have hrules : settings.violations = [] ↔ ∀ key ∈ ruled, ∃ value,
        effective? file environment given key = some value ∧ Allowed value := by
      rw [violations_eq_nil_iff]
      refine forall₂_congr fun key hkey => ?_
      rw [heffective key hkey]
    simp only [hok, List.isEmpty_iff]
    by_cases hnone : settings.violations = []
    · rw [if_pos hnone]
      refine ⟨iff_of_true ⟨settings, rfl⟩ ⟨hsource, hrules.mp hnone⟩, ?_, absurd hsource, ?_⟩
      · intro other hother
        obtain rfl := Except.ok.inj hother
        exact ⟨hvalues, batch_ofSize hnone⟩
      · rintro - ⟨key, hkey, value, hvalue, hbroken⟩
        obtain ⟨other, hother, hallowed⟩ := hrules.mp hnone key hkey
        exact absurd (Option.some.inj (hother.symm.trans hvalue) ▸ hallowed) hbroken
    · rw [if_neg hnone]
      refine ⟨iff_of_false (by simp) fun hall => hnone (hrules.mpr hall.2), ?_, absurd hsource, ?_⟩
      · intro other hother
        cases hother
      · intro _ _
        refine ⟨settings.violations, rfl, nodup_violations settings, ?_, ?_⟩
        · intro violation hmem
          obtain ⟨key, hkey, hfield, hvalue, hbroken⟩ := broken_of_mem_violations hmem
          exact ⟨key, hkey, hfield, (heffective key hkey).symm.trans hvalue, hbroken⟩
        · intro key hkey value hvalue hbroken
          exact exists_mem_violations hkey ((heffective key hkey).trans hvalue) hbroken
  · simp only [hmissing hsource]
    simp [hsource]

/-- An environment with a port, an empty host and too many rows in a statement. -/
def Sample.crowded : Environment :=
  [("NOAA_LOADER_DATABASE__HOST", ""), ("noaa_loader_batch_size", "4096"),
    ("NOAA_LOADER_DATABASE__PORT", "6000"), ("PATH", "/bin")]

/-- A name of a table from the command line hides the empty one in the file, so that two rules are
broken. -/
theorem load_of_rules_sample :
    let fs := Sample.withFile "table = \"\"\nbatch_size = 100\nspare = [1]\n"
    let config := some (encode "/etc/noaa.toml")
    let given : Overrides := { sourceDirectory := some (encode "/data"), table := some "staging" }
    ∃ file, SettingsFile.layer .plain fs (config.getD defaultFile) config.isSome = .ok file ∧
      (∀ key ∈ fields, ∀ entry ∈ file ++ Sample.crowded.layer, Layer.Fits key entry) ∧
      (∀ key ∈ fields, ∀ setting, winner file Sample.crowded given key = some setting →
        Converts key setting) ∧
      SuppliesSource file Sample.crowded given ∧
      (∃ key ∈ ruled, ∃ value, effective? file Sample.crowded given key = some value ∧
        ¬ Allowed value) ∧
      ∃ found, load .plain fs Sample.crowded config given = .error (.violations found) ∧
        (found.map Violation.field).Nodup ∧
        (∀ violation ∈ found, ∃ key ∈ ruled, violation.field = key.dotted ∧
          effective? file Sample.crowded given key = some violation.value ∧
          ¬ Allowed violation.value) ∧
        ∀ key ∈ ruled, ∀ value, effective? file Sample.crowded given key = some value →
          ¬ Allowed value →
          ∃ violation ∈ found, violation.field = key.dotted ∧ violation.value = value := by
  intro fs config given
  obtain ⟨file, hread, hfile⟩ := exists_layer fs (config.getD defaultFile) config.isSome
    (fun file =>
      decide (∀ key ∈ fields, ∀ entry ∈ file ++ Sample.crowded.layer, Layer.Fits key entry) &&
        decide (∀ key ∈ fields, ∀ setting ∈ winner file Sample.crowded given key,
          Converts key setting) &&
        decide (effective? file Sample.crowded given (.name "batch_size") = some (.integer 4096)))
    (by decide +kernel)
  simp only [Bool.and_eq_true, decide_eq_true_eq] at hfile
  obtain ⟨⟨hfits, hconverts⟩, hsize⟩ := hfile
  have hsource : SuppliesSource file Sample.crowded given := .inl rfl
  have hbroken : ∃ key ∈ ruled, ∃ value,
      effective? file Sample.crowded given key = some value ∧ ¬ Allowed value :=
    ⟨.name "batch_size", by decide, .integer 4096, hsize, fun hallowed => by
      exact absurd hallowed.2 (by decide)⟩
  obtain ⟨-, -, -, hviolations⟩ := load_of_rules hread hfits hconverts
  exact ⟨file, hread, hfits, hconverts, hsource, hbroken, hviolations hsource hbroken⟩

end Settings

end HourlyIngest
