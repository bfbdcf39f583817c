import HourlyIngest.Proofs.Number.Rounding
import HourlyIngest.Proofs.Setting.Precedence

/-!
# What a field of the settings holds

Settings that could be brought into their types hold in every field what was found under its key.  A
single value becomes a text by being written out (`text?_of_ofSetting`) and a number by being taken
as it is or rounded (`number?_of_ofSetting`).
-/

namespace HourlyIngest

open Number Text

/-- The text that a single value is written as. -/
def Scalar.text? : Scalar → Option String
  | .nil => none
  | .boolean value => some (if value then "true" else "false")
  | .integer value => some (toString value)
  | .real value => some value.toText
  | .text value => some value

namespace Setting

variable {key : String} {origin : Option String} {value : Scalar} {text : String}

theorem toText_scalar_eq_ok_iff :
    toText key (.scalar origin value) = .ok text ↔ value.text? = some text := by
  cases value <;> simp [toText, Scalar.text?]

theorem toOptionalText_scalar (key : String) (origin : Option String) (value : Scalar) :
    toOptionalText key (.scalar origin value) = .ok value.text? := by
  cases value <;> rfl

end Setting

namespace Settings

open Setting

/-! ## Settings in their types -/

theorem required_eq_ok_iff {α : Type} {name : String} {found : Option α} {value : α} :
    required name found = .ok value ↔ found = some value := by
  cases found <;> simp [required]

theorem bind_eq_ok_iff {α β : Type} {first : Except SettingFault α}
    {next : α → Except SettingFault β} {result : β} :
    (first >>= next) = .ok result ↔ ∃ value, first = .ok value ∧ next value = .ok result := by
  cases first with
  | error fault => simp [bind, Except.bind]
  | ok value => simp [bind, Except.bind]

/-- The group has its type if all of its entries have theirs, and those that have to be there are. -/
theorem databaseOfTable_eq_ok_iff {group : Setting} {database : DatabaseSettings} :
    databaseOfTable group = .ok database ↔
      (∃ url, convert? Setting.toOptionalText group "database." "url" = .ok url ∧
        url.join = database.url) ∧
      convert? Setting.toText group "database." "host" = .ok (some database.host) ∧
      convert? Setting.toUnsigned16 group "database." "port" = .ok (some database.port) ∧
      convert? Setting.toText group "database." "user" = .ok (some database.user) ∧
      (∃ password, convert? Setting.toOptionalText group "database." "password" = .ok password ∧
        password.join = database.password) ∧
      convert? Setting.toText group "database." "dbname" = .ok (some database.dbname) ∧
      convert? Setting.toUnsigned group "database." "connect_timeout_secs" =
        .ok (some database.connectTimeout) := by
  obtain ⟨url, host, port, user, password, dbname, timeout⟩ := database
  simp only [databaseOfTable, bind_eq_ok_iff, required_eq_ok_iff, pure, Except.pure,
    Except.ok.injEq, DatabaseSettings.mk.injEq]
  constructor
  · rintro ⟨_, hurl, _, hhost, _, hport, _, huser, _, hpassword, _, hdbname, _, htimeout, _, rfl, _,
      rfl, _, rfl, _, rfl, _, rfl, rfl, rfl, rfl, rfl, rfl, rfl, rfl⟩
    exact ⟨⟨_, hurl, rfl⟩, hhost, hport, huser, ⟨_, hpassword, rfl⟩, hdbname, htimeout⟩
  · rintro ⟨⟨_, hurl, rfl⟩, hhost, hport, huser, ⟨_, hpassword, rfl⟩, hdbname, htimeout⟩
    exact ⟨_, hurl, _, hhost, _, hport, _, huser, _, hpassword, _, hdbname, _, htimeout, _, rfl, _,
      rfl, _, rfl, _, rfl, _, rfl, rfl, rfl, rfl, rfl, rfl, rfl, rfl⟩

theorem ofSetting_eq_ok_iff {root : Setting} {settings : Settings} :
    ofSetting root = .ok settings ↔
      convert? Setting.toText root "" "source_dir" = .ok (some settings.sourceDirectory) ∧
      convert? Setting.toText root "" "table" = .ok (some settings.table) ∧
      convert? Setting.toUnsigned root "" "batch_size" = .ok (some settings.batchSize) ∧
      convert? Setting.toBoolean root "" "delete_after_load" =
        .ok (some settings.deleteAfterLoad) ∧
      convert? Setting.toBoolean root "" "fail_fast" = .ok (some settings.failFast) ∧
      convert? (fun _ => databaseOf) root "" "database" = .ok (some settings.database) := by
  obtain ⟨sourceDirectory, table, batchSize, deleteAfterLoad, failFast, database⟩ := settings
  simp only [ofSetting, bind_eq_ok_iff, required_eq_ok_iff, pure, Except.pure, Except.ok.injEq,
    Settings.mk.injEq]
  constructor
  · rintro ⟨_, hsource, _, htable, _, hsize, _, hdelete, _, hfast, _, hdatabase, _, rfl, _, rfl, _,
      rfl, _, rfl, _, rfl, _, rfl, rfl, rfl, rfl, rfl, rfl, rfl⟩
    exact ⟨hsource, htable, hsize, hdelete, hfast, hdatabase⟩
  · rintro ⟨hsource, htable, hsize, hdelete, hfast, hdatabase⟩
    exact ⟨_, hsource, _, htable, _, hsize, _, hdelete, _, hfast, _, hdatabase, _, rfl, _, rfl, _,
      rfl, _, rfl, _, rfl, _, rfl, rfl, rfl, rfl, rfl, rfl, rfl⟩

/-! ## Fields -/

/-- The keys of the fields that hold a text. -/
def textFields : List Key :=
  [.name "source_dir", .name "table", databaseKey "url", databaseKey "host", databaseKey "user",
    databaseKey "password", databaseKey "dbname"]

/-- The keys of the fields that hold a whole number. -/
def numberFields : List Key :=
  [.name "batch_size", databaseKey "port", databaseKey "connect_timeout_secs"]

theorem textFields_subset {key : Key} (hkey : key ∈ textFields) : key ∈ fields := by
  have hall : ∀ key ∈ textFields, key ∈ fields := by decide
  exact hall key hkey

theorem numberFields_subset {key : Key} (hkey : key ∈ numberFields) : key ∈ fields := by
  have hall : ∀ key ∈ numberFields, key ∈ fields := by decide
  exact hall key hkey

/-- The text in a field.  Those of the connection string and of the password may be without. -/
def text? (settings : Settings) : Key → Option String
  | .name "source_dir" => some settings.sourceDirectory
  | .name "table" => some settings.table
  | .child (.name "database") "url" => settings.database.url
  | .child (.name "database") "host" => some settings.database.host
  | .child (.name "database") "user" => some settings.database.user
  | .child (.name "database") "password" => settings.database.password
  | .child (.name "database") "dbname" => some settings.database.dbname
  | _ => none

/-- The number in a field. -/
def number? (settings : Settings) : Key → Option Nat
  | .name "batch_size" => some settings.batchSize
  | .child (.name "database") "port" => some settings.database.port
  | .child (.name "database") "connect_timeout_secs" => some settings.database.connectTimeout
  | _ => none

variable {root : Setting} {settings : Settings} {key : Key}

/-! ## From a setting to a field -/

/-- What is there is converted. -/
theorem convert_of_convert? {α : Type} {convert : String → Setting → Except SettingFault α}
    {group : Setting} {path name : String} {found : Option α}
    (hconvert : convert? convert group path name = .ok found) {setting : Setting}
    (hsetting : group.get? name = some setting) :
    ∃ value, convert (path ++ name) setting = .ok value ∧ found = some value := by
  rw [convert?, hsetting] at hconvert
  dsimp only at hconvert
  cases hvalue : convert (path ++ name) setting with
  | error fault => simp [hvalue, Except.map] at hconvert
  | ok value =>
      rw [hvalue] at hconvert
      exact ⟨value, rfl, (Except.ok.inj hconvert).symm⟩

theorem text?_of_required {group : Setting} {path name text : String}
    (hconvert : convert? toText group path name = .ok (some text)) {origin : Option String}
    {value : Scalar} (hfound : group.get? name = some (.scalar origin value)) :
    some text = value.text? := by
  obtain ⟨written, htext, hsome⟩ := convert_of_convert? hconvert hfound
  rw [hsome, toText_scalar_eq_ok_iff.mp htext]

theorem text?_of_optional {group : Setting} {path name : String} {found : Option (Option String)}
    (hconvert : convert? toOptionalText group path name = .ok found) {origin : Option String}
    {value : Scalar} (hfound : group.get? name = some (.scalar origin value)) :
    found.join = value.text? := by
  obtain ⟨written, htext, rfl⟩ := convert_of_convert? hconvert hfound
  rw [toOptionalText_scalar] at htext
  exact (Except.ok.inj htext).symm

/-- Where a field of the group is found, the group is a table and was converted as one. -/
theorem database_of_ofSetting (hok : ofSetting root = .ok settings) {name : String}
    {setting : Setting} (hfound : root.at? (.child Key.group name) = some setting) :
    ∃ group, databaseOfTable group = .ok settings.database ∧ group.get? name = some setting := by
  obtain ⟨-, -, -, -, -, hdatabase⟩ := ofSetting_eq_ok_iff.mp hok
  rw [at?_child_group] at hfound
  obtain ⟨group, hgroup, hname⟩ := Option.bind_eq_some_iff.mp hfound
  obtain ⟨database, hconvert, hsome⟩ := convert_of_convert? hdatabase hgroup
  obtain rfl := Option.some.inj hsome
  cases group with
  | table origin entries => exact ⟨_, hconvert, hname⟩
  | scalar origin value => simp [get?, entries] at hname
  | list origin items => simp [get?, entries] at hname

/-- The text in a field is what the single value is written as. -/
theorem text?_of_ofSetting (hok : ofSetting root = .ok settings) (hkey : key ∈ textFields)
    {origin : Option String} {value : Scalar}
    (hfound : root.at? key = some (.scalar origin value)) :
    settings.text? key = value.text? := by
  obtain ⟨hsource, htable, -⟩ := ofSetting_eq_ok_iff.mp hok
  simp only [textFields, List.mem_cons, List.not_mem_nil, or_false] at hkey
  rcases hkey with rfl | rfl | hkey
  · exact text?_of_required hsource hfound
  · exact text?_of_required htable hfound
  rcases hkey with rfl | rfl | rfl | rfl | rfl
  all_goals
    obtain ⟨group, hgroup, hinner⟩ := database_of_ofSetting hok hfound
    obtain ⟨⟨url, hurl, hurl'⟩, hhost, -, huser, ⟨password, hpassword, hpassword'⟩, hdbname, -⟩ :=
      databaseOfTable_eq_ok_iff.mp hgroup
  · exact hurl'.symm.trans (text?_of_optional hurl hinner)
  · exact text?_of_required hhost hinner
  · exact text?_of_required huser hinner
  · exact hpassword'.symm.trans (text?_of_optional hpassword hinner)
  · exact text?_of_required hdbname hinner

theorem toUnsigned_of_toUnsigned16 {path : String} {setting : Setting} {n : Nat}
    (hconvert : toUnsigned16 path setting = .ok n) :
    toUnsigned path setting = .ok n ∧ n ≤ maxUnsigned16 := by
  unfold toUnsigned16 at hconvert
  split at hconvert
  · cases hconvert
  next value hvalue =>
  split at hconvert
  · next hbound =>
    obtain rfl := Except.ok.inj hconvert
    exact ⟨hvalue, hbound⟩
  · cases hconvert

/-- The number in a field is what the setting stands for, within the bounds of the field's type. -/
theorem number?_of_ofSetting (hok : ofSetting root = .ok settings) (hkey : key ∈ numberFields)
    {setting : Setting} (hfound : root.at? key = some setting) :
    ∃ path n, toUnsigned path setting = .ok n ∧ settings.number? key = some n ∧
      (key = databaseKey "port" → n ≤ maxUnsigned16) := by
  simp only [numberFields, List.mem_cons, List.not_mem_nil, or_false] at hkey
  rcases hkey with rfl | rfl | rfl
  · obtain ⟨-, -, hsize, -⟩ := ofSetting_eq_ok_iff.mp hok
    obtain ⟨n, hn, hsome⟩ := convert_of_convert? hsize hfound
    exact ⟨_, n, hn, hsome, by simp [databaseKey]⟩
  · obtain ⟨group, hgroup, hinner⟩ := database_of_ofSetting hok hfound
    obtain ⟨-, -, hport, -⟩ := databaseOfTable_eq_ok_iff.mp hgroup
    obtain ⟨n, hn, hsome⟩ := convert_of_convert? hport hinner
    obtain ⟨hunsigned, hbound⟩ := toUnsigned_of_toUnsigned16 hn
    exact ⟨_, n, hunsigned, hsome, fun _ => hbound⟩
  · obtain ⟨group, hgroup, hinner⟩ := database_of_ofSetting hok hfound
    obtain ⟨-, -, -, -, -, -, htimeout⟩ := databaseOfTable_eq_ok_iff.mp hgroup
    obtain ⟨n, hn, hsome⟩ := convert_of_convert? htimeout hinner
    exact ⟨_, n, hn, hsome, by simp [databaseKey]⟩

/-! ## From the layers to a field -/

variable {formats : FileFormats} {fs : FileSystem} {config : Option Path}
  {environment : Environment} {file : Layer} {given : Overrides}

/-- What the highest layer says is found under its key, if that is no table. -/
theorem at?_of_winner (hkey : key ∈ fields)
    (hfits : ∀ entry ∈ file ++ environment.layer, Layer.Fits key entry) {setting : Setting}
    (hwinner : winner file environment given key = some setting) (hsetting : ¬ setting.IsTable) :
    (combine file environment given).at? key = some setting := by
  rw [List.forall_mem_append] at hfits
  rw [at?_combine_of_fits hfits.1 hfits.2 hkey, hwinner]
  intro value hvalue
  obtain rfl := Option.some.inj (hwinner.symm.trans hvalue)
  exact hsetting

/-- What is loaded is what the layers amount to, once it was checked. -/
theorem load_eq_checked
    (hread : SettingsFile.layer formats fs (config.getD defaultFile) config.isSome = .ok file) :
    load formats fs environment config given = checked (combine file environment given) := by
  rw [load, hread]
  rfl

/-- Settings that were loaded came of what the layers amount to, and keep to the rules. -/
theorem ofSetting_of_load
    (hread : SettingsFile.layer formats fs (config.getD defaultFile) config.isSome = .ok file)
    (hload : load formats fs environment config given = .ok settings) :
    ofSetting (combine file environment given) = .ok settings ∧ settings.violations = [] := by
  rw [load_eq_checked hread, checked] at hload
  split at hload
  · cases hload
  next found hfound =>
  split at hload
  · next hnone =>
    obtain rfl := Except.ok.inj hload
    exact ⟨hfound, List.isEmpty_iff.mp hnone⟩
  · cases hload

/-- The number of rows in a statement keeps to its bounds. -/
theorem batchSize_of_violations (hnone : settings.violations = []) :
    1 ≤ settings.batchSize ∧ settings.batchSize ≤ Sql.maxBatch := by
  by_contra hrange
  have hmem : Violation.outOfRange "batch_size" 1 Sql.maxBatch settings.batchSize ∈
      settings.violations := by
    unfold violations
    rw [if_neg hrange]
    simp
  rw [hnone] at hmem
  cases hmem

end Settings

end HourlyIngest
