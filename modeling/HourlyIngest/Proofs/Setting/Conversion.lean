import HourlyIngest.Proofs.Setting.Field

/-!
# From what was found to the settings

What was found for a field is brought into the type of the field (`fieldValue`).  If that can be done
for all fields (`Converts`), and those that need a value have one, the settings are there, and each
field holds the value in effect for it; without a source directory, that is the one fault
(`ofSetting_of_converts`).
-/

namespace HourlyIngest

open Number Text

/-- A key as messages spell it. -/
def Key.dotted : Key → String
  | .name own => own
  | .child parent own => parent.dotted ++ "." ++ own
  | .item parent index => parent.dotted ++ "[" ++ toString index ++ "]"

/-- The value in one field of the group. -/
def DatabaseSettings.value? (database : DatabaseSettings) : String → Option Scalar
  | "url" => database.url.map .text
  | "host" => some (.text database.host)
  | "port" => some (.integer database.port)
  | "user" => some (.text database.user)
  | "password" => database.password.map .text
  | "dbname" => some (.text database.dbname)
  | "connect_timeout_secs" => some (.integer database.connectTimeout)
  | _ => none

namespace Settings

open Setting

/-- The value in a field. -/
def value? (settings : Settings) : Key → Option Scalar
  | .name "source_dir" => some (.text settings.sourceDirectory)
  | .name "table" => some (.text settings.table)
  | .name "batch_size" => some (.integer settings.batchSize)
  | .name "delete_after_load" => some (.boolean settings.deleteAfterLoad)
  | .name "fail_fast" => some (.boolean settings.failFast)
  | .child (.name "database") name => settings.database.value? name
  | _ => none

/-! ## The value that a setting stands for in a field -/

/-- The fields that may be without a value. -/
def optionalFields : List Key :=
  [databaseKey "url", databaseKey "password"]

/-- The value that a setting stands for in a field, if it can stand for one of the field's type. -/
def fieldValue (key : Key) (setting : Setting) : Except SettingFault (Option Scalar) :=
  if key ∈ optionalFields then (toOptionalText key.dotted setting).map (·.map .text)
  else if key ∈ textFields then (toText key.dotted setting).map (some <| .text ·)
  else if key = databaseKey "port" then
    (toUnsigned16 key.dotted setting).map fun number : Nat => some (.integer number)
  else if key ∈ numberFields then
    (toUnsigned key.dotted setting).map fun number : Nat => some (.integer number)
  else (toBoolean key.dotted setting).map (some <| .boolean ·)

/-- A setting can stand for a value of the field's type. -/
def Converts (key : Key) (setting : Setting) : Prop :=
  ∃ value, fieldValue key setting = .ok value

instance (key : Key) (setting : Setting) : Decidable (Converts key setting) :=
  match hvalue : fieldValue key setting with
  | .ok value => isTrue ⟨value, hvalue⟩
  | .error fault => isFalse fun ⟨value, hok⟩ => by cases hvalue.symm.trans hok

/-- A table stands for no value of a field. -/
theorem Converts.not_isTable {key : Key} {setting : Setting} (hconverts : Converts key setting) :
    ¬ setting.IsTable := by
  intro htable
  obtain ⟨value, hvalue⟩ := hconverts
  cases setting with
  | table origin entries =>
      unfold fieldValue at hvalue
      split at hvalue
      · cases hvalue
      split at hvalue
      · cases hvalue
      split at hvalue
      · cases hvalue
      split at hvalue
      all_goals cases hvalue
  | _ => exact htable.elim

/-- The value in effect for a field, of the setting that was found for it. -/
def effect? (key : Key) (found : Option Setting) : Option Scalar :=
  found.bind fun setting => (fieldValue key setting).toOption.join

variable {root group : Setting} {key : Key} {path name : String}

/-- What can be converted is converted, and to the value in effect. -/
theorem exists_convert? {α : Type} {convert : String → Setting → Except SettingFault α}
    {wrap : α → Option Scalar}
    (hvalue : ∀ setting, fieldValue key setting = (convert (path ++ name) setting).map wrap)
    (hconverts : ∀ setting, group.get? name = some setting → Converts key setting) :
    ∃ found, convert? convert group path name = .ok found ∧
      found.isSome = (group.get? name).isSome ∧
      found.bind wrap = effect? key (group.get? name) := by
  unfold convert? effect?
  cases hsetting : group.get? name with
  | none => exact ⟨none, rfl, rfl, rfl⟩
  | some setting =>
      obtain ⟨value, hok⟩ := hconverts setting hsetting
      rw [hvalue] at hok
      simp only [Option.bind_some, hvalue]
      cases hconvert : convert (path ++ name) setting with
      | error fault =>
          rw [hconvert] at hok
          cases hok
      | ok found => exact ⟨some found, rfl, rfl, rfl⟩

/-- The same for a field that may not be without a value. -/
theorem exists_required {α : Type} {convert : String → Setting → Except SettingFault α}
    {wrap : α → Scalar}
    (hvalue : ∀ setting,
      fieldValue key setting = (convert (path ++ name) setting).map (some <| wrap ·))
    (hconverts : ∀ setting, group.get? name = some setting → Converts key setting)
    (hpresent : (group.get? name).isSome) :
    ∃ value, convert? convert group path name = .ok (some value) ∧
      some (wrap value) = effect? key (group.get? name) := by
  obtain ⟨found, hconvert, hsome, heffect⟩ := exists_convert? hvalue hconverts
  rw [hpresent] at hsome
  obtain ⟨value, rfl⟩ := Option.isSome_iff_exists.mp hsome
  exact ⟨value, hconvert, heffect⟩

/-- A group whose values can be converted, with all that have to be there, is converted. -/
theorem exists_databaseOf (htable : group.IsTable)
    (hconverts : ∀ name ∈ groupNames, ∀ setting, group.get? name = some setting →
      Converts (databaseKey name) setting)
    (hpresent : ∀ name ∈ groupNames, databaseKey name ∉ optionalFields →
      (group.get? name).isSome) :
    ∃ database, databaseOf group = .ok database ∧ ∀ name ∈ groupNames,
      database.value? name = effect? (databaseKey name) (group.get? name) := by
  have hrequired : ∀ name ∈ groupNames, databaseKey name ∉ optionalFields → ∀ {α : Type}
      (convert : String → Setting → Except SettingFault α) (wrap : α → Scalar),
      (∀ setting, fieldValue (databaseKey name) setting =
        (convert ("database." ++ name) setting).map (some <| wrap ·)) →
      ∃ value, convert? convert group "database." name = .ok (some value) ∧
        some (wrap value) = effect? (databaseKey name) (group.get? name) :=
    fun name hname hneeded _ _ _ hvalue =>
      exists_required hvalue (hconverts name hname) (hpresent name hname hneeded)
  have hoptional : ∀ name ∈ groupNames, (∀ setting, fieldValue (databaseKey name) setting =
        (toOptionalText ("database." ++ name) setting).map (·.map .text)) →
      ∃ found, convert? toOptionalText group "database." name = .ok found ∧
        found.join.map Scalar.text = effect? (databaseKey name) (group.get? name) := by
    intro name hname hvalue
    obtain ⟨found, hfound, -, heffect⟩ := exists_convert? hvalue (hconverts name hname)
    refine ⟨found, hfound, ?_⟩
    rw [← heffect]
    cases found <;> rfl
  obtain ⟨url, hurl, hurl'⟩ := hoptional "url" (by decide) fun _ => rfl
  obtain ⟨host, hhost, hhost'⟩ := hrequired "host" (by decide) (by decide) toText .text fun _ => rfl
  obtain ⟨port, hport, hport'⟩ :=
    hrequired "port" (by decide) (by decide) toUnsigned16 (.integer ·) fun _ => rfl
  obtain ⟨user, huser, huser'⟩ := hrequired "user" (by decide) (by decide) toText .text fun _ => rfl
  obtain ⟨password, hpassword, hpassword'⟩ := hoptional "password" (by decide) fun _ => rfl
  obtain ⟨dbname, hdbname, hdbname'⟩ :=
    hrequired "dbname" (by decide) (by decide) toText .text fun _ => rfl
  obtain ⟨timeout, htimeout, htimeout'⟩ :=
    hrequired "connect_timeout_secs" (by decide) (by decide) toUnsigned (.integer ·) fun _ => rfl
  let database : DatabaseSettings := ⟨url.join, host, port, user, password.join, dbname, timeout⟩
  have hok : databaseOfTable group = .ok database :=
    databaseOfTable_eq_ok_iff.mpr ⟨⟨url, hurl, rfl⟩, hhost, hport, huser,
      ⟨password, hpassword, rfl⟩, hdbname, htimeout⟩
  refine ⟨database, ?_, ?_⟩
  · cases group with
    | table origin entries => exact hok
    | _ => exact htable.elim
  · intro name hname
    simp only [groupNames, List.mem_cons, List.not_mem_nil, or_false] at hname
    rcases hname with rfl | rfl | rfl | rfl | rfl | rfl | rfl
    · exact hurl'
    · exact hhost'
    · exact hport'
    · exact huser'
    · exact hpassword'
    · exact hdbname'
    · exact htimeout'

/-- Settings that were put together, with all values that can be converted and have to be there, come
into their types but for the source directory. -/
theorem ofSetting_of_converts (hgroup : HasGroup root)
    (hconverts : ∀ key ∈ fields, ∀ setting, root.at? key = some setting → Converts key setting)
    (hpresent : ∀ key ∈ fields, key ∉ optionalFields → key ≠ .name "source_dir" →
      (root.at? key).isSome) :
    (root.at? (.name "source_dir") = none → ofSetting root = .error (.missing "source_dir")) ∧
    ((root.at? (.name "source_dir")).isSome → ∃ settings, ofSetting root = .ok settings ∧
      ∀ key ∈ fields, settings.value? key = effect? key (root.at? key)) := by
  have hrequired : ∀ name ∈ topNames, name ≠ "source_dir" → ∀ {α : Type}
      (convert : String → Setting → Except SettingFault α) (wrap : α → Scalar),
      (∀ setting, fieldValue (.name name) setting =
        (convert ("" ++ name) setting).map (some <| wrap ·)) →
      ∃ value, convert? convert root "" name = .ok (some value) ∧
        some (wrap value) = effect? (.name name) (root.at? (.name name)) := by
    intro name hname hne α convert wrap hvalue
    have hkey : Key.name name ∈ fields := name_mem_fields.mpr hname
    have hneeded : Key.name name ∉ optionalFields := by simp [optionalFields, databaseKey]
    exact exists_required hvalue (hconverts _ hkey) (hpresent _ hkey hneeded (by simpa using hne))
  obtain ⟨table, htable, htable'⟩ :=
    hrequired "table" (by decide) (by decide) toText .text fun _ => rfl
  obtain ⟨size, hsize, hsize'⟩ :=
    hrequired "batch_size" (by decide) (by decide) toUnsigned (.integer ·) fun _ => rfl
  obtain ⟨delete, hdelete, hdelete'⟩ :=
    hrequired "delete_after_load" (by decide) (by decide) toBoolean .boolean fun _ => rfl
  obtain ⟨fast, hfast, hfast'⟩ :=
    hrequired "fail_fast" (by decide) (by decide) toBoolean .boolean fun _ => rfl
  obtain ⟨group, hfound, hgroup⟩ := hgroup
  have hinner : ∀ name, root.at? (databaseKey name) = group.get? name := by
    intro name
    rw [databaseKey, ← Key.group, at?_child_group, hfound, Option.bind_some]
  obtain ⟨database, hdatabase, hdatabase'⟩ := exists_databaseOf hgroup
    (fun name hname setting hsetting => hconverts (databaseKey name)
      (child_mem_fields.mpr ⟨rfl, hname⟩) setting ((hinner name).trans hsetting))
    (fun name hname hneeded => by
      rw [← hinner]
      exact hpresent _ (child_mem_fields.mpr ⟨rfl, hname⟩) hneeded (by simp [databaseKey]))
  have hconvert : convert? (fun _ => databaseOf) root "" "database" = .ok (some database) := by
    simp only [convert?, hfound, hdatabase]
    rfl
  constructor
  · -- the fault is noticed only after all that is there has been converted
    intro hnone
    have hsource : convert? toText root "" "source_dir" = .ok none := by
      rw [convert?, show root.get? "source_dir" = none from hnone]
    rw [ofSetting, hsource, htable, hsize, hdelete, hfast, hconvert]
    rfl
  · intro hsome
    obtain ⟨source, hsource, hsource'⟩ :
        ∃ source, convert? toText root "" "source_dir" = .ok (some source) ∧
          some (.text source) = effect? (.name "source_dir") (root.at? (.name "source_dir")) :=
      exists_required (fun _ => rfl) (hconverts (.name "source_dir") (by decide)) hsome
    let settings : Settings := ⟨source, table, size, delete, fast, database⟩
    refine ⟨settings,
      ofSetting_eq_ok_iff.mpr ⟨hsource, htable, hsize, hdelete, hfast, hconvert⟩, ?_⟩
    intro key hkey
    cases key with
    | name name =>
        have hname := name_mem_fields.mp hkey
        simp only [topNames, List.mem_cons, List.not_mem_nil, or_false] at hname
        rcases hname with rfl | rfl | rfl | rfl | rfl
        · exact hsource'
        · exact htable'
        · exact hsize'
        · exact hdelete'
        · exact hfast'
    | child parent name =>
        obtain ⟨rfl, hname⟩ := child_mem_fields.mp hkey
        exact (hdatabase' name hname).trans (congrArg _ (hinner name).symm)
    | item parent index => simp [fields] at hkey

end Settings

end HourlyIngest
