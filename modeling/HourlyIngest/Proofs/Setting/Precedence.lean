import HourlyIngest.Proofs.Setting.Tidy
import HourlyIngest.Settings

/-!
# The highest layer that supplies a setting

Four layers make up the settings of a run, and each of them may leave out what it likes.  For every
single field, at the top or in the group of the database, the value is that of the highest layer
that supplies it (`at?_combine`), whatever the layers say about other fields.  Nothing else goes
into the settings (`ofLayers_eq_checked`), so that what a lower layer says of a field that a higher
one supplies has no influence at all.
-/

namespace HourlyIngest

open Text

/-- What the command line supplies.  A switch that was not given supplies nothing. -/
def Overrides.value? (given : Overrides) : Key → Option Scalar
  | .name "source_dir" => given.sourceDirectory.map fun path => .text (lossy path)
  | .name "table" => given.table.map .text
  | .name "batch_size" => given.batchSize.map fun size => .integer (Settings.signed64 size)
  | .name "delete_after_load" => if given.keepFiles then some (.boolean false) else none
  | .name "fail_fast" => if given.failFast then some (.boolean true) else none
  | .child (.name "database") "url" => given.databaseUrl.map .text
  | _ => none

namespace Settings

open Setting

variable {file : Layer} {environment : Environment} {given : Overrides} {key : Key}

/-! ## The layers of the program -/

theorem spread_entry (hkey : key ∈ fields) (value : Scalar) :
    Layer.spread (entry key value) = [(key, .scalar none value)] := by
  cases key with
  | name name =>
      have hname : name ∈ topNames := name_mem_fields.mp hkey
      have hlower := lowercase_of_mem name
        (List.mem_append_left _ (List.mem_cons_of_mem "database" hname))
      rw [entry, spread_name (Or.inr (by simp [IsTable])), hlower]
  | child parent name =>
      obtain ⟨rfl, hname⟩ := child_mem_fields.mp hkey
      have hlower := lowercase_of_mem name (List.mem_append_right _ hname)
      rw [entry, Layer.spread, hlower]
  | item parent index => simp [fields] at hkey

/-- What is supplied by one option of the command line. -/
theorem latest_option {α : Type} {own : Key} (hown : own ∈ fields) (option : Option α)
    (value : α → Scalar) :
    latest key (Layer.sayings (option.map fun given => entry own (value given)).toList) =
      if own = key then option.map fun given => .scalar none (value given) else none := by
  cases option with
  | none => simp [Layer.sayings, latest]
  | some given => simp [Layer.sayings, spread_entry hown, latest]

theorem latest_switch {own : Key} (hown : own ∈ fields) (on : Bool) (value : Scalar) :
    latest key (Layer.sayings (if on then [entry own value] else [])) =
      if own = key then (if on then some (.scalar none value) else none) else none := by
  cases on with
  | false => simp [Layer.sayings, latest]
  | true => simp [Layer.sayings, spread_entry hown, latest]

theorem supplied_overrides (given : Overrides) (hkey : key ∈ fields) :
    (overrides given).supplied key = (given.value? key).map (Setting.scalar none) := by
  have happend : ∀ first second : Layer,
      Layer.sayings (first ++ second) = first.sayings ++ second.sayings :=
    fun first second => List.flatMap_append
  simp only [Layer.supplied, overrides, happend, latest_append]
  rw [latest_option (by decide), latest_option (by decide), latest_option (by decide),
    latest_option (by decide), latest_switch (by decide), latest_switch (by decide)]
  simp only [fields, topNames, groupNames, List.map_cons, List.map_nil, List.cons_append,
    List.nil_append, List.mem_cons, List.not_mem_nil, or_false] at hkey
  rcases hkey with rfl | rfl | rfl | rfl | rfl | rfl | rfl | rfl | rfl | rfl | rfl | rfl <;>
    simp [Overrides.value?, databaseKey, Key.group, Function.comp_def]

/-- Each entry gives a field a single value. -/
def Plain (layer : Layer) : Prop :=
  ∀ given ∈ layer, ∃ key ∈ fields, ∃ value, given = entry key value

theorem Plain.fits {layer : Layer} (hplain : Plain layer) (hkey : key ∈ fields) :
    ∀ given ∈ layer, Layer.Fits key given := by
  intro given hgiven
  obtain ⟨own, hown, value, rfl⟩ := hplain given hgiven
  refine Layer.fits_of_sayings ?_ hkey
  rw [spread_entry hown, List.forall_mem_singleton]
  exact hown

theorem Plain.clear {layer : Layer} (hplain : Plain layer) (hkey : key ∈ fields) :
    ∀ given ∈ layer, Layer.Clear key given :=
  fun given hgiven => (hplain.fits hkey given hgiven).clear hkey

theorem plain_defaults : Plain defaults := by
  intro given hgiven
  simp only [defaults, List.mem_cons, List.not_mem_nil, or_false] at hgiven
  rcases hgiven with rfl | rfl | rfl | rfl | rfl | rfl | rfl | rfl | rfl <;>
    exact ⟨_, by decide, _, rfl⟩

theorem plain_overrides (given : Overrides) : Plain (overrides given) := by
  intro said hsaid
  simp only [overrides, List.mem_append, Option.mem_toList, Option.map_eq_some_iff] at hsaid
  rcases hsaid with ((((⟨_, _, rfl⟩ | ⟨_, _, rfl⟩) | ⟨_, _, rfl⟩) | ⟨_, _, rfl⟩) | hsaid) | hsaid
  · exact ⟨_, by decide, _, rfl⟩
  · exact ⟨_, by decide, _, rfl⟩
  · exact ⟨_, by decide, _, rfl⟩
  · exact ⟨_, by decide, _, rfl⟩
  · split at hsaid
    · exact ⟨.name "delete_after_load", by decide, _, List.mem_singleton.mp hsaid⟩
    · cases hsaid
  · split at hsaid
    · exact ⟨.name "fail_fast", by decide, _, List.mem_singleton.mp hsaid⟩
    · cases hsaid

/-- A layer without tables says nothing of tables. -/
theorem not_isTable_of_supplied {layer : Layer} (hvalues : ∀ saying ∈ layer.sayings,
    ¬ saying.2.IsTable) {value : Setting} (hsupplied : layer.supplied key = some value) :
    ¬ value.IsTable :=
  hvalues _ (mem_of_latest hsupplied)

theorem Plain.not_isTable {layer : Layer} (hplain : Plain layer) :
    ∀ saying ∈ layer.sayings, ¬ saying.2.IsTable := by
  intro saying hsaying
  obtain ⟨given, hgiven, hsaying⟩ := List.mem_flatMap.mp hsaying
  obtain ⟨key, hkey, value, rfl⟩ := hplain given hgiven
  rw [spread_entry hkey, List.mem_singleton] at hsaying
  simp [hsaying, IsTable]

/-- Variables have single values. -/
theorem not_isTable_environment (environment : Environment) :
    ∀ saying ∈ environment.layer.sayings, ¬ saying.2.IsTable := by
  intro saying hsaying
  obtain ⟨given, hgiven, hsaying⟩ := List.mem_flatMap.mp hsaying
  obtain ⟨variable', -, hsetting⟩ := List.mem_filterMap.mp hgiven
  rw [Environment.setting?, Option.ite_none_right_eq_some] at hsetting
  obtain ⟨-, hsetting⟩ := hsetting
  obtain rfl := Option.some.inj hsetting
  generalize Key.ofString _ = own at hsaying
  cases own <;> simp only [Layer.spread, List.mem_singleton] at hsaying <;>
    simp [hsaying, IsTable]

/-! ## Fields -/

/-- The value of a field in the highest layer that supplies it. -/
def winner (file : Layer) (environment : Environment) (given : Overrides) (key : Key) :
    Option Setting :=
  ((given.value? key).map (Setting.scalar none)).or <|
    (environment.layer.supplied key).or <| (file.supplied key).or (defaults.supplied key)

theorem at?_empty (hfield : key.IsField) : Setting.empty.at? key = none := by
  cases key with
  | name name => rfl
  | child parent name =>
      obtain rfl : parent = Key.group := hfield
      rfl
  | item parent index => exact hfield.elim

/-- File and environment laid over each other. -/
theorem at?_outside (hfile : ∀ entry ∈ file, Layer.Fits key entry)
    (henvironment : ∀ entry ∈ environment.layer, Layer.Fits key entry) (hkey : key ∈ fields)
    (hvalue : ∀ value, (environment.layer.supplied key).or (file.supplied key) = some value →
      ¬ value.IsTable) :
    ((Setting.empty.overlayAll file).overlayAll environment.layer).at? key =
      (environment.layer.supplied key).or (file.supplied key) := by
  have hfield := isField_of_mem_fields hkey
  have hempty : Setting.empty.IsTable := trivial
  rw [at?_overlayAll (isTable_overlayAll hempty file) hfield
    (fun entry hentry => (henvironment entry hentry).clear hkey)
    fun value => not_isTable_of_supplied (not_isTable_environment environment)]
  cases hsupplied : environment.layer.supplied key with
  | some value => rfl
  | none =>
      rw [hsupplied] at hvalue
      rw [at?_overlayAll hempty hfield (fun entry hentry => (hfile entry hentry).clear hkey) hvalue,
        at?_empty hfield, Option.or_none]

/-- **Each field has its value from the highest layer that supplies it**, whatever else the layers
hold, as long as what they hold fits the field. -/
theorem at?_combine_of_fits (hfile : ∀ entry ∈ file, Layer.Fits key entry)
    (henvironment : ∀ entry ∈ environment.layer, Layer.Fits key entry) (hkey : key ∈ fields)
    (hvalue : ∀ value, winner file environment given key = some value → ¬ value.IsTable) :
    (combine file environment given).at? key = winner file environment given key := by
  have hfield := isField_of_mem_fields hkey
  have houtside := (tidy_empty.overlayAll hkey hfile).overlayAll hkey henvironment
  have hempty : Setting.empty.IsTable := trivial
  have hdefaults := isTable_overlayAll hempty defaults
  have hoverrides := plain_overrides given
  change ((Setting.overlayAll _ (Setting.asLayer _)).overlayAll (overrides given)).at? key = _
  rw [at?_overlayAll (isTable_overlayAll hdefaults _) hfield (hoverrides.clear hkey)
    fun value => not_isTable_of_supplied hoverrides.not_isTable, supplied_overrides given hkey]
  unfold winner at hvalue ⊢
  cases hgiven : given.value? key with
  | some value => rfl
  | none =>
      -- the command line is silent, and the layers below it come into their own
      simp only [hgiven, Option.map_none, Option.none_or, ← Option.or_assoc] at hvalue ⊢
      have hmiddle := at?_outside hfile henvironment hkey fun value hsome =>
        hvalue value (by rw [hsome]; rfl)
      rw [← houtside.supplied_asLayer hkey] at hmiddle
      rw [← hmiddle] at hvalue ⊢
      rw [at?_overlayAll hdefaults hfield (houtside.clear_asLayer hkey) fun value hsome =>
        hvalue value (by rw [hsome]; rfl)]
      rw [at?_overlayAll hempty hfield (plain_defaults.clear hkey)
        fun value => not_isTable_of_supplied plain_defaults.not_isTable, at?_empty hfield,
        Option.or_none]

theorem at?_combine (hfile : file.Known) (henvironment : environment.layer.Known)
    (hkey : key ∈ fields)
    (hvalue : ∀ value, winner file environment given key = some value → ¬ value.IsTable) :
    (combine file environment given).at? key = winner file environment given key :=
  at?_combine_of_fits (hfile.fits hkey) (henvironment.fits hkey) hkey hvalue

/-! ## What the settings depend on -/

/-- A table for the group is there. -/
def HasGroup (root : Setting) : Prop :=
  ∃ group, root.get? "database" = some group ∧ group.IsTable

theorem HasGroup.overlay {root : Setting} (hgroup : HasGroup root) (htable : root.IsTable)
    {name : String} {given : Key × Setting} (hgiven : Layer.Clear (.child Key.group name) given) :
    HasGroup (root.overlay given.1 given.2) := by
  obtain ⟨group, hfound, hgroup⟩ := hgroup
  have hregroups := regroups_overlay htable hgiven
  rw [hfound] at hregroups
  obtain ⟨after, hafter⟩ : ∃ after, (root.overlay given.1 given.2).get? "database" = some after := by
    generalize (root.overlay given.1 given.2).get? "database" = after at hregroups
    cases hregroups <;> exact ⟨_, rfl⟩
  refine ⟨after, hafter, hregroups.isTable (fun found hbefore => ?_) hafter⟩
  exact Option.some.inj hbefore ▸ hgroup

theorem HasGroup.overlayAll {root : Setting} (hgroup : HasGroup root) (htable : root.IsTable)
    {name : String} {layer : Layer}
    (hlayer : ∀ given ∈ layer, Layer.Clear (.child Key.group name) given) :
    HasGroup (root.overlayAll layer) := by
  induction layer generalizing root with
  | nil => exact hgroup
  | cons given rest ih =>
      rw [List.forall_mem_cons] at hlayer
      exact ih (hgroup.overlay htable hlayer.1) (isTable_overlay htable given) hlayer.2

/-- The defaults make a group, and no layer takes it away. -/
theorem hasGroup_combine (hfile : ∀ entry ∈ file, Layer.Fits (databaseKey "host") entry)
    (henvironment : ∀ entry ∈ environment.layer, Layer.Fits (databaseKey "host") entry) :
    HasGroup (combine file environment given) := by
  have hkey : databaseKey "host" ∈ fields := by decide
  have houtside := (tidy_empty.overlayAll hkey hfile).overlayAll hkey henvironment
  have hempty : Setting.empty.IsTable := trivial
  have hdefaults := isTable_overlayAll hempty defaults
  have hbegin : HasGroup (Setting.empty.overlayAll defaults) := by
    have hhost : (Setting.empty.overlayAll defaults).at? (databaseKey "host") ≠ none := by
      have hsupplied : (defaults.supplied (databaseKey "host")).isSome = true := by decide +kernel
      rw [at?_overlayAll hempty (isField_of_mem_fields hkey) (plain_defaults.clear hkey)
        fun value => not_isTable_of_supplied plain_defaults.not_isTable]
      obtain ⟨value, hvalue⟩ := Option.isSome_iff_exists.mp hsupplied
      simp [hvalue]
    have htidy : Tidy (databaseKey "host") (Setting.empty.overlayAll defaults) :=
      tidy_empty.overlayAll hkey (plain_defaults.fits hkey)
    cases hfound : (Setting.empty.overlayAll defaults).get? "database" with
    | none => exact absurd (by rw [databaseKey, at?, at?, hfound]; rfl) hhost
    | some group => exact ⟨group, hfound, (htidy.group "host" rfl group hfound).1⟩
  have hlower := hbegin.overlayAll hdefaults (houtside.clear_asLayer hkey)
  exact hlower.overlayAll (isTable_overlayAll hdefaults _) ((plain_overrides given).clear hkey)

theorem convert?_congr {α : Type} {root other : Setting} {name : String}
    (hsame : root.get? name = other.get? name)
    (convert : String → Setting → Except SettingFault α) (path : String) :
    convert? convert root path name = convert? convert other path name := by
  rw [convert?, hsame, convert?]

theorem databaseOf_congr {group other : Setting}
    (hfields : ∀ name ∈ groupNames, group.get? name = other.get? name) (hgroup : group.IsTable)
    (hother : other.IsTable) : databaseOf group = databaseOf other := by
  have hconvert : ∀ {α : Type} (convert : String → Setting → Except SettingFault α),
      ∀ name ∈ groupNames,
        convert? convert group "database." name = convert? convert other "database." name :=
    fun convert name hname => convert?_congr (hfields name hname) convert _
  cases group with
  | table origin entries =>
      cases other with
      | table origin' entries' =>
          simp only [databaseOf, databaseOfTable, hconvert _ "url" (by decide),
            hconvert _ "host" (by decide), hconvert _ "port" (by decide),
            hconvert _ "user" (by decide), hconvert _ "password" (by decide),
            hconvert _ "dbname" (by decide), hconvert _ "connect_timeout_secs" (by decide)]
      | _ => exact hother.elim
  | _ => exact hgroup.elim

/-- The settings depend on nothing but the values of the fields. -/
theorem ofSetting_congr {root other : Setting}
    (hfields : ∀ key ∈ fields, root.at? key = other.at? key) (hroot : HasGroup root)
    (hother : HasGroup other) : ofSetting root = ofSetting other := by
  have htop : ∀ {α : Type} (convert : String → Setting → Except SettingFault α),
      ∀ name ∈ topNames, convert? convert root "" name = convert? convert other "" name := by
    intro α convert name hname
    exact convert?_congr (hfields (.name name) (name_mem_fields.mpr hname)) convert _
  obtain ⟨group, hfound, hgroup⟩ := hroot
  obtain ⟨group', hfound', hgroup'⟩ := hother
  have hinner : ∀ name ∈ groupNames, group.get? name = group'.get? name := by
    intro name hname
    have hsame := hfields (.child Key.group name) (child_mem_fields.mpr ⟨rfl, hname⟩)
    rwa [at?_child_group, at?_child_group, hfound, hfound', Option.bind_some,
      Option.bind_some] at hsame
  have hdatabase : convert? (fun _ => databaseOf) root "" "database" =
      convert? (fun _ => databaseOf) other "" "database" := by
    simp only [convert?, hfound, hfound', databaseOf_congr hinner hgroup hgroup']
  simp only [ofSetting, htop _ "source_dir" (by decide), htop _ "table" (by decide),
    htop _ "batch_size" (by decide), htop _ "delete_after_load" (by decide),
    htop _ "fail_fast" (by decide), hdatabase]

/-- What becomes of settings that have been put together: they are brought into their types, and the
rules are checked. -/
def checked (root : Setting) : Except Failure Settings :=
  match ofSetting root with
  | .error fault => .error (.settings fault)
  | .ok settings =>
      if settings.violations.isEmpty then .ok settings
      else .error (.violations settings.violations)

/-- Settings with nothing in them but the values of some fields. -/
def ofFields (value? : Key → Option Setting) : Setting :=
  .table none <|
    (topNames.filterMap fun name => (value? (.name name)).map (name, ·)) ++
      [("database", .table none (groupNames.filterMap fun name =>
        (value? (.child Key.group name)).map (name, ·)))]

theorem get?_ofFields_top (value? : Key → Option Setting) {name : String}
    (hname : name ∈ topNames) : (ofFields value?).get? name = value? (.name name) := by
  have hother : ("database" == name) = false := by
    rw [beq_eq_false_iff_ne]
    rintro rfl
    exact absurd hname (by decide)
  have hfound := find?_filterMap topNames (fun name => value? (.name name)) name
  rw [if_pos hname] at hfound
  rw [ofFields, get?, entries, List.find?_append]
  simpa [hother] using hfound

theorem get?_ofFields_group (value? : Key → Option Setting) :
    (ofFields value?).get? "database" = some (.table none (groupNames.filterMap fun name =>
      (value? (.child Key.group name)).map (name, ·))) := by
  have hnone := find?_filterMap topNames (fun name => value? (.name name)) "database"
  rw [if_neg (by decide), Option.map_eq_none_iff] at hnone
  rw [ofFields, get?, entries, List.find?_append, hnone]
  simp

theorem at?_ofFields (value? : Key → Option Setting) (hkey : key ∈ fields) :
    (ofFields value?).at? key = value? key := by
  cases key with
  | name name => exact get?_ofFields_top value? (name_mem_fields.mp hkey)
  | child parent name =>
      obtain ⟨rfl, hname⟩ := child_mem_fields.mp hkey
      have hfound := find?_filterMap groupNames (fun name => value? (.child Key.group name)) name
      rw [if_pos hname] at hfound
      rw [at?_child_group, get?_ofFields_group]
      exact hfound
  | item parent index => simp [fields] at hkey

/-- **Nothing but the values from the highest layers goes into the settings.** -/
theorem ofLayers_eq_checked (hfile : file.Known) (henvironment : environment.layer.Known)
    (hvalues : ∀ key ∈ fields, ∀ value, winner file environment given key = some value →
      ¬ value.IsTable) :
    ofLayers file environment given = checked (ofFields (winner file environment given)) := by
  have hsame : ofSetting (combine file environment given) =
      ofSetting (ofFields (winner file environment given)) := by
    have hhost : databaseKey "host" ∈ fields := by decide
    refine ofSetting_congr ?_ (hasGroup_combine (hfile.fits hhost) (henvironment.fits hhost))
      ⟨_, get?_ofFields_group _, trivial⟩
    intro key hkey
    rw [at?_combine hfile henvironment hkey (hvalues key hkey), at?_ofFields _ hkey]
  have hopen : ofLayers file environment given = checked (combine file environment given) := rfl
  rw [hopen, checked, hsame, checked]

theorem ofFields_congr {value? other? : Key → Option Setting}
    (hsame : ∀ key ∈ fields, value? key = other? key) : ofFields value? = ofFields other? := by
  have htop : topNames.filterMap (fun name => (value? (.name name)).map (name, ·)) =
      topNames.filterMap fun name => (other? (.name name)).map (name, ·) := by
    refine List.filterMap_congr fun name hname => ?_
    rw [hsame _ (name_mem_fields.mpr hname)]
  have hgroup : groupNames.filterMap (fun name => (value? (.child Key.group name)).map (name, ·)) =
      groupNames.filterMap fun name => (other? (.child Key.group name)).map (name, ·) := by
    refine List.filterMap_congr fun name hname => ?_
    rw [hsame _ (child_mem_fields.mpr ⟨rfl, hname⟩)]
  rw [ofFields, htop, hgroup, ofFields]

/-! ## Loading -/

/-- What a run finds outside the program: the layer of its settings file and the environment, which
set nothing but fields. -/
structure Finds (formats : FileFormats) (fs : FileSystem) (config : Option Path)
    (environment : Environment) (file : Layer) : Prop where
  read : SettingsFile.layer formats fs (config.getD defaultFile) config.isSome = .ok file
  file_known : file.Known
  environment_known : environment.layer.Known

/-- Two files and environments differ in a field at most where a higher layer hides it. -/
def Alike (given : Overrides) (environment environment' : Environment) (file file' : Layer)
    (key : Key) : Prop :=
  (given.value? key).isSome ∨
    environment'.layer.supplied key = environment.layer.supplied key ∧
      ((environment.layer.supplied key).isSome ∨ file'.supplied key = file.supplied key)

variable {formats : FileFormats} {fs : FileSystem} {config : Option Path}
variable {environment' : Environment} {file' : Layer}

theorem winner_eq_of_alike (halike : Alike given environment environment' file file' key) :
    winner file' environment' given key = winner file environment given key := by
  unfold winner
  rcases halike with hgiven | ⟨henvironment, hset | hfile⟩
  · obtain ⟨value, hvalue⟩ := Option.isSome_iff_exists.mp hgiven
    simp [hvalue]
  · obtain ⟨value, hvalue⟩ := Option.isSome_iff_exists.mp hset
    simp [henvironment, hvalue]
  · rw [henvironment, hfile]

theorem not_isTable_winner (hvalues : ∀ saying ∈ file.sayings, ¬ saying.2.IsTable)
    {value : Setting} (hvalue : winner file environment given key = some value) :
    ¬ value.IsTable := by
  rw [winner, Option.or_eq_some_iff, Option.or_eq_some_iff, Option.or_eq_some_iff] at hvalue
  rcases hvalue with hgiven | ⟨-, henvironment | ⟨-, hfile | ⟨-, hdefault⟩⟩⟩
  · obtain ⟨scalar, -, rfl⟩ := Option.map_eq_some_iff.mp hgiven
    simp [IsTable]
  · exact not_isTable_of_supplied (not_isTable_environment environment) henvironment
  · exact not_isTable_of_supplied hvalues hfile
  · exact not_isTable_of_supplied plain_defaults.not_isTable hdefault

/-- **The settings are made of what the highest layers supply**, field by field.  Whatever stands in
a layer below, be it of the wrong type, has no part in them: a different file and environment that
differ only there lead to the same settings, or to the same failure. -/
theorem load_of_highest_layer (hfinds : Finds formats fs config environment file)
    (hvalues : ∀ saying ∈ file.sayings, ¬ saying.2.IsTable) (given : Overrides) :
    (∀ key ∈ fields,
      (combine file environment given).at? key = winner file environment given key) ∧
    load formats fs environment config given =
      checked (ofFields (winner file environment given)) ∧
    ∀ (formats' : FileFormats) (fs' : FileSystem) (environment' : Environment) (file' : Layer),
      Finds formats' fs' config environment' file' →
      (∀ key ∈ fields, Alike given environment environment' file file' key) →
      load formats' fs' environment' config given = load formats fs environment config given := by
  have hload : ∀ {formats : FileFormats} {fs : FileSystem} {environment : Environment}
      {file : Layer}, Finds formats fs config environment file →
      (∀ key ∈ fields, ∀ value, winner file environment given key = some value →
        ¬ value.IsTable) →
      load formats fs environment config given =
        checked (ofFields (winner file environment given)) := by
    intro formats fs environment file hfinds hplain
    rw [load, hfinds.read]
    exact ofLayers_eq_checked hfinds.file_known hfinds.environment_known hplain
  have hplain : ∀ key ∈ fields, ∀ value, winner file environment given key = some value →
      ¬ value.IsTable := fun key _ value => not_isTable_winner hvalues
  refine ⟨?_, hload hfinds hplain, ?_⟩
  · intro key hkey
    exact at?_combine hfinds.file_known hfinds.environment_known hkey (hplain key hkey)
  · intro formats' fs' environment' file' hfinds' halike
    have hsame : ∀ key ∈ fields,
        winner file' environment' given key = winner file environment given key :=
      fun key hkey => winner_eq_of_alike (halike key hkey)
    rw [hload hfinds hplain, hload hfinds' fun key hkey value hvalue =>
      hplain key hkey value ((hsame key hkey).symm.trans hvalue), ofFields_congr hsame]

/-- A file system with a settings file of some text in it. -/
def Sample.withFile (text : String) : FileSystem where
  entries :=
    [([encode "etc"], .directory), ([encode "etc", encode "noaa.toml"], .file (encode text))]
  working := []

/-- A check of what a settings file says. -/
theorem exists_layer (fs : FileSystem) (name : Path) (required : Bool) (check : Layer → Bool)
    (hcheck : (SettingsFile.layer .plain fs name required).toOption.any check = true) :
    ∃ file, SettingsFile.layer .plain fs name required = .ok file ∧ check file = true := by
  cases hlayer : SettingsFile.layer .plain fs name required with
  | error fault => simp [hlayer, Except.toOption] at hcheck
  | ok file => exact ⟨file, rfl, by simpa [hlayer, Except.toOption] using hcheck⟩

/-- A port from the environment and a table from the command line, over a file with a port and over
one in which neither the port nor the table could be used. -/
theorem load_of_highest_layer_sample :
    let fs := Sample.withFile "[database]\nport = 5433\n"
    let fs' := Sample.withFile "table = [1]\n[database]\nport = \"many\"\n"
    let config := some (encode "/etc/noaa.toml")
    let environment : Environment := [("NOAA_LOADER_DATABASE__PORT", "6000"), ("PATH", "/bin")]
    let given : Overrides := { sourceDirectory := some (encode "/data"), table := some "staging" }
    ∃ file file', Finds .plain fs config environment file ∧
      Finds .plain fs' config environment file' ∧
      (∀ saying ∈ file.sayings, ¬ saying.2.IsTable) ∧
      (∀ key ∈ fields, Alike given environment environment file file' key) ∧
      load .plain fs' environment config given = load .plain fs environment config given ∧
      (load .plain fs environment config given).toOption.map (·.database.port) = some 6000 := by
  intro fs fs' config environment given
  have henvironment : ∀ saying ∈ environment.layer.sayings, saying.1 ∈ fields := by decide +kernel
  obtain ⟨file, hread, hfile⟩ := exists_layer fs (config.getD defaultFile) config.isSome
    (fun file =>
      decide (∀ saying ∈ file.sayings, saying.1 ∈ fields ∧ ¬ saying.2.IsTable) &&
        decide (∀ key ∈ fields, key = databaseKey "port" ∨ (file.supplied key).isNone))
    (by decide +kernel)
  obtain ⟨file', hread', hfile'⟩ := exists_layer fs' (config.getD defaultFile) config.isSome
    (fun file =>
      decide (∀ saying ∈ file.sayings, saying.1 ∈ fields) &&
        decide (∀ key ∈ fields, key = databaseKey "port" ∨ key = .name "table" ∨
          (file.supplied key).isNone))
    (by decide +kernel)
  simp only [Bool.and_eq_true, decide_eq_true_eq] at hfile hfile'
  have hvalues : ∀ saying ∈ file.sayings, ¬ saying.2.IsTable :=
    fun saying hsaying => (hfile.1 saying hsaying).2
  have hfinds : Finds .plain fs config environment file :=
    ⟨hread, fun saying hsaying => (hfile.1 saying hsaying).1, henvironment⟩
  have hfinds' : Finds .plain fs' config environment file' := ⟨hread', hfile'.1, henvironment⟩
  have halike : ∀ key ∈ fields, Alike given environment environment file file' key := by
    intro key hkey
    rcases hfile'.2 key hkey with rfl | rfl | hnone'
    · exact Or.inr ⟨rfl, Or.inl (by decide +kernel)⟩
    · exact Or.inl rfl
    · rcases hfile.2 key hkey with rfl | hnone
      · exact Or.inr ⟨rfl, Or.inl (by decide +kernel)⟩
      · rw [Option.isNone_iff_eq_none] at hnone hnone'
        exact Or.inr ⟨rfl, Or.inr (hnone'.trans hnone.symm)⟩
  obtain ⟨-, -, hsame⟩ := load_of_highest_layer hfinds hvalues given
  exact ⟨file, file', hfinds, hfinds', hvalues, halike,
    hsame .plain fs' environment file' hfinds' halike, by decide +kernel⟩

end Settings

end HourlyIngest
