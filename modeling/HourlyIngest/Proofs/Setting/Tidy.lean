import HourlyIngest.Proofs.Setting.Overlay
import HourlyIngest.Proofs.Text.Case

/-!
# Tidy settings

The settings of file and environment are put together once, and what came of it is read as a layer
again (`Setting.asLayer`), names and all.  For a field that is harmless if its name, and that of its
group, stands there once and in no other spelling (`Tidy`): then the new layer supplies of the field
just what was found (`Tidy.supplied_asLayer`).  Settings stay tidy for a field as long as what is
laid over them fits it (`Layer.Fits`, `Tidy.overlayAll`), which any entry does that has to do with
other names at the top, and every entry that speaks of nothing but fields (`Layer.Known.fits`).
-/

namespace HourlyIngest

open Text

namespace Settings

/-- The names of the fields at the top. -/
def topNames : List String :=
  ["source_dir", "table", "batch_size", "delete_after_load", "fail_fast"]

/-- The names of the fields in the group of the database. -/
def groupNames : List String :=
  ["url", "host", "port", "user", "password", "dbname", "connect_timeout_secs"]

/-- The keys of all fields. -/
def fields : List Key :=
  topNames.map Key.name ++ groupNames.map (Key.child Key.group)

variable {key : Key} {name : String}

theorem name_mem_fields : Key.name name ∈ fields ↔ name ∈ topNames := by
  simp [fields]

theorem child_mem_fields {parent : Key} :
    Key.child parent name ∈ fields ↔ parent = Key.group ∧ name ∈ groupNames := by
  simp only [fields, List.mem_append, List.mem_map, reduceCtorEq, and_false, exists_false,
    false_or, Key.child.injEq]
  constructor
  · rintro ⟨other, hother, rfl, rfl⟩
    exact ⟨rfl, hother⟩
  · rintro ⟨rfl, hname⟩
    exact ⟨name, hname, rfl, rfl⟩

theorem isField_of_mem_fields (hkey : key ∈ fields) : key.IsField := by
  cases key with
  | name name =>
      rintro heq
      rw [heq] at hkey
      exact absurd hkey (by decide)
  | child parent name => exact (child_mem_fields.mp hkey).1
  | item parent index => simp [fields] at hkey

/-- Names of fields are in lower case already. -/
theorem lowercase_of_mem : ∀ name ∈ "database" :: topNames ++ groupNames, lowercase name = name := by
  decide +kernel

/-- As keys they are names and nothing else. -/
theorem ofString_of_mem : ∀ name ∈ "database" :: topNames, Key.ofString name = .name name := by
  decide +kernel

end Settings

/-- A layer speaks of nothing but fields. -/
def Layer.Known (layer : Layer) : Prop :=
  ∀ saying ∈ layer.sayings, saying.1 ∈ Settings.fields

/-- The name at the top at which an entry with this key stands in the end: the name that it was put
under is read as a key once more. -/
def Key.place (key : Key) : String :=
  (Key.ofString key.top).top

/-- If the entry comes to stand where the field does, then from the beginning, and it speaks of the
field as a whole or of another one in the group. -/
def Layer.Fits (key : Key) (entry : Key × Setting) : Prop :=
  entry.1.place = key.head → entry.1.top = key.head ∧ Layer.direct key entry = true

instance (key : Key) (entry : Key × Setting) : Decidable (Layer.Fits key entry) :=
  inferInstanceAs (Decidable (_ → _))

namespace Settings

variable {key : Key} {name : String}

theorem head_mem (hkey : key ∈ fields) : key.head ∈ "database" :: topNames := by
  cases key with
  | name own => exact List.mem_cons_of_mem _ (name_mem_fields.mp hkey)
  | child above own =>
      obtain ⟨rfl, -⟩ := child_mem_fields.mp hkey
      exact List.mem_cons_self
  | item above index => simp [fields] at hkey

/-- The names at the top stand where they were put. -/
theorem top_ofString (hname : name ∈ "database" :: topNames) : (Key.ofString name).top = name := by
  rw [ofString_of_mem name hname]
  exact lowercase_of_mem name (List.mem_append_left _ hname)

end Settings

namespace Layer

open Settings

variable {key : Key} {entry : Key × Setting}

theorem Fits.clear (hfits : Fits key entry) (hkey : key ∈ fields) : Clear key entry := by
  intro htop
  refine (hfits ?_).2
  rw [Key.place, htop, top_ofString (head_mem hkey)]

/-- An entry that speaks of nothing but fields fits every one of them. -/
theorem fits_of_sayings (hentry : ∀ saying ∈ spread entry, saying.1 ∈ fields)
    (hkey : key ∈ fields) : Fits key entry := by
  intro hplace
  obtain ⟨given, value⟩ := entry
  -- names at the top stay where they are
  have htop : ∀ {name}, given.top = name → name ∈ "database" :: topNames → name = key.head := by
    intro name hname hmem
    rw [← hplace, Key.place, hname, top_ofString hmem]
  cases given with
  | name own =>
      by_cases hgroup : Key.name (lowercase own) = Key.group ∧ value.IsTable
      · obtain ⟨hown, hvalue⟩ := hgroup
        have hhead := htop (Key.name.inj hown) List.mem_cons_self
        refine ⟨(Key.name.inj hown).trans hhead, ?_⟩
        cases key with
        | name other =>
            obtain rfl : "database" = other := hhead
            exact absurd (name_mem_fields.mp hkey) (by decide)
        | child above other =>
            cases value with
            | table origin entries => rfl
            | _ => exact hvalue.elim
        | item above index => simp [fields] at hkey
      · have hplain : Key.name (lowercase own) ≠ Key.group ∨ ¬ value.IsTable := by
          rwa [not_and_or] at hgroup
        rw [Setting.spread_name hplain, List.forall_mem_singleton, name_mem_fields] at hentry
        have hhead := htop rfl (List.mem_cons_of_mem _ hentry)
        refine ⟨hhead, ?_⟩
        cases key with
        | name other => rfl
        | child above other =>
            obtain ⟨rfl, -⟩ := child_mem_fields.mp hkey
            have hdatabase : lowercase own = "database" := hhead
            rw [hdatabase] at hentry
            exact absurd hentry (by decide)
        | item above index => simp [fields] at hkey
  | child above own =>
      obtain ⟨rfl, -⟩ := child_mem_fields.mp (hentry _ (List.mem_singleton_self _))
      have hhead := htop rfl List.mem_cons_self
      refine ⟨hhead, ?_⟩
      cases key with
      | name other =>
          obtain rfl : "database" = other := hhead
          exact absurd (name_mem_fields.mp hkey) (by decide)
      | child above other => simp [direct, Key.lead, Key.group]
      | item above index => simp [fields] at hkey
  | item above index => exact absurd (hentry _ (List.mem_singleton_self _)) (by simp [fields])

theorem Known.fits {layer : Layer} (hknown : layer.Known) (hkey : key ∈ fields) :
    ∀ entry ∈ layer, Fits key entry := by
  intro entry hentry
  refine fits_of_sayings (fun saying hsaying => hknown saying ?_) hkey
  exact List.mem_flatMap.mpr ⟨entry, hentry, hsaying⟩

end Layer

namespace Setting

open Settings

variable {root group value : Setting} {allowed : String → Prop} {name : String} {key : Key}

/-! ## Tables in which each name stands once -/

/-- Each name in the table stands there once, and is allowed. -/
structure Named (allowed : String → Prop) (setting : Setting) : Prop where
  nodup : (setting.entries.map Prod.fst).Nodup
  names : ∀ name ∈ setting.entries.map Prod.fst, allowed name

theorem Named.put (hnamed : Named allowed root) (hname : allowed name) :
    Named allowed (root.put name value) where
  nodup := by
    rw [entries_put]
    exact nodup_keys_putEntry hnamed.nodup
  names := by
    intro other hother
    rw [entries_put] at hother
    rcases mem_keys_putEntry hother with rfl | hbefore
    · exact hname
    · exact hnamed.names other hbefore

theorem named_of_entries (hempty : root.entries = []) : Named allowed root where
  nodup := by simp [hempty]
  names := by simp [hempty]

theorem Named.assign (hnamed : Named allowed root) (hname : allowed (lowercase name)) :
    Named allowed (root.assign name value) := by
  obtain ⟨stored, hstored⟩ := exists_assign_eq_put root name value
  rw [hstored]
  exact hnamed.put hname

theorem Named.merge (hnamed : Named allowed root) {incoming : List (String × Setting)}
    (hnames : ∀ entry ∈ incoming, allowed (lowercase entry.1)) :
    Named allowed (root.merge incoming) := by
  induction incoming generalizing root with
  | nil => simpa [Setting.merge] using hnamed
  | cons entry rest ih =>
      rw [List.forall_mem_cons] at hnames
      obtain ⟨name, value⟩ := entry
      rw [Setting.merge]
      exact ih (hnamed.assign hnames.1) hnames.2

/-! ## Tidiness -/

/-- No other name is an own one's spelling. -/
def Sole (own name : String) : Prop :=
  lowercase name = own → name = own

/-- As far as the field is concerned, names stand once and in one spelling, and the group is a
table. -/
structure Tidy (key : Key) (root : Setting) : Prop where
  isTable : root.IsTable
  named : Named (fun name => (Key.ofString name).top = key.head → name = key.head) root
  group : ∀ own, key = .child Key.group own → ∀ group, root.get? "database" = some group →
    group.IsTable ∧ Named (Sole own) group

theorem tidy_empty : Tidy key empty where
  isTable := trivial
  named := named_of_entries rfl
  group := by
    intro own _ group hgroup
    cases hgroup

theorem sole_lowercase (own name : String) : Sole own (lowercase name) := by
  intro hname
  rwa [lowercase_lowercase] at hname

theorem Regroups.named {own : String} {entry : Key × Setting} {before after : Option Setting}
    (hregroups : Regroups own entry before after) (hown : lowercase own = own)
    (hbefore : ∀ group, before = some group → Named (Sole own) group) (hafter : after = some group) :
    Named (Sole own) group := by
  -- the group there was, or an empty one
  have hgetD : ∀ fallback : Setting, fallback.entries = [] →
      Named (Sole own) (before.getD fallback) := by
    intro fallback hempty
    cases before with
    | none => exact named_of_entries hempty
    | some found => exact hbefore found rfl
  have hasTable : Named (Sole own) (before.getD nil).asTable := by
    have hnil := hgetD nil rfl
    exact ⟨by simpa using hnil.nodup, by simpa using hnil.names⟩
  cases hregroups with
  | kept => exact hbefore group hafter
  | merged =>
      obtain rfl := Option.some.inj hafter
      exact (hgetD empty rfl).merge fun inner _ => sole_lowercase own inner.1
  | assigned =>
      obtain rfl := Option.some.inj hafter
      exact hasTable.assign (sole_lowercase own _)
  | aside hinner =>
      obtain rfl := Option.some.inj hafter
      refine hasTable.put fun hsame => absurd ?_ hinner
      rw [hsame, hown]

/-- Settings stay tidy when something that fits is laid over them. -/
theorem Tidy.overlay (htidy : Tidy key root) (hkey : key ∈ fields) {entry : Key × Setting}
    (hfits : Layer.Fits key entry) : Tidy key (root.overlay entry.1 entry.2) where
  isTable := isTable_overlay htidy.isTable entry
  named := by
    obtain ⟨stored, hstored⟩ := exists_overlay_eq_put htidy.isTable entry
    rw [hstored]
    exact htidy.named.put fun hplace => (hfits hplace).1
  group := by
    rintro own rfl group hgroup
    have hregroups := regroups_overlay htidy.isTable (hfits.clear hkey)
    have hown := lowercase_of_mem own (List.mem_append_right _ (child_mem_fields.mp hkey).2)
    have hbefore := htidy.group own rfl
    exact ⟨hregroups.isTable (fun found hfound => (hbefore found hfound).1) hgroup,
      hregroups.named hown (fun found hfound => (hbefore found hfound).2) hgroup⟩

theorem Tidy.overlayAll (htidy : Tidy key root) (hkey : key ∈ fields) {layer : Layer}
    (hfits : ∀ entry ∈ layer, Layer.Fits key entry) : Tidy key (root.overlayAll layer) := by
  induction layer generalizing root with
  | nil => exact htidy
  | cons entry rest ih =>
      rw [List.forall_mem_cons] at hfits
      exact ih (htidy.overlay hkey hfits.1) hfits.2

/-! ## Settings as a layer -/

/-- The entries at the top of a table, under the keys that their names are. -/
def asLayer (root : Setting) : Layer :=
  root.entries.map fun entry => (Key.ofString entry.1, entry.2)

/-- If only one name in a table has to do with a key, what is said of the key is what that one
says. -/
theorem latest_flatMap {μ : Type} [DecidableEq μ] {key : μ} {entries : List (String × Setting)}
    (hnodup : (entries.map Prod.fst).Nodup) (speech : String × Setting → List (μ × Setting))
    (name : String)
    (hother : ∀ entry ∈ entries, entry.1 ≠ name → latest key (speech entry) = none) :
    latest key (entries.flatMap speech) =
      ((entries.find? (·.1 == name)).map (·.2)).bind fun value =>
        latest key (speech (name, value)) := by
  induction entries with
  | nil => rfl
  | cons entry rest ih =>
      rw [List.map_cons, List.nodup_cons] at hnodup
      rw [List.forall_mem_cons] at hother
      rw [List.flatMap_cons, latest_append, ih hnodup.2 hother.2, List.find?_cons]
      by_cases hname : entry.1 = name
      · subst hname
        rw [find?_eq_none_of_notMem hnodup.1]
        simp
      · have hne : (entry.1 == name) = false := by simpa using hname
        simp [hne, hother.1 hname]

/-- What is under the names of the field says nothing but the field. -/
theorem Tidy.clear_asLayer (htidy : Tidy key root) (hkey : key ∈ fields) :
    ∀ entry ∈ root.asLayer, Layer.Clear key entry := by
  intro entry hentry htop
  obtain ⟨⟨name, value⟩, hmem, rfl⟩ := List.mem_map.mp hentry
  obtain rfl : name = key.head := htidy.named.names name (List.mem_map_of_mem hmem) htop
  have hfound : root.get? key.head = some value := find?_of_mem htidy.named.nodup hmem
  simp only [ofString_of_mem key.head (head_mem hkey)]
  cases key with
  | name own => rfl
  | child above own =>
      obtain ⟨rfl, -⟩ := child_mem_fields.mp hkey
      have htable := (htidy.group own rfl value hfound).1
      cases value with
      | table origin entries => rfl
      | _ => exact htable.elim
  | item above index => simp [fields] at hkey

/-- Of a group with one spelling of a name, a table for the group says under it what is found. -/
theorem latest_spread_group (htable : group.IsTable) (hgroup : Named (Sole name) group)
    (hname : lowercase name = name) :
    latest (.child Key.group name) (Layer.spread (.name "database", group)) = group.get? name := by
  cases group with
  | table origin entries =>
      have hlower : lowercase "database" = "database" := lowercase_of_mem _ List.mem_cons_self
      have hspread : Layer.spread (.name "database", .table origin entries) =
          entries.map fun inner => (.child Key.group (lowercase inner.1), inner.2) := by
        rw [Layer.spread, if_pos (by rw [hlower, Key.group])]
      have hother : ∀ entry ∈ entries, entry.1 ≠ name →
          latest name [(lowercase entry.1, entry.2)] = none := by
        intro entry hentry hne
        have hsole := hgroup.names entry.1 (List.mem_map_of_mem hentry)
        simp [latest, mt hsole hne]
      have hlatest := latest_flatMap hgroup.nodup (fun entry => [(lowercase entry.1, entry.2)]) name
        hother
      rw [← List.map_eq_flatMap] at hlatest
      rw [hspread, latest_child_group]
      refine hlatest.trans ?_
      simp [latest, hname, get?, Setting.entries]
  | _ => exact htable.elim

/-- As a layer, tidy settings supply of the field what is found in them. -/
theorem Tidy.supplied_asLayer (htidy : Tidy key root) (hkey : key ∈ fields) :
    Layer.supplied root.asLayer key = root.at? key := by
  have hfield := isField_of_mem_fields hkey
  have hother : ∀ entry ∈ root.entries, entry.1 ≠ key.head →
      latest key (Layer.spread (Key.ofString entry.1, entry.2)) = none := by
    intro entry hentry hne
    have hsole := htidy.named.names entry.1 (List.mem_map_of_mem hentry)
    exact Layer.latest_spread_of_ne (mt hsole hne)
  have hlatest := latest_flatMap htidy.named.nodup
    (fun entry => Layer.spread (Key.ofString entry.1, entry.2)) key.head hother
  rw [Layer.supplied, Layer.sayings, asLayer, List.flatMap_map]
  refine hlatest.trans ?_
  rw [← get?]
  simp only [ofString_of_mem key.head (head_mem hkey)]
  cases key with
  | name own =>
      have hlower : lowercase own = own :=
        lowercase_of_mem own (List.mem_append_left _ (head_mem hkey))
      have hsingle : ∀ value : Setting,
          latest (.name own) (Layer.spread (.name own, value)) = some value := by
        intro value
        rw [spread_name (Or.inl (by rwa [hlower])), hlower]
        simp [latest]
      simp only [Key.head, hsingle, Option.bind_fun_some]
      rfl
  | child above own =>
      obtain ⟨rfl, hown⟩ := child_mem_fields.mp hkey
      have hlower := lowercase_of_mem own (List.mem_append_right _ hown)
      rw [at?_child_group]
      show (root.get? "database").bind _ = _
      cases hfound : root.get? "database" with
      | none => rfl
      | some group =>
          obtain ⟨htable, hnamed⟩ := htidy.group own rfl group hfound
          exact latest_spread_group htable hnamed hlower
  | item above index => exact hfield.elim

end Setting

end HourlyIngest
