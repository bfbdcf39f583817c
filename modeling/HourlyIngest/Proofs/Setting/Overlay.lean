import HourlyIngest.Proofs.Association
import HourlyIngest.Setting.Layer

/-!
# What is found where layers were laid over each other

A layer says something about a setting (`Layer.sayings`) either under a key of its own or within the
table of a group, and if it does so more than once the last time counts (`Layer.supplied`).  Laid
over settings that are there already, a layer replaces what it supplies of a field and otherwise
leaves the field as it was, one in the group as well as one at the top (`at?_overlayAll`).  The one
thing that would not be replaced is a table that meets a table, for these are merged.

Whatever the key of an entry, laying it over a table changes the table under one name only, the one
at which the key begins (`exists_overlay_eq_put`), so that most entries have nothing to do with a
given field.  Of those that begin where the field does, one might lead into the field, as if it were
a table or a list, or take the group away from under it.  Entries that do neither leave the field
clear (`Layer.Clear`).
-/

namespace HourlyIngest

open Text

/-- The last value that is given for a key. -/
def latest {κ α : Type} [DecidableEq κ] (key : κ) : List (κ × α) → Option α
  | [] => none
  | (other, value) :: rest => (latest key rest).or (if other = key then some value else none)

theorem latest_append {κ α : Type} [DecidableEq κ] (key : κ) (first second : List (κ × α)) :
    latest key (first ++ second) = (latest key second).or (latest key first) := by
  induction first with
  | nil => simp [latest]
  | cons entry first ih =>
      rw [List.cons_append, latest, latest, ih]
      cases latest key second <;> rfl

/-- Keys that are told apart may be renamed. -/
theorem latest_map {κ μ α : Type} [DecidableEq κ] [DecidableEq μ] {rename : κ → μ}
    (hrename : Function.Injective rename) (key : κ) (entries : List (κ × α)) :
    latest (rename key) (entries.map fun entry => (rename entry.1, entry.2)) =
      latest key entries := by
  induction entries with
  | nil => rfl
  | cons entry entries ih => simp only [List.map_cons, latest, ih, hrename.eq_iff]

theorem latest_eq_none_iff {κ α : Type} [DecidableEq κ] {key : κ} {entries : List (κ × α)} :
    latest key entries = none ↔ ∀ entry ∈ entries, entry.1 ≠ key := by
  induction entries with
  | nil => simp [latest]
  | cons entry entries ih =>
      rw [latest, Option.or_eq_none_iff, ih, List.forall_mem_cons]
      by_cases hkey : entry.1 = key <;> simp [hkey]

theorem latest_eq_none {κ α : Type} [DecidableEq κ] {key : κ} {entries : List (κ × α)}
    (hnone : ∀ entry ∈ entries, entry.1 ≠ key) : latest key entries = none :=
  latest_eq_none_iff.mpr hnone

theorem mem_of_latest {κ α : Type} [DecidableEq κ] {key : κ} {entries : List (κ × α)} {value : α}
    (hlatest : latest key entries = some value) : (key, value) ∈ entries := by
  induction entries with
  | nil => cases hlatest
  | cons entry rest ih =>
      rw [latest, Option.or_eq_some_iff] at hlatest
      rcases hlatest with hlater | ⟨-, hfirst⟩
      · exact List.mem_cons_of_mem _ (ih hlater)
      · obtain ⟨rfl, hvalue⟩ := (Option.ite_none_right_eq_some ..).mp hfirst
        obtain rfl := Option.some.inj hvalue
        exact List.mem_cons_self

/-- A value that is the only one given for a key is the last one. -/
theorem latest_of_mem {κ α : Type} [DecidableEq κ] {key : κ} {entries : List (κ × α)} {value : α}
    (hmem : (key, value) ∈ entries) (honly : ∀ entry ∈ entries, entry.1 = key → entry.2 = value) :
    latest key entries = some value := by
  cases hlatest : latest key entries with
  | some other => exact congrArg some (honly _ (mem_of_latest hlatest) rfl)
  | none => exact absurd rfl (latest_eq_none_iff.mp hlatest _ hmem)

namespace Key

/-- The key of the group of the database. -/
def group : Key := .name "database"

/-- Whether a key can be one of a field: a name at the top, but not that of the group, or a name in
the group. -/
def IsField : Key → Prop
  | .name own => Key.name own ≠ group
  | .child above _ => above = group
  | .item _ _ => False

/-- The name at which a key begins. -/
def head : Key → String
  | .name own => own
  | .child above _ => above.head
  | .item above _ => above.head

/-- The name at the top under which an entry with this key comes to stand. -/
def top : Key → String
  | .name own => lowercase own
  | .child above _ => above.head
  | .item above _ => above.head

/-- The first two parts of a key, if it has as many. -/
def lead : Key → Key
  | .name own => .name own
  | .child (.name own) inner => .child (.name own) inner
  | .item (.name own) index => .item (.name own) index
  | .child above _ => above.lead
  | .item above _ => above.lead

end Key

/-! ## What a layer says -/

namespace Layer

/-- What an entry of a layer says, key by key: a table for the group speaks of what is in it. -/
def spread : Key × Setting → List (Key × Setting)
  | (.name name, .table origin entries) =>
      if Key.name (lowercase name) = Key.group then
        entries.map fun entry => (.child Key.group (lowercase entry.1), entry.2)
      else [(.name (lowercase name), .table origin entries)]
  | (.name name, value) => [(.name (lowercase name), value)]
  | (.child parent name, value) => [(.child parent (lowercase name), value)]
  | (.item parent index, value) => [(.item parent index, value)]

/-- All that a layer says, in order. -/
def sayings (layer : Layer) : List (Key × Setting) :=
  layer.flatMap spread

/-- What a layer supplies for a key. -/
def supplied (layer : Layer) (key : Key) : Option Setting :=
  latest key layer.sayings

/-- Whether an entry that begins where a field does speaks of the field as a whole or, in the group,
of another one. -/
def direct : Key → Key × Setting → Bool
  | .name _, (.name _, _) => true
  | .child _ _, (.name _, .table _ _) => true
  | .child _ _, (.name _, _) => false
  | .child _ name, (given, _) =>
      match given.lead with
      | .child _ inner => given == given.lead || lowercase inner != lowercase name
      | _ => false
  | _, _ => false

/-- The entry does not lead into the field, and does not take its group away. -/
def Clear (key : Key) (entry : Key × Setting) : Prop :=
  entry.1.top = key.head → direct key entry = true

instance (key : Key) (entry : Key × Setting) : Decidable (Clear key entry) :=
  inferInstanceAs (Decidable (_ → _))

theorem head_of_mem_spread {entry saying : Key × Setting} (hsaying : saying ∈ spread entry) :
    saying.1.head = entry.1.top := by
  obtain ⟨key, value⟩ := entry
  unfold spread at hsaying
  split at hsaying
  · next name origin entries heq =>
    obtain ⟨rfl, rfl⟩ := Prod.mk.inj heq
    split at hsaying
    · next hgroup =>
      obtain ⟨inner, -, rfl⟩ := List.mem_map.mp hsaying
      exact (Key.name.inj hgroup).symm
    · rw [List.mem_singleton.mp hsaying]
      rfl
  all_goals
    next heq =>
      obtain ⟨rfl, rfl⟩ := Prod.mk.inj heq
      rw [List.mem_singleton.mp hsaying]
      rfl

/-- An entry that begins elsewhere says nothing of a key. -/
theorem latest_spread_of_ne {key : Key} {entry : Key × Setting} (hne : entry.1.top ≠ key.head) :
    latest key (spread entry) = none := by
  refine latest_eq_none fun saying hsaying heq => hne ?_
  rw [← head_of_mem_spread hsaying, heq]

end Layer

namespace Setting

/-! ## Tables -/

/-- The setting is a table. -/
def IsTable : Setting → Prop
  | .table _ _ => True
  | _ => False

instance : DecidablePred IsTable := fun setting =>
  match setting with
  | .table _ _ => isTrue trivial
  | .scalar _ _ => isFalse id
  | .list _ _ => isFalse id

/-- The setting that a key leads to. -/
def at? (root : Setting) : Key → Option Setting
  | .name name => root.get? name
  | .child parent name => (root.at? parent).bind (·.get? name)
  | .item _ _ => none

variable {root target value : Setting} {name other : String} {key : Key}

@[simp] theorem entries_asTable (root : Setting) : root.asTable.entries = root.entries := by
  cases root <;> rfl

@[simp] theorem get?_asTable (root : Setting) (name : String) :
    root.asTable.get? name = root.get? name := by
  rw [get?, entries_asTable, get?]

theorem isTable_put (root : Setting) (name : String) (value : Setting) :
    (root.put name value).IsTable := by
  cases root <;> trivial

theorem entries_put (root : Setting) (name : String) (value : Setting) :
    (root.put name value).entries = putEntry root.entries name value := by
  cases root <;> rfl

/-- What was put is found, and nothing else has changed. -/
theorem get?_put (root : Setting) (name : String) (value : Setting) (other : String) :
    (root.put name value).get? other = if other = name then some value else root.get? other := by
  simp only [get?, entries_put, find?_putEntry, beq_iff_eq]

/-! ## Laying over one entry -/

theorem assign_of_not_table (hvalue : ¬ value.IsTable) :
    root.assign name value = root.put (lowercase name) value := by
  cases value with
  | table origin entries => exact absurd trivial hvalue
  | scalar origin value => simp only [assign]
  | list origin items => simp only [assign]

theorem assign_table (origin : Option String) (incoming : List (String × Setting)) :
    root.assign name (.table origin incoming) =
      root.put (lowercase name)
        (merge ((root.get? (lowercase name)).getD empty) incoming) := by
  simp only [assign, get?_asTable]
  cases root <;> rfl

/-- Whatever is laid over an entry, only that entry changes. -/
theorem exists_assign_eq_put (root : Setting) (name : String) (value : Setting) :
    ∃ stored, root.assign name value = root.put (lowercase name) stored := by
  by_cases hvalue : value.IsTable
  · cases value with
    | table origin entries => exact ⟨_, assign_table origin entries⟩
    | _ => exact hvalue.elim
  · exact ⟨value, assign_of_not_table hvalue⟩

theorem isTable_assign : (root.assign name value).IsTable := by
  obtain ⟨stored, hstored⟩ := exists_assign_eq_put root name value
  rw [hstored]
  exact isTable_put _ _ _

theorem get?_assign_of_ne (hne : other ≠ lowercase name) :
    (root.assign name value).get? other = root.get? other := by
  obtain ⟨stored, hstored⟩ := exists_assign_eq_put root name value
  rw [hstored, get?_put, if_neg hne]

/-- What is found under a name after laying over: the new setting for its own name, unless it is a
table, and what was there before for any other name. -/
theorem get?_assign (hvalue : other = lowercase name → ¬ value.IsTable) :
    (root.assign name value).get? other =
      if lowercase name = other then some value else root.get? other := by
  by_cases hname : other = lowercase name
  · rw [assign_of_not_table (hvalue hname), get?_put, if_pos hname, if_pos hname.symm]
  · rw [get?_assign_of_ne hname, if_neg (Ne.symm hname)]

/-- Of the entries that are merged into a table the last one with a name is found there. -/
theorem get?_merge {incoming : List (String × Setting)}
    (hlatest : ∀ value, latest other (incoming.map fun entry => (lowercase entry.1, entry.2)) =
      some value → ¬ value.IsTable) :
    (merge target incoming).get? other =
      (latest other (incoming.map fun entry => (lowercase entry.1, entry.2))).or
        (target.get? other) := by
  induction incoming generalizing target with
  | nil => simp [merge, latest]
  | cons entry rest ih =>
      obtain ⟨name, value⟩ := entry
      rw [List.map_cons, latest] at hlatest ⊢
      rw [merge, ih fun found hfound => hlatest found (by simp [hfound])]
      -- only where no later entry has the name does this one matter
      cases hrest : latest other (rest.map fun entry => (lowercase entry.1, entry.2)) with
      | some found => rfl
      | none =>
          rw [hrest] at hlatest
          rw [get?_assign fun hname => hlatest value (by simp [hname])]
          split <;> rfl

theorem isTable_merge (htable : root.IsTable) (incoming : List (String × Setting)) :
    (root.merge incoming).IsTable := by
  induction incoming generalizing root with
  | nil => simpa [Setting.merge] using htable
  | cons entry rest ih =>
      obtain ⟨name, value⟩ := entry
      rw [Setting.merge]
      exact ih isTable_assign

/-! ## Laying over one setting -/

theorem at?_child_group (root : Setting) (name : String) :
    root.at? (.child Key.group name) = (root.get? "database").bind (·.get? name) := rfl

/-- It makes no difference whether an empty group is there or none. -/
theorem get?_getD {fallback : Setting} (hempty : fallback.entries = []) (found : Option Setting)
    (name : String) : (found.getD fallback).get? name = found.bind (·.get? name) := by
  cases found with
  | none => simp [get?, hempty]
  | some setting => rfl

theorem overlay_child_group (htable : root.IsTable) (name : String) (value : Setting) :
    root.overlay (.child Key.group name) value =
      root.put "database" (((root.get? "database").getD nil).asTable.assign name value) := by
  cases root with
  | table origin entries => rfl
  | _ => exact htable.elim

theorem spread_name (hplain : Key.name (lowercase name) ≠ Key.group ∨ ¬ value.IsTable) :
    Layer.spread (.name name, value) = [(.name (lowercase name), value)] := by
  cases value with
  | table origin entries =>
      rcases hplain with hname | hvalue
      · simp [Layer.spread, hname]
      · exact absurd trivial hvalue
  | _ => rfl

/-- Whatever is changed where a key leads to, the table changes at the beginning of the key. -/
theorem exists_changeAt_eq_put (htable : root.IsTable) (change : Setting → Setting) (key : Key) :
    ∃ stored, changeAt change root key = root.put key.head stored := by
  induction key generalizing change with
  | name own =>
      cases root with
      | table origin entries => exact ⟨_, rfl⟩
      | _ => exact htable.elim
  | child above name ih => exact ih _
  | item above index ih => exact ih _

/-- **An entry changes a table under one name only.** -/
theorem exists_overlay_eq_put (htable : root.IsTable) (entry : Key × Setting) :
    ∃ stored, root.overlay entry.1 entry.2 = root.put entry.1.top stored := by
  obtain ⟨key, value⟩ := entry
  cases key with
  | name own => exact exists_assign_eq_put root own value
  | child above name => exact exists_changeAt_eq_put htable _ above
  | item above index => exact exists_changeAt_eq_put htable _ above

theorem isTable_overlay (htable : root.IsTable) (entry : Key × Setting) :
    (root.overlay entry.1 entry.2).IsTable := by
  obtain ⟨stored, hstored⟩ := exists_overlay_eq_put htable entry
  rw [hstored]
  exact isTable_put _ _ _

theorem get?_overlay_of_ne (htable : root.IsTable) {entry : Key × Setting}
    (hne : other ≠ entry.1.top) : (root.overlay entry.1 entry.2).get? other = root.get? other := by
  obtain ⟨stored, hstored⟩ := exists_overlay_eq_put htable entry
  rw [hstored, get?_put, if_neg hne]

/-- A key that goes further than two parts puts something in the group under its second part. -/
theorem exists_changeAt_of_lead (htable : root.IsTable) (change : Setting → Setting)
    {inner : String} (hlead : key.lead = .child Key.group inner) :
    ∃ stored, changeAt change root key =
      root.put "database" (((root.get? "database").getD nil).asTable.put inner stored) := by
  induction key generalizing change with
  | name own => cases hlead
  | child above own ih =>
      cases above with
      | name head =>
          obtain ⟨hhead, rfl⟩ := Key.child.inj hlead
          obtain rfl := Key.name.inj hhead
          cases root with
          | table origin entries => exact ⟨_, rfl⟩
          | _ => exact htable.elim
      | child above' own' =>
          exact ih (fun setting =>
            setting.asTable.put own (change ((setting.asTable.get? own).getD nil))) hlead
      | item above' index => exact ih _ hlead
  | item above index ih =>
      cases above with
      | name head => cases hlead
      | child above' own' => exact ih _ hlead
      | item above' index' => exact ih _ hlead

/-! ## Laying over the group -/

/-- What an entry that leaves a field of the group clear does to the group: it keeps it as it is,
merges a table into it, gives it an entry, or puts something in it aside of the field. -/
inductive Regroups (name : String) (entry : Key × Setting) (before : Option Setting) :
    Option Setting → Prop where
  | kept : (∀ saying ∈ Layer.spread entry, saying.1 ≠ .child Key.group name) →
      Regroups name entry before before
  | merged {entries : List (String × Setting)} :
      Layer.spread entry =
        entries.map (fun inner => (.child Key.group (lowercase inner.1), inner.2)) →
          Regroups name entry before (some (merge (before.getD empty) entries))
  | assigned {inner : String} {value : Setting} :
      Layer.spread entry = [(.child Key.group (lowercase inner), value)] →
        Regroups name entry before (some ((before.getD nil).asTable.assign inner value))
  | aside {inner : String} {stored : Setting} : lowercase inner ≠ lowercase name →
      (∀ saying ∈ Layer.spread entry, saying.1 ≠ .child Key.group name) →
        Regroups name entry before (some ((before.getD nil).asTable.put inner stored))

theorem eq_head_of_lead {above : Key} {inner : String} (hlead : key.lead = .child above inner) :
    above = .name key.head := by
  induction key with
  | name own => cases hlead
  | child outer own ih =>
      cases outer with
      | name head => exact (Key.child.inj hlead).1.symm
      | _ => exact ih hlead
  | item outer index ih =>
      cases outer with
      | name head => cases hlead
      | _ => exact ih hlead

/-- A key that begins at the group and leaves a field there clear gives the second part of its own,
which is either all of it or not the name of the field. -/
theorem exists_lead_of_direct {given : Key} (hname : ∀ own, given ≠ .name own)
    (hdirect : Layer.direct (.child Key.group name) (given, value) = true) :
    ∃ inner, given.lead = .child (.name given.head) inner ∧
      (given = given.lead ∨ lowercase inner ≠ lowercase name) := by
  have hmatch : (match given.lead with
      | .child _ inner => given == given.lead || lowercase inner != lowercase name
      | _ => false) = true := by
    cases given with
    | name own => exact absurd rfl (hname own)
    | child above own => exact hdirect
    | item above index => exact hdirect
  split at hmatch
  · next above inner hlead =>
    have habove := eq_head_of_lead hlead
    subst habove
    simp only [Bool.or_eq_true, beq_iff_eq, bne_iff_ne] at hmatch
    exact ⟨inner, hlead, hmatch⟩
  · cases hmatch

/-- A key of more than two parts leads aside of the field. -/
theorem regroups_changeAt (htable : root.IsTable) {given above : Key}
    {change : Setting → Setting} (hoverlay : root.overlay given value = changeAt change root above)
    (hdirect : Layer.direct (.child Key.group name) (given, value) = true)
    (hhead : given.head = "database") (hlead : given.lead = above.lead)
    (hname : ∀ own, given ≠ .name own) (hchild : ∀ own inner, given ≠ .child (.name own) inner)
    (hsayings : ∀ saying ∈ Layer.spread (given, value), saying.1 ≠ .child Key.group name) :
    Regroups name (given, value) (root.get? "database")
      ((root.overlay given value).get? "database") := by
  obtain ⟨inner, hinner, hwhole | haside⟩ := exists_lead_of_direct hname hdirect
  · exact absurd (hwhole.trans hinner) (hchild _ _)
  · rw [hhead, hlead] at hinner
    obtain ⟨stored, hstored⟩ := exists_changeAt_of_lead htable change hinner
    rw [hoverlay, hstored, get?_put, if_pos rfl]
    exact .aside haside hsayings

theorem regroups_overlay (htable : root.IsTable) {entry : Key × Setting}
    (hclear : Layer.Clear (.child Key.group name) entry) :
    Regroups name entry (root.get? "database")
      ((root.overlay entry.1 entry.2).get? "database") := by
  by_cases htop : entry.1.top = "database"
  · have hdirect := hclear htop
    obtain ⟨given, value⟩ := entry
    cases given with
    | name own =>
        cases value with
        | table origin entries =>
            have hown : lowercase own = "database" := htop
            have hmerged : (root.overlay (.name own) (.table origin entries)).get? "database" =
                some (merge ((root.get? "database").getD empty) entries) := by
              rw [overlay, assign_table, hown, get?_put, if_pos rfl]
            rw [hmerged]
            exact .merged (if_pos (by rw [hown, Key.group]))
        | _ => cases hdirect
    | child above own =>
        cases above with
        | name head =>
            obtain rfl : head = "database" := htop
            have hassigned : (root.overlay (.child Key.group own) value).get? "database" =
                some (((root.get? "database").getD nil).asTable.assign own value) := by
              rw [overlay_child_group htable, get?_put, if_pos rfl]
            exact hassigned ▸ .assigned rfl
        | child _ _ | item _ _ =>
            exact regroups_changeAt htable rfl hdirect htop rfl (by simp) (by simp)
              (by simp [Layer.spread, Key.group])
    | item above index =>
        cases above with
        | name head =>
            obtain ⟨inner, hinner, -⟩ := exists_lead_of_direct (by simp) hdirect
            cases hinner
        | child _ _ | item _ _ =>
            exact regroups_changeAt htable rfl hdirect htop rfl (by simp) (by simp)
              (by simp [Layer.spread])
  · rw [get?_overlay_of_ne htable (Ne.symm htop)]
    refine .kept fun saying hsaying heq => htop ?_
    rw [← Layer.head_of_mem_spread hsaying, heq]
    rfl

theorem Regroups.isTable {before after : Option Setting} {entry : Key × Setting}
    (hregroups : Regroups name entry before after)
    (hbefore : ∀ group, before = some group → group.IsTable) {group : Setting}
    (hafter : after = some group) : group.IsTable := by
  cases hregroups with
  | kept => exact hbefore group hafter
  | merged =>
      obtain rfl := Option.some.inj hafter
      refine isTable_merge ?_ _
      cases before with
      | none => trivial
      | some found => exact hbefore found rfl
  | assigned =>
      obtain rfl := Option.some.inj hafter
      exact isTable_assign
  | aside =>
      obtain rfl := Option.some.inj hafter
      exact isTable_put _ _ _

/-! ## Laying over a field -/

/-- Two settings with the same entry at the beginning of a field's key have the same field. -/
theorem at?_congr {first second : Setting} (hkey : key.IsField)
    (hsame : first.get? key.head = second.get? key.head) : first.at? key = second.at? key := by
  cases key with
  | name own => exact hsame
  | child above own =>
      obtain rfl : above = Key.group := hkey
      have hgroup : first.get? "database" = second.get? "database" := hsame
      rw [at?_child_group, at?_child_group, hgroup]
  | item above index => exact hkey.elim

/-- What is said of an entry of the group within a table for it. -/
theorem latest_child_group (entries : List (String × Setting)) (name : String) :
    latest (.child Key.group name)
        (entries.map fun inner => (Key.child Key.group (lowercase inner.1), inner.2)) =
      latest name (entries.map fun inner => (lowercase inner.1, inner.2)) := by
  have hinjective : Function.Injective (Key.child Key.group) := fun _ _ heq => by simpa using heq
  rw [← latest_map hinjective, List.map_map]
  rfl

theorem at?_overlay_group (htable : root.IsTable) {entry : Key × Setting}
    (hclear : Layer.Clear (.child Key.group name) entry)
    (hlatest : ∀ value, latest (.child Key.group name) (Layer.spread entry) = some value →
      ¬ value.IsTable) :
    (root.overlay entry.1 entry.2).at? (.child Key.group name) =
      (latest (.child Key.group name) (Layer.spread entry)).or
        (root.at? (.child Key.group name)) := by
  rw [at?_child_group, at?_child_group]
  have hregroups := regroups_overlay htable hclear
  generalize (root.overlay entry.1 entry.2).get? "database" = after at hregroups ⊢
  cases hregroups with
  | kept hother => rw [latest_eq_none hother, Option.none_or]
  | merged hspread =>
      rw [hspread, latest_child_group] at hlatest ⊢
      rw [Option.bind_some, get?_merge hlatest, get?_getD rfl]
  | @assigned inner value hspread =>
      rw [hspread] at hlatest ⊢
      simp only [latest, Option.none_or, Key.child.injEq, true_and] at hlatest ⊢
      rw [Option.bind_some, get?_assign fun heq => hlatest value (by simp [heq]), get?_asTable,
        get?_getD rfl]
      split <;> rfl
  | @aside inner stored hinner hother =>
      have hname : name ≠ inner := by
        rintro rfl
        exact hinner rfl
      rw [latest_eq_none hother, Option.none_or, Option.bind_some, get?_put, if_neg hname,
        get?_asTable, get?_getD rfl]

/-- What a single entry says is found when it has been laid over, and all else as before. -/
theorem at?_overlay (htable : root.IsTable) {entry : Key × Setting} (hkey : key.IsField)
    (hclear : Layer.Clear key entry)
    (hlatest : ∀ value, latest key (Layer.spread entry) = some value → ¬ value.IsTable) :
    (root.overlay entry.1 entry.2).at? key =
      (latest key (Layer.spread entry)).or (root.at? key) := by
  by_cases htop : entry.1.top = key.head
  · have hdirect := hclear htop
    cases key with
    | name name =>
        obtain ⟨given, value⟩ := entry
        cases given with
        | name own =>
            obtain rfl : lowercase own = name := htop
            rw [spread_name (Or.inl hkey)] at hlatest ⊢
            simp only [latest, if_true, Option.none_or, Option.some.injEq, forall_eq'] at hlatest ⊢
            rw [overlay, at?, get?_assign fun _ => hlatest, if_pos rfl]
            rfl
        | _ => cases hdirect
    | child above name =>
        obtain rfl : above = Key.group := hkey
        exact at?_overlay_group htable hclear hlatest
    | item above index => exact hkey.elim
  · rw [Layer.latest_spread_of_ne htop, Option.none_or]
    exact at?_congr hkey (get?_overlay_of_ne htable (Ne.symm htop))

/-! ## Laying over a whole layer -/

theorem isTable_overlayAll (htable : root.IsTable) (layer : Layer) :
    (root.overlayAll layer).IsTable := by
  induction layer generalizing root with
  | nil => exact htable
  | cons entry rest ih => exact ih (isTable_overlay htable entry)

/-- **A layer replaces what it supplies of a field, and leaves the field as it was otherwise.** -/
theorem at?_overlayAll {layer : Layer} (htable : root.IsTable) (hkey : key.IsField)
    (hclear : ∀ entry ∈ layer, Layer.Clear key entry)
    (hsupplied : ∀ value, layer.supplied key = some value → ¬ value.IsTable) :
    (root.overlayAll layer).at? key = (layer.supplied key).or (root.at? key) := by
  induction layer generalizing root with
  | nil => simp [overlayAll, Layer.supplied, Layer.sayings, latest]
  | cons entry rest ih =>
      rw [List.forall_mem_cons] at hclear
      have hsplit : Layer.supplied (entry :: rest) key =
          (Layer.supplied rest key).or (latest key (Layer.spread entry)) := by
        rw [Layer.supplied, Layer.sayings, List.flatMap_cons, latest_append]
        rfl
      rw [hsplit] at hsupplied ⊢
      have hrest := ih (isTable_overlay htable entry) hclear.2 fun value hvalue =>
        hsupplied value (by simp [hvalue])
      rw [overlayAll, List.foldl_cons]
      refine hrest.trans ?_
      -- only where the later entries say nothing does this one matter
      cases hlater : Layer.supplied rest key with
      | some found => rfl
      | none =>
          rw [hlater] at hsupplied
          exact at?_overlay htable hkey hclear.1 fun value hvalue =>
            hsupplied value (by simp [hvalue])

end Setting

end HourlyIngest
