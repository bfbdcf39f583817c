import HourlyIngest.Proofs.Association
import HourlyIngest.Proofs.FileSystem.Join
import HourlyIngest.Proofs.FileSystem.Walk

/-!
# The files of a directory

Under its directory's path and its name, a regular file is found where it stands (`locate_join`), so
that reading it and removing it mean the same entry (`read_join`, `remove_join_eq_ok_iff`).  Whether
such a path can be opened at all is a matter of its length and of zero bytes (`joinFault?`), not of
the file system.  What a directory is
and what it lists does not change when a file goes, but for the file (`lookup_erase`,
`children_erase`).
-/

namespace HourlyIngest.FileSystem

open Text

/-! ## What every file system has -/

/-- One entry a place, and names without slashes. -/
structure Sound (fs : FileSystem) : Prop where
  nodup : (fs.entries.map Prod.fst).Nodup
  named : ∀ entry ∈ fs.entries, ∀ name ∈ entry.1, Path.slash ∉ name

/-- A name that means something below its directory and nothing else. -/
structure Proper (name : Bytes) : Prop where
  slash_notMem : Path.slash ∉ name
  not_silent : Path.isSilent name = false
  ne_dotDot : name ≠ Path.dotDot

variable {fs : FileSystem} {purpose : Purpose} {directory : Path} {place : Location}
  {name bytes : Bytes} {node : Node}

theorem Proper.ne_nil (hname : Proper name) : name ≠ [] := by
  rintro rfl
  exact absurd hname.not_silent (by decide)

theorem Proper.ne_dot (hname : Proper name) : name ≠ Path.dot := by
  rintro rfl
  exact absurd hname.not_silent (by decide)

theorem Sound.erase (hsound : fs.Sound) (gone : Location) : (fs.erase gone).Sound where
  nodup := hsound.nodup.sublist (List.filter_sublist.map Prod.fst)
  named := fun entry hentry => hsound.named entry (List.mem_filter.mp hentry).1

/-! ## Children -/

theorem mem_children_iff :
    (name, node) ∈ fs.children place ↔ (place ++ [name], node) ∈ fs.entries := by
  unfold children
  rw [List.mem_filterMap]
  constructor
  · rintro ⟨⟨there, found⟩, hentry, hchild⟩
    cases hlast : there.getLast? with
    | none => simp [hlast] at hchild
    | some last =>
        simp only [hlast, Option.ite_none_right_eq_some, Option.some.injEq, Prod.mk.injEq] at hchild
        obtain ⟨rfl, rfl, rfl⟩ := hchild
        obtain ⟨front, rfl⟩ := List.getLast?_eq_some_iff.mp hlast
        simpa using hentry
  · intro hentry
    exact ⟨_, hentry, by simp⟩

/-- In a sound file system an entry is what stands at its place. -/
theorem Sound.node?_of_mem (hsound : fs.Sound) (hplace : place ≠ [])
    (hentry : (place, node) ∈ fs.entries) : fs.node? place = some node := by
  rw [node?, if_neg hplace]
  exact find?_of_mem hsound.nodup hentry

theorem Sound.node?_eq_some_iff (hsound : fs.Sound) (hplace : place ≠ []) :
    fs.node? place = some node ↔ (place, node) ∈ fs.entries := by
  refine ⟨fun hnode => ?_, hsound.node?_of_mem hplace⟩
  rw [node?, if_neg hplace, Option.map_eq_some_iff] at hnode
  obtain ⟨⟨there, found⟩, hfind, rfl⟩ := hnode
  obtain rfl : there = place := by simpa using List.find?_some hfind
  exact List.mem_of_find?_eq_some hfind

theorem Sound.node?_of_mem_children (hsound : fs.Sound)
    (hchild : (name, node) ∈ fs.children place) :
    fs.node? (place ++ [name]) = some node :=
  hsound.node?_of_mem (by simp) (mem_children_iff.mp hchild)

theorem Sound.slash_notMem (hsound : fs.Sound) (hchild : (name, node) ∈ fs.children place) :
    Path.slash ∉ name :=
  hsound.named _ (mem_children_iff.mp hchild) name (by simp)

/-- No two children of a directory have the same name. -/
theorem Sound.nodup_children (hsound : fs.Sound) (place : Location) :
    ((fs.children place).map Prod.fst).Nodup := by
  have hnodup := hsound.nodup
  -- the place of a child is the directory's and its name, so equal names are equal places
  obtain ⟨child?, hchildren, hback⟩ : ∃ child? : Location × Node → Option (Bytes × Node),
      fs.children place = fs.entries.filterMap child? ∧
        ∀ entry child, child? entry = some child → entry.1 = place ++ [child.1] := by
    refine ⟨_, rfl, ?_⟩
    rintro ⟨there, found⟩ child hfound
    cases hlast : there.getLast? with
    | none => simp [hlast] at hfound
    | some last =>
        obtain ⟨front, rfl⟩ := List.getLast?_eq_some_iff.mp hlast
        simp only [hlast, Option.ite_none_right_eq_some, Option.some.injEq] at hfound
        obtain ⟨rfl, rfl⟩ := hfound
        simp
  rw [hchildren, List.Nodup, List.pairwise_map]
  rw [List.Nodup, List.pairwise_map] at hnodup
  refine hnodup.filterMap _ ?_
  intro entry other hne child hchild child' hchild' hname
  exact hne (by rw [hback _ _ hchild, hback _ _ hchild', hname])

/-- A removal below a directory takes one child away. -/
theorem children_erase (fs : FileSystem) (place : Location) (name : Bytes) :
    (fs.erase (place ++ [name])).children place =
      (fs.children place).filter (·.1 != name) := by
  unfold children erase
  rw [List.filterMap_filter, List.filter_filterMap]
  congr 1
  funext entry
  cases hlast : entry.1.getLast? with
  | none =>
      have hroot : entry.1 = [] := List.getLast?_eq_none_iff.mp hlast
      simp [hroot]
  | some last =>
      obtain ⟨front, hfront⟩ := List.getLast?_eq_some_iff.mp hlast
      by_cases hplace : front = place
      · subst hplace
        by_cases hname : last = name
        · simp [hfront, hname, Option.filter]
        · simp [hfront, hname, Option.filter]
      · simp [hfront, hplace]

/-! ## The path of a child -/

/-- What keeps a path from being opened whatever the file system holds: it has a zero byte, or it or
its last name is too long. -/
def joinFault? (directory : Path) (name : Bytes) : Option IoFault :=
  if (Path.join directory name).contains 0 then some .nulInPath
  else if maxPath < (Path.join directory name).length then some .nameTooLong
  else if maxName < name.length then some .nameTooLong
  else none

theorem ne_nil_of_lookup (hlookup : fs.lookup purpose directory = .ok (place, node)) :
    directory ≠ [] := by
  have hempty := (locate_eq_ok_iff.mp (lookup_eq_ok_iff.mp hlookup).1).2.1
  rintro rfl
  simp at hempty

/-- The walk that finds a directory, without a slash at its end. -/
theorem walks_of_lookup (hlookup : fs.lookup .node directory = .ok (place, node)) :
    Walks fs .node maxLinks (fs.startOf directory) (Path.names directory) place := by
  obtain ⟨-, -, -, hwalks⟩ := locate_eq_ok_iff.mp (lookup_eq_ok_iff.mp hlookup).1
  rw [if_neg (by decide), Path.segments] at hwalks
  split at hwalks
  · exact hwalks.trim
  · exact hwalks

/-- The path of a file in a directory leads to the file, unless it cannot be opened at all. -/
theorem locate_join (hlookup : fs.lookup .node directory = .ok (place, .directory))
    (hname : Proper name) (hnode : fs.node? (place ++ [name]) = some (.file bytes))
    (hpurpose : purpose ≠ .file) :
    fs.locate purpose (Path.join directory name) =
      match joinFault? directory name with
      | some fault => .error fault
      | none => .ok (place ++ [name]) := by
  have hdirectory : directory ≠ [] := ne_nil_of_lookup hlookup
  have hplace : fs.node? place = some .directory := (lookup_eq_ok_iff.mp hlookup).2
  have hnames := Path.names_join hdirectory hname.slash_notMem hname.ne_nil
  have hsegments := Path.segments_join hdirectory hname.slash_notMem hname.ne_nil
  -- a regular file is no link, so it does not matter how many links the walk has used up
  have hlast : ∀ fewer, fs.walk purpose fewer place [name] =
      if maxName < name.length then .error .nameTooLong else .ok (place ++ [name]) := by
    intro fewer
    by_cases hlength : maxName < name.length
    · simp [walk_cons, hplace, hpurpose, hname.not_silent, hname.ne_dotDot, hlength]
    · rw [if_neg hlength, walk_down hplace (fun h => absurd h hpurpose)
        ⟨hname.not_silent, hname.ne_dotDot, Nat.not_lt.mp hlength⟩ (by simp [hnode]), walk_nil]
  have hwalk := (walks_of_lookup hlookup).walk_append hpurpose (List.cons_ne_nil name []) hlast
  have hne : (Path.join directory name).isEmpty = false := by
    simpa using Path.join_ne_nil hdirectory hname.slash_notMem hname.ne_nil
  have hstart : fs.startOf (Path.join directory name) = fs.startOf directory := by
    rw [startOf, Path.isAbsolute_join hdirectory hname.slash_notMem, startOf]
  rw [locate, hne, hstart, hsegments, hnames, ite_self, hwalk, joinFault?]
  simp only [Bool.false_eq_true, if_false]
  split
  · rfl
  split
  · rfl
  split <;> rfl

section Child

variable (hlookup : fs.lookup .node directory = .ok (place, .directory)) (hname : Proper name)
  (hnode : fs.node? (place ++ [name]) = some (.file bytes))

include hlookup hname hnode

/-- Reading a file of a directory gives its bytes, unless its path cannot be opened or reading is
forbidden. -/
theorem read_join :
    fs.read (Path.join directory name) =
      match joinFault? directory name <|> fs.forbids? .read (place ++ [name]) with
      | some fault => .error fault
      | none => .ok (some bytes) := by
  rw [read, lookup, locate_join hlookup hname hnode (by decide)]
  cases joinFault? directory name with
  | some fault => rfl
  | none => cases hforbids : fs.forbids? .read (place ++ [name]) <;> simp [hnode, hforbids]

/-- A file of a directory is removed unless its path cannot be opened or removing is forbidden. -/
theorem remove_join_eq_ok_iff {files : FileSystem} :
    fs.remove (Path.join directory name) = .ok files ↔
      joinFault? directory name = none ∧ fs.forbids? .remove (place ++ [name]) = none ∧
        files = fs.erase (place ++ [name]) := by
  have hpurpose : Purpose.entry ≠ .file := by decide
  have hlocate := locate_join hlookup hname hnode hpurpose
  rw [remove_eq_ok_iff]
  constructor
  · rintro ⟨there, node, hfound, -, -, hforbids, rfl⟩
    have hthere := (lookup_eq_ok_iff.mp hfound).1
    rw [hlocate] at hthere
    split at hthere
    · cases hthere
    · next hfault =>
      obtain rfl := Except.ok.inj hthere
      exact ⟨hfault, hforbids, rfl⟩
  · rintro ⟨hfault, hforbids, rfl⟩
    rw [hfault] at hlocate
    exact ⟨_, _, lookup_eq_ok_iff.mpr ⟨hlocate, hnode⟩, by simp,
      Path.endsInSlash_join (ne_nil_of_lookup hlookup) hname.slash_notMem hname.ne_nil, hforbids,
      rfl⟩

end Child

/-- A directory is found as before when a regular file has gone. -/
theorem lookup_erase (hlookup : fs.lookup .node directory = .ok (place, .directory))
    {gone : Location} (hgone : fs.node? gone = some (.file bytes)) :
    (fs.erase gone).lookup .node directory = .ok (place, .directory) := by
  obtain ⟨hlocate, hplace⟩ := lookup_eq_ok_iff.mp hlookup
  have hne : place ≠ gone := by
    rintro rfl
    simp [hplace] at hgone
  refine lookup_eq_ok_iff.mpr ⟨?_, (node?_erase_of_ne hne).trans hplace⟩
  obtain ⟨hzero, hempty, hlength, hwalks⟩ := locate_eq_ok_iff.mp hlocate
  exact locate_eq_ok_iff.mpr ⟨hzero, hempty, hlength, hwalks.erase hgone⟩

end HourlyIngest.FileSystem
