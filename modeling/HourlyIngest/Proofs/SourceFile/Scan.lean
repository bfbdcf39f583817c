import HourlyIngest.Proofs.FileSystem.Directory
import HourlyIngest.Sweep
import Mathlib.Data.List.Basic

/-!
# What a scan lists

A scan lists each regular file with the ending, once, under a path made of the directory and the
name of the file (`perm_of_scan`, `nodup_of_scan`).  When a listed file has been removed, a new scan
lists the others, which can be read and removed as before (`scan_of_remove`).
-/

namespace HourlyIngest

open Text

variable {fs : FileSystem} {directory : Path} {place : Location} {files : List SourceFile}
  {file : SourceFile}

/-! ## Source files and children -/

namespace SourceFile

/-- No name with the ending of source files is one that has a meaning of its own in paths. -/
theorem proper_of_isCsvName {name : Bytes} (hname : isCsvName (lossy name) = true)
    (hslash : Path.slash ∉ name) : FileSystem.Proper name where
  slash_notMem := hslash
  not_silent := by
    have hempty : isCsvName (lossy []) = false := by decide +kernel
    have hdot : isCsvName (lossy Path.dot) = false := by decide +kernel
    have hne : name ≠ [] := by
      rintro rfl
      rw [hempty] at hname
      cases hname
    have hsingle : name ≠ Path.dot := by
      rintro rfl
      rw [hdot] at hname
      cases hname
    simp [Path.isSilent, hne, hsingle]
  ne_dotDot := by
    have hdots : isCsvName (lossy Path.dotDot) = false := by decide +kernel
    rintro rfl
    rw [hdots] at hname
    cases hname

theorem ofChild?_eq_some_iff {child : Bytes × Node} :
    ofChild? directory child = some file ↔
      ∃ bytes, child.2 = .file bytes ∧ isCsvName (lossy child.1) = true ∧
        file = ofPath (Path.join directory child.1) := by
  obtain ⟨name, node⟩ := child
  cases node with
  | file bytes =>
      rw [ofChild?, Option.ite_none_right_eq_some, Option.some.injEq]
      constructor
      · rintro ⟨hcsv, hfile⟩
        exact ⟨bytes, rfl, hcsv, hfile.symm⟩
      · rintro ⟨-, -, hcsv, hfile⟩
        exact ⟨hcsv, hfile.symm⟩
  | directory => simp [ofChild?]
  | link target => simp [ofChild?]

end SourceFile

/-! ## Scans -/

theorem scan_eq_ok_iff :
    scan fs directory = .ok files ↔
      ∃ place, fs.lookup .node directory = .ok (place, .directory) ∧
        files =
          SourceFile.sort ((fs.children place).filterMap (SourceFile.ofChild? directory)) := by
  unfold scan
  split
  · next place hlookup => simp [hlookup, eq_comm]
  · next hother =>
    constructor
    · intro hscan
      cases hscan
    · rintro ⟨place, hlookup, -⟩
      exact absurd hlookup (hother place)

/-- Up to their order, the listed files are those that the children of the directory are. -/
theorem perm_of_scan (hscan : scan fs directory = .ok files)
    (hlookup : fs.lookup .node directory = .ok (place, .directory)) :
    files.Perm ((fs.children place).filterMap (SourceFile.ofChild? directory)) := by
  obtain ⟨place', hlookup', rfl⟩ := scan_eq_ok_iff.mp hscan
  obtain rfl : place = place' := by simpa [hlookup] using hlookup'
  exact List.mergeSort_perm _ _

/-- Children that are the same source file have the same name. -/
theorem FileSystem.Sound.name_eq_of_ofChild? (hsound : fs.Sound) (hdirectory : directory ≠ [])
    {child other : Bytes × Node} (hchild : child ∈ fs.children place)
    (hother : other ∈ fs.children place)
    (hfile : SourceFile.ofChild? directory child = some file)
    (hsame : SourceFile.ofChild? directory other = some file) : child.1 = other.1 := by
  obtain ⟨-, -, -, rfl⟩ := SourceFile.ofChild?_eq_some_iff.mp hfile
  obtain ⟨-, -, -, hpath⟩ := SourceFile.ofChild?_eq_some_iff.mp hsame
  exact Path.join_injective hdirectory (hsound.slash_notMem hchild) (hsound.slash_notMem hother)
    (congrArg SourceFile.path hpath)

/-- No file is listed twice. -/
theorem nodup_of_scan (hsound : fs.Sound) (hscan : scan fs directory = .ok files) :
    files.Nodup := by
  obtain ⟨place, hlookup, -⟩ := scan_eq_ok_iff.mp hscan
  have hdirectory := FileSystem.ne_nil_of_lookup hlookup
  refine (perm_of_scan hscan hlookup).nodup_iff.mpr ?_
  have hnodup := hsound.nodup_children place
  rw [List.Nodup, List.pairwise_map] at hnodup
  refine (hnodup.imp_of_mem ?_).filterMap _ fun _ _ hne => hne
  intro child other hchild hother hne file hfile file' hfile' heq
  subst heq
  exact hne (hsound.name_eq_of_ofChild? hdirectory hchild hother hfile hfile')

/-- What the path of a listed file is made of. -/
theorem child_of_mem_scan (hsound : fs.Sound) (hscan : scan fs directory = .ok files)
    (hlookup : fs.lookup .node directory = .ok (place, .directory)) (hfile : file ∈ files) :
    ∃ name bytes, (name, .file bytes) ∈ fs.children place ∧ FileSystem.Proper name ∧
      SourceFile.ofChild? directory (name, .file bytes) = some file ∧
      file.path = Path.join directory name := by
  obtain ⟨⟨name, node⟩, hchild, hof⟩ :=
    List.mem_filterMap.mp ((perm_of_scan hscan hlookup).mem_iff.mp hfile)
  obtain ⟨bytes, rfl, hcsv, hpath⟩ := SourceFile.ofChild?_eq_some_iff.mp hof
  exact ⟨name, bytes, hchild, SourceFile.proper_of_isCsvName hcsv (hsound.slash_notMem hchild), hof,
    congrArg SourceFile.path hpath⟩

/-! ## Reading and removing listed files -/

/-- A file for which there is nothing to be said against a removal. -/
def Removable (fs : FileSystem) (file : SourceFile) : Prop :=
  ∃ after, fs.remove file.path = .ok after

section Listed

variable (hsound : fs.Sound) (hlookup : fs.lookup .node directory = .ok (place, .directory))

include hsound hlookup

section Other

variable {name other bytes gone : Bytes} (hname : FileSystem.Proper name)
  (hchild : (name, .file bytes) ∈ fs.children place)
  (hother : (other, .file gone) ∈ fs.children place) (hne : name ≠ other)

include hname hchild hother hne

/-- A file of the directory reads the same when another child has gone. -/
theorem ofPath_erase :
    Contents.ofPath (fs.erase (place ++ [other])) (Path.join directory name) =
      Contents.ofPath fs (Path.join directory name) := by
  have hnode := hsound.node?_of_mem_children hchild
  have hgone := hsound.node?_of_mem_children hother
  have hstays : (fs.erase (place ++ [other])).node? (place ++ [name]) = some (.file bytes) := by
    rw [FileSystem.node?_erase_of_ne (by simpa using hne), hnode]
  have hread := FileSystem.read_join (FileSystem.lookup_erase hlookup hgone) hname hstays
  rw [Contents.ofPath, Contents.ofPath, hread, FileSystem.read_join hlookup hname hnode,
    FileSystem.forbids?_erase]

/-- Nor does it matter for a removal. -/
theorem exists_remove_erase_iff :
    (∃ after, (fs.erase (place ++ [other])).remove (Path.join directory name) = .ok after) ↔
      ∃ after, fs.remove (Path.join directory name) = .ok after := by
  have hnode := hsound.node?_of_mem_children hchild
  have hgone := hsound.node?_of_mem_children hother
  have hstays : (fs.erase (place ++ [other])).node? (place ++ [name]) = some (.file bytes) := by
    rw [FileSystem.node?_erase_of_ne (by simpa using hne), hnode]
  have hafter := FileSystem.lookup_erase hlookup hgone
  simp only [FileSystem.remove_join_eq_ok_iff hafter hname hstays,
    FileSystem.remove_join_eq_ok_iff hlookup hname hnode, FileSystem.forbids?_erase,
    exists_and_left, exists_eq]

end Other

/-- When one child has gone, a scan lists the other files. -/
theorem scan_erase {name bytes : Bytes} (hscan : scan fs directory = .ok files)
    (hchild : (name, .file bytes) ∈ fs.children place)
    (hfile : SourceFile.ofChild? directory (name, .file bytes) = some file) :
    ∃ left, scan (fs.erase (place ++ [name])) directory = .ok left ∧
      left.Perm (files.filter (· ≠ file)) := by
  have hdirectory := FileSystem.ne_nil_of_lookup hlookup
  have hafter := FileSystem.lookup_erase hlookup (hsound.node?_of_mem_children hchild)
  refine ⟨_, scan_eq_ok_iff.mpr ⟨place, hafter, rfl⟩, (List.mergeSort_perm _ _).trans ?_⟩
  refine List.Perm.trans ?_ ((perm_of_scan hscan hlookup).filter _).symm
  rw [FileSystem.children_erase, List.filterMap_filter, List.filter_filterMap]
  refine .of_eq (List.filterMap_congr fun child hmem => ?_)
  -- the child with the name is the file, and no other child is
  cases hof : SourceFile.ofChild? directory child with
  | none => simp
  | some other =>
      by_cases hname : child.1 = name
      · have hsame : other = file := by
          obtain ⟨-, -, -, rfl⟩ := SourceFile.ofChild?_eq_some_iff.mp hof
          obtain ⟨-, -, -, rfl⟩ := SourceFile.ofChild?_eq_some_iff.mp hfile
          rw [hname]
        simp [hname, hsame, Option.filter]
      · have hother : other ≠ file := by
          rintro rfl
          exact hname (hsound.name_eq_of_ofChild? hdirectory hmem hchild hof hfile)
        simp [hname, hother, Option.filter]

end Listed

/-- When a listed file has been removed, a scan lists the other files, and they can be read and
removed as before. -/
theorem scan_of_remove (hsound : fs.Sound) (hscan : scan fs directory = .ok files)
    (hfile : file ∈ files) {after : FileSystem} (hremove : fs.remove file.path = .ok after) :
    after.Sound ∧ ∃ left, scan after directory = .ok left ∧
      left.Perm (files.filter (· ≠ file)) ∧
      ∀ other ∈ files, other ≠ file →
        Contents.ofPath after other.path = Contents.ofPath fs other.path ∧
          (Removable after other ↔ Removable fs other) := by
  obtain ⟨place, hlookup, -⟩ := scan_eq_ok_iff.mp hscan
  obtain ⟨name, bytes, hchild, hname, hof, hpath⟩ :=
    child_of_mem_scan hsound hscan hlookup hfile
  have hnode := hsound.node?_of_mem_children hchild
  rw [hpath] at hremove
  obtain ⟨-, -, rfl⟩ := (FileSystem.remove_join_eq_ok_iff hlookup hname hnode).mp hremove
  obtain ⟨left, hleft, hperm⟩ := scan_erase hsound hlookup hscan hchild hof
  refine ⟨hsound.erase _, left, hleft, hperm, fun other hother hne => ?_⟩
  obtain ⟨name', bytes', hchild', hname', hof', hpath'⟩ :=
    child_of_mem_scan hsound hscan hlookup hother
  have hnames : name' ≠ name := by
    rintro rfl
    obtain ⟨-, -, -, rfl⟩ := SourceFile.ofChild?_eq_some_iff.mp hof
    obtain ⟨-, -, -, rfl⟩ := SourceFile.ofChild?_eq_some_iff.mp hof'
    exact hne rfl
  rw [Removable, Removable, hpath']
  exact ⟨ofPath_erase hsound hlookup hname' hchild' hchild hnames,
    exists_remove_erase_iff hsound hlookup hname' hchild' hchild hnames⟩


/-- Removals succeed in a directory: a source file in it that can be read can be removed. -/
def Clearable (fs : FileSystem) (directory : Path) : Prop :=
  ∀ files, scan fs directory = .ok files → ∀ file ∈ files, ∀ contents,
    Contents.ofPath fs file.path = .ok contents → Removable fs file

/-- Removals succeed where none is forbidden. -/
theorem clearable_of_forbids?_eq_none (hsound : fs.Sound)
    (hnone : ∀ place, fs.forbids? .remove place = none) (directory : Path) :
    Clearable fs directory := by
  intro files hscan file hfile contents hread
  obtain ⟨place, hlookup, -⟩ := scan_eq_ok_iff.mp hscan
  obtain ⟨name, bytes, hchild, hname, -, hpath⟩ := child_of_mem_scan hsound hscan hlookup hfile
  have hnode := hsound.node?_of_mem_children hchild
  -- a path that could be opened for reading can be opened for a removal
  have hfault : FileSystem.joinFault? directory name = none := by
    rw [hpath, Contents.ofPath, FileSystem.read_join hlookup hname hnode] at hread
    cases hfault : FileSystem.joinFault? directory name with
    | none => rfl
    | some fault => simp [hfault] at hread
  rw [Removable, hpath]
  exact ⟨_, (FileSystem.remove_join_eq_ok_iff hlookup hname hnode).mpr ⟨hfault, hnone _, rfl⟩⟩

end HourlyIngest
