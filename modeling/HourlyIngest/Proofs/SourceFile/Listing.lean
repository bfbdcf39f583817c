import HourlyIngest.Proofs.FileSystem.Enumeration
import HourlyIngest.Proofs.FileSystem.Order
import HourlyIngest.Proofs.SourceFile.Scan
import HourlyIngest.Proofs.Text.Suffix
import HourlyIngest.Proofs.Text.Utf8

/-!
# Which list a scan gives

A scan takes the names of the regular files that end as source files do (`mem_csvNames_iff`), and
puts the files in strictly ascending order (`pairwise_below_ascending`): where names decode to the
same text the paths tell them apart, so no two files of a directory compare equal
(`SourceFile.eq_of_compare_child`).  There is one such list (`Listing.unique`), and it depends on
what stands in the directory and not on the order in which the directory is enumerated
(`scan_gives_listing`).
-/

namespace HourlyIngest

open Text

/-! ## The ending -/

namespace SourceFile

/-- The name ends as those of source files do, the case of the letters aside. -/
def HasEnding (name : String) : Prop :=
  ∃ tail, tail <:+ name.toList ∧ equalAsciiCase tail ending = true

/-- In lower case a name has the ending exactly if it had it before in some case. -/
theorem isCsvName_eq_true_iff {name : String} : isCsvName name = true ↔ HasEnding name := by
  have hsecluded : ∀ x ∈ ending, Secluded x := by simp [ending, Secluded]
  have hlower : ending.map lowerAscii = ending := by decide
  rw [isCsvName, List.isSuffixOf_iff_suffix, lowercase, String.toList_ofList,
    suffix_lowercaseAfter_iff hsecluded]
  simp only [HasEnding, equalAsciiCase, beq_iff_eq, hlower]

/-! ## The order of source files -/

/-- The strict order of source files, by the bytes of their names and then by the components of
their paths. -/
def Below (a b : SourceFile) : Prop :=
  encode a.name < encode b.name ∨
    a.name = b.name ∧
      Path.compareComponents (Path.components a.path) (Path.components b.path) = .lt

theorem compare_eq :
    SourceFile.compare =
      compareLex (compareOn fun file => encode file.name)
        (compareOn fun file => Path.components file.path) := by
  funext a b
  rw [SourceFile.compare, compareLex, compareOn, compareOn, ← Path.compareBytes_eq_compare,
    ← Path.compareComponents_eq_compare]
  cases Path.compareBytes (encode a.name) (encode b.name) <;> rfl

instance : Std.TransCmp SourceFile.compare := by
  rw [compare_eq]
  infer_instance

theorem compare_eq_lt_iff {a b : SourceFile} : SourceFile.compare a b = .lt ↔ Below a b := by
  rw [compare_eq, compareLex, Ordering.then_eq_lt, compareOn, compareOn,
    ← Path.compareBytes_eq_compare, ← Path.compareComponents_eq_compare,
    Path.compareBytes_eq_lt_iff, Path.compareBytes_eq_compare, Std.compare_eq_iff_eq,
    encode_injective.eq_iff, Below]

theorem precedes_eq_isLE (a b : SourceFile) : precedes a b = (SourceFile.compare a b).isLE := by
  rw [precedes]
  cases SourceFile.compare a b <;> rfl

theorem precedes_trans (a b c : SourceFile) (hab : precedes a b = true)
    (hbc : precedes b c = true) : precedes a c = true := by
  rw [precedes_eq_isLE] at hab hbc ⊢
  exact Std.TransCmp.isLE_trans hab hbc

theorem precedes_total (a b : SourceFile) : (precedes a b || precedes b a) = true := by
  have hswap : SourceFile.compare b a = (SourceFile.compare a b).swap := Std.OrientedCmp.eq_swap
  rw [precedes_eq_isLE, precedes_eq_isLE, hswap]
  cases SourceFile.compare a b <;> rfl

theorem pairwise_sort (files : List SourceFile) :
    (sort files).Pairwise fun a b => precedes a b = true :=
  List.pairwise_mergeSort precedes_trans precedes_total files

theorem Below.asymm {a b : SourceFile} (hbelow : Below a b) : ¬ Below b a := by
  rw [← compare_eq_lt_iff] at hbelow ⊢
  exact Std.OrientedCmp.not_lt_of_lt hbelow

/-- The source file that a name in a directory stands for. -/
def child (directory : Path) (name : Bytes) : SourceFile :=
  ⟨lossy name, Path.join directory name⟩

variable {directory : Path} {name other : Bytes}

theorem ofPath_join (hdirectory : directory ≠ []) (hname : FileSystem.Proper name) :
    ofPath (Path.join directory name) = child directory name := by
  rw [ofPath, Path.fileName?_join hdirectory hname.slash_notMem hname.ne_nil hname.ne_dot
    hname.ne_dotDot]
  rfl

/-- No two files of a directory compare equal, though their names may have the same text. -/
theorem eq_of_compare_child (hdirectory : directory ≠ []) (hname : FileSystem.Proper name)
    (hother : FileSystem.Proper other)
    (heq : SourceFile.compare (child directory name) (child directory other) = .eq) :
    name = other := by
  rw [compare_eq, compareLex_eq_eq] at heq
  have hcomponents : Path.components (Path.join directory name) =
      Path.components (Path.join directory other) := Std.compare_eq_iff_eq.mp heq.2
  rw [Path.components_join hdirectory hname.slash_notMem hname.ne_nil hname.ne_dot
      hname.ne_dotDot,
    Path.components_join hdirectory hother.slash_notMem hother.ne_nil hother.ne_dot
      hother.ne_dotDot] at hcomponents
  simpa using hcomponents

end SourceFile

variable {fs other : FileSystem} {directory : Path} {place : Location} {names : List Bytes}

/-! ## Names in ascending order -/

/-- The names of a directory in the order of the files that they stand for. -/
def ascending (directory : Path) (names : List Bytes) : List Bytes :=
  names.mergeSort fun a b =>
    SourceFile.precedes (SourceFile.child directory a) (SourceFile.child directory b)

theorem map_child_ascending (directory : Path) (names : List Bytes) :
    (ascending directory names).map (SourceFile.child directory) =
      SourceFile.sort (names.map (SourceFile.child directory)) :=
  List.map_mergeSort fun _ _ _ _ => rfl

theorem ascending_perm (directory : Path) (names : List Bytes) :
    (ascending directory names).Perm names :=
  List.mergeSort_perm _ _

theorem pairwise_ascending (directory : Path) (names : List Bytes) :
    (ascending directory names).Pairwise fun a b =>
      SourceFile.precedes (SourceFile.child directory a) (SourceFile.child directory b) = true := by
  have hsorted := SourceFile.pairwise_sort (names.map (SourceFile.child directory))
  rwa [← map_child_ascending, List.pairwise_map] at hsorted

theorem pairwise_below_ascending (hdirectory : directory ≠ [])
    (hnames : ∀ name ∈ names, FileSystem.Proper name) (hnodup : names.Nodup) :
    ((ascending directory names).map (SourceFile.child directory)).Pairwise SourceFile.Below := by
  have hperm := ascending_perm directory names
  rw [List.pairwise_map]
  refine ((pairwise_ascending directory names).and (hperm.nodup_iff.mpr hnodup)).imp_of_mem ?_
  rintro a b ha hb ⟨hle, hne⟩
  rw [SourceFile.precedes_eq_isLE, Ordering.isLE_iff_eq_lt_or_eq_eq] at hle
  rcases hle with hlt | heq
  · exact SourceFile.compare_eq_lt_iff.mp hlt
  · exact absurd (SourceFile.eq_of_compare_child hdirectory (hnames a (hperm.mem_iff.mp ha))
      (hnames b (hperm.mem_iff.mp hb)) heq) hne

/-! ## Scans -/

/-- The names of the source files in a directory, as the directory is enumerated. -/
def csvNames (fs : FileSystem) (directory : Path) (place : Location) : List Bytes :=
  ((fs.children place).filter fun child =>
    (SourceFile.ofChild? directory child).isSome).map Prod.fst

section Names

variable {name : Bytes}

theorem mem_csvNames_iff (hsound : fs.Sound) :
    name ∈ csvNames fs directory place ↔
      SourceFile.HasEnding (lossy name) ∧
        ∃ bytes, fs.node? (place ++ [name]) = some (.file bytes) := by
  rw [csvNames, List.mem_map]
  constructor
  · rintro ⟨⟨name, node⟩, hmem, rfl⟩
    rw [List.mem_filter, Option.isSome_iff_exists] at hmem
    obtain ⟨hchild, file, hfile⟩ := hmem
    obtain ⟨bytes, rfl, hcsv, -⟩ := SourceFile.ofChild?_eq_some_iff.mp hfile
    exact ⟨SourceFile.isCsvName_eq_true_iff.mp hcsv, bytes, hsound.node?_of_mem_children hchild⟩
  · rintro ⟨hending, bytes, hnode⟩
    have hchild : (name, .file bytes) ∈ fs.children place :=
      FileSystem.mem_children_iff.mpr ((hsound.node?_eq_some_iff (by simp)).mp hnode)
    refine ⟨(name, .file bytes), List.mem_filter.mpr ⟨hchild, ?_⟩, rfl⟩
    exact Option.isSome_iff_exists.mpr ⟨_, SourceFile.ofChild?_eq_some_iff.mpr
      ⟨bytes, rfl, SourceFile.isCsvName_eq_true_iff.mpr hending, rfl⟩⟩

theorem nodup_csvNames (hsound : fs.Sound) (directory : Path) (place : Location) :
    (csvNames fs directory place).Nodup :=
  (hsound.nodup_children place).sublist (List.filter_sublist.map Prod.fst)

theorem proper_of_mem_csvNames (hsound : fs.Sound) (hname : name ∈ csvNames fs directory place) :
    FileSystem.Proper name := by
  obtain ⟨hending, bytes, hnode⟩ := (mem_csvNames_iff hsound).mp hname
  have hchild := (hsound.node?_eq_some_iff (by simp)).mp hnode
  exact SourceFile.proper_of_isCsvName (SourceFile.isCsvName_eq_true_iff.mpr hending)
    (hsound.named _ hchild name (by simp))

end Names

/-- A scan sorts these names. -/
theorem scan_eq (hsound : fs.Sound)
    (hlookup : fs.lookup .node directory = .ok (place, .directory)) :
    scan fs directory =
      .ok ((ascending directory (csvNames fs directory place)).map
        (SourceFile.child directory)) := by
  have hdirectory := FileSystem.ne_nil_of_lookup hlookup
  refine scan_eq_ok_iff.mpr ⟨place, hlookup, ?_⟩
  rw [map_child_ascending, csvNames, List.map_map, ← List.filterMap_eq_map, List.filterMap_filter]
  congr 1
  refine List.filterMap_congr fun child hchild => ?_
  cases hfile : SourceFile.ofChild? directory child with
  | none => simp
  | some file =>
      obtain ⟨-, -, hcsv, rfl⟩ := SourceFile.ofChild?_eq_some_iff.mp hfile
      have hname := SourceFile.proper_of_isCsvName hcsv (hsound.slash_notMem hchild)
      simp [SourceFile.ofPath_join hdirectory hname]

theorem scan_eq_error
    (hother : ∀ place, fs.lookup .node directory ≠ .ok (place, .directory)) :
    scan fs directory = .error (.directoryNotFound directory) := by
  unfold scan
  split
  · next place hlookup => exact absurd hlookup (hother place)
  · rfl

/-! ## Listings -/

/-- The names are those of the regular files in a directory that have the ending, once each, and the
files stand in strictly ascending order. -/
structure Listing (fs : FileSystem) (directory : Path) (place : Location) (names : List Bytes) :
    Prop where
  nodup : names.Nodup
  mem_iff : ∀ name, name ∈ names ↔
    SourceFile.HasEnding (lossy name) ∧ ∃ bytes, fs.node? (place ++ [name]) = some (.file bytes)
  ascending : (names.map (SourceFile.child directory)).Pairwise SourceFile.Below

/-- The listing of a directory is one list. -/
theorem Listing.unique {others : List Bytes} (hlisting : Listing fs directory place names)
    (hother : Listing fs directory place others) : names = others := by
  have hperm : names.Perm others :=
    (List.perm_ext_iff_of_nodup hlisting.nodup hother.nodup).mpr fun name =>
      (hlisting.mem_iff name).trans (hother.mem_iff name).symm
  refine hperm.eq_of_pairwise ?_ (List.pairwise_map.mp hlisting.ascending)
    (List.pairwise_map.mp hother.ascending)
  intro a b _ _ hbelow habove
  exact absurd habove hbelow.asymm

/-- Listings do not depend on the order of enumeration. -/
theorem Listing.reordered (hlisting : Listing other directory place names)
    (hreordered : fs.Reordered other) (hsound : fs.Sound) : Listing fs directory place names where
  nodup := hlisting.nodup
  mem_iff := by
    intro name
    rw [hlisting.mem_iff, hreordered.node?_eq hsound]
  ascending := hlisting.ascending

/-- What a scan gives is the listing of the directory. -/
theorem exists_listing_of_scan (hsound : fs.Sound)
    (hlookup : fs.lookup .node directory = .ok (place, .directory)) :
    ∃ names, scan fs directory = .ok (names.map (SourceFile.child directory)) ∧
      Listing fs directory place names := by
  have hperm := ascending_perm directory (csvNames fs directory place)
  have hnodup := nodup_csvNames hsound directory place
  refine ⟨_, scan_eq hsound hlookup, hperm.nodup_iff.mpr hnodup, fun name => ?_, ?_⟩
  · rw [hperm.mem_iff, mem_csvNames_iff hsound]
  · exact pairwise_below_ascending (FileSystem.ne_nil_of_lookup hlookup)
      (fun name hname => proper_of_mem_csvNames hsound hname) hnodup

/-- The order of enumeration does not show in a scan. -/
theorem scan_eq_of_reordered (hsound : fs.Sound) (hreordered : fs.Reordered other)
    (directory : Path) : scan other directory = scan fs directory := by
  by_cases hlookup : ∃ place, fs.lookup .node directory = .ok (place, .directory)
  · obtain ⟨place, hlookup⟩ := hlookup
    obtain ⟨names, hscan, hlisting⟩ := exists_listing_of_scan hsound hlookup
    obtain ⟨names', hscan', hlisting'⟩ := exists_listing_of_scan (hreordered.sound hsound)
      ((hreordered.lookup_eq_ok_iff hsound).mpr hlookup)
    rw [hscan, hscan', hlisting.unique (hlisting'.reordered hreordered hsound)]
  · rw [not_exists] at hlookup
    rw [scan_eq_error hlookup, scan_eq_error]
    intro place hplace
    exact hlookup place ((hreordered.lookup_eq_ok_iff hsound).mp hplace)

/-- **Scans.**  Where a path leads to a directory, a scan lists each regular file with the ending in
it once, and nothing else, in strictly ascending order; elsewhere it fails and names the path.  It
is the same in whatever order the directory is enumerated. -/
theorem scan_gives_listing (hsound : fs.Sound) (directory : Path) :
    (∀ place, fs.lookup .node directory = .ok (place, .directory) →
      ∃ names, scan fs directory = .ok (names.map (SourceFile.child directory)) ∧
        Listing fs directory place names) ∧
    ((∀ place, fs.lookup .node directory ≠ .ok (place, .directory)) →
      scan fs directory = .error (.directoryNotFound directory)) ∧
    ∀ other, fs.Reordered other → scan other directory = scan fs directory :=
  ⟨fun _ hlookup => exists_listing_of_scan hsound hlookup, scan_eq_error,
    fun _ hreordered => scan_eq_of_reordered hsound hreordered directory⟩

/-- A directory with two names that decode to the same text, and with a link, a directory, a file
below it and a name with another ending. -/
def mixedDirectory : FileSystem where
  entries := [
    ([encode "in"], .directory),
    ([encode "in", 0xFF :: encode ".csv"], .file []),
    ([encode "in", encode "n.csv"], .directory),
    ([encode "in", encode "n.csv", encode "x.csv"], .file []),
    ([encode "in", encode "b.CSV"], .file []),
    ([encode "in", encode "l.csv"], .link (encode "b.CSV")),
    ([encode "in", encode "c.csv.bak"], .file []),
    ([encode "in", 0xFE :: encode ".csv"], .file [])]
  working := []

/-- Capitals come before small letters, and names with the same text in the order of their bytes. -/
def mixedNames : List Bytes :=
  [encode "b.CSV", 0xFE :: encode ".csv", 0xFF :: encode ".csv"]

theorem sound_mixedDirectory : mixedDirectory.Sound :=
  ⟨by decide +kernel, by decide +kernel⟩

theorem listing_mixedDirectory :
    Listing mixedDirectory (encode "in") [encode "in"] mixedNames where
  nodup := by decide +kernel
  mem_iff := by
    intro name
    have hnames : (csvNames mixedDirectory (encode "in") [encode "in"]).Perm mixedNames := by
      decide +kernel
    rw [← mem_csvNames_iff sound_mixedDirectory, hnames.mem_iff]
  ascending := by
    have hcompare : (mixedNames.map (SourceFile.child (encode "in"))).Pairwise
        fun a b => SourceFile.compare a b = .lt := by
      decide +kernel
    exact hcompare.imp SourceFile.compare_eq_lt_iff.mp

/-- The three files are listed in either order of enumeration, and a missing directory is named. -/
theorem scan_gives_listing_mixedDirectory :
    mixedDirectory.Sound ∧
    mixedDirectory.lookup .node (encode "in") = .ok ([encode "in"], .directory) ∧
    scan mixedDirectory (encode "in") =
      .ok (mixedNames.map (SourceFile.child (encode "in"))) ∧
    scan mixedDirectory (encode "out") = .error (.directoryNotFound (encode "out")) ∧
    mixedDirectory.Reordered
      { mixedDirectory with entries := mixedDirectory.entries.reverse } ∧
    scan { mixedDirectory with entries := mixedDirectory.entries.reverse } (encode "in") =
      .ok (mixedNames.map (SourceFile.child (encode "in"))) := by
  have hlookup : mixedDirectory.lookup .node (encode "in") = .ok ([encode "in"], .directory) := by
    decide +kernel
  have hmissing : mixedDirectory.lookup .node (encode "out") = .error .notFound := by
    decide +kernel
  have hreordered : mixedDirectory.Reordered
      { mixedDirectory with entries := mixedDirectory.entries.reverse } :=
    ⟨rfl, rfl, List.reverse_perm _⟩
  obtain ⟨hlists, -, hsame⟩ := scan_gives_listing sound_mixedDirectory (encode "in")
  obtain ⟨-, herror, -⟩ := scan_gives_listing sound_mixedDirectory (encode "out")
  obtain ⟨names, hscan, hlisting⟩ := hlists _ hlookup
  rw [hlisting.unique listing_mixedDirectory] at hscan
  exact ⟨sound_mixedDirectory, hlookup, hscan, herror (by simp [hmissing]), hreordered,
    (hsame _ hreordered).trans hscan⟩

end HourlyIngest
