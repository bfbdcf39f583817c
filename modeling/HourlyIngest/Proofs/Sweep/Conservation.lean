import HourlyIngest.Proofs.SourceFile.Scan
import HourlyIngest.Proofs.Sweep.Contract
import HourlyIngest.Proofs.Sweep.Turn
import Mathlib.Algebra.BigOperators.Group.List.Basic
import Mathlib.Algebra.Order.Group.Multiset
import Mathlib.Data.List.Perm.Basic

/-!
# Rows are neither lost nor kept twice

A directory is swept again and again, with a sink that refuses now and then.  The account of such a
history is a list of the files that have been loaded (`Ledger`): no file is on it twice, exactly the
files that are not on it are still there and read as they did at first, and what the sink has kept
is what the files on the list had to give.  One turn puts at most its own file on the list
(`Ledger.turn`), provided that a listed file that can be read can also be removed (`Clearable`); the
rest is induction on the files of a sweep and on the sweeps.
-/

namespace HourlyIngest

variable {σ : Type}

/-! ## What a directory has to give -/

/-- The rows of a file, none if it cannot be read. -/
def rowsAt (fs : FileSystem) (file : SourceFile) : Multiset Observation :=
  match Contents.ofPath fs file.path with
  | .ok contents => (contents.rows : Multiset Observation)
  | .error _ => 0

/-- The rows of the source files in a directory, none if it cannot be scanned. -/
def pending (fs : FileSystem) (directory : Path) : Multiset Observation :=
  match scan fs directory with
  | .ok files => (files.map (rowsAt fs)).sum
  | .error _ => 0

theorem rowsAt_of_ofPath {fs : FileSystem} {file : SourceFile} {contents : Contents}
    (hread : Contents.ofPath fs file.path = .ok contents) :
    rowsAt fs file = (contents.rows : Multiset Observation) := by
  rw [rowsAt, hread]

theorem rowsAt_congr {fs other : FileSystem} {file : SourceFile}
    (hsame : Contents.ofPath fs file.path = Contents.ofPath other file.path) :
    rowsAt fs file = rowsAt other file := by
  rw [rowsAt, hsame, rowsAt]

/-! ## Histories of sweeps -/

/-- The world after a directory has been loaded; a directory that cannot be scanned changes
nothing. -/
def loadOnce (directory : Path) (world : World σ) (run : Sink σ × SweepOptions) : World σ :=
  match loadDirectory run.1 run.2 world directory with
  | .ok (_, after) => after
  | .error _ => world

/-- The world after a directory has been loaded several times, each time with a sink and options of
its own. -/
def loadRepeatedly (directory : Path) (world : World σ) (runs : List (Sink σ × SweepOptions)) :
    World σ :=
  runs.foldl (loadOnce directory) world

/-- The account of a history that began with the given source files: which of them have been loaded
meanwhile. -/
structure Ledger (kept : σ → Multiset Observation) (directory : Path) (initial : List SourceFile)
    (before after : World σ) (loaded : List SourceFile) : Prop where
  sound : after.files.Sound
  nodup : loaded.Nodup
  subset : loaded ⊆ initial
  readable : ∀ file ∈ loaded, ∃ contents, Contents.ofPath before.files file.path = .ok contents
  scanned : ∃ left, scan after.files directory = .ok left ∧
    left.Perm (initial.filter (· ∉ loaded))
  unchanged : ∀ file ∈ initial, file ∉ loaded →
    Contents.ofPath after.files file.path = Contents.ofPath before.files file.path
  removable : ∀ file ∈ initial, file ∉ loaded → ∀ contents,
    Contents.ofPath before.files file.path = .ok contents → Removable after.files file
  balance : kept after.sink = kept before.sink + (loaded.map (rowsAt before.files)).sum

variable {kept : σ → Multiset Observation} {directory : Path} {initial loaded : List SourceFile}
  {before world : World σ}

namespace Ledger

theorem start (hsound : before.files.Sound) (hscan : scan before.files directory = .ok initial)
    (hclearable : Clearable before.files directory) :
    Ledger kept directory initial before before [] where
  sound := hsound
  nodup := List.nodup_nil
  subset := List.nil_subset _
  readable := by simp
  scanned := ⟨initial, hscan, by simp⟩
  unchanged := fun _ _ _ => rfl
  removable := fun file hfile _ => hclearable initial hscan file hfile
  balance := by simp

/-- The account stays as it is when the files and what is kept stay as they are. -/
theorem idle (hledger : Ledger kept directory initial before world loaded) {after : World σ}
    (hfiles : after.files = world.files) (hkept : kept after.sink = kept world.sink) :
    Ledger kept directory initial before after loaded where
  sound := hfiles ▸ hledger.sound
  nodup := hledger.nodup
  subset := hledger.subset
  readable := hledger.readable
  scanned := hfiles ▸ hledger.scanned
  unchanged := hfiles ▸ hledger.unchanged
  removable := hfiles ▸ hledger.removable
  balance := hkept.trans hledger.balance

/-- A file goes on the list when its rows have been kept and it has been removed. -/
theorem load (hledger : Ledger kept directory initial before world loaded) {file : SourceFile}
    {contents : Contents} {after : World σ} {files : FileSystem} (hfile : file ∈ initial)
    (hnew : file ∉ loaded) (hread : Contents.ofPath world.files file.path = .ok contents)
    (hremove : world.files.remove file.path = .ok files)
    (hkept : kept after.sink = kept world.sink + (contents.rows : Multiset Observation)) :
    Ledger kept directory initial before { after with files := files } (file :: loaded) := by
  obtain ⟨left, hscan, hperm⟩ := hledger.scanned
  -- a file that is not on the list yet is on the scan
  have hlisted : ∀ {other : SourceFile}, other ∈ initial → other ∉ loaded → other ∈ left := by
    intro other hother hmissing
    exact hperm.mem_iff.mpr (List.mem_filter.mpr ⟨hother, by simpa using hmissing⟩)
  obtain ⟨hsound', left', hscan', hperm', hsame⟩ :=
    scan_of_remove hledger.sound hscan (hlisted hfile hnew) hremove
  have hbefore := (hledger.unchanged file hfile hnew).symm.trans hread
  refine ⟨hsound', List.nodup_cons.mpr ⟨hnew, hledger.nodup⟩,
    List.cons_subset.mpr ⟨hfile, hledger.subset⟩, ?_, ⟨left', hscan', ?_⟩, ?_, ?_, ?_⟩
  · exact List.forall_mem_cons.mpr ⟨⟨contents, hbefore⟩, hledger.readable⟩
  · refine hperm'.trans ((hperm.filter _).trans (.of_eq ?_))
    rw [List.filter_filter]
    congr 1
    funext other
    simp [not_or]
  · intro other hother hmissing
    obtain ⟨hne, hmissing⟩ := List.ne_and_not_mem_of_not_mem_cons hmissing
    have hkept := (hsame other (hlisted hother hmissing) hne).1
    exact hkept.trans (hledger.unchanged other hother hmissing)
  · intro other hother hmissing contents hcontents
    obtain ⟨hne, hmissing⟩ := List.ne_and_not_mem_of_not_mem_cons hmissing
    exact (hsame other (hlisted hother hmissing) hne).2.mpr
      (hledger.removable other hother hmissing contents hcontents)
  · rw [List.map_cons, List.sum_cons, rowsAt_of_ofPath hbefore]
    show kept after.sink = _
    rw [hkept, hledger.balance, add_assoc, add_comm (contents.rows : Multiset Observation)]

/-! ## Turns, sweeps, histories -/

section Sweep

variable {sink : Sink σ} (hhonest : sink.Honest kept) {options : SweepOptions}
  (hdelete : options.deleteAfterLoad = true)

include hhonest hdelete

/-- The turn of a file leaves the list as it is or puts the file on it. -/
theorem turn (hledger : Ledger kept directory initial before world loaded) {file : SourceFile}
    (hfile : file ∈ initial) (hnew : file ∉ loaded) :
    ∃ loaded', loaded' ⊆ file :: loaded ∧
      Ledger kept directory initial before (Turn.after sink options ⟨file, world⟩) loaded' := by
  have hending := Turn.ending sink options ⟨file, world⟩
  generalize Turn.result sink options ⟨file, world⟩ = result at hending
  generalize Turn.after sink options ⟨file, world⟩ = after at hending ⊢
  cases hending with
  | unreadable hread => exact ⟨loaded, List.subset_cons_self _ _, hledger⟩
  | refused hread hinsert =>
      exact ⟨loaded, List.subset_cons_self _ _,
        hledger.idle (hhonest.quiet.files_eq hinsert) (hhonest.refuses hinsert)⟩
  | miscounted hread hinsert hcount => exact absurd (hhonest.accepts hinsert).1 hcount
  | stuck hread hinsert hwanted hremove =>
      obtain ⟨left, hremoved⟩ := hledger.removable file hfile hnew _
        ((hledger.unchanged file hfile hnew).symm.trans hread)
      rw [hhonest.quiet.files_eq hinsert, hremoved] at hremove
      cases hremove
  | deleted hread hinsert hwanted hremove =>
      have hfiles := hhonest.quiet.files_eq hinsert
      exact ⟨file :: loaded, List.Subset.refl _,
        hledger.load hfile hnew hread (hfiles ▸ hremove) (hhonest.accepts hinsert).2⟩
  | kept hread hinsert hwanted => simp [hdelete] at hwanted

theorem loadFiles (hledger : Ledger kept directory initial before world loaded)
    {files : List SourceFile} (hnodup : files.Nodup)
    (hfiles : ∀ file ∈ files, file ∈ initial ∧ file ∉ loaded) :
    ∃ loaded', Ledger kept directory initial before
      (HourlyIngest.loadFiles sink options world files).2 loaded' := by
  induction files generalizing world loaded with
  | nil => exact ⟨loaded, hledger⟩
  | cons file rest ih =>
      obtain ⟨hfile, hnew⟩ := hfiles file List.mem_cons_self
      obtain ⟨loaded', hsubset, hledger'⟩ := hledger.turn hhonest hdelete hfile hnew
      cases hstop : Turn.stop? sink options ⟨file, world⟩ with
      | some failure =>
          rw [loadFiles_cons_of_stop hstop]
          exact ⟨loaded', hledger'⟩
      | none =>
          rw [loadFiles_cons_of_go hstop]
          refine ih hledger' (List.nodup_cons.mp hnodup).2 fun other hother => ?_
          obtain ⟨hinitial, hmissing⟩ := hfiles other (List.mem_cons_of_mem file hother)
          refine ⟨hinitial, fun hloaded => ?_⟩
          -- the list has grown by the file of this turn at most, and that is not among the rest
          rcases List.mem_cons.mp (hsubset hloaded) with rfl | hold
          · exact (List.nodup_cons.mp hnodup).1 hother
          · exact hmissing hold

theorem loadOnce (hledger : Ledger kept directory initial before world loaded) :
    ∃ loaded', Ledger kept directory initial before
      (HourlyIngest.loadOnce directory world (sink, options)) loaded' := by
  obtain ⟨left, hscan, hperm⟩ := hledger.scanned
  have hnodup := nodup_of_scan hledger.sound hscan
  obtain ⟨loaded', hledger'⟩ := hledger.loadFiles hhonest hdelete hnodup (by
    intro file hfile
    simpa using List.mem_filter.mp (hperm.mem_iff.mp hfile))
  refine ⟨loaded', ?_⟩
  rw [HourlyIngest.loadOnce, loadDirectory, hscan]
  exact hledger'

end Sweep

theorem loadRepeatedly {runs : List (Sink σ × SweepOptions)}
    (hhonest : ∀ run ∈ runs, run.1.Honest kept) (hdelete : ∀ run ∈ runs, run.2.deleteAfterLoad)
    (hledger : Ledger kept directory initial before world loaded) :
    ∃ loaded', Ledger kept directory initial before
      (HourlyIngest.loadRepeatedly directory world runs) loaded' := by
  induction runs generalizing world loaded with
  | nil => exact ⟨loaded, hledger⟩
  | cons run rest ih =>
      rw [List.forall_mem_cons] at hhonest hdelete
      obtain ⟨loaded', hledger'⟩ := hledger.loadOnce hhonest.1 hdelete.1
      exact ih hhonest.2 hdelete.2 hledger'

/-! ## The balance of an account -/

/-- Loaded files and those still there make up the files of the beginning. -/
theorem perm_initial (hledger : Ledger kept directory initial before world loaded)
    (hnodup : initial.Nodup) : (loaded ++ initial.filter (· ∉ loaded)).Perm initial := by
  have hloaded : loaded.Perm (initial.filter (· ∈ loaded)) := by
    refine (List.perm_ext_iff_of_nodup hledger.nodup (hnodup.filter _)).mpr fun file => ?_
    rw [List.mem_filter, decide_eq_true_iff]
    exact ⟨fun hfile => ⟨hledger.subset hfile, hfile⟩, fun hfile => hfile.2⟩
  refine (hloaded.append_right _).trans ?_
  simpa using List.filter_append_perm (· ∈ loaded) initial

theorem kept_add_pending (hledger : Ledger kept directory initial before world loaded)
    (hscan : scan before.files directory = .ok initial) (hnodup : initial.Nodup) :
    kept world.sink + pending world.files directory =
      kept before.sink + pending before.files directory := by
  obtain ⟨left, hleft, hperm⟩ := hledger.scanned
  have hstill : (left.map (rowsAt world.files)).sum =
      ((initial.filter (· ∉ loaded)).map (rowsAt before.files)).sum := by
    rw [(hperm.map _).sum_eq]
    congr 1
    refine List.map_congr_left fun file hfile => rowsAt_congr ?_
    obtain ⟨hinitial, hmissing⟩ := List.mem_filter.mp hfile
    exact hledger.unchanged file hinitial (by simpa using hmissing)
  have hall := ((hledger.perm_initial hnodup).map (rowsAt before.files)).sum_eq
  rw [List.map_append, List.sum_append] at hall
  calc kept world.sink + pending world.files directory
      = kept world.sink + (left.map (rowsAt world.files)).sum := by rw [pending, hleft]
    _ = kept before.sink + ((loaded.map (rowsAt before.files)).sum +
          ((initial.filter (· ∉ loaded)).map (rowsAt before.files)).sum) := by
        rw [hledger.balance, hstill, add_assoc]
    _ = kept before.sink + pending before.files directory := by rw [hall, pending, hscan]

end Ledger

/-- In a directory that cannot be scanned nothing happens. -/
theorem loadRepeatedly_of_scan_error {failure : Failure}
    (hscan : scan world.files directory = .error failure) (runs : List (Sink σ × SweepOptions)) :
    loadRepeatedly directory world runs = world := by
  induction runs with
  | nil => rfl
  | cons run rest ih =>
      have hsame : loadOnce directory world run = world := by
        rw [loadOnce, loadDirectory, hscan]
        rfl
      rw [loadRepeatedly, List.foldl_cons, hsame]
      exact ih

/-- **No row is lost and none is kept twice, however often a directory is swept.**  With sinks that
keep the contract, and with loaded files to be removed, which succeeds, what has been kept together
with what the files still there have to give does not change from run to run.  The files that are
gone are known one by one: no file is among them twice, each could be read, and what has been kept
in addition is their rows.  A file that cannot be read is never removed. -/
theorem kept_add_pending_loadRepeatedly {before : World σ} {runs : List (Sink σ × SweepOptions)}
    (hsound : before.files.Sound) (hclearable : Clearable before.files directory)
    (hhonest : ∀ run ∈ runs, run.1.Honest kept)
    (hdelete : ∀ run ∈ runs, run.2.deleteAfterLoad = true) :
    let after := loadRepeatedly directory before runs
    kept after.sink + pending after.files directory =
        kept before.sink + pending before.files directory ∧
      ∀ initial, scan before.files directory = .ok initial →
        ∃ loaded left,
          loaded.Nodup ∧ scan after.files directory = .ok left ∧ (loaded ++ left).Perm initial ∧
            kept after.sink = kept before.sink + (loaded.map (rowsAt before.files)).sum ∧
            (∀ file ∈ left, Contents.ofPath after.files file.path =
              Contents.ofPath before.files file.path) ∧
            ∀ file ∈ initial, ∀ failure,
              Contents.ofPath before.files file.path = .error failure → file ∈ left := by
  intro after
  cases hscan : scan before.files directory with
  | error failure =>
      -- no run changes anything, so every scan fails like the first one
      have hsame : after = before := loadRepeatedly_of_scan_error hscan runs
      rw [hsame]
      exact ⟨rfl, fun initial hinitial => absurd hinitial (by simp)⟩
  | ok initial =>
      have hnodup := nodup_of_scan hsound hscan
      have hstart : Ledger kept directory initial before before [] :=
        .start hsound hscan hclearable
      obtain ⟨loaded, hledger⟩ := hstart.loadRepeatedly hhonest hdelete
      refine ⟨hledger.kept_add_pending hscan hnodup, fun initial' hinitial => ?_⟩
      obtain rfl : initial = initial' := Except.ok.inj hinitial
      obtain ⟨left, hleft, hperm⟩ := hledger.scanned
      refine ⟨loaded, left, hledger.nodup, hleft, ?_, hledger.balance, ?_, ?_⟩
      · exact (hperm.append_left loaded).trans (hledger.perm_initial hnodup)
      · intro file hfile
        obtain ⟨hinitial, hmissing⟩ := List.mem_filter.mp (hperm.mem_iff.mp hfile)
        exact hledger.unchanged file hinitial (by simpa using hmissing)
      · intro file hfile failure hfailure
        refine hperm.mem_iff.mpr (List.mem_filter.mpr ⟨hfile, ?_⟩)
        rw [decide_eq_true_iff]
        intro hloaded
        obtain ⟨contents, hread⟩ := hledger.readable file hloaded
        rw [hfailure] at hread
        cases hread

/-- Three runs over the sample directory: the first stops at the file that cannot be read, and in
the second the sink refuses. -/
theorem kept_add_pending_loadRepeatedly_sample :
    let before : World Wavering := ⟨{ refusals := [false, true] }, Sample.files⟩
    let runs : List (Sink Wavering × SweepOptions) :=
      [(Wavering.sink, { failFast := true }), (Wavering.sink, {}), (Wavering.sink, {})]
    let after := loadRepeatedly Sample.directory before runs
    before.files.Sound ∧ Clearable before.files Sample.directory ∧
      (∀ run ∈ runs, run.1.Honest Wavering.kept) ∧
      (∀ run ∈ runs, run.2.deleteAfterLoad = true) ∧
        Wavering.kept after.sink + pending after.files Sample.directory =
          pending before.files Sample.directory := by
  intro before runs after
  have hsound : before.files.Sound := ⟨by decide, by decide⟩
  have hclearable : Clearable before.files Sample.directory :=
    clearable_of_forbids?_eq_none hsound (fun _ => rfl) _
  have hhonest : ∀ run ∈ runs, run.1.Honest Wavering.kept := by
    intro run hrun
    have hsink : run.1 = Wavering.sink := by
      simp only [runs, List.mem_cons, List.not_mem_nil, or_false] at hrun
      rcases hrun with rfl | rfl | rfl <;> rfl
    exact hsink ▸ Wavering.honest_sink
  have hdelete : ∀ run ∈ runs, run.2.deleteAfterLoad = true := by simp [runs]
  refine ⟨hsound, hclearable, hhonest, hdelete, ?_⟩
  obtain ⟨hbalance, -⟩ :
      Wavering.kept after.sink + pending after.files Sample.directory =
        Wavering.kept before.sink + pending before.files Sample.directory ∧ _ :=
    kept_add_pending_loadRepeatedly hsound hclearable hhonest hdelete
  rwa [show Wavering.kept before.sink = 0 from rfl, zero_add] at hbalance

end HourlyIngest
