import HourlyIngest.Proofs.FileSystem.Variant
import HourlyIngest.Proofs.SourceFile.Scan
import HourlyIngest.Proofs.Sweep.Deletion

/-!
# A bad file fails alone

The same files are swept from two states that differ in one of the files alone: in one of them it
may have other contents, be missing, or not be open to reading or removing.  All that the two sweeps
have to differ in is that file. The two file systems stay variants of each other at its place
(`Alike`): the turn of another file takes nothing from there and finds the same in both
(`Alike.turn_other`), and the turn of the file itself changes nothing elsewhere (`Alike.turn_same`).
By induction on the files the two sweeps go side by side, turn by turn (`Alike.sweep`).
-/

namespace HourlyIngest

variable {σ : Type}

/-! ## Sinks without a memory -/

/-- A sink that answers by the name of the file and its rows alone, and leaves the file system
alone. -/
structure Sink.Oblivious (sink : Sink σ) : Prop where
  quiet : sink.Quiet
  answer : ∀ (world world' : World σ) (file : String) (rows : List Observation),
    (sink.insert world file rows).1 = (sink.insert world' file rows).1

/-- The sink that answers by a rule. -/
def Sink.ofRule (rule : String → List Observation → Except Failure Nat) : Sink σ :=
  ⟨fun world file rows => (rule file rows, world)⟩

theorem Sink.oblivious_ofRule (rule : String → List Observation → Except Failure Nat) :
    (Sink.ofRule rule : Sink σ).Oblivious where
  quiet := fun _ _ _ => rfl
  answer := fun _ _ _ _ => rfl

/-! ## Files with a place of their own -/

theorem Contents.ofPath_congr {fs other : FileSystem} {path : Path}
    (hread : fs.read path = other.read path) :
    Contents.ofPath fs path = Contents.ofPath other path := by
  rw [Contents.ofPath, hread, Contents.ofPath]

/-- The files are distinct, and not only by their names: none is listed twice, and the path of none
leads by the entry of another one. -/
structure Distinct (fs : FileSystem) (files : List SourceFile) : Prop where
  nodup : files.Nodup
  not_meets : ∀ file ∈ files, ∀ other ∈ files, other ≠ file → ∀ place,
    fs.locate .entry file.path = .ok place → ¬ fs.Meets other.path place

/-- The files that a scan lists are distinct. -/
theorem distinct_of_scan {fs : FileSystem} (hsound : fs.Sound) {directory : Path}
    {files : List SourceFile} (hscan : scan fs directory = .ok files) : Distinct fs files where
  nodup := nodup_of_scan hsound hscan
  not_meets := by
    intro file hfile other hother hne place hplace
    obtain ⟨home, hlookup, -⟩ := scan_eq_ok_iff.mp hscan
    obtain ⟨name, bytes, hchild, hname, hof, hpath⟩ := child_of_mem_scan hsound hscan hlookup hfile
    obtain ⟨name', bytes', hchild', hname', hof', hpath'⟩ :=
      child_of_mem_scan hsound hscan hlookup hother
    have hnode := hsound.node?_of_mem_children hchild
    have hnode' := hsound.node?_of_mem_children hchild'
    have hpurpose : FileSystem.Purpose.entry ≠ .file := by decide
    have hlocate := FileSystem.locate_join hlookup hname hnode hpurpose
    rw [← hpath, hplace] at hlocate
    have hat : place = home ++ [name] := by
      split at hlocate
      · cases hlocate
      · exact Except.ok.inj hlocate
    rw [hat, hpath']
    refine FileSystem.not_meets_join hlookup hname' hnode' ?_ ?_
    · rintro rfl
      refine hne ?_
      obtain ⟨-, -, -, rfl⟩ := SourceFile.ofChild?_eq_some_iff.mp hof
      obtain ⟨-, -, -, rfl⟩ := SourceFile.ofChild?_eq_some_iff.mp hof'
      rfl
    · intro node hstands
      rw [hnode] at hstands
      exact ⟨bytes, (Option.some.inj hstands).symm⟩

/-! ## Two sweeps side by side -/

section Load

variable {sink : Sink σ} {options : SweepOptions} {initial : FileSystem} {place : Location}
  {world world' : World σ} {file other : SourceFile}

/-- In the midst of two sweeps that began in variants: the file systems are variants still, and in
the first one nothing has been added. -/
structure Alike (place : Location) (initial : FileSystem) (world world' : World σ) : Prop where
  variants : FileSystem.Variants place world.files world'.files
  thinned : FileSystem.Thinned initial world.files

/-- The turn of a file that does not come by the place: the sink is given the same, the file ends
the same, and the two file systems go on as variants. -/
theorem Alike.turn_other (halike : Alike place initial world world') (options : SweepOptions)
    (hsink : sink.Oblivious) (hholds : initial.HoldsFile place)
    (hnot : ¬ initial.Meets other.path place) :
    (Turn.result sink options ⟨other, world'⟩ = Turn.result sink options ⟨other, world⟩ ∧
      Turn.offer? sink ⟨other, world'⟩ = Turn.offer? sink ⟨other, world⟩) ∧
      Alike place initial (Turn.after sink options ⟨other, world⟩)
        (Turn.after sink options ⟨other, world'⟩) := by
  have hnow := halike.thinned.not_meets hholds hnot
  have hread := Contents.ofPath_congr (halike.variants.read_eq hnow)
  simp only [Turn.result, Turn.after, Turn.offer?, loadFile, hread]
  cases Contents.ofPath world.files other.path with
  | error failure => exact ⟨⟨rfl, rfl⟩, halike⟩
  | ok contents =>
      have hanswer := hsink.answer world' world other.name contents.rows
      have hfiles := hsink.quiet world other.name contents.rows
      have hfiles' := hsink.quiet world' other.name contents.rows
      simp only
      generalize sink.insert world' other.name contents.rows = reply' at hanswer hfiles' ⊢
      generalize sink.insert world other.name contents.rows = reply at hanswer hfiles ⊢
      obtain ⟨answer, after⟩ := reply
      obtain ⟨answer', after'⟩ := reply'
      obtain rfl : answer = answer' := hanswer.symm
      -- what the sink has done to its own state does not matter any more
      have hafter : Alike place initial after after' :=
        ⟨hfiles ▸ hfiles' ▸ halike.variants, hfiles ▸ halike.thinned⟩
      cases answer with
      | error failure => exact ⟨⟨rfl, rfl⟩, hafter⟩
      | ok count =>
          simp only [and_true]
          cases verifyCount other.name contents.rows.length count with
          | error failure => exact ⟨rfl, hafter⟩
          | ok rows =>
              simp only [removeLoaded]
              cases hwanted : options.deleteAfterLoad with
              | false => exact ⟨rfl, hafter⟩
              | true =>
                  obtain ⟨fault, hremove, hremove'⟩ | ⟨gone, hremove, hremove'⟩ :=
                    hafter.variants.remove_eq (hafter.thinned.not_meets hholds hnot)
                  · simpa [hremove, hremove'] using hafter
                  · simpa [hremove, hremove'] using
                      Alike.mk (hafter.variants.erase gone) (hafter.thinned.erase gone)

/-- If the path of the file can only lead to the place, its turn takes away what stands there or
nothing. -/
theorem Turn.files_after_of_place (hquiet : sink.Quiet) (options : SweepOptions) (turn : Turn σ)
    (hplace : ∀ there, turn.before.files.locate .entry turn.file.path = .ok there → there = place) :
    (turn.after sink options).files = turn.before.files ∨
      (turn.after sink options).files = turn.before.files.erase place := by
  obtain hsame | ⟨there, hremoves⟩ : (turn.after sink options).files = turn.before.files ∨
      ∃ there, turn.Removes sink options there := turn.files_after hquiet
  · exact Or.inl hsame
  · refine Or.inr ?_
    obtain ⟨-, contents, after, files, -, hinsert, hlocate, -, -⟩ := id hremoves
    rw [hquiet.files_eq hinsert] at hlocate
    rw [(Turn.files_after_of_removes hquiet hremoves).1, hplace there hlocate]

/-- The turn of the file at the place leaves the file systems variants. -/
theorem Alike.turn_same (halike : Alike place initial world world') (hquiet : sink.Quiet)
    (hplace : initial.locate .entry file.path = .ok place) :
    Alike place initial (Turn.after sink options ⟨file, world⟩)
      (Turn.after sink options ⟨file, world'⟩) := by
  have hleads : ∀ there, world.files.locate .entry file.path = .ok there → there = place := by
    intro there hlocate
    have hthere := halike.thinned.locate_entry hlocate
    exact Except.ok.inj (hthere.symm.trans hplace)
  have hleads' : ∀ there, world'.files.locate .entry file.path = .ok there → there = place :=
    fun there hlocate => hleads there (halike.variants.locate_of_other hlocate)
  have hfirst := Turn.files_after_of_place hquiet options ⟨file, world⟩ hleads
  have hsecond := Turn.files_after_of_place hquiet options ⟨file, world'⟩ hleads'
  constructor
  · rcases hfirst with hfirst | hfirst <;> rcases hsecond with hsecond | hsecond <;>
      rw [hfirst, hsecond]
    · exact halike.variants
    · exact halike.variants.erase_right
    · exact halike.variants.erase_left
    · exact halike.variants.erase place
  · rcases hfirst with hfirst | hfirst <;> rw [hfirst]
    · exact halike.thinned
    · exact halike.thinned.erase place

/-- Side by side, two sweeps from variants have turns of the same files, which come to the same for
all files but the one at the place. -/
theorem Alike.sweep (options : SweepOptions) (hsink : sink.Oblivious)
    (hfast : options.failFast = false) (hholds : initial.HoldsFile place)
    (hplace : initial.locate .entry file.path = .ok place) {files : List SourceFile}
    (hapart : ∀ other ∈ files, other ≠ file → ¬ initial.Meets other.path place)
    (halike : Alike place initial world world') :
    List.Forall₂ (fun turn turn' => turn'.file = turn.file ∧ (turn.file ≠ file →
        turn'.result sink options = turn.result sink options ∧
          turn'.offer? sink = turn.offer? sink))
      (turns sink options world files) (turns sink options world' files) ∧
      Alike place initial (loadFiles sink options world files).2
        (loadFiles sink options world' files).2 := by
  induction files generalizing world world' with
  | nil => exact ⟨.nil, halike⟩
  | cons first rest ih =>
      have hgo : Turn.stop? sink options ⟨first, world⟩ = none := Turn.stop?_eq_none hfast _
      have hgo' : Turn.stop? sink options ⟨first, world'⟩ = none := Turn.stop?_eq_none hfast _
      rw [turns_cons_of_go hgo, turns_cons_of_go hgo', loadFiles_cons_of_go hgo,
        loadFiles_cons_of_go hgo']
      obtain ⟨hfirst, hrest⟩ := List.forall_mem_cons.mp hapart
      by_cases hsame : first = file
      · subst hsame
        obtain ⟨hturns, hend⟩ := ih hrest (halike.turn_same hsink.quiet hplace)
        exact ⟨.cons ⟨rfl, fun hother => absurd rfl hother⟩ hturns, hend⟩
      · obtain ⟨hequal, hafter⟩ := halike.turn_other options hsink hholds (hfirst hsame)
        obtain ⟨hturns, hend⟩ := ih hrest hafter
        exact ⟨.cons ⟨rfl, fun _ => hequal⟩ hturns, hend⟩

end Load

/-- The calls of the sink for the files other than one of them. -/
def offersOfOthers (sink : Sink σ) (file : SourceFile) (ran : List (Turn σ)) : List Offer :=
  offers sink (ran.filter fun turn => turn.file ≠ file)

theorem offersOfOthers_eq {sink : Sink σ} {file : SourceFile} {ran ran' : List (Turn σ)}
    (hturns : List.Forall₂ (fun turn turn' => turn'.file = turn.file ∧
      (turn.file ≠ file → turn'.offer? sink = turn.offer? sink)) ran ran') :
    offersOfOthers sink file ran' = offersOfOthers sink file ran := by
  simp only [offersOfOthers, offers, List.filterMap_filter]
  induction hturns with
  | nil => rfl
  | @cons turn turn' _ _ hturn _ ih =>
      rw [List.filterMap_cons, List.filterMap_cons, hturn.1, ih]
      by_cases hsame : turn.file = file
      · simp [hsame]
      · rw [hturn.2 hsame]

/-- **A bad file fails alone.**  A list of distinct files is swept from two states that differ at
the place of one of them alone, where each has a regular file or nothing and may forbid to read or
to remove it, not stopping at failures, with a sink that answers by name and rows.  Both sweeps come
to a report.  At every position but that of the file the reports have the same entry and the sweeps
have shown the same line; the sink is given the same for the other files, in the same order; and
every other place ends up the same. -/
theorem bad_file_fails_alone {sink : Sink σ} (hsink : sink.Oblivious) {options : SweepOptions}
    (hfast : options.failFast = false) {world world' : World σ} {files : List SourceFile}
    (hdistinct : Distinct world.files files) {j : Nat} {file : SourceFile}
    (hfile : files[j]? = some file) {place : Location}
    (hplace : world.files.locate .entry file.path = .ok place)
    (hvariants : FileSystem.Variants place world.files world'.files)
    (started finished started' finished' : TimeStamp) :
    let sweep := loadFiles sink options world files
    let sweep' := loadFiles sink options world' files
    ∃ report report', sweep.1.report started finished = .ok report ∧
      sweep'.1.report started' finished' = .ok report' ∧
        report'.entries.length = report.entries.length ∧
          (∀ i : Nat, i ≠ j → report'.entries[i]? = report.entries[i]? ∧
            sweep'.1.lines[i]? = sweep.1.lines[i]?) ∧
            offersOfOthers sink file (turns sink options world' files) =
              offersOfOthers sink file (turns sink options world files) ∧
              ∀ there, there ≠ place → sweep'.2.files.node? there = sweep.2.files.node? there := by
  intro sweep sweep'
  have hthrough : sweep.1.Through := through_loadFiles hfast world files
  have hthrough' : sweep'.1.Through := through_loadFiles hfast world' files
  have hlength : sweep'.1.entries.length = sweep.1.entries.length :=
    (length_entries_loadFiles hthrough'.unstopped).trans
      (length_entries_loadFiles hthrough.unstopped).symm
  have hstart : Alike place world.files world world' := ⟨hvariants, .refl _⟩
  obtain ⟨hturns, hend⟩ := hstart.sweep options hsink hfast hvariants.holdsFile hplace
    fun other hother hne =>
      hdistinct.not_meets file (List.mem_of_getElem? hfile) other hother hne place hplace
  have hfiles := map_file_turns_of_stopped_eq_none hthrough.unstopped
  have hentries : ∀ i : Nat, i ≠ j → sweep'.1.entries[i]? = sweep.1.entries[i]? := by
    intro i hi
    rw [entries_loadFiles, entries_loadFiles, List.getElem?_map, List.getElem?_map]
    obtain ⟨hsame, hget⟩ := List.forall₂_iff_get.mp hturns
    by_cases hlt : i < (turns sink options world files).length
    · obtain ⟨hname, hequal⟩ := hget i hlt (hsame ▸ hlt)
      rw [List.getElem?_eq_getElem hlt, List.getElem?_eq_getElem (hsame ▸ hlt)]
      -- the file has its turn at its own position and at no other one
      have hother : (turns sink options world files)[i].file ≠ file := by
        intro heq
        have hi' : files[i]? = some file := by
          rw [← hfiles, List.getElem?_map, List.getElem?_eq_getElem hlt, Option.map_some, heq]
        have hbound := (List.getElem?_eq_some_iff.mp hi').1
        exact hi ((List.getElem?_inj hbound hdistinct.nodup).mp (hi'.trans hfile.symm))
      simp only [List.get_eq_getElem] at hname hequal
      simp only [Option.map_some, Turn.entry, Turn.outcome, hname, (hequal hother).1]
    · rw [List.getElem?_eq_none (by omega), List.getElem?_eq_none (by omega)]
  refine ⟨_, _, Sweep.report_eq_ok_iff.mpr ⟨hthrough.unstopped, rfl⟩,
    Sweep.report_eq_ok_iff.mpr ⟨hthrough'.unstopped, rfl⟩, hlength, ?_, ?_,
    hend.variants.elsewhere⟩
  · intro i hi
    refine ⟨hentries i hi, ?_⟩
    rw [hthrough.lines, hthrough'.lines, hentries i hi, hlength]
  · exact offersOfOthers_eq (hturns.imp fun _ _ hturn =>
      ⟨hturn.1, fun hother => (hturn.2 hother).2⟩)

/-- In the sample directory one of three files cannot be read.  It is swept as it is, and with that
file mended, which may not be removed now. -/
theorem bad_file_fails_alone_sample :
    let sink : Sink Unit := .ofRule fun _ rows => .ok rows.length
    let world : World Unit := ⟨(), Sample.files⟩
    let mended : World Unit :=
      ⟨(), { Sample.files.put (Sample.place 0x62) (Sample.table [0x33, 0x0A]) with
        forbidden := [((.remove, Sample.place 0x62), .permissionDenied)] }⟩
    let bad := SourceFile.ofPath (Path.join Sample.directory (Sample.name 0x62))
    sink.Oblivious ∧ ∃ (files : List SourceFile) (j : Nat), Distinct world.files files ∧
      files[j]? = some bad ∧
        world.files.locate .entry bad.path = .ok (Sample.place 0x62) ∧
          FileSystem.Variants (Sample.place 0x62) world.files mended.files ∧
            ∃ report report',
              (loadFiles sink {} world files).1.report Sample.epoch Sample.epoch = .ok report ∧
                (loadFiles sink {} mended files).1.report Sample.epoch Sample.epoch = .ok report' ∧
                  report.entries.length = 3 ∧
                    ∀ i, i ≠ j → report'.entries[i]? = report.entries[i]? := by
  intro sink world mended bad
  have hsound : world.files.Sound := ⟨by decide, by decide⟩
  have hlookup : world.files.lookup .node Sample.directory =
      .ok ([Sample.directory], .directory) := by decide +kernel
  have hscan := scan_eq_ok_iff.mpr ⟨_, hlookup, rfl⟩
  have hperm := perm_of_scan hscan hlookup
  have hdistinct := distinct_of_scan hsound hscan
  have hbad : bad ∈ (world.files.children [Sample.directory]).filterMap
      (SourceFile.ofChild? Sample.directory) := by decide +kernel
  obtain ⟨j, hj⟩ := List.mem_iff_getElem?.mp (hperm.mem_iff.mpr hbad)
  have hplace : world.files.locate .entry bad.path = .ok (Sample.place 0x62) := by decide +kernel
  have hholds : world.files.HoldsFile (Sample.place 0x62) := by
    have hnode : world.files.node? (Sample.place 0x62) = some (.file [0x31, 0x0A]) := by
      decide +kernel
    intro node hstands
    exact ⟨_, Option.some.inj (hstands.symm.trans hnode)⟩
  have hput := hholds.variants_put (List.replicate 15 Csv.Scanner.comma ++ [0x0A, 0x33, 0x0A])
  have hvariants : FileSystem.Variants (Sample.place 0x62) world.files mended.files :=
    { hput with
      forbids := by
        intro there hthere access
        have hother : ((Access.remove, Sample.place 0x62) == (access, there)) = false := by
          simp [hthere.symm]
        simp [FileSystem.forbids?, mended, world, Sample.files, hother] }
  have hoblivious : sink.Oblivious := Sink.oblivious_ofRule _
  have hfast : ({} : SweepOptions).failFast = false := rfl
  obtain ⟨report, report', hreport, hreport', -, hothers, -⟩ :=
    bad_file_fails_alone hoblivious hfast hdistinct hj hplace hvariants Sample.epoch
      Sample.epoch Sample.epoch Sample.epoch
  refine ⟨hoblivious, _, j, hdistinct, hj, hplace, hvariants, report, report',
    hreport, hreport', ?_, fun i hi => (hothers i hi).1⟩
  obtain ⟨hthrough, rfl⟩ := Sweep.report_eq_ok_iff.mp hreport
  rw [length_entries_loadFiles hthrough, hperm.length_eq]
  decide +kernel

end HourlyIngest
