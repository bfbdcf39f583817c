import HourlyIngest.Sweep

/-!
# The turns of a sweep

A sweep is a list of turns, one for each file that it takes.  This file says once what a turn can
come to (`loadFile_ending`: six endings, each with everything that has led to it) and once how a
sweep is made of its turns: its entries are those of the turns, each turn begins in the world that
the one before has left, and only a failure under `failFast` can keep a file from having a turn.
Whatever is to be shown of all sweeps is shown of a single turn first.
-/

namespace HourlyIngest

variable {σ : Type}

section Load

variable (sink : Sink σ) (options : SweepOptions)

/-! ## How the loading of one file ends -/

/-- The endings of loading one file, with what was read, answered and removed on the way. -/
inductive Ending (world : World σ) (file : SourceFile) : Except Failure Outcome → World σ → Prop
  /-- The file could not be read, and nothing else was tried. -/
  | unreadable {failure : Failure}
      (hread : Contents.ofPath world.files file.path = .error failure) :
      Ending world file (.error failure) world
  /-- The sink has answered with a failure. -/
  | refused {contents : Contents} {failure : Failure} {after : World σ}
      (hread : Contents.ofPath world.files file.path = .ok contents)
      (hinsert : sink.insert world file.name contents.rows = (.error failure, after)) :
      Ending world file (.error failure) after
  /-- The sink has counted another number of rows than was read. -/
  | miscounted {contents : Contents} {count : Nat} {after : World σ}
      (hread : Contents.ofPath world.files file.path = .ok contents)
      (hinsert : sink.insert world file.name contents.rows = (.ok count, after))
      (hcount : count ≠ contents.rows.length) :
      Ending world file (.error (.rowCountMismatch file.name contents.rows.length count)) after
  /-- The rows were taken, but the file could not be removed. -/
  | stuck {contents : Contents} {fault : IoFault} {after : World σ}
      (hread : Contents.ofPath world.files file.path = .ok contents)
      (hinsert : sink.insert world file.name contents.rows = (.ok contents.rows.length, after))
      (hwanted : options.deleteAfterLoad = true)
      (hremove : after.files.remove file.path = .error fault) :
      Ending world file (.error (.io fault)) after
  /-- The rows were taken and the file is gone. -/
  | deleted {contents : Contents} {files : FileSystem} {after : World σ}
      (hread : Contents.ofPath world.files file.path = .ok contents)
      (hinsert : sink.insert world file.name contents.rows = (.ok contents.rows.length, after))
      (hwanted : options.deleteAfterLoad = true)
      (hremove : after.files.remove file.path = .ok files) :
      Ending world file (.ok (.loaded contents.rows.length true)) { after with files := files }
  /-- The rows were taken and the file was to stay. -/
  | kept {contents : Contents} {after : World σ}
      (hread : Contents.ofPath world.files file.path = .ok contents)
      (hinsert : sink.insert world file.name contents.rows = (.ok contents.rows.length, after))
      (hwanted : options.deleteAfterLoad = false) :
      Ending world file (.ok (.loaded contents.rows.length false)) after

/-- Loading a file comes to one of the six endings. -/
theorem loadFile_ending (world : World σ) (file : SourceFile) :
    Ending sink options world file (loadFile sink options world file).1
      (loadFile sink options world file).2 := by
  unfold loadFile
  -- the steps in their order; each failure is an ending of its own
  cases hread : Contents.ofPath world.files file.path with
  | error failure => exact .unreadable hread
  | ok contents =>
      simp only
      cases hinsert : sink.insert world file.name contents.rows with
      | mk answer after =>
          cases answer with
          | error failure => exact .refused hread hinsert
          | ok count =>
              simp only [verifyCount]
              by_cases hcount : count = contents.rows.length
              · subst hcount
                rw [if_pos rfl]
                cases hwanted : options.deleteAfterLoad with
                | false =>
                    simpa [removeLoaded, hwanted] using Ending.kept hread hinsert hwanted
                | true =>
                    cases hremove : after.files.remove file.path with
                    | error fault =>
                        simpa [removeLoaded, hwanted, hremove] using
                          Ending.stuck hread hinsert hwanted hremove
                    | ok files =>
                        simpa [removeLoaded, hwanted, hremove] using
                          Ending.deleted hread hinsert hwanted hremove
              · rw [if_neg hcount]
                exact .miscounted hread hinsert hcount

/-- The ending with the file gone is reached wherever all its steps succeed. -/
theorem loadFile_of_removed {world after : World σ} {file : SourceFile} {contents : Contents}
    {files : FileSystem} (hwanted : options.deleteAfterLoad = true)
    (hread : Contents.ofPath world.files file.path = .ok contents)
    (hinsert : sink.insert world file.name contents.rows = (.ok contents.rows.length, after))
    (hremove : after.files.remove file.path = .ok files) :
    loadFile sink options world file =
      (.ok (.loaded contents.rows.length true), { after with files := files }) := by
  simp [loadFile, hread, hinsert, verifyCount, removeLoaded, hwanted, hremove]

/-! ## Turns -/

/-- The turn of one file: the file, and the world in which its turn came. -/
structure Turn (σ : Type) where
  file : SourceFile
  before : World σ

namespace Turn

/-- What loading the file came to. -/
def result (turn : Turn σ) : Except Failure Outcome :=
  (loadFile sink options turn.before turn.file).1

/-- The world that the turn leaves. -/
def after (turn : Turn σ) : World σ :=
  (loadFile sink options turn.before turn.file).2

/-- What is recorded of the file. -/
def outcome (turn : Turn σ) : Outcome :=
  match turn.result sink options with
  | .ok outcome => outcome
  | .error failure => .failed failure.message

/-- The entry of the file in the report. -/
def entry (turn : Turn σ) : Entry :=
  ⟨turn.file.name, turn.outcome sink options⟩

/-- The failure that stops the sweep at this turn. -/
def stop? (turn : Turn σ) : Option Failure :=
  match turn.result sink options with
  | .ok _ => none
  | .error failure => if options.failFast then some failure else none

theorem ending (turn : Turn σ) :
    Ending sink options turn.before turn.file (turn.result sink options)
      (turn.after sink options) :=
  loadFile_ending sink options turn.before turn.file

end Turn

/-- Rows that the sink was given under the name of a file, and its answer. -/
structure Offer where
  file : String
  rows : List Observation
  answer : Except Failure Nat

/-- The call of the sink in a turn.  A file that cannot be read brings none. -/
def Turn.offer? (turn : Turn σ) : Option Offer :=
  match Contents.ofPath turn.before.files turn.file.path with
  | .error _ => none
  | .ok contents =>
      some ⟨turn.file.name, contents.rows,
        (sink.insert turn.before turn.file.name contents.rows).1⟩

/-- The calls of the sink in some turns, in order. -/
def offers (ran : List (Turn σ)) : List Offer :=
  ran.filterMap (Turn.offer? sink)

/-- The turns of a sweep, in order. -/
def turns (world : World σ) : List SourceFile → List (Turn σ)
  | [] => []
  | file :: rest =>
      let turn : Turn σ := ⟨file, world⟩
      turn ::
        if (turn.stop? sink options).isSome then []
        else turns (turn.after sink options) rest

/-! ## A sweep is made of its turns -/

variable {sink options} {world : World σ} {file : SourceFile}

theorem turns_cons_of_stop {failure : Failure}
    (hstop : Turn.stop? sink options ⟨file, world⟩ = some failure) (rest : List SourceFile) :
    turns sink options world (file :: rest) = [⟨file, world⟩] := by
  simp [turns, hstop]

theorem turns_cons_of_go (hgo : Turn.stop? sink options ⟨file, world⟩ = none)
    (rest : List SourceFile) :
    turns sink options world (file :: rest) =
      ⟨file, world⟩ :: turns sink options (Turn.after sink options ⟨file, world⟩) rest := by
  simp [turns, hgo]

/-- A turn of a sweep is the first one, or one behind it where the first does not stop the sweep. -/
theorem mem_turns_cons {turn : Turn σ} {rest : List SourceFile} :
    turn ∈ turns sink options world (file :: rest) ↔
      turn = ⟨file, world⟩ ∨ Turn.stop? sink options ⟨file, world⟩ = none ∧
        turn ∈ turns sink options (Turn.after sink options ⟨file, world⟩) rest := by
  cases hstop : Turn.stop? sink options ⟨file, world⟩ with
  | some failure => simp [turns_cons_of_stop hstop]
  | none => simp [turns_cons_of_go hstop]

theorem loadFiles_cons_of_stop {failure : Failure}
    (hstop : Turn.stop? sink options ⟨file, world⟩ = some failure) (rest : List SourceFile) :
    loadFiles sink options world (file :: rest) =
      (Sweep.cons file.name (Turn.outcome sink options ⟨file, world⟩) rest.length
        { stopped := some failure }, Turn.after sink options ⟨file, world⟩) := by
  simp only [Turn.stop?, Turn.outcome, Turn.after, Turn.result] at hstop ⊢
  rw [loadFiles]
  cases hload : loadFile sink options world file with
  | mk result after =>
      cases result with
      | ok outcome => simp [hload] at hstop
      | error cause =>
          simp only [hload, Option.ite_none_right_eq_some, Option.some.injEq] at hstop
          obtain ⟨hfast, rfl⟩ := hstop
          simp [hfast]

theorem loadFiles_cons_of_go (hgo : Turn.stop? sink options ⟨file, world⟩ = none)
    (rest : List SourceFile) :
    loadFiles sink options world (file :: rest) =
      ((loadFiles sink options (Turn.after sink options ⟨file, world⟩) rest).1.cons file.name
          (Turn.outcome sink options ⟨file, world⟩) rest.length,
        (loadFiles sink options (Turn.after sink options ⟨file, world⟩) rest).2) := by
  simp only [Turn.stop?, Turn.outcome, Turn.after, Turn.result] at hgo ⊢
  rw [loadFiles]
  cases hload : loadFile sink options world file with
  | mk result after =>
      cases result with
      | ok outcome => rfl
      | error cause =>
          simp only [hload, ite_eq_right_iff, reduceCtorEq, imp_false] at hgo
          simp [hgo]

/-- The entries of a sweep are those of its turns. -/
theorem entries_loadFiles (world : World σ) (files : List SourceFile) :
    (loadFiles sink options world files).1.entries =
      (turns sink options world files).map (Turn.entry sink options) := by
  induction files generalizing world with
  | nil => rfl
  | cons file rest ih =>
      cases hstop : Turn.stop? sink options ⟨file, world⟩ with
      | some failure => rw [loadFiles_cons_of_stop hstop, turns_cons_of_stop hstop]; rfl
      | none =>
          rw [loadFiles_cons_of_go hstop, turns_cons_of_go hstop, List.map_cons, ← ih]
          rfl

/-- The files that have a turn are the first ones of the list. -/
theorem map_file_turns_initial (world : World σ) (files : List SourceFile) :
    (turns sink options world files).map Turn.file <+: files := by
  induction files generalizing world with
  | nil => exact List.prefix_rfl
  | cons file rest ih =>
      cases hstop : Turn.stop? sink options ⟨file, world⟩ with
      | some failure =>
          rw [turns_cons_of_stop hstop]
          exact ⟨rest, rfl⟩
      | none =>
          rw [turns_cons_of_go hstop, List.map_cons, List.prefix_cons_inj]
          exact ih _

/-- In a sweep that goes through, all files have their turns. -/
theorem map_file_turns_of_stopped_eq_none {world : World σ} {files : List SourceFile}
    (hthrough : (loadFiles sink options world files).1.stopped = none) :
    (turns sink options world files).map Turn.file = files := by
  induction files generalizing world with
  | nil => rfl
  | cons file rest ih =>
      cases hstop : Turn.stop? sink options ⟨file, world⟩ with
      | some failure =>
          rw [loadFiles_cons_of_stop hstop] at hthrough
          simp [Sweep.cons] at hthrough
      | none =>
          rw [loadFiles_cons_of_go hstop] at hthrough
          rw [turns_cons_of_go hstop, List.map_cons, ih hthrough]

theorem Sweep.report_eq_ok_iff {sweep : Sweep} {started finished : TimeStamp} {report : Report} :
    sweep.report started finished = .ok report ↔
      sweep.stopped = none ∧
        report = { started := started, finished := some finished, entries := sweep.entries } := by
  unfold Sweep.report
  cases sweep.stopped <;> simp [eq_comm]

/-! ## Sweeps that go through -/

/-- A sweep that was not stopped.  It has a line for each entry, with the number of entries behind
it. -/
structure Sweep.Through (sweep : Sweep) : Prop where
  unstopped : sweep.stopped = none
  lines : ∀ i : Nat, sweep.lines[i]? = sweep.entries[i]?.map fun entry =>
    progressLine entry.name entry.outcome (sweep.entries.length - 1 - i)

theorem Sweep.Through.cons {rest : Sweep} (hrest : rest.Through) (name : String)
    (outcome : Outcome) {remaining : Nat} (hremaining : remaining = rest.entries.length) :
    (rest.cons name outcome remaining).Through where
  unstopped := hrest.unstopped
  lines := by
    subst hremaining
    intro i
    cases i with
    | zero => rfl
    | succ i =>
        simp only [Sweep.cons, List.getElem?_cons_succ, List.length_cons, hrest.lines]
        congr 2
        funext entry
        congr 1
        omega

theorem Turn.stop?_eq_none (hfast : options.failFast = false) (turn : Turn σ) :
    turn.stop? sink options = none := by
  rw [Turn.stop?, hfast]
  split <;> rfl

theorem length_entries_loadFiles {world : World σ} {files : List SourceFile}
    (hthrough : (loadFiles sink options world files).1.stopped = none) :
    (loadFiles sink options world files).1.entries.length = files.length := by
  rw [entries_loadFiles, List.length_map, ← List.length_map Turn.file,
    map_file_turns_of_stopped_eq_none hthrough]

/-- Nothing stops a sweep if none of its turns does. -/
theorem stopped_eq_none_of_go {world : World σ} {files : List SourceFile}
    (hgo : ∀ turn ∈ turns sink options world files, turn.stop? sink options = none) :
    (loadFiles sink options world files).1.stopped = none := by
  induction files generalizing world with
  | nil => rfl
  | cons file rest ih =>
      have hfirst : Turn.stop? sink options ⟨file, world⟩ = none :=
        hgo _ (mem_turns_cons.mpr (Or.inl rfl))
      rw [turns_cons_of_go hfirst, List.forall_mem_cons] at hgo
      rw [loadFiles_cons_of_go hfirst]
      exact ih hgo.2

/-- A sweep that was not stopped has gone through. -/
theorem through_of_stopped_eq_none {world : World σ} {files : List SourceFile}
    (hthrough : (loadFiles sink options world files).1.stopped = none) :
    (loadFiles sink options world files).1.Through := by
  induction files generalizing world with
  | nil => exact ⟨rfl, fun i => rfl⟩
  | cons file rest ih =>
      cases hstop : Turn.stop? sink options ⟨file, world⟩ with
      | some failure =>
          rw [loadFiles_cons_of_stop hstop] at hthrough
          simp [Sweep.cons] at hthrough
      | none =>
          rw [loadFiles_cons_of_go hstop] at hthrough ⊢
          exact (ih hthrough).cons _ _ (length_entries_loadFiles hthrough).symm

/-- A sweep that is not to stop at failures goes through. -/
theorem through_loadFiles (hfast : options.failFast = false) (world : World σ)
    (files : List SourceFile) : (loadFiles sink options world files).1.Through :=
  through_of_stopped_eq_none (stopped_eq_none_of_go fun turn _ => Turn.stop?_eq_none hfast turn)

end Load

/-! ## A small directory

Two files that can be loaded, one that cannot be read, and one that is no source file. -/

namespace Sample

/-- A file whose header has sixteen empty names, with some lines below it. -/
def table (lines : Text.Bytes) : Node :=
  .file (List.replicate 15 Csv.Scanner.comma ++ 0x0A :: lines)

/-- The directory `in`. -/
def directory : Path := [0x69, 0x6E]

/-- The name that is a letter with the ending `.csv`. -/
def name (letter : UInt8) : Text.Bytes := [letter, 0x2E, 0x63, 0x73, 0x76]

/-- The place of the file with a letter. -/
def place (letter : UInt8) : Location := [directory, name letter]

/-- The files `c.csv`, `a.csv`, `b.csv` and `d`; the second has two rows, the third none to be
had. -/
def files : FileSystem where
  entries :=
    [([directory], .directory), (place 0x63, table [0x35, 0x0A]),
      (place 0x61, table [0x31, 0x0A, 0x32, 0x0A]), (place 0x62, .file [0x31, 0x0A]),
      ([directory, [0x64]], table [0x36, 0x0A])]
  working := []

/-- The beginning of 1970. -/
def epoch : TimeStamp := { instant := ⟨0, 0⟩ }

/-- The source files of the directory, in order. -/
def sources : List SourceFile :=
  [0x61, 0x62, 0x63].map fun letter => SourceFile.ofPath (Path.join directory (name letter))

end Sample

end HourlyIngest
