import HourlyIngest.Proofs.Csv.Run
import HourlyIngest.Proofs.Sweep.Contract
import HourlyIngest.Proofs.Sweep.Turn

/-!
# Files that end inside a quoted cell

A file may end where a quoted cell has been opened and not been closed (`Unclosed`), as a file does
that was cut off.  The end of the file closes the cell then: such a file is read as if the closing
quote stood at its end (`read_unclosed`), so that everything behind the opening quote, line breaks
included, is the last cell of the last record.  No failure comes of it, and a file that is so read
is loaded and removed like any other one (`unclosed_loaded_and_removed`).
-/

namespace HourlyIngest

open Text

namespace Csv

/-- The bytes end inside a quoted cell: where a cell begins there is a quote, and behind it every
quote is doubled up to the end. -/
def Unclosed (bytes : Bytes) : Prop :=
  ∃ before cell : Bytes, bytes = before ++ Scanner.quote :: cell.flatMap Scanner.double ∧
    (runFile before).2.AtCell

theorem runFile_append_quote (before rest : Bytes) :
    runFile (before ++ Scanner.quote :: rest) =
      ((runFile before).1 ++ ((runFile before).2.run (Scanner.quote :: rest)).1,
        ((runFile before).2.run (Scanner.quote :: rest)).2) := by
  rw [runFile, opening_append_cons (by decide), Scanner.run_append]
  rfl

/-- Closing the cell at the end changes no record. -/
theorem records_append_quote {bytes : Bytes} (hopen : Unclosed bytes) :
    records true (bytes ++ [Scanner.quote]) = records true bytes := by
  obtain ⟨before, cell, rfl, hcell⟩ := hopen
  have hquoted := Scanner.run_quoted hcell cell
  have hclosed := Scanner.run_append_of_run hquoted [Scanner.quote]
  rw [Scanner.run_cons_of_step (Scanner.step_inQuotes_quote rfl), Scanner.run_nil,
    List.cons_append] at hclosed
  -- behind either of the two, the record that is open has the same cells
  rw [records_eq_runFile, records_eq_runFile, List.append_assoc, List.cons_append,
    runFile_append_quote, runFile_append_quote, hclosed, hquoted]
  rfl

end Csv

theorem Contents.read_congr {label : String} {first second : Bytes}
    (hrecords : Csv.records true first = Csv.records true second) :
    read label { bytes := first } = read label { bytes := second } := by
  have hheader : header { bytes := first } = header { bytes := second } := by
    simp only [header, Option.isNone_none, hrecords]
  rw [read, read, hheader]

/-- **The end of a file closes a quoted cell.**  A file that ends inside one is read as if the
closing quote stood at its end; and if that file can be read, the sink takes its rows and the path
can be removed, then the file is loaded and gone. -/
theorem read_unclosed {bytes : Bytes} (hopen : Csv.Unclosed bytes) :
    (∀ label, Contents.read label { bytes := bytes } =
        Contents.read label { bytes := bytes ++ [Csv.Scanner.quote] }) ∧
      ∀ {σ : Type} (sink : Sink σ) (options : SweepOptions) (world after : World σ)
        (file : SourceFile) (contents : Contents) (files : FileSystem),
        world.files.read file.path = .ok (some bytes) →
        Contents.read (fileLabel file.path) { bytes := bytes ++ [Csv.Scanner.quote] } =
          .ok contents →
        sink.insert world file.name contents.rows = (.ok contents.rows.length, after) →
        options.deleteAfterLoad = true → after.files.remove file.path = .ok files →
        loadFile sink options world file =
          (.ok (.loaded contents.rows.length true), { after with files := files }) := by
  have hread : ∀ label, Contents.read label { bytes := bytes } =
      Contents.read label { bytes := bytes ++ [Csv.Scanner.quote] } :=
    fun label => Contents.read_congr (Csv.records_append_quote hopen).symm
  refine ⟨hread, fun sink options world after file contents files hfile hclosed hinsert hwanted
    hremove => ?_⟩
  refine loadFile_of_removed sink options hwanted ?_ hinsert hremove
  rw [Contents.ofPath, hfile]
  exact (hread _).trans hclosed

namespace Sample

/-- A file with sixteen columns whose one record is cut off behind a quote and a digit. -/
def cutOff : Bytes :=
  List.replicate 15 Csv.Scanner.comma ++ [0x0A, Csv.Scanner.quote, 0x31]

theorem unclosed_cutOff : Csv.Unclosed cutOff :=
  ⟨List.replicate 15 Csv.Scanner.comma ++ [0x0A], [0x31], rfl, Or.inl (by decide)⟩

/-- The directory `in` with the file `a.csv`, which is cut off. -/
def damaged : FileSystem where
  entries := [([directory], .directory), (place 0x61, .file cutOff)]
  working := []

def damagedSource : SourceFile :=
  SourceFile.ofPath (Path.join directory (name 0x61))

/-- What is read from the file. -/
def restored : Contents :=
  ⟨16, Contents.mismatches (List.replicate 16 ""), [Observation.ofRecord ["1"]]⟩

end Sample

/-- The file that was cut off is read as if it had been closed, loaded with its one row, and
removed. -/
theorem read_unclosed_sample :
    let world : World Wavering := ⟨{}, Sample.damaged⟩
    let after : World Wavering := ⟨{ rows := Sample.restored.rows }, Sample.damaged⟩
    let left := Sample.damaged.erase (Sample.place 0x61)
    Csv.Unclosed Sample.cutOff ∧
      world.files.read Sample.damagedSource.path = .ok (some Sample.cutOff) ∧
        Contents.read "a.csv" { bytes := Sample.cutOff } =
          Contents.read "a.csv" { bytes := Sample.cutOff ++ [Csv.Scanner.quote] } ∧
          loadFile Wavering.sink {} world Sample.damagedSource =
            (.ok (.loaded 1 true), { after with files := left }) := by
  intro world after left
  have hfile : world.files.read Sample.damagedSource.path = .ok (some Sample.cutOff) := by
    decide +kernel
  have hclosed : Contents.read (fileLabel Sample.damagedSource.path)
      { bytes := Sample.cutOff ++ [Csv.Scanner.quote] } = .ok Sample.restored := by
    decide +kernel
  have hremove : after.files.remove Sample.damagedSource.path = .ok left := by
    decide +kernel
  have hunclosed := read_unclosed Sample.unclosed_cutOff
  exact ⟨Sample.unclosed_cutOff, hfile, hunclosed.1 "a.csv",
    hunclosed.2 Wavering.sink {} world after Sample.damagedSource Sample.restored left hfile hclosed
      rfl rfl hremove⟩

/-- A file that was cut off inside a quoted cell is read without a failure, its rows are handed to
the sink, and it is removed. -/
theorem unclosed_loaded_and_removed :
    let world : World Wavering := ⟨{}, Sample.damaged⟩
    let loaded := loadFile Wavering.sink {} world Sample.damagedSource
    Csv.Unclosed Sample.cutOff ∧
      world.files.node? (Sample.place 0x61) = some (.file Sample.cutOff) ∧
        (Contents.read "a.csv" { bytes := Sample.cutOff }).toOption.map Contents.rows =
          some [Observation.ofRecord ["1"]] ∧
          loaded.1 = .ok (.loaded 1 true) ∧ loaded.2.sink.rows.length = 1 ∧
            loaded.2.files.node? (Sample.place 0x61) = none := by
  refine ⟨Sample.unclosed_cutOff, by decide, ?_, ?_, ?_, ?_⟩
  all_goals decide +kernel

end HourlyIngest
