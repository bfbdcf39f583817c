import HourlyIngest.Proofs.FileSystem.Writing
import HourlyIngest.Proofs.TimeStamp.Reading
import HourlyIngest.Proofs.Json.RoundTrip
import HourlyIngest.Proofs.Text.Utf8
import HourlyIngest.Run

/-!
# Reports read back

What is written for a report is JSON, and tells the report: a reader which insists that every object
has just the members it should have gets all entries from it, whatever the local clock was
(`Report.ofJson?_toJson`), and the same report if the clock was ahead of universal time, or behind
it, by whole minutes (`Report.InMinutes`).  So two such reports with the same text are the same.

The figures have to be whole numbers of 64 bits, and no instant may lie in a leap second
(`Report.IsPlain`); years may be any, and names and messages may be any texts.
-/

namespace HourlyIngest

open Number

/-! ## The reader -/

namespace Json

/-- The value is an object that has the named members, in any order, and no others. -/
def hasExactly (names : List String) : Json → Bool
  | object members => (members.map Prod.fst).isPerm names
  | _ => false

end Json

def Outcome.ofJson? (json : Json) : Option Outcome := do
  let status ← (json.member? "status").bind Json.string?
  if status = "loaded" ∧ json.hasExactly ["status", "rows", "deleted"] then
    let rows ← (json.member? "rows").bind Json.natural?
    let deleted ← (json.member? "deleted").bind Json.boolean?
    return .loaded rows deleted
  else if status = "checked" ∧
      json.hasExactly ["status", "rows", "discarded_columns", "header_mismatches"] then
    let rows ← (json.member? "rows").bind Json.natural?
    let discardedColumns ← (json.member? "discarded_columns").bind Json.natural?
    let headerMismatches ← (json.member? "header_mismatches").bind Json.natural?
    return .checked rows discardedColumns headerMismatches
  else if status = "failed" ∧ json.hasExactly ["status", "error"] then
    let error ← (json.member? "error").bind Json.string?
    return .failed error
  else none

def Entry.ofJson? (json : Json) : Option Entry := do
  if json.hasExactly ["name", "outcome"] then
    let name ← (json.member? "name").bind Json.string?
    let outcome ← (json.member? "outcome").bind Outcome.ofJson?
    return ⟨name, outcome⟩
  else none

def TimeStamp.ofJson? : Json → Option TimeStamp
  | .string text => ofText? text
  | _ => none

/-- A time stamp that may be missing, and is null if it is. -/
def TimeStamp.ofOptionalJson? : Json → Option (Option TimeStamp)
  | .null => some none
  | value => (ofJson? value).map some

namespace Report

def entriesOfJson? (json : Json) : Option (List Entry) := do
  let files ← (json.member? "files").bind Json.array?
  files.mapM Entry.ofJson?

def ofJson? (json : Json) : Option Report := do
  if json.hasExactly ["started_at", "finished_at", "files"] then
    let started ← (json.member? "started_at").bind TimeStamp.ofJson?
    let finished ← (json.member? "finished_at").bind TimeStamp.ofOptionalJson?
    let entries ← entriesOfJson? json
    return ⟨started, finished, entries⟩
  else none

/-- The report in a file. -/
def ofBytes? (bytes : Text.Bytes) : Option Report := do
  let text ← Text.decode? bytes
  let json ← Json.parse? text
  ofJson? json

end Report

/-! ## What can be read back -/

/-- The figures of an outcome. -/
def Outcome.figures : Outcome → List Nat
  | .loaded rows _ => [rows]
  | .checked rows discardedColumns headerMismatches => [rows, discardedColumns, headerMismatches]
  | .failed _ => []

def Report.stamps (report : Report) : List TimeStamp :=
  report.started :: report.finished.toList

/-- The figures of the report have 64 bits, and its instants do not lie in leap seconds. -/
structure Report.IsPlain (report : Report) : Prop where
  nanos : ∀ stamp ∈ report.stamps, stamp.instant.nanos < Instant.second
  figures : ∀ entry ∈ report.entries, ∀ figure ∈ entry.outcome.figures, figure ≤ maxUnsigned64

/-- The local clock was ahead of universal time, or behind it, by whole minutes. -/
def Report.InMinutes (report : Report) : Prop :=
  ∀ stamp ∈ report.stamps, 60 ∣ stamp.offset.seconds

instance (report : Report) : Decidable report.InMinutes :=
  inferInstanceAs (Decidable (∀ stamp ∈ report.stamps, 60 ∣ stamp.offset.seconds))

variable {depth n : Nat} {outcome : Outcome} {entry : Entry} {report : Report}

namespace Json

theorem exact_ofNat (hn : n ≤ maxUnsigned64) : Exact depth (.ofNat n) :=
  .integer ⟨by omega, by exact_mod_cast hn⟩

theorem exact_nil : ∀ member ∈ ([] : List (String × Json)), Exact depth member.2 :=
  List.forall_mem_nil _

theorem exact_cons {name : String} {value : Json} {members : List (String × Json)}
    (hvalue : Exact depth value) (hmembers : ∀ member ∈ members, Exact depth member.2) :
    ∀ member ∈ (name, value) :: members, Exact depth member.2 :=
  List.forall_mem_cons.mpr ⟨hvalue, hmembers⟩

end Json

section Texts

open Json

theorem Outcome.exact_toJson (hfigures : ∀ figure ∈ outcome.figures, figure ≤ maxUnsigned64) :
    Exact (depth + 1) outcome.toJson := by
  have hfigure : ∀ figure ∈ outcome.figures, Exact depth (.ofNat figure) :=
    fun figure hmem => exact_ofNat (hfigures figure hmem)
  cases outcome with
  | loaded rows deleted =>
      have hrows : Exact depth (.ofNat rows) := hfigure rows List.mem_cons_self
      exact .object (by simp)
        (exact_cons (.string _) (exact_cons hrows (exact_cons (.boolean _) exact_nil)))
  | checked rows discardedColumns headerMismatches =>
      simp only [figures, List.forall_mem_cons] at hfigure
      obtain ⟨hrows, hcolumns, hmismatches, -⟩ := hfigure
      exact .object (by simp) (exact_cons (.string _) (exact_cons hrows
        (exact_cons hcolumns (exact_cons hmismatches exact_nil))))
  | failed error =>
      exact .object (by simp) (exact_cons (.string _) (exact_cons (.string _) exact_nil))

theorem Report.exact_entryJson
    (hfigures : ∀ figure ∈ entry.outcome.figures, figure ≤ maxUnsigned64) :
    Exact (depth + 2) (entryJson entry) :=
  .object (by simp)
    (exact_cons (.string _) (exact_cons (Outcome.exact_toJson hfigures) exact_nil))

/-- A report nests four deep. -/
theorem Report.IsPlain.exact_toJson (hplain : report.IsPlain) :
    Exact (depth + 4) report.toJson := by
  have hfinished : Exact (depth + 3)
      (.ofOption (fun stamp => .string stamp.text) report.finished) := by
    cases report.finished with
    | none => exact .null
    | some stamp => exact .string _
  have hfiles : Exact (depth + 3) (.array (report.entries.map entryJson)) := by
    apply Exact.array
    intro json hjson
    obtain ⟨entry, hentry, rfl⟩ := List.mem_map.mp hjson
    exact exact_entryJson (hplain.figures entry hentry)
  exact .object (by simp)
    (exact_cons (.string _) (exact_cons hfinished (exact_cons hfiles exact_nil)))

end Texts

/-! ## What the reader makes of it -/

theorem Json.natural?_ofNat (n : Nat) : (Json.ofNat n).natural? = some n := by
  rw [ofNat, natural?, if_pos (Int.natCast_nonneg n), Int.toNat_natCast]

/-- An outcome is told from the others by its status, and its members are its figures. -/
theorem Outcome.ofJson?_toJson (outcome : Outcome) : ofJson? outcome.toJson = some outcome := by
  cases outcome with
  | loaded rows deleted =>
      simp [ofJson?, toJson, Json.hasExactly, List.isPerm_iff, Json.member?, Json.string?,
        Json.natural?_ofNat, Json.boolean?]
  | checked rows discardedColumns headerMismatches =>
      simp [ofJson?, toJson, Json.hasExactly, List.isPerm_iff, Json.member?, Json.string?,
        Json.natural?_ofNat]
  | failed error =>
      simp [ofJson?, toJson, Json.hasExactly, List.isPerm_iff, Json.member?, Json.string?]

theorem Entry.ofJson?_entryJson (entry : Entry) :
    ofJson? (Report.entryJson entry) = some entry := by
  simp [ofJson?, Report.entryJson, Json.hasExactly, List.isPerm_iff, Json.member?, Json.string?,
    Outcome.ofJson?_toJson]

theorem Entry.mapM_entryJson (entries : List Entry) :
    (entries.map Report.entryJson).mapM ofJson? = some entries := by
  induction entries with
  | nil => rfl
  | cons entry entries ih =>
      rw [List.map_cons, List.mapM_cons, ofJson?_entryJson, ih]
      rfl

theorem TimeStamp.ofOptionalJson?_ofOption (stamp? : Option TimeStamp) :
    ofOptionalJson? (.ofOption (fun stamp => .string stamp.text) stamp?) =
      match stamp? with
      | none => some none
      | some stamp => (ofText? stamp.text).map some := by
  cases stamp? <;> rfl

/-- The entries are read from the report. -/
theorem Report.entriesOfJson?_toJson (report : Report) :
    entriesOfJson? report.toJson = some report.entries :=
  Entry.mapM_entryJson report.entries

/-- The reader gets the report up to what it takes for its time stamps. -/
theorem Report.ofJson?_toJson (report : Report) :
    ofJson? report.toJson = (do
      let started ← TimeStamp.ofText? report.started.text
      let finished ← TimeStamp.ofOptionalJson?
        (.ofOption (fun stamp => .string stamp.text) report.finished)
      return ⟨started, finished, report.entries⟩) := by
  have hexact : report.toJson.hasExactly ["started_at", "finished_at", "files"] = true := rfl
  have hstarted : report.toJson.member? "started_at" = some (.string report.started.text) := rfl
  have hfinished : report.toJson.member? "finished_at" =
      some (.ofOption (fun stamp => .string stamp.text) report.finished) := rfl
  simp only [ofJson?, if_pos hexact, hstarted, hfinished, TimeStamp.ofJson?,
    report.entriesOfJson?_toJson, Option.bind_eq_bind, Option.bind_some]

/-- It is the same report just if the local clock was off by whole minutes. -/
theorem Report.IsPlain.ofJson?_toJson_eq_iff (hplain : report.IsPlain) :
    ofJson? report.toJson = some report ↔ report.InMinutes := by
  have hread : ∀ stamp ∈ report.stamps,
      (TimeStamp.ofText? stamp.text = some stamp ↔ 60 ∣ stamp.offset.seconds) :=
    fun stamp hstamp => TimeStamp.ofText?_text_eq_iff (hplain.nanos stamp hstamp)
  obtain ⟨started, finished, entries⟩ := report
  rw [ofJson?_toJson, TimeStamp.ofOptionalJson?_ofOption]
  unfold InMinutes
  cases finished with
  | none =>
      rw [stamps, Option.toList_none, List.forall_mem_singleton] at hread ⊢
      simp [Option.bind_eq_some_iff, ← hread]
  | some finished =>
      rw [stamps, Option.toList_some, List.forall_mem_cons, List.forall_mem_singleton] at hread ⊢
      simp [Option.bind_eq_some_iff, ← hread.1, ← hread.2]

/-- A report is read from its text as what was written. -/
theorem Report.IsPlain.parse?_text (hplain : report.IsPlain) :
    Json.parse? report.text = some report.toJson :=
  Json.parse?_pretty (@exact_toJson 123 report hplain)

/-- The end of a run is null just if the run has not ended. -/
theorem Report.member?_finished (report : Report) :
    report.toJson.member? "finished_at" = some .null ↔ report.finished = none := by
  have hfinished : report.toJson.member? "finished_at" =
      some (.ofOption (fun stamp => .string stamp.text) report.finished) := rfl
  rw [hfinished]
  cases report.finished <;> simp [Json.ofOption]

/-- The bytes of a report are read as its JSON. -/
theorem Report.IsPlain.ofBytes?_encode (hplain : report.IsPlain) :
    ofBytes? (Text.encode report.text) = ofJson? report.toJson := by
  have hdecode : Text.decode? (Text.encode report.text) = some report.text := by
    rw [Text.decode?, Text.decode_encode]
    rfl
  rw [ofBytes?, hdecode]
  simp only [Option.bind_eq_bind, Option.bind_some, hplain.parse?_text]

/-- A report that has been written stands where its path leads to. -/
theorem Report.node?_of_write {path : Path} {fs files : FileSystem}
    (hwrite : report.write path fs = (.ok (), files)) :
    ∃ place, (fs.makeParents path).2.locate .file path = .ok place ∧
      files.node? place = some (.file (Text.encode report.text)) := by
  unfold write at hwrite
  split at hwrite
  · cases hwrite
  next made hmade =>
  split at hwrite
  · cases hwrite
  next written hwritten =>
  obtain rfl := (Prod.mk.inj hwrite).2
  obtain ⟨place, hlocate, hfree, -, rfl⟩ := FileSystem.write_eq_ok_iff.mp hwritten
  have hbelow : place ≠ [] := by
    rintro rfl
    exact hfree (FileSystem.node?_root _)
  refine ⟨place, by rw [hmade]; exact hlocate, ?_⟩
  rw [FileSystem.node?_put, if_pos ⟨rfl, hbelow⟩]

/-- Plain reports with the same text have the same JSON. -/
theorem Report.IsPlain.toJson_eq (hplain : report.IsPlain) {other : Report}
    (hother : other.IsPlain) (htext : other.text = report.text) : other.toJson = report.toJson := by
  have hparse := hother.parse?_text
  rw [htext, hplain.parse?_text] at hparse
  exact (Option.some.inj hparse).symm

end HourlyIngest
