import HourlyIngest.Proofs.Csv.Defect
import HourlyIngest.Proofs.Csv.Run

/-!
# The line that is reported

A record with more fields than the header is reported with a line.  The line is that of the place
where the reading of the record began, which is right behind the byte that ended the record before
it; breaks that stand between the two, such as the line feed of a carriage return and line feed or
an empty line, are passed over only then.  So the line falls short of the one that the record's
first byte stands on by the number of line feeds among these breaks, and it is the right one just
where there is none (`line_of_malformedRow`).

The theory has three parts: what one byte does to the machine, with nothing left out (`Moves`); how
the bytes split behind the record that precedes another one, by induction over the records
(`exists_before`); and what the place of the machine says of the bytes behind it (`along_eq`).
-/

namespace HourlyIngest

open Text

namespace Csv

/-! ## Places -/

def lineFeed : UInt8 := 0x0A

/-- The physical line, counted from 1, on which the byte behind these bytes stands. -/
def lineBehind (bytes : Bytes) : Nat :=
  1 + bytes.count lineFeed

theorem along_eq (place : Place) (bytes : Bytes) :
    place.along bytes = ⟨place.line + bytes.count lineFeed, place.byte + bytes.length⟩ := by
  induction bytes generalizing place with
  | nil => rfl
  | cons byte bytes ih =>
      have hcons : place.along (byte :: bytes) = (place.after byte).along bytes := rfl
      rw [hcons, ih, List.count_cons, List.length_cons, Place.after]
      by_cases hbyte : byte = 0x0A
      · simp [hbyte, lineFeed]
        omega
      · simp [hbyte, lineFeed]
        omega

theorem along_append (place : Place) (bytes rest : Bytes) :
    place.along (bytes ++ rest) = (place.along bytes).along rest :=
  List.foldl_append

namespace Scanner

variable {scanner next : Scanner} {byte : UInt8} {endSeen : Bool} {bytes : Bytes}

/-! ## What one byte does -/

/-- Everything that taking a byte can do: pass over a break between two records, go on in a record
or begin one, or end one.  Only a record that ends moves the place where the next one starts. -/
inductive Moves (scanner : Scanner) (byte : UInt8) : Option Record × Scanner → Prop where
  | blank {next : Scanner} : scanner.mode = .outside → isBreak byte = true →
      next.mode = .outside → next.start = scanner.start →
        next.here = scanner.here.after byte → Moves scanner byte (none, next)
  | within {next : Scanner} : (scanner.mode = .outside → isBreak byte = false) →
      next.mode ≠ .outside → next.start = scanner.start →
        next.here = scanner.here.after byte → Moves scanner byte (none, next)
  | ending {record : Record} {next : Scanner} : scanner.mode ≠ .outside →
      record.start = scanner.start → next.mode = .outside → next.start = next.here →
        next.here = scanner.here.after byte → Moves scanner byte (some record, next)

theorem moves_stepBare (houtside : scanner.mode = .outside → isBreak byte = false) :
    Moves scanner byte ({ scanner with here := scanner.here.after byte }.stepBare byte) := by
  unfold stepBare
  split
  · exact .within houtside (by simp [closeCell]) rfl rfl
  · split
    · next hbreak =>
      refine .ending (fun hmode => ?_) rfl rfl rfl rfl
      rw [houtside hmode] at hbreak
      cases hbreak
    · exact .within houtside (by simp [push]) rfl rfl

theorem moves_stepCell (houtside : scanner.mode = .outside → isBreak byte = false) :
    Moves scanner byte ({ scanner with here := scanner.here.after byte }.stepCell byte) := by
  unfold stepCell
  split
  · exact .within houtside (by simp) rfl rfl
  · exact moves_stepBare houtside

theorem moves_step (scanner : Scanner) (byte : UInt8) :
    Moves scanner byte (scanner.step byte) := by
  have hinside : scanner.mode ≠ .outside → scanner.mode = .outside → isBreak byte = false :=
    fun hne heq => absurd heq hne
  unfold step
  dsimp only
  split
  · next hmode =>
    split
    · next hbreak => exact .blank hmode hbreak hmode rfl rfl
    · next hbreak => exact moves_stepCell fun _ => Bool.not_eq_true _ ▸ hbreak
  · next hmode => exact moves_stepCell (hinside (by simp [hmode]))
  · next hmode => exact moves_stepBare (hinside (by simp [hmode]))
  · next hmode =>
    split
    · exact .within (hinside (by simp [hmode])) (by simp) rfl rfl
    · exact .within (hinside (by simp [hmode])) (by simp [push]) rfl rfl
  · next hmode =>
    split
    · exact .within (hinside (by simp [hmode])) (by simp [push]) rfl rfl
    · exact moves_stepBare (hinside (by simp [hmode]))

/-- A byte that is no break begins a record where none is open. -/
theorem mode_step_ne_outside (hmode : scanner.mode = .outside) (hbyte : isBreak byte = false) :
    (scanner.step byte).2.mode ≠ .outside := by
  have hmoves := moves_step scanner byte
  cases hstep : scanner.step byte with
  | mk ended next =>
  rw [hstep] at hmoves
  cases hmoves with
  | blank _ hbreak =>
      rw [hbyte] at hbreak
      cases hbreak
  | within _ hinside => exact hinside
  | ending hopen => exact absurd hmode hopen

/-! ## What a run does -/

theorem here_run (scanner : Scanner) (bytes : Bytes) :
    (scanner.run bytes).2.here = scanner.here.along bytes := by
  induction bytes generalizing scanner with
  | nil => rfl
  | cons byte bytes ih =>
      have hmoves := moves_step scanner byte
      rw [run_cons, ih]
      cases hstep : scanner.step byte with
      | mk ended next =>
      rw [hstep] at hmoves
      show next.here.along bytes = (scanner.here.after byte).along bytes
      cases hmoves with
      | blank _ _ _ _ hhere | within _ _ _ hhere | ending _ _ _ _ hhere => rw [hhere]

/-- The first record to come began where the machine began. -/
theorem start_of_records {record : Record} {later : List Record}
    (hrecords : scanner.records endSeen bytes = record :: later) :
    record.start = scanner.start := by
  induction bytes generalizing scanner with
  | nil =>
      unfold records atEnd at hrecords
      cases endSeen <;> cases hmode : scanner.mode <;> simp [hmode] at hrecords <;>
        exact hrecords.1 ▸ rfl
  | cons byte bytes ih =>
      rw [records] at hrecords
      have hmoves := moves_step scanner byte
      cases hstep : scanner.step byte with
      | mk ended next =>
      rw [hstep] at hrecords hmoves
      cases hmoves with
      | blank _ _ _ hstart | within _ _ hstart => exact (ih hrecords).trans hstart
      | ending _ hstart => exact (List.cons.inj hrecords).1 ▸ hstart

/-- The bytes up to a record are breaks, and its first byte is none. -/
theorem exists_gap {record : Record} {later : List Record} (hmode : scanner.mode = .outside)
    (hrecords : scanner.records endSeen bytes = record :: later) :
    ∃ (gap : Bytes) (first : UInt8) (rest : Bytes), bytes = gap ++ first :: rest ∧
      (∀ byte ∈ gap, isBreak byte = true) ∧ isBreak first = false ∧
        (scanner.run gap).1 = [] ∧ (scanner.run gap).2.mode = .outside := by
  induction bytes generalizing scanner with
  | nil => cases endSeen <;> simp [records, atEnd, hmode] at hrecords
  | cons byte bytes ih =>
      cases hbreak : isBreak byte with
      | false => exact ⟨[], byte, bytes, rfl, by simp, hbreak, rfl, hmode⟩
      | true =>
          obtain ⟨next, hstep, hnext⟩ : ∃ next, scanner.step byte = (none, next) ∧
              next.mode = .outside := ⟨_, step_blank hmode hbreak, hmode⟩
          rw [records, hstep] at hrecords
          obtain ⟨gap, first, rest, rfl, hgap, hfirst, hrun⟩ := ih hnext hrecords
          refine ⟨byte :: gap, first, rest, rfl, ?_, hfirst, ?_⟩
          · exact List.forall_mem_cons.mpr ⟨hbreak, hgap⟩
          · rw [run_cons_of_step hstep]
            exact hrun

/-! ## Behind a record that precedes another one -/

/-- Some bytes end these records, the last of them with their last byte, and leave the machine
ready for the next record. -/
structure Ends (scanner : Scanner) (bytes : Bytes) (ended : List Record) (next : Scanner) :
    Prop where
  run : scanner.run bytes = (ended, next)
  ne_nil : bytes ≠ []
  dropLast : (scanner.run bytes.dropLast).1 = ended.dropLast
  mode : next.mode = .outside
  start : next.start = next.here

theorem Ends.append {later : Scanner} {more : Bytes} {first : Record} {others : List Record}
    (hfirst : Ends scanner bytes [first] next) (hothers : Ends next more others later)
    (hne : others ≠ []) : Ends scanner (bytes ++ more) (first :: others) later := by
  refine ⟨?_, List.append_ne_nil_of_left_ne_nil hfirst.ne_nil _, ?_, hothers.mode, hothers.start⟩
  · rw [run_append, hfirst.run, hothers.run]
    rfl
  · rw [List.dropLast_append_of_ne_nil hothers.ne_nil, run_append, hfirst.run, hothers.dropLast,
      List.dropLast_cons_of_ne_nil hne]
    rfl

/-- A record behind which there is another one was ended by a byte. -/
theorem exists_ending {record : Record} {later : List Record} (hlater : later ≠ [])
    (hrecords : scanner.records endSeen bytes = record :: later) :
    ∃ (before rest : Bytes) (next : Scanner), bytes = before ++ rest ∧
      Ends scanner before [record] next ∧ next.records endSeen rest = later := by
  induction bytes generalizing scanner with
  | nil =>
      -- the end of the bytes completes one record at most
      unfold records atEnd at hrecords
      cases endSeen <;> cases hmode : scanner.mode <;> simp [hmode, hlater.symm] at hrecords
  | cons byte bytes ih =>
      have hgoOn : ∀ next, scanner.step byte = (none, next) →
          next.records endSeen bytes = record :: later →
          ∃ (before rest : Bytes) (next : Scanner), byte :: bytes = before ++ rest ∧
            Ends scanner before [record] next ∧ next.records endSeen rest = later := by
        intro next hstep hnext
        obtain ⟨before, rest, final, rfl, hends, hrest⟩ := ih hnext
        refine ⟨byte :: before, rest, final, rfl, ⟨?_, by simp, ?_, hends.mode, hends.start⟩, hrest⟩
        · rw [run_cons_of_step hstep]
          exact hends.run
        · rw [List.dropLast_cons_of_ne_nil hends.ne_nil, run_cons_of_step hstep]
          exact hends.dropLast
      rw [records] at hrecords
      have hmoves := moves_step scanner byte
      cases hstep : scanner.step byte with
      | mk ended next =>
      rw [hstep] at hrecords hmoves
      cases hmoves with
      | blank => exact hgoOn _ hstep hrecords
      | within => exact hgoOn _ hstep hrecords
      | ending _ _ hmode hstart =>
          obtain ⟨rfl, hrest⟩ := List.cons.inj hrecords
          refine ⟨[byte], bytes, next, rfl, ⟨?_, by simp, rfl, hmode, hstart⟩, hrest⟩
          rw [run_cons, hstep]
          rfl

/-- The bytes split behind the records that precede another one. -/
theorem exists_before {earlier later : List Record} {record : Record} (hne : earlier ≠ [])
    (hrecords : scanner.records endSeen bytes = earlier ++ record :: later) :
    ∃ (before rest : Bytes) (next : Scanner), bytes = before ++ rest ∧
      Ends scanner before earlier next ∧ next.records endSeen rest = record :: later := by
  induction earlier generalizing scanner bytes with
  | nil => exact absurd rfl hne
  | cons first others ih =>
      obtain ⟨before, rest, next, rfl, hfirst, hrest⟩ :=
        exists_ending (by simp : others ++ record :: later ≠ []) hrecords
      by_cases hothers : others = []
      · subst hothers
        exact ⟨before, rest, next, rfl, hfirst, hrest⟩
      · obtain ⟨more, rest, final, rfl, hmore, hfinal⟩ := ih hothers hrest
        exact ⟨before ++ more, rest, final, (List.append_assoc _ _ _).symm,
          hfirst.append hmore hothers, hfinal⟩

end Scanner

/-! ## Where a record stands in a file -/

/-- Where a record that follows some others stands in a file.  The last byte of `before` ends the
last of the others, the breaks of `gap` are no part of any record, and `first` is the first byte of
the record. -/
structure Stands (bytes : Bytes) (earlier : List Record) (before gap : Bytes) (first : UInt8)
    (rest : Bytes) : Prop where
  split : bytes = before ++ gap ++ first :: rest
  ended : (runFile before).1 = earlier
  dropLast : (runFile before.dropLast).1 = earlier.dropLast
  breaks : ∀ byte ∈ gap, Scanner.isBreak byte = true
  no_break : Scanner.isBreak first = false
  outside : (runFile (before ++ gap)).2.mode = .outside
  inside : (runFile (before ++ gap ++ [first])).2.mode ≠ .outside

/-- A file is a byte order mark or nothing, and what is read; the same mark is passed over in every
beginning of the file that contains it. -/
theorem exists_opening (bytes : Bytes) :
    ∃ lead, bytes = lead ++ (opening bytes).2 ∧ (opening bytes).1.here = Place.along {} lead ∧
      ∀ start rest, (opening bytes).2 = start ++ rest →
        runFile (lead ++ start) = (opening bytes).1.run start := by
  unfold opening
  split
  · next hmark =>
    obtain ⟨body, rfl⟩ := List.isPrefixOf_iff_prefix.mp hmark
    refine ⟨mark, rfl, rfl, fun start rest _ => ?_⟩
    rw [runFile, opening, if_pos (List.isPrefixOf_iff_prefix.mpr (List.prefix_append _ _))]
    rfl
  · next hmark =>
    refine ⟨[], rfl, rfl, fun start rest hbody => ?_⟩
    have hstart : ¬mark.isPrefixOf start = true := by
      rw [List.isPrefixOf_iff_prefix] at hmark ⊢
      exact fun hstart => hmark (hstart.trans ⟨rest, hbody.symm⟩)
    rw [List.nil_append, runFile, opening, if_neg hstart]

/-- The start of a record that follows others is the place behind the byte that ended them. -/
theorem exists_stands {endSeen : Bool} {bytes : Bytes} {earlier later : List Record}
    {record : Record} (hne : earlier ≠ [])
    (hrecords : records endSeen bytes = earlier ++ record :: later) :
    ∃ (before gap : Bytes) (first : UInt8) (rest : Bytes),
      Stands bytes earlier before gap first rest ∧ record.start.line = lineBehind before := by
  obtain ⟨lead, hlead, hhere, hruns⟩ := exists_opening bytes
  rw [records_eq_opening] at hrecords
  obtain ⟨before, behind, next, hbody, hends, hrest⟩ := Scanner.exists_before hne hrecords
  obtain ⟨gap, first, rest, rfl, hgap, hfirst, hsilent, hoffside⟩ :=
    Scanner.exists_gap hends.mode hrest
  have hbefore : runFile (lead ++ before) = (earlier, next) :=
    (hruns before _ hbody).trans hends.run
  have hgapRun : runFile (lead ++ before ++ gap) = (earlier, (next.run gap).2) := by
    rw [List.append_assoc, hruns (before ++ gap) (first :: rest) (by rw [hbody, List.append_assoc]),
      Scanner.run_append, hends.run, hsilent, List.append_nil]
  refine ⟨lead ++ before, gap, first, rest, ⟨?_, ?_, ?_, hgap, hfirst, ?_, ?_⟩, ?_⟩
  · calc
      bytes = lead ++ (before ++ (gap ++ first :: rest)) := by rw [← hbody, ← hlead]
      _ = lead ++ before ++ gap ++ first :: rest := by simp only [List.append_assoc]
  · rw [hbefore]
  · have hshort : (opening bytes).2 =
        before.dropLast ++ (before.getLast hends.ne_nil :: (gap ++ first :: rest)) := by
      rw [← List.singleton_append, ← List.append_assoc, List.dropLast_append_getLast, hbody]
    rw [List.dropLast_append_of_ne_nil hends.ne_nil, hruns _ _ hshort]
    exact hends.dropLast
  · rw [hgapRun]
    exact hoffside
  · have hlong : (opening bytes).2 = before ++ gap ++ [first] ++ rest := by
      rw [hbody, List.append_assoc (before ++ gap), List.append_assoc]
      rfl
    rw [List.append_assoc lead, List.append_assoc lead, hruns _ _ hlong, Scanner.run_append,
      Scanner.run_append, hends.run]
    exact Scanner.mode_step_ne_outside hoffside hfirst
  · have hstart : record.start = Place.along {} (lead ++ before) := by
      calc
        record.start = next.start := Scanner.start_of_records hrest
        _ = next.here := hends.start
        _ = ((opening bytes).1.run before).2.here := by rw [hends.run]
        _ = (opening bytes).1.here.along before := Scanner.here_run _ _
        _ = Place.along {} (lead ++ before) := by rw [hhere, along_append]
    rw [hstart, along_eq]
    rfl

theorem lineBehind_append_eq_iff (before gap : Bytes) :
    lineBehind before = lineBehind (before ++ gap) ↔ lineFeed ∉ gap := by
  unfold lineBehind
  rw [List.count_append, ← List.count_eq_zero]
  omega

end Csv

/-! ## The line of a record that is too wide -/

namespace Contents

/-- The record is the first one with which something is wrong, and has more fields than the header;
`message` tells both numbers. -/
def FirstWide (input : Input) (earlier : List Csv.Record) (record : Csv.Record)
    (message : String) : Prop :=
  ∃ (first : Csv.Record) (sound later : List Csv.Record) (header fields : List String),
    input.records = earlier ++ record :: later ∧ earlier = first :: sound ∧
      first.cells = header.map encode ∧ columnCount ≤ header.length ∧
        (∀ row ∈ sound, ∃ fields, Sound header.length row fields) ∧
          record.cells = fields.map encode ∧ header.length < fields.length ∧
            message = wideRowText header.length fields.length

theorem exists_firstWide {label file message : String} {input : Input} {line : Nat}
    (hdefect : Defect label input (.malformedRow file line message)) :
    ∃ earlier record, FirstWide input earlier record message ∧ line = record.start.line := by
  cases hdefect with
  | header _ hgarbled =>
      obtain ⟨_, _, _, _, -, -, -, hfailure⟩ := hgarbled
      cases hfailure
  | @row first record before after header _ hrecords hfirst hwidth hbefore hspoiled =>
      cases hspoiled with
      | garbled hgarbled =>
          obtain ⟨_, _, _, _, -, -, -, hfailure⟩ := hgarbled
          cases hfailure
      | @wide fields hcells hwide =>
          exact ⟨first :: before, record, ⟨first, before, after, header, fields, hrecords, rfl,
            hfirst, hwidth, hbefore, hcells, hwide, rfl⟩, rfl⟩

/-- **The line of a record that is too wide is that of the byte behind the record before it**, and
so it is the line on which the record begins just where no line feed stands between the two. -/
theorem line_of_malformedRow {label file message : String} {input : Input} {line : Nat}
    (hread : read label input = .error (.malformedRow file line message)) :
    ∃ (earlier : List Csv.Record) (record : Csv.Record) (before gap : Bytes) (first : UInt8)
      (rest : Bytes),
      FirstWide input earlier record message ∧
        Csv.Stands input.bytes earlier before gap first rest ∧ line = Csv.lineBehind before ∧
          (line = Csv.lineBehind (before ++ gap) ↔ Csv.lineFeed ∉ gap) := by
  obtain ⟨earlier, record, hwide, hline⟩ := exists_firstWide (defect_of_read hread)
  obtain ⟨_, _, later, _, _, hrecords, hearlier, -⟩ := id hwide
  have hne : earlier ≠ [] := hearlier ▸ List.cons_ne_nil _ _
  obtain ⟨before, gap, first, rest, hstands, hstart⟩ := Csv.exists_stands hne hrecords
  have hbefore : line = Csv.lineBehind before := hline.trans hstart
  refine ⟨earlier, record, before, gap, first, rest, hwide, hstands, hbefore, ?_⟩
  rw [hbefore]
  exact Csv.lineBehind_append_eq_iff before gap

end Contents

namespace Sample

/-- A header of sixteen columns, ended by a carriage return and a line feed, and a record of
seventeen fields. -/
def broad : Input where
  bytes := List.replicate 15 Csv.Scanner.comma ++ [0x0D, 0x0A] ++
    List.replicate 16 Csv.Scanner.comma ++ [0x0D, 0x0A]

end Sample

/-- The record of seventeen fields is reported with the line of the header. -/
theorem line_of_malformedRow_sample :
    Contents.read "a.csv" Sample.broad =
        .error (.malformedRow "a.csv" 1 "expected 16 fields, found 17") ∧
      ∃ (earlier : List Csv.Record) (record : Csv.Record) (before gap : Bytes) (first : UInt8)
        (rest : Bytes),
        Contents.FirstWide Sample.broad earlier record "expected 16 fields, found 17" ∧
          Csv.Stands Sample.broad.bytes earlier before gap first rest ∧
            1 = Csv.lineBehind before ∧
              (1 = Csv.lineBehind (before ++ gap) ↔ Csv.lineFeed ∉ gap) := by
  have hread : Contents.read "a.csv" Sample.broad =
      .error (.malformedRow "a.csv" 1 "expected 16 fields, found 17") := by
    decide +kernel
  exact ⟨hread, Contents.line_of_malformedRow hread⟩

/-- The record begins on the second line, behind the line feed that ends the header's line, but the
first line is reported. -/
theorem line_of_malformedRow_ne_line :
    ∃ (earlier : List Csv.Record) (before gap : Bytes) (first : UInt8) (rest : Bytes),
      Sample.broad.records.take 1 = earlier ∧
        Csv.Stands Sample.broad.bytes earlier before gap first rest ∧
          Csv.lineBehind (before ++ gap) = 2 ∧
            Contents.read "a.csv" Sample.broad =
              .error (.malformedRow "a.csv" 1 "expected 16 fields, found 17") := by
  refine ⟨_, List.replicate 15 Csv.Scanner.comma ++ [0x0D], [0x0A], Csv.Scanner.comma,
    List.replicate 15 Csv.Scanner.comma ++ [0x0D, 0x0A], rfl, ⟨?_, ?_, ?_, ?_, ?_, ?_, ?_⟩, ?_, ?_⟩
  all_goals decide +kernel

end HourlyIngest
