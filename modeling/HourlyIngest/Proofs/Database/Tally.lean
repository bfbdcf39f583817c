import HourlyIngest.Database.Script
import HourlyIngest.Proofs.Database.Arrival

/-!
# What a commit says about the counts

The server reports a count for each statement, and these counts are added up before they are looked
at.  Whatever the counts are, if their total, as a 64-bit number, is the number of rows, a commit is
asked for (`Session.insertRows_telling`), and it is asked for only then (`tally_of_commit`).  This
is less than that every statement has inserted its rows.  One statement may report too many rows and
another one too few (`commit_of_compensating_counts`), and a total may come round to the number of
rows.  Both take a count that is larger than its piece; without such a count, a commit does mean
that every statement has inserted its rows.
-/

namespace HourlyIngest.Database

/-! ## Counts and pieces -/

section Counts

variable {α : Type} {chunks : List (List α)} {counted : List Nat}

/-- No count exceeds the size of its piece. -/
def Within (chunks : List (List α)) (counted : List Nat) : Prop :=
  List.Forall₂ (fun chunk count => count ≤ chunk.length) chunks counted

/-- Every count is the size of its piece. -/
def Exact (chunks : List (List α)) (counted : List Nat) : Prop :=
  List.Forall₂ (fun chunk count => count = chunk.length) chunks counted

theorem Within.sum_le (hwithin : Within chunks counted) :
    counted.sum ≤ chunks.flatten.length := by
  induction hwithin with
  | nil => exact Nat.le_refl _
  | cons hfirst _ ih =>
      rw [List.sum_cons, List.flatten_cons, List.length_append]
      omega

theorem Exact.within (hexact : Exact chunks counted) : Within chunks counted :=
  hexact.imp fun _ _ heq => Nat.le_of_eq heq

/-- Where no count exceeds its piece, the total is right only if every count is. -/
theorem Within.exact (hwithin : Within chunks counted)
    (hsum : chunks.flatten.length ≤ counted.sum) : Exact chunks counted := by
  induction hwithin with
  | nil => exact .nil
  | cons hfirst hrest ih =>
      -- what the first count lacks, the others would have to have in excess
      have hothers := Within.sum_le hrest
      rw [List.sum_cons, List.flatten_cons, List.length_append] at hsum
      exact .cons (by omega) (ih (by omega))

end Counts

/-- Requests that insert pieces, all of them granted, bring one count for each piece. -/
theorem length_counts_of_insertions {writer : Writer} {chunks : List (List Observation)}
    {sent : List Exchange} (hgranted : ∀ exchange ∈ sent, exchange.reply.isGranted = true)
    (hrequests : requests sent = writer.insertions chunks) :
    (counts sent).length = chunks.length := by
  induction chunks generalizing sent with
  | nil =>
      obtain rfl : sent = [] := List.map_eq_nil_iff.mp hrequests
      rfl
  | cons chunk chunks ih =>
      obtain ⟨first, others, rfl, hprepare, hothers⟩ := List.map_eq_cons_iff.mp hrequests
      obtain ⟨second, rest, rfl, hexecute, hrest⟩ := List.map_eq_cons_iff.mp hothers
      rw [List.forall_mem_cons, List.forall_mem_cons] at hgranted
      have hnone : first.count? = none := by rw [Exchange.count?, hprepare]
      have hsome : second.count? = some second.reply.affected.toNat := by
        rw [Exchange.count?, hexecute]
        exact if_pos hgranted.2.1
      rw [counts, List.filterMap_cons_none hnone, List.filterMap_cons_some hsome, List.length_cons,
        List.length_cons]
      exact congrArg (· + 1) (ih hgranted.2.2 hrest)

/-! ## Counts that add up -/

theorem Session.send_of_granted {σ : Type} {server : Server σ} {session : Session σ}
    {request : Request} {reply : Reply} {state : σ}
    (hopen : session.closed = false) (hsendable : request.isUnsendable = false)
    (hreply : server.reply session.server request = (reply, state))
    (hgranted : reply.isGranted = true) :
    session.send server request = (.ok reply, { session with
      server := state, exchanges := session.exchanges ++ [⟨request, reply⟩] }) := by
  rw [send, hsendable, hopen, hreply]
  cases reply with
  | refused error => cases hgranted
  | hangup => cases hgranted
  | _ => rfl

/-- A script by which all is granted, and texts are given out for the statements. -/
def Script.telling (tags : List String) : Script :=
  { executions := tags.map .tag }

/-- The numbers of rows that some texts report. -/
def reported (tags : List String) : List Nat :=
  tags.map fun tag => (Reply.completed tag).affected.toNat

/-- A statement brings the count that the first text reports. -/
theorem Session.insertPiece_telling {writer : Writer} (htable : Char.ofNat 0 ∉ writer.table.toList)
    (listening : List Location) (tag : String) (tags : List String) (earlier : List Exchange)
    (rows : List Observation) :
    ∃ sent, counts sent = [(Reply.completed tag).affected.toNat] ∧
      Session.insertPiece (Script.server listening) writer
          ⟨Script.telling (tag :: tags), earlier, false⟩ rows =
        (.ok (Reply.completed tag).affected, ⟨Script.telling tags, earlier ++ sent, false⟩) := by
  obtain ⟨statement, hstatement⟩ :
      ∃ statement, statement = Sql.insertStatement writer.table rows.length := ⟨_, rfl⟩
  have hsendable : (Request.prepare statement).isUnsendable = false := by
    rw [hstatement, ← Bool.not_eq_true, isUnsendable_prepare_iff]
    exact htable
  refine ⟨[⟨.prepare statement, .done⟩, ⟨.execute statement (Sql.parameters rows),
    .completed tag⟩], rfl, ?_⟩
  simp only [insertPiece, ← hstatement]
  rw [send_of_granted rfl hsendable rfl rfl]
  simp only
  rw [send_of_granted rfl rfl rfl rfl]
  rw [List.append_assoc]
  rfl

/-- Statements bring the counts that the texts report, one for each. -/
theorem Session.insertPieces_telling {writer : Writer}
    (htable : Char.ofNat 0 ∉ writer.table.toList) (listening : List Location)
    {chunks : List (List Observation)} {tags : List String}
    (hlength : tags.length = chunks.length) (total : UInt64) (earlier : List Exchange) :
    ∃ sent sum, counts sent = reported tags ∧
      sum.toNat = (total.toNat + (reported tags).sum) % UInt64.size ∧
        Session.insertPieces (Script.server listening) writer total
            ⟨Script.telling tags, earlier, false⟩ chunks =
          (.ok sum, ⟨Script.telling [], earlier ++ sent, false⟩) := by
  induction chunks generalizing tags total earlier with
  | nil =>
      obtain rfl : tags = [] := List.length_eq_zero_iff.mp hlength
      refine ⟨[], total, rfl, (Nat.mod_eq_of_lt total.toNat_lt_size).symm, ?_⟩
      rw [List.append_nil]
      rfl
  | cons chunk chunks ih =>
      obtain ⟨tag, tags, rfl⟩ := List.exists_cons_of_length_eq_add_one hlength
      obtain ⟨sent, hcounts, hpiece⟩ :=
        insertPiece_telling htable listening tag tags earlier chunk
      obtain ⟨later, sum, hlater, hsum, hpieces⟩ := ih (Nat.succ.inj hlength)
        (total + (Reply.completed tag).affected) (earlier ++ sent)
      refine ⟨sent ++ later, sum, ?_, ?_, ?_⟩
      · rw [counts_append, hcounts, hlater]
        rfl
      · have hreported : (reported (tag :: tags)).sum =
            (Reply.completed tag).affected.toNat + (reported tags).sum := List.sum_cons
        rw [hsum, UInt64.toNat_add, hreported, ← Nat.add_assoc]
        exact Nat.mod_add_mod _ _ _
      · rw [insertPieces, hpiece]
        simp only
        rw [hpieces, List.append_assoc]

/-- **Counts that add up are committed**, whatever each of them is: if the counts that a server
reports for the statements come to the number of rows, in 64-bit numbers, it is asked to commit, and
the call gives the number of rows. -/
theorem Session.insertRows_telling (writer : Writer)
    (htable : Char.ofNat 0 ∉ writer.table.toList) (listening : List Location) (file : String)
    {rows : List Observation} (hrows : rows ≠ []) (tags : List String)
    (hlength : tags.length = (pieces writer.batch rows).length)
    (htotal : (reported tags).sum % UInt64.size = rows.length) :
    ∃ after, Session.insertRows (Script.server listening) writer
          { server := Script.telling tags } file rows = (.ok rows.length, after) ∧
      .commit ∈ requests after.exchanges ∧ counts after.exchanges = reported tags := by
  obtain ⟨sent, sum, hcounts, hsum, hpieces⟩ := insertPieces_telling htable listening hlength 0
    [⟨.startTransaction, .done⟩]
  rw [UInt64.toNat_zero, Nat.zero_add, htotal] at hsum
  refine ⟨⟨Script.telling [], [⟨.startTransaction, .done⟩] ++ sent ++ [⟨.commit, .done⟩], false⟩,
    ?_, by simp, ?_⟩
  · have hstart : Session.send (Script.server listening) { server := Script.telling tags }
        .startTransaction =
          (.ok .done, ⟨Script.telling tags, [⟨.startTransaction, .done⟩], false⟩) :=
      send_of_granted rfl rfl rfl rfl
    rw [insertRows, if_neg (by simpa using hrows), hstart]
    simp only
    rw [insertAndEnd, hpieces]
    simp only [verifyCount, hsum, if_true]
    rw [commit, send_of_granted rfl rfl rfl rfl]
    rfl
  · rw [counts_append, counts_append, hcounts]
    exact List.append_nil _

/-! ## Commits -/

/-- **A commit means that the total is right.**  If a commit is asked for, each piece has brought
one count, and the counts add up to the number of rows, in 64-bit numbers.  Every statement has
inserted its piece exactly if none has reported more rows than it was given. -/
theorem tally_of_commit {σ : Type} {server : Server σ} {before after : Session σ} {writer : Writer}
    {file : String} {rows : List Observation} {answer : Except Failure Nat} {sent : List Exchange}
    (hrows : rows ≠ [])
    (hinsert : before.insertRows server writer file rows = (answer, after))
    (hsent : after.exchanges = before.exchanges ++ sent) (hcommit : .commit ∈ requests sent) :
    (counts sent).length = (pieces writer.batch rows).length ∧
      (counts sent).sum % UInt64.size = rows.length ∧
        (Exact (pieces writer.batch rows) (counts sent) ↔
          Within (pieces writer.batch rows) (counts sent)) := by
  obtain ⟨added, hcall⟩ := Session.insertRows_conversation hrows hinsert
  obtain rfl : sent = added :=
    List.append_cancel_left (hsent.symm.trans hcall.reaches.exchanges)
  obtain ⟨reply, last, inserted, -, -, hgranted, hwork, hcount, hcounts⟩ :=
    hcall.exists_of_commit_mem hcommit
  refine ⟨?_, hcount.symm, Exact.within, ?_⟩
  · rw [hcounts]
    exact length_counts_of_insertions hgranted hwork
  · intro hwithin
    refine hwithin.exact ?_
    rw [flatten_pieces, hcount]
    exact Nat.mod_le _ _

/-- A row whose first value is a digit, the others being absent. -/
def Sample.row : Observation :=
  ⟨some "1" :: List.replicate 15 none⟩

theorem pieces_sample :
    pieces (Writer.ofSize "t" 1).batch [Sample.row, Sample.row] = [[Sample.row], [Sample.row]] := by
  decide +kernel

/-- With one row a statement and two rows, a server that reports one row for each of the two
statements is asked to commit. -/
theorem tally_of_commit_sample :
    let writer := Writer.ofSize "t" 1
    let rows := [Sample.row, Sample.row]
    let before : Session Script := { server := Script.telling ["INSERT 0 1", "INSERT 0 1"] }
    ∃ answer after, before.insertRows (Script.server []) writer "a.csv" rows = (answer, after) ∧
      .commit ∈ requests after.exchanges ∧ (counts after.exchanges).sum % UInt64.size = 2 ∧
        Exact (pieces writer.batch rows) (counts after.exchanges) := by
  intro writer rows before
  have hreported : reported ["INSERT 0 1", "INSERT 0 1"] = [1, 1] := by decide +kernel
  have hrows : rows ≠ [] := List.cons_ne_nil _ _
  obtain ⟨after, hinsert, hcommit, hcounts⟩ := Session.insertRows_telling writer
    (by decide) [] "a.csv" hrows ["INSERT 0 1", "INSERT 0 1"] (by rw [pieces_sample]; rfl)
    (by rw [hreported]; rfl)
  rw [hreported] at hcounts
  obtain ⟨-, hsum, hexact⟩ := tally_of_commit hrows hinsert (List.nil_append _).symm hcommit
  refine ⟨_, after, hinsert, hcommit, hsum, hexact.mpr ?_⟩
  rw [pieces_sample, hcounts]
  exact .cons (Nat.le_refl 1) (.cons (Nat.le_refl 1) .nil)

/-- With one row a statement, two counts for the one and none for the other add up, and the server
is asked to commit. -/
theorem commit_of_compensating_counts :
    let writer := Writer.ofSize "t" 1
    let rows := [Sample.row, Sample.row]
    let before : Session Script := { server := Script.telling ["INSERT 0 2", "INSERT 0 0"] }
    ∃ after, before.insertRows (Script.server []) writer "a.csv" rows = (.ok 2, after) ∧
      .commit ∈ requests after.exchanges ∧ counts after.exchanges = [2, 0] ∧
        ¬ Exact (pieces writer.batch rows) (counts after.exchanges) := by
  intro writer rows before
  have hreported : reported ["INSERT 0 2", "INSERT 0 0"] = [2, 0] := by decide +kernel
  have hrows : rows ≠ [] := List.cons_ne_nil _ _
  obtain ⟨after, hinsert, hcommit, hcounts⟩ := Session.insertRows_telling writer
    (by decide) [] "a.csv" hrows ["INSERT 0 2", "INSERT 0 0"] (by rw [pieces_sample]; rfl)
    (by rw [hreported]; rfl)
  rw [hreported] at hcounts
  refine ⟨after, hinsert, hcommit, hcounts, ?_⟩
  rw [pieces_sample, hcounts]
  intro hexact
  -- the first statement was given one row and reported two
  cases hexact with
  | cons hfirst _ => simp at hfirst

end HourlyIngest.Database
