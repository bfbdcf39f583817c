import HourlyIngest.Proofs.Database.Transaction
import HourlyIngest.Proofs.Sql.Binding
import Mathlib.Data.List.Forall2

/-!
# Every row arrives once

The rows of a call go out in pieces that make up the list again (`flatten_pieces`), and each piece
is sent with the statement for its length and with its own values as parameters.  Together with what
a statement does with its parameters this says where every value ends up (`arrives_insertRows`).
The one thing that can keep a call from sending its statements, when all that it asks for is
granted, is a zero character in the name of the table.
-/

namespace HourlyIngest.Database

/-! ## Pieces make up the list -/

section Pieces

variable {α : Type} {size : Nat} {items : List α}

@[simp] theorem pieces_nil (size : Nat) : pieces size ([] : List α) = [] := by
  simp only [pieces]

theorem pieces_cons (size : Nat) (first : α) (rest : List α) :
    pieces size (first :: rest) =
      (first :: rest.take (size - 1)) :: pieces size (rest.drop (size - 1)) := by
  simp only [pieces]

theorem flatten_pieces (size : Nat) (items : List α) : (pieces size items).flatten = items := by
  induction items using pieces.induct size with
  | case1 => simp
  | case2 first rest ih =>
      rw [pieces_cons, List.flatten_cons, ih, List.cons_append, List.take_append_drop]

theorem ne_nil_of_mem_pieces {piece : List α} (hpiece : piece ∈ pieces size items) :
    piece ≠ [] := by
  induction items using pieces.induct size with
  | case1 => simp at hpiece
  | case2 first rest ih =>
      rw [pieces_cons, List.mem_cons] at hpiece
      rcases hpiece with rfl | hlater
      · exact List.cons_ne_nil _ _
      · exact ih hlater

theorem length_le_of_mem_pieces (hsize : 0 < size) {piece : List α}
    (hpiece : piece ∈ pieces size items) : piece.length ≤ size := by
  induction items using pieces.induct size with
  | case1 => simp at hpiece
  | case2 first rest ih =>
      rw [pieces_cons, List.mem_cons] at hpiece
      rcases hpiece with rfl | hlater
      · rw [List.length_cons, List.length_take]
        omega
      · exact ih hlater

/-- A piece of the full size is cut off at the front. -/
theorem pieces_append (hsize : 0 < size) {front : List α} (hfront : front.length = size)
    (back : List α) : pieces size (front ++ back) = front :: pieces size back := by
  obtain ⟨first, rest, rfl⟩ := List.exists_cons_of_length_pos (hfront ▸ hsize)
  have hrest : rest.length = size - 1 := by
    rw [← hfront, List.length_cons, Nat.add_sub_cancel]
  rw [List.cons_append, pieces_cons, List.take_left' hrest, List.drop_left' hrest]

theorem pieces_of_length_le (hne : items ≠ []) (hlength : items.length ≤ size) :
    pieces size items = [items] := by
  obtain ⟨first, rest, rfl⟩ := List.exists_cons_of_ne_nil hne
  have hrest : rest.length ≤ size - 1 := Nat.le_sub_of_add_le hlength
  rw [pieces_cons, List.take_of_length_le hrest, List.drop_of_length_le hrest, pieces_nil]

end Pieces

/-! ## Statements that were carried out -/

/-- The statement and the parameters of a request to carry one out. -/
def Request.execution? : Request → Option (String × List Sql.Parameter)
  | .execute statement parameters => some (statement, parameters)
  | _ => none

/-- The statements that were carried out, with their parameters. -/
def executions (exchanges : List Exchange) : List (String × List Sql.Parameter) :=
  (granted exchanges).filterMap Request.execution?

theorem executions_append (first second : List Exchange) :
    executions (first ++ second) = executions first ++ executions second := by
  rw [executions, granted_append, List.filterMap_append]
  rfl

/-- Requests that carry out no statement do not show. -/
theorem executions_eq_nil {exchanges : List Exchange}
    (hnone : ∀ request ∈ granted exchanges, request.execution? = none) :
    executions exchanges = [] :=
  List.filterMap_eq_nil_iff.mpr hnone

theorem executions_cons {exchange : Exchange} (hnone : exchange.request.execution? = none)
    (rest : List Exchange) : executions (exchange :: rest) = executions rest := by
  rw [executions, granted_cons]
  split
  · rw [List.filterMap_cons_none hnone]
    rfl
  · rfl

/-- What one statement does with a piece: it has as many placeholders as there are parameters, not
too many, and with the parameters in their places its tuples are the rows, each value being the
bytes of its text in text format, or NULL. -/
structure Carries (piece : List Observation) (execution : String × List Sql.Parameter) : Prop where
  numbers : ∃ numbers, Sql.placeholders execution.1 = some numbers ∧
    numbers.length = execution.2.length
  limit : execution.2.length ≤ 65535
  tuples : Sql.boundTuples execution.1 execution.2 =
    some (piece.map fun row => row.values.map fun cell => ⟨cell.map Text.encode, .text⟩)

/-- The statements carry the rows: the rows are divided into consecutive pieces, none of them empty
or larger than wished for and possible; each statement carries its piece; and the tuples of all
statements, one after the other, are the rows. -/
def Arrives (size : Nat) (rows : List Observation)
    (executions : List (String × List Sql.Parameter)) : Prop :=
  (∃ chunks : List (List Observation), chunks.flatten = rows ∧
    (∀ chunk ∈ chunks, chunk ≠ [] ∧ chunk.length ≤ min (max size 1) 4095) ∧
      List.Forall₂ Carries chunks executions) ∧
    (executions.mapM fun execution => Sql.boundTuples execution.1 execution.2).map List.flatten =
      some (rows.map fun row => row.values.map fun cell => ⟨cell.map Text.encode, .text⟩)

theorem filterMap_execution?_insertions (writer : Writer) (chunks : List (List Observation)) :
    (writer.insertions chunks).filterMap Request.execution? =
      chunks.map fun chunk =>
        (Sql.insertStatement writer.table chunk.length, Sql.parameters chunk) := by
  induction chunks with
  | nil => rfl
  | cons chunk rest ih =>
      rw [Writer.insertions_cons, List.filterMap_append, ih]
      rfl

/-- A piece of limited size is carried by the statement for its length. -/
theorem carries_insertStatement (table : String) {chunk : List Observation} (hne : chunk ≠ [])
    (hlength : chunk.length ≤ Sql.maxBatch)
    (hwidth : ∀ row ∈ chunk, row.values.length = columnCount) :
    Carries chunk (Sql.insertStatement table chunk.length, Sql.parameters chunk) where
  numbers := by
    refine ⟨_, Sql.placeholders_insertStatement table chunk.length, ?_⟩
    rw [Sql.length_flatMap_tupleNumbers, Sql.length_parameters hwidth]
  limit := by
    have hmax : Sql.maxBatch * columnCount ≤ 65535 := by decide
    have hless : chunk.length * columnCount ≤ Sql.maxBatch * columnCount :=
      Nat.mul_le_mul_right _ hlength
    rw [Sql.length_parameters hwidth]
    omega
  tuples := Sql.boundTuples_insertStatement table hne hwidth

/-- The tuples of statements that carry pieces are the rows of the pieces. -/
theorem mapM_boundTuples_of_carries {chunks : List (List Observation)}
    {executions : List (String × List Sql.Parameter)}
    (hcarries : List.Forall₂ Carries chunks executions) :
    (executions.mapM fun execution => Sql.boundTuples execution.1 execution.2) =
      some (chunks.map fun chunk => chunk.map fun row =>
        row.values.map fun cell => ⟨cell.map Text.encode, .text⟩) := by
  induction hcarries with
  | nil => rfl
  | cons hfirst _ ih =>
      rw [List.mapM_cons, hfirst.tuples, ih]
      rfl

namespace Session

variable {σ : Type} {server : Server σ} {writer : Writer} {before after : Session σ}
  {rows : List Observation} {answer : Except Failure Nat} {sent : List Exchange}

theorem Undone.executions_eq_nil {undo : List Exchange} (hundo : Undone undo after) :
    executions undo = [] := by
  refine Database.executions_eq_nil fun request hrequest => ?_
  rw [hundo.eq_rollback (mem_requests_of_mem_granted hrequest)]
  rfl

/-- If all that a call asks for is granted, and all of it can be sent, all its statements are
carried out. -/
theorem Conversation.executions_eq (hcall : Conversation writer rows before answer sent after)
    (hopen : before.closed = false)
    (hreplies : ∀ exchange ∈ sent, exchange.reply.isGranted = true)
    (hsendable : ∀ request ∈ writer.work rows, request.isUnsendable = false) :
    executions sent = (writer.work rows).filterMap Request.execution? := by
  cases hcall with
  | cutOff hclosed =>
      rw [hopen] at hclosed
      cases hclosed
  | unstarted _ hreply hundo hreaches =>
      rw [(List.forall_mem_cons.mp hreplies).1] at hreply
      cases hreply
  | @givenUp failure reply sent undo _ _ hreply hwork hshort hundo hreaches =>
      rcases hshort with ⟨missing, -, -, ⟨exchange, hexchange, hdenied⟩ | ⟨request, hmem, hzero⟩⟩ |
        ⟨hall, -⟩
      · have hsent : exchange ∈ ⟨.startTransaction, reply⟩ :: (sent ++ undo) :=
          List.mem_cons_of_mem _ (List.mem_append_left _ hexchange)
        rw [hreplies exchange hsent] at hdenied
        cases hdenied
      · rw [hsendable request hmem] at hzero
        cases hzero
      · rw [executions_cons rfl, executions_append, hundo.executions_eq_nil, List.append_nil,
          executions, hall]
  | @decided _ reply last sent _ _ hreply hgranted hwork hcount hdecision hreaches =>
      rw [executions_cons rfl, executions_append, executions_cons rfl, executions,
        granted_eq_requests hgranted, hwork]
      exact List.append_nil _

/-- If the first request of the work cannot be sent, nothing is carried out. -/
theorem Conversation.executions_eq_nil (hcall : Conversation writer rows before answer sent after)
    {first : Request} {rest : List Request} (hwork : writer.work rows = first :: rest)
    (hfirst : first.isUnsendable = true) : executions sent = [] := by
  have hnothing : ∀ {part : List Exchange} {missing : List Request},
      (∀ exchange ∈ part, exchange.request.isUnsendable = false) →
        granted part ++ missing = writer.work rows → executions part = [] := by
    intro part missing hsendable hsplit
    cases hgranted : granted part with
    | nil =>
        rw [executions, hgranted]
        rfl
    | cons request others =>
        -- the first request granted would be the one that cannot be sent
        rw [hgranted, hwork] at hsplit
        obtain ⟨rfl, -⟩ := List.cons.inj hsplit
        have hmem : request ∈ requests part :=
          mem_requests_of_mem_granted (hgranted ▸ List.mem_cons_self)
        obtain ⟨exchange, hexchange, rfl⟩ := List.mem_map.mp hmem
        rw [hsendable exchange hexchange] at hfirst
        cases hfirst
  cases hcall with
  | cutOff hclosed => rfl
  | unstarted _ hreply hundo hreaches => rw [executions_cons rfl, hundo.executions_eq_nil]
  | @givenUp failure reply sent undo _ _ hreply hwork' hshort hundo hreaches =>
      have hsendable := (List.forall_mem_append.mp (List.forall_mem_cons.mp hreaches.sendable).2).1
      have hpart : executions sent = [] := by
        rcases hshort with ⟨missing, -, hsplit, -⟩ | ⟨hall, -⟩
        · exact hnothing hsendable hsplit
        · exact hnothing hsendable ((List.append_nil _).trans hall)
      rw [executions_cons rfl, executions_append, hpart, hundo.executions_eq_nil]
      rfl
  | @decided _ reply last sent _ _ hreply hgranted hwork' hcount hdecision hreaches =>
      have hsendable := (List.forall_mem_append.mp (List.forall_mem_cons.mp hreaches.sendable).2).1
      have hall : granted sent ++ [] = writer.work rows := by
        rw [List.append_nil, granted_eq_requests hgranted, hwork']
      rw [executions_cons rfl, executions_append, hnothing hsendable hall, executions_cons rfl]
      rfl

end Session

/-- A statement can be prepared unless the name of the table has a zero character. -/
theorem isUnsendable_prepare_iff {table : String} {count : Nat} :
    (Request.prepare (Sql.insertStatement table count)).isUnsendable = true ↔
      Char.ofNat 0 ∈ table.toList := by
  rw [Request.isUnsendable, List.contains_iff_mem, Sql.zero_mem_insertStatement_iff]

/-- The work on some rows begins with a statement that is prepared. -/
theorem Writer.work_cons (writer : Writer) (first : Observation) (rest : List Observation) :
    ∃ count later, writer.work (first :: rest) =
      .prepare (Sql.insertStatement writer.table count) :: later := by
  rw [Writer.work, pieces_cons, Writer.insertions_cons]
  exact ⟨_, _, rfl⟩

theorem isUnsendable_of_mem_insertions {writer : Writer} {chunks : List (List Observation)}
    (htable : Char.ofNat 0 ∉ writer.table.toList) {request : Request}
    (hrequest : request ∈ writer.insertions chunks) : request.isUnsendable = false := by
  obtain ⟨chunk, -, hrequest⟩ := List.mem_flatMap.mp hrequest
  simp only [Writer.insertion, List.mem_cons, List.not_mem_nil, or_false] at hrequest
  rcases hrequest with rfl | rfl
  · rw [← Bool.not_eq_true, isUnsendable_prepare_iff]
    exact htable
  · rfl

/-! ## Servers that grant everything -/

namespace Session

variable {σ : Type} {server : Server σ} {session : Session σ} {P : Reply → Prop}

/-- All replies so far have a property. -/
def Replied (P : Reply → Prop) (session : Session σ) : Prop :=
  ∀ exchange ∈ session.exchanges, P exchange.reply

section Server

variable (hserver : ∀ state request, P (server.reply state request).1)

include hserver

theorem Replied.send (hsession : session.Replied P) (request : Request) :
    (session.send server request).2.Replied P := by
  have hreply := hserver session.server request
  unfold Session.send
  split
  · exact hsession
  split
  · exact hsession
  cases hanswer : server.reply session.server request with
  | mk reply state =>
      rw [hanswer] at hreply
      have hexchanges : ∀ exchange ∈ session.exchanges ++ [⟨request, reply⟩], P exchange.reply := by
        rw [List.forall_mem_append, List.forall_mem_singleton]
        exact ⟨hsession, hreply⟩
      cases reply <;> exact hexchanges

theorem Replied.insertPiece (hsession : session.Replied P) (writer : Writer)
    (rows : List Observation) : (session.insertPiece server writer rows).2.Replied P := by
  have hprepared := hsession.send hserver (.prepare (Sql.insertStatement writer.table rows.length))
  unfold Session.insertPiece
  simp only
  split
  · next hsend =>
    rw [hsend] at hprepared
    exact hprepared
  · next hsend =>
    rw [hsend] at hprepared
    exact hprepared.send hserver _

theorem Replied.insertPieces (hsession : session.Replied P) (writer : Writer) (total : UInt64)
    (chunks : List (List Observation)) :
    (session.insertPieces server writer total chunks).2.Replied P := by
  induction chunks generalizing session total with
  | nil => exact hsession
  | cons chunk rest ih =>
      have hinserted := hsession.insertPiece hserver writer chunk
      rw [Session.insertPieces]
      split
      · next hinsert =>
        rw [hinsert] at hinserted
        exact hinserted
      · next hinsert =>
        rw [hinsert] at hinserted
        exact ih hinserted _

/-- What holds of all replies of a server holds of all replies to a call. -/
theorem Replied.insertRows (hsession : session.Replied P) {writer : Writer} {file : String}
    {rows : List Observation} {answer : Except Failure Nat} {after : Session σ}
    (hinsert : session.insertRows server writer file rows = (answer, after)) :
    after.Replied P := by
  have hafter : after = (session.insertRows server writer file rows).2 := by rw [hinsert]
  rw [hafter]
  clear hinsert hafter
  have hstarted := hsession.send hserver .startTransaction
  unfold Session.insertRows
  split
  · exact hsession
  split
  · next hsend =>
    rw [hsend] at hstarted
    exact hstarted.send hserver .rollback
  · next started hsend =>
    rw [hsend] at hstarted
    have hinserted := hstarted.insertPieces hserver writer 0 (pieces writer.batch rows)
    unfold Session.insertAndEnd
    split
    · next hinsert =>
      rw [hinsert] at hinserted
      exact hinserted.send hserver .rollback
    · next hinsert =>
      rw [hinsert] at hinserted
      split
      · exact hinserted.send hserver .rollback
      · have hcommitted := hinserted.send hserver .commit
        unfold Session.commit
        split
        · next hsend' =>
          rw [hsend'] at hcommitted
          exact hcommitted
        · next hsend' =>
          rw [hsend'] at hcommitted
          exact hcommitted

end Server

end Session

theorem Session.exists_insertRows {σ : Type} (server : Server σ) (writer : Writer)
    (session : Session σ) (file : String) (rows : List Observation) :
    ∃ answer after, session.insertRows server writer file rows = (answer, after) :=
  ⟨_, _, rfl⟩

/-- A server that carries everything out and says how many rows it has inserted. -/
def Server.obliging : Server Unit :=
  .atSockets [] fun _ request =>
    match request with
    | .execute _ parameters =>
        (.completed ("INSERT 0 " ++ toString (parameters.length / columnCount)), ())
    | _ => (.done, ())

/-- It has granted all that a call in a new session asked for. -/
theorem granted_of_obliging {writer : Writer} {file : String} {rows : List Observation}
    {answer : Except Failure Nat} {after : Session Unit}
    (hinsert : Session.insertRows Server.obliging writer { server := () } file rows =
      (answer, after)) :
    ∀ exchange ∈ after.exchanges, exchange.reply.isGranted = true := by
  have hstart : Session.Replied (fun reply => reply.isGranted = true) { server := () } :=
    fun exchange hexchange => absurd hexchange List.not_mem_nil
  refine hstart.insertRows (fun _ request => ?_) hinsert
  cases request <;> rfl

namespace Sample

/-- The row of a number, the other values being absent. -/
def numbered (number : Nat) : Observation :=
  ⟨some (toString number) :: List.replicate 15 none⟩

/-- The rows of the first numbers. -/
def rows (count : Nat) : List Observation :=
  (List.range count).map numbered

theorem length_values (count : Nat) : ∀ row ∈ rows count, row.values.length = columnCount := by
  intro row hrow
  obtain ⟨number, -, rfl⟩ := List.mem_map.mp hrow
  rfl

theorem length_rows (count : Nat) : (rows count).length = count := by
  rw [rows, List.length_map, List.length_range]

theorem rows_ne_nil {count : Nat} (hcount : 0 < count) : rows count ≠ [] := by
  rw [← List.length_pos_iff, length_rows]
  exact hcount

/-- The pieces of five thousand rows, where more are wished for than a statement can take. -/
theorem length_pieces :
    (pieces (Writer.ofSize "t" 5000).batch (rows 5000)).map List.length = [4095, 905] := by
  have hbatch : (Writer.ofSize "t" 5000).batch = 4095 := rfl
  have htake : ((rows 5000).take 4095).length = 4095 := by
    rw [List.length_take, length_rows]
    rfl
  have hdrop : ((rows 5000).drop 4095).length = 905 := by rw [List.length_drop, length_rows]
  have hrest : (rows 5000).drop 4095 ≠ [] := by
    rw [← List.length_pos_iff, hdrop]
    decide
  rw [hbatch, ← List.take_append_drop 4095 (rows 5000), pieces_append (by decide) htake,
    pieces_of_length_le hrest (by rw [hdrop]; decide), List.map_cons, List.map_cons, htake, hdrop]
  rfl

end Sample

/-! ## The rows of a call -/

/-- With a zero character in the name of the table, a call carries nothing out, whatever the server
replies. -/
theorem executions_of_zero_mem {σ : Type} {server : Server σ} {session after : Session σ}
    {table : String} (htable : Char.ofNat 0 ∈ table.toList) {size : Nat} {file : String}
    {rows : List Observation} {answer : Except Failure Nat} {sent : List Exchange}
    (hinsert : session.insertRows server (Writer.ofSize table size) file rows = (answer, after))
    (hsent : after.exchanges = session.exchanges ++ sent) : executions sent = [] := by
  cases rows with
  | nil =>
      rw [Session.insertRows, if_pos List.isEmpty_nil] at hinsert
      cases hinsert
      rw [List.self_eq_append_right.mp hsent]
      rfl
  | cons first rest =>
      obtain ⟨added, hcall⟩ := Session.insertRows_conversation (List.cons_ne_nil _ _) hinsert
      obtain rfl : sent = added :=
        List.append_cancel_left (hsent.symm.trans hcall.reaches.exchanges)
      obtain ⟨count, later, hwork⟩ := Writer.work_cons (Writer.ofSize table size) first rest
      exact hcall.executions_eq_nil hwork (isUnsendable_prepare_iff.mpr htable)

/-- No request of a call is answered with an error.  A connection that was closed before the call
answers every request with one. -/
structure Session.Unrefused {σ : Type} (session : Session σ) (sent : List Exchange) : Prop where
  isOpen : session.closed = false
  granted : ∀ exchange ∈ sent, exchange.reply.isGranted = true

section Call

variable {σ : Type} {server : Server σ} {session after : Session σ} {table : String}
  (htable : Char.ofNat 0 ∉ table.toList) (size : Nat) {file : String} {rows : List Observation}
  (hrows : rows ≠ []) {answer : Except Failure Nat} {sent : List Exchange}
  (hinsert : session.insertRows server (Writer.ofSize table size) file rows = (answer, after))
  (hsent : after.exchanges = session.exchanges ++ sent) (hunrefused : session.Unrefused sent)

include htable hrows hinsert hsent hunrefused

/-- A call that meets no error carries out a statement for each piece of its rows. -/
theorem executions_insertRows :
    executions sent = (pieces (Writer.ofSize table size).batch rows).map fun chunk =>
      (Sql.insertStatement table chunk.length, Sql.parameters chunk) := by
  obtain ⟨added, hcall⟩ := Session.insertRows_conversation hrows hinsert
  obtain rfl : sent = added :=
    List.append_cancel_left (hsent.symm.trans hcall.reaches.exchanges)
  have hexecutions := hcall.executions_eq hunrefused.isOpen hunrefused.granted
    fun request hrequest => isUnsendable_of_mem_insertions htable hrequest
  rwa [Writer.work, filterMap_execution?_insertions] at hexecutions

/-- **Every row arrives once, in order, and every value under its own placeholder.**  The name of
the table can be sent, and no request of the call meets an error; then its statements carry its
rows, whatever size was wished for. -/
theorem arrives_insertRows (hwidth : ∀ row ∈ rows, row.values.length = columnCount) :
    Arrives size rows (executions sent) := by
  have hflatten := flatten_pieces (Writer.ofSize table size).batch rows
  have hlength : ∀ chunk ∈ pieces (Writer.ofSize table size).batch rows,
      chunk.length ≤ (Writer.ofSize table size).batch :=
    fun chunk hchunk => length_le_of_mem_pieces (Writer.ofSize table size).batch_pos hchunk
  have hcarries : List.Forall₂ Carries (pieces (Writer.ofSize table size).batch rows)
      (executions sent) := by
    rw [executions_insertRows htable size hrows hinsert hsent hunrefused,
      List.forall₂_map_right_iff, List.forall₂_same]
    intro chunk hchunk
    refine carries_insertStatement table (ne_nil_of_mem_pieces hchunk)
      (Nat.le_trans (hlength chunk hchunk) (Writer.ofSize table size).batch_le) fun row hrow => ?_
    refine hwidth row ?_
    rw [← hflatten]
    exact List.mem_flatten_of_mem hchunk hrow
  refine ⟨⟨_, hflatten, fun chunk hchunk => ⟨ne_nil_of_mem_pieces hchunk, ?_⟩, hcarries⟩, ?_⟩
  · -- the writer has moved the size wished for into its range
    have hbatch : (Writer.ofSize table size).batch = max 1 (min size 4095) := rfl
    have hchunkLength := hlength chunk hchunk
    omega
  · rw [mapM_boundTuples_of_carries hcarries, Option.map_some, ← List.map_flatten, hflatten]

end Call

/-- Five rows arrive in statements of two, two and one, and five thousand in two statements, of
which the first is as large as can be. -/
theorem arrives_insertRows_sample :
    let session : Session Unit := { server := () }
    let statement := Sql.insertStatement "t"
    (∃ answer after, session.insertRows Server.obliging (Writer.ofSize "t" 2) "a.csv"
        (Sample.rows 5) = (answer, after) ∧ session.Unrefused after.exchanges ∧
      (executions after.exchanges).map Prod.fst = [statement 2, statement 2, statement 1] ∧
        Arrives 2 (Sample.rows 5) (executions after.exchanges)) ∧
    ∃ answer after, session.insertRows Server.obliging (Writer.ofSize "t" 5000) "b.csv"
        (Sample.rows 5000) = (answer, after) ∧ session.Unrefused after.exchanges ∧
      (executions after.exchanges).map Prod.fst = [statement 4095, statement 905] ∧
        Arrives 5000 (Sample.rows 5000) (executions after.exchanges) := by
  intro session statement
  have hcall : ∀ (size count : Nat) (file : String) (lengths : List Nat), 0 < count →
      (pieces (Writer.ofSize "t" size).batch (Sample.rows count)).map List.length = lengths →
      ∃ answer after, session.insertRows Server.obliging (Writer.ofSize "t" size) file
          (Sample.rows count) = (answer, after) ∧ session.Unrefused after.exchanges ∧
        (executions after.exchanges).map Prod.fst = lengths.map statement ∧
          Arrives size (Sample.rows count) (executions after.exchanges) := by
    intro size count file lengths hcount hlengths
    obtain ⟨answer, after, hinsert⟩ := Session.exists_insertRows Server.obliging
      (Writer.ofSize "t" size) session file (Sample.rows count)
    have hunrefused : session.Unrefused after.exchanges := ⟨rfl, granted_of_obliging hinsert⟩
    have hrows := Sample.rows_ne_nil hcount
    refine ⟨answer, after, hinsert, hunrefused, ?_,
      arrives_insertRows (by decide) size hrows hinsert (List.nil_append _).symm hunrefused
        (Sample.length_values count)⟩
    rw [executions_insertRows (by decide) size hrows hinsert (List.nil_append _).symm hunrefused,
      ← hlengths, List.map_map, List.map_map]
    rfl
  exact ⟨hcall 2 5 "a.csv" [2, 2, 1] (by decide) (by decide +kernel),
    hcall 5000 5000 "b.csv" [4095, 905] (by decide) Sample.length_pieces⟩

/-- The name of the table matters: with a zero character in it, no statement can be sent, and
nothing arrives although no request was answered with an error. -/
theorem not_arrives_of_zero_in_table :
    let session : Session Unit := { server := () }
    let table := String.ofList ['a', Char.ofNat 0, 'b']
    ∃ answer after, session.insertRows Server.obliging (Writer.ofSize table 1) "a.csv"
        (Sample.rows 1) = (answer, after) ∧
      (∀ row ∈ Sample.rows 1, row.values.length = columnCount) ∧
        session.Unrefused after.exchanges ∧
          ¬ Arrives 1 (Sample.rows 1) (executions after.exchanges) := by
  intro session table
  obtain ⟨answer, after, hinsert⟩ := Session.exists_insertRows Server.obliging
    (Writer.ofSize table 1) session "a.csv" (Sample.rows 1)
  have htable : Char.ofNat 0 ∈ table.toList := by
    rw [String.toList_ofList]
    decide
  have hnothing : executions after.exchanges = [] :=
    executions_of_zero_mem htable hinsert (List.nil_append _).symm
  refine ⟨answer, after, hinsert, Sample.length_values 1, ⟨rfl, granted_of_obliging hinsert⟩, ?_⟩
  rw [hnothing]
  rintro ⟨-, htuples⟩
  cases htuples

end HourlyIngest.Database
