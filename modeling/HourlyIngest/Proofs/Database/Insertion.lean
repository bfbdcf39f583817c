import HourlyIngest.Database.Writer
import HourlyIngest.Proofs.Database.Exchange
import Mathlib.Algebra.GroupWithZero.Nat

/-!
# Inserting rows within a transaction

The rows of a call are sent in pieces, each of them with two requests (`Writer.insertion`).  Either
all of these requests are granted, and the total is the sum of the counts that were reported, or the
work breaks off: then a beginning of the requests was granted, but not all of them, and there is a
reason for it (`Inserting`).
-/

namespace HourlyIngest.Database

namespace Writer

variable (writer : Writer)

/-- The requests that insert rows with one statement. -/
def insertion (rows : List Observation) : List Request :=
  let statement := Sql.insertStatement writer.table rows.length
  [.prepare statement, .execute statement (Sql.parameters rows)]

/-- The requests that insert pieces, one after the other. -/
def insertions (chunks : List (List Observation)) : List Request :=
  chunks.flatMap writer.insertion

@[simp] theorem insertions_nil : writer.insertions [] = [] := rfl

@[simp] theorem insertions_cons (chunk : List Observation) (rest : List (List Observation)) :
    writer.insertions (chunk :: rest) = writer.insertion chunk ++ writer.insertions rest :=
  List.flatMap_cons

/-- The requests that insert the rows of a call. -/
def work (rows : List Observation) : List Request :=
  writer.insertions (pieces writer.batch rows)

/-- Inserting neither starts nor ends a transaction. -/
theorem ne_of_mem_insertions {writer : Writer} {chunks : List (List Observation)}
    {request : Request} (hrequest : request ∈ writer.insertions chunks) :
    request ≠ .startTransaction ∧ request ≠ .commit ∧ request ≠ .rollback := by
  obtain ⟨chunk, -, hrequest⟩ := List.mem_flatMap.mp hrequest
  simp only [insertion, List.mem_cons, List.not_mem_nil, or_false] at hrequest
  rcases hrequest with rfl | rfl <;> simp

end Writer

namespace Session

variable {σ : Type} {server : Server σ} {writer : Writer} {before after : Session σ}

/-- What inserting pieces comes to, with counts added to `total`. -/
inductive Inserting (writer : Writer) (before : Session σ) (total : UInt64)
    (chunks : List (List Observation)) :
    Except DatabaseFault UInt64 → List Exchange → Session σ → Prop
  /-- All requests were granted. -/
  | through {sum : UInt64} {sent : List Exchange} {after : Session σ}
      (hreaches : Reaches before sent after)
      (hgranted : ∀ exchange ∈ sent, exchange.reply.isGranted = true)
      (hrequests : requests sent = writer.insertions chunks)
      (hsum : sum.toNat = (total.toNat + (counts sent).sum) % UInt64.size) :
      Inserting writer before total chunks (.ok sum) sent after
  /-- Some requests are missing among those that were granted. -/
  | broken {fault : DatabaseFault} {sent : List Exchange} {after : Session σ}
      {missing : List Request} (hreaches : Reaches before sent after)
      (hgranted : granted sent ++ missing = writer.insertions chunks) (hmissing : missing ≠ [])
      (hrequests : ∀ request ∈ requests sent, request ∈ writer.insertions chunks)
      (hwhy : before.closed = true ∨ (∃ exchange ∈ sent, exchange.reply.isGranted = false) ∨
        ∃ request ∈ writer.insertions chunks, request.isUnsendable = true) :
      Inserting writer before total chunks (.error fault) sent after

/-- One piece takes two requests. -/
theorem insertPiece_inserting {rows : List Observation} {answer : Except DatabaseFault UInt64}
    (hinsert : before.insertPiece server writer rows = (answer, after)) :
    ∃ sent, Inserting writer before 0 [rows] answer sent after := by
  -- the requests get names, so that nothing looks into their texts
  obtain ⟨prepare, execute, hinsertion, hprepare, hexecute⟩ :
      ∃ prepare execute, writer.insertions [rows] = [prepare, execute] ∧
        prepare = .prepare (Sql.insertStatement writer.table rows.length) ∧
          execute = .execute (Sql.insertStatement writer.table rows.length)
            (Sql.parameters rows) :=
    ⟨_, _, List.append_nil _, rfl, rfl⟩
  unfold insertPiece at hinsert
  simp only [← hprepare, ← hexecute] at hinsert
  cases hfirst : before.send server prepare with
  | mk prepared middle =>
  obtain ⟨sent, hprepared⟩ := send_sending server hfirst
  rw [hfirst] at hinsert
  cases hprepared with
  | withheld hwhy =>
      cases hinsert
      have hsplit : granted [] ++ [prepare, execute] = writer.insertions [rows] := hinsertion.symm
      refine ⟨[], .broken (Reaches.refl before) hsplit (by simp) (by simp) ?_⟩
      rcases hwhy with hunsendable | hclosed
      · exact Or.inr (Or.inr ⟨prepare, by simp [hinsertion], hunsendable⟩)
      · exact Or.inl hclosed
  | @denied fault reply _ hopen hreply hreaches =>
      cases hinsert
      have hsplit : granted [⟨prepare, reply⟩] ++ [prepare, execute] =
          writer.insertions [rows] := by
        rw [granted_cons, if_neg (by simp [hreply]), hinsertion]
        rfl
      exact ⟨_, .broken hreaches hsplit (by simp) (by simp [hinsertion])
        (Or.inr (Or.inl ⟨_, List.mem_singleton_self _, hreply⟩))⟩
  | @granted reply _ hopen hreply hreaches =>
      -- the first request was granted, so the connection is still open for the second
      have hmiddle : middle.closed = false := hreaches.open_of_granted hopen (by simpa using hreply)
      cases hsecond : middle.send server execute with
      | mk executed final =>
      obtain ⟨later, hexecuted⟩ := send_sending server hsecond
      simp only [hsecond, Prod.mk.injEq] at hinsert
      obtain ⟨rfl, rfl⟩ := hinsert
      refine ⟨[⟨prepare, reply⟩] ++ later, ?_⟩
      cases hexecuted with
      | withheld hwhy =>
          rcases hwhy with hunsendable | hclosed
          · simp [hexecute, Request.isUnsendable] at hunsendable
          · simp [hmiddle] at hclosed
      | @denied fault answered _ _ hdenied hlater =>
          have hsplit : granted ([⟨prepare, reply⟩] ++ [⟨execute, answered⟩]) ++ [execute] =
              writer.insertions [rows] := by
            simp [granted_cons, hreply, hdenied, hinsertion]
          exact .broken (hreaches.trans hlater) hsplit (by simp) (by simp [hinsertion])
            (Or.inr (Or.inl ⟨⟨execute, answered⟩, by simp, hdenied⟩))
      | @granted answered _ _ hgranted hlater =>
          have hnone : Exchange.count? ⟨prepare, reply⟩ = none := by
            rw [hprepare]
            rfl
          have hsome : Exchange.count? ⟨execute, answered⟩ = some answered.affected.toNat := by
            rw [hexecute, Exchange.count?, if_pos hgranted]
          have hcounts : counts ([⟨prepare, reply⟩] ++ [⟨execute, answered⟩]) =
              [answered.affected.toNat] := by
            simp [counts, hnone, hsome]
          refine .through (hreaches.trans hlater) (by simp [hreply, hgranted])
            (by simp [hinsertion]) ?_
          rw [hcounts, List.sum_singleton, UInt64.toNat_zero, Nat.zero_add]
          exact (Nat.mod_eq_of_lt answered.affected.toNat_lt_size).symm

/-- Pieces are inserted one after the other, until the work breaks off. -/
theorem insertPieces_inserting {total : UInt64} {chunks : List (List Observation)}
    {answer : Except DatabaseFault UInt64}
    (hinsert : before.insertPieces server writer total chunks = (answer, after)) :
    ∃ sent, Inserting writer before total chunks answer sent after := by
  induction chunks generalizing before total with
  | nil =>
      cases hinsert
      refine ⟨[], .through (Reaches.refl _) (by simp) rfl ?_⟩
      exact (Nat.mod_eq_of_lt total.toNat_lt_size).symm
  | cons chunk rest ih =>
      rw [insertPieces] at hinsert
      cases hpiece : before.insertPiece server writer chunk with
      | mk inserted middle =>
      obtain ⟨sent, hinserted⟩ := insertPiece_inserting hpiece
      rw [hpiece] at hinsert
      have hall : writer.insertions (chunk :: rest) =
          writer.insertions [chunk] ++ writer.insertions rest := by simp
      cases hinserted with
      | @broken _ _ _ missing hreaches hgranted hmissing hrequests hwhy =>
          cases hinsert
          have hsplit : granted sent ++ (missing ++ writer.insertions rest) =
              writer.insertions (chunk :: rest) := by
            rw [← List.append_assoc, hgranted, hall]
          refine ⟨sent, .broken hreaches hsplit (by simp [hmissing]) ?_ ?_⟩
          · intro request hrequest
            rw [hall]
            exact List.mem_append_left _ (hrequests request hrequest)
          · rcases hwhy with hclosed | hdenied | ⟨request, hrequest, hunsendable⟩
            · exact Or.inl hclosed
            · exact Or.inr (Or.inl hdenied)
            · refine Or.inr (Or.inr ⟨request, ?_, hunsendable⟩)
              rw [hall]
              exact List.mem_append_left _ hrequest
      | through hreaches hgranted hrequests hsum =>
          -- the sum so far is the total with which the rest begins
          obtain ⟨later, hlater⟩ := ih hinsert
          refine ⟨sent ++ later, ?_⟩
          cases hlater with
          | through hreaches' hgranted' hrequests' hsum' =>
              refine .through (hreaches.trans hreaches') ?_ ?_ ?_
              · exact List.forall_mem_append.mpr ⟨hgranted, hgranted'⟩
              · rw [requests_append, hrequests, hrequests', hall]
              · rw [hsum', UInt64.toNat_add, hsum, counts_append, List.sum_append]
                have hsize : UInt64.size = 2 ^ 64 := rfl
                rw [UInt64.toNat_zero, hsize]
                omega
          | @broken _ _ _ missing hreaches' hgranted' hmissing' hrequests' hwhy' =>
              -- what is missing of the rest is missing of the whole
              have hsplit : granted (sent ++ later) ++ missing =
                  writer.insertions (chunk :: rest) := by
                rw [granted_append, granted_eq_requests hgranted, hrequests, List.append_assoc,
                  hgranted', hall]
              refine .broken (hreaches.trans hreaches') hsplit hmissing' ?_ ?_
              · rw [requests_append, hrequests, hall]
                intro request hrequest
                rcases List.mem_append.mp hrequest with hfirst | hsecond
                · exact List.mem_append_left _ hfirst
                · exact List.mem_append_right _ (hrequests' request hsecond)
              · rcases hwhy' with hclosed | ⟨exchange, hexchange, hdenied⟩ |
                  ⟨request, hrequest, hunsendable⟩
                · cases hopen : before.closed with
                  | true => exact Or.inl rfl
                  | false => simp [hreaches.open_of_granted hopen hgranted] at hclosed
                · exact Or.inr (Or.inl ⟨exchange, List.mem_append_right _ hexchange, hdenied⟩)
                · refine Or.inr (Or.inr ⟨request, ?_, hunsendable⟩)
                  rw [hall]
                  exact List.mem_append_right _ hrequest

end Session

end HourlyIngest.Database
