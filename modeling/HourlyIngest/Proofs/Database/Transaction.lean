import HourlyIngest.Proofs.Database.Insertion

/-!
# Transactions of a writer

A call of a writer is a conversation with the server of one of four kinds (`Conversation`): it is
cut off at once, the transaction is not started, it is given up, or the commit decides.  Everything
about a single call is read off the kind (`Delivery.Orderly`).  Between calls no transaction is
open, unless the connection is gone and nothing can be sent any more; so over any number of calls
transactions are never nested (`deliver_orderly`).
-/

namespace HourlyIngest.Database

variable {σ : Type} {server : Server σ} {writer : Writer}

/-! ## One call -/

namespace Session

variable {before after : Session σ}

/-- What is sent to undo a transaction: a rollback, or nothing where the connection is gone. -/
def Undone (undo : List Exchange) (after : Session σ) : Prop :=
  (undo = [] ∧ after.closed = true) ∨ ∃ reply, undo = [⟨.rollback, reply⟩]

theorem Undone.eq_rollback {undo : List Exchange} (hundo : Undone undo after) {request : Request}
    (hrequest : request ∈ requests undo) : request = .rollback := by
  rcases hundo with ⟨rfl, -⟩ | ⟨reply, rfl⟩
  · simp at hrequest
  · simpa using hrequest

theorem Undone.counts_eq_nil {undo : List Exchange} (hundo : Undone undo after) :
    counts undo = [] := by
  rcases hundo with ⟨rfl, -⟩ | ⟨reply, rfl⟩ <;> rfl

theorem rollback_of_closed (server : Server σ) (hclosed : before.closed = true) :
    before.rollback server = before := by
  simp [rollback, send, Request.isUnsendable, hclosed]

/-- A rollback is sent, unless the connection is gone. -/
theorem rollback_reaches (server : Server σ) (before : Session σ) :
    ∃ undo, Reaches before undo (before.rollback server) ∧
      Undone undo (before.rollback server) := by
  obtain ⟨answer, after, hsend⟩ : ∃ answer after,
      before.send server .rollback = (answer, after) := ⟨_, _, rfl⟩
  obtain ⟨undo, hsending⟩ := send_sending server hsend
  have hafter : before.rollback server = after := by rw [rollback, hsend]
  rw [hafter]
  refine ⟨undo, hsending.reaches, ?_⟩
  cases hsending with
  | withheld hwhy =>
      rcases hwhy with hunsendable | hclosed
      · cases hunsendable
      · exact Or.inl ⟨rfl, hclosed⟩
  | granted hopen hreply hreaches => exact Or.inr ⟨_, rfl⟩
  | denied hopen hreply hreaches => exact Or.inr ⟨_, rfl⟩

/-- What a call with some rows comes to: the answer, the exchanges, and the session after it. -/
inductive Conversation (writer : Writer) (rows : List Observation) (before : Session σ) :
    Except Failure Nat → List Exchange → Session σ → Prop
  /-- The connection was gone. -/
  | cutOff {failure : Failure} (hclosed : before.closed = true) :
      Conversation writer rows before (.error failure) [] before
  /-- The transaction was not started. -/
  | unstarted {failure : Failure} {reply : Reply} {undo : List Exchange} {after : Session σ}
      (hopen : before.closed = false) (hreply : reply.isGranted = false)
      (hundo : Undone undo after)
      (hreaches : Reaches before (⟨.startTransaction, reply⟩ :: undo) after) :
      Conversation writer rows before (.error failure) (⟨.startTransaction, reply⟩ :: undo) after
  /-- The work broke off, or the counts did not add up. -/
  | givenUp {failure : Failure} {reply : Reply} {sent undo : List Exchange} {after : Session σ}
      (hopen : before.closed = false) (hreply : reply.isGranted = true)
      (hwork : ∀ request ∈ requests sent, request ∈ writer.work rows)
      (hshort : (∃ missing, missing ≠ [] ∧ granted sent ++ missing = writer.work rows ∧
          ((∃ exchange ∈ sent, exchange.reply.isGranted = false) ∨
            ∃ request ∈ writer.work rows, request.isUnsendable = true)) ∨
        (granted sent = writer.work rows ∧ rows.length ≠ (counts sent).sum % UInt64.size))
      (hundo : Undone undo after)
      (hreaches : Reaches before (⟨.startTransaction, reply⟩ :: (sent ++ undo)) after) :
      Conversation writer rows before (.error failure)
        (⟨.startTransaction, reply⟩ :: (sent ++ undo)) after
  /-- All went well up to the commit, and the reply to that decides. -/
  | decided {answer : Except Failure Nat} {reply last : Reply} {sent : List Exchange}
      {after : Session σ} (hopen : before.closed = false) (hreply : reply.isGranted = true)
      (hgranted : ∀ exchange ∈ sent, exchange.reply.isGranted = true)
      (hwork : requests sent = writer.work rows)
      (hcount : rows.length = (counts sent).sum % UInt64.size)
      (hdecision : (last.isGranted = true ∧ answer = .ok rows.length) ∨
        (last.isGranted = false ∧ ∃ failure, answer = .error failure))
      (hreaches : Reaches before (⟨.startTransaction, reply⟩ :: (sent ++ [⟨.commit, last⟩]))
        after) :
      Conversation writer rows before answer
        (⟨.startTransaction, reply⟩ :: (sent ++ [⟨.commit, last⟩])) after

variable {rows : List Observation} {answer : Except Failure Nat} {sent : List Exchange}

theorem Conversation.reaches (hcall : Conversation writer rows before answer sent after) :
    Reaches before sent after := by
  cases hcall with
  | cutOff hclosed => exact Reaches.refl _
  | _ => assumption

/-- A call with rows is a conversation of one of the four kinds. -/
theorem insertRows_conversation {file : String} (hrows : rows ≠ [])
    (hinsert : before.insertRows server writer file rows = (answer, after)) :
    ∃ sent, Conversation writer rows before answer sent after := by
  rw [insertRows, if_neg (by simpa using hrows)] at hinsert
  cases hstart : before.send server .startTransaction with
  | mk started session =>
  obtain ⟨first, hstarted⟩ := send_sending server hstart
  rw [hstart] at hinsert
  cases hstarted with
  | withheld hwhy =>
      rcases hwhy with hunsendable | hclosed
      · cases hunsendable
      · cases hinsert
        rw [rollback_of_closed server hclosed]
        exact ⟨[], .cutOff hclosed⟩
  | @denied fault reply _ hopen hreply hreaches =>
      obtain ⟨undo, hundone, hundo⟩ := rollback_reaches server session
      obtain ⟨rfl, rfl⟩ := Prod.mk.inj hinsert
      exact ⟨_, .unstarted hopen hreply hundo (hreaches.trans hundone)⟩
  | @granted reply _ hopen hreply hreaches =>
      have hsession : session.closed = false :=
        hreaches.open_of_granted hopen (by simpa using hreply)
      simp only [insertAndEnd] at hinsert
      cases hpieces : session.insertPieces server writer 0 (pieces writer.batch rows) with
      | mk inserted middle =>
      obtain ⟨sent, hinserted⟩ := insertPieces_inserting hpieces
      rw [hpieces] at hinsert
      cases hinserted with
      | broken hreaches' hgranted hmissing hrequests hwhy =>
          obtain ⟨undo, hundone, hundo⟩ := rollback_reaches server middle
          obtain ⟨rfl, rfl⟩ := Prod.mk.inj hinsert
          rw [hsession, Bool.false_eq_true, false_or] at hwhy
          exact ⟨_, .givenUp hopen hreply hrequests (Or.inl ⟨_, hmissing, hgranted, hwhy⟩) hundo
            (hreaches.trans (hreaches'.trans hundone))⟩
      | @through total _ _ hreaches' hgranted hrequests hsum =>
          rw [UInt64.toNat_zero, Nat.zero_add] at hsum
          have hmiddle : middle.closed = false := hreaches'.open_of_granted hsession hgranted
          simp only [verifyCount] at hinsert
          by_cases hcount : total.toNat = rows.length
          · rw [if_pos hcount] at hinsert
            simp only [commit] at hinsert
            cases hcommit : middle.send server .commit with
            | mk ended final =>
            obtain ⟨last, hended⟩ := send_sending server hcommit
            rw [hcommit] at hinsert
            cases hended with
            | withheld hwhy =>
                -- a commit has no text, and the connection has held up to here
                rcases hwhy with hunsendable | hclosed
                · cases hunsendable
                · rw [hmiddle] at hclosed
                  cases hclosed
            | denied _ hlast hlater =>
                cases hinsert
                exact ⟨_, .decided hopen hreply hgranted hrequests (hcount ▸ hsum)
                  (Or.inr ⟨hlast, _, rfl⟩) (hreaches.trans (hreaches'.trans hlater))⟩
            | granted _ hlast hlater =>
                cases hinsert
                exact ⟨_, .decided hopen hreply hgranted hrequests (hcount ▸ hsum)
                  (Or.inl ⟨hlast, by rw [hcount]⟩) (hreaches.trans (hreaches'.trans hlater))⟩
          · rw [if_neg hcount] at hinsert
            obtain ⟨undo, hundone, hundo⟩ := rollback_reaches server middle
            obtain ⟨rfl, rfl⟩ := Prod.mk.inj hinsert
            have hwork : ∀ request ∈ requests sent, request ∈ writer.work rows := by
              rw [hrequests]
              exact fun request hrequest => hrequest
            have hwrong : rows.length ≠ (counts sent).sum % UInt64.size :=
              fun heq => hcount (hsum.trans heq.symm)
            have hall : granted sent = writer.work rows :=
              (granted_eq_requests hgranted).trans hrequests
            exact ⟨_, .givenUp hopen hreply hwork (Or.inr ⟨hall, hwrong⟩) hundo
              (hreaches.trans (hreaches'.trans hundone))⟩

end Session

/-! ## What a call promises -/

/-- A call of a writer, with its answer and what has been exchanged for it. -/
structure Delivery where
  file : String
  rows : List Observation
  answer : Except Failure Nat
  sent : List Exchange

/-- The protocol of one call. -/
structure Delivery.Orderly (writer : Writer) (delivery : Delivery) : Prop where
  /-- Where there are no rows, nothing is sent. -/
  empty : delivery.rows = [] → delivery.sent = [] ∧ delivery.answer = .ok 0
  /-- A commit is sent exactly if the start and all statements were granted and the counts add up to
  the number of rows, provided that their sum is a number of the machine. -/
  commits : delivery.rows ≠ [] → (counts delivery.sent).sum < UInt64.size →
    (.commit ∈ requests delivery.sent ↔
      .startTransaction :: writer.work delivery.rows <+: granted delivery.sent ∧
        (counts delivery.sent).sum = delivery.rows.length)
  /-- The answer is a count exactly if a commit was granted, and then it is the number of rows. -/
  answers : delivery.rows ≠ [] → ∀ count, delivery.answer = .ok count ↔
    .commit ∈ granted delivery.sent ∧ count = delivery.rows.length
  /-- A transaction that was started and not committed is rolled back, once and at the end, unless
  the connection goes first. -/
  undone : .startTransaction ∈ granted delivery.sent → .commit ∉ requests delivery.sent →
    ∃ earlier last, delivery.sent = earlier ++ [last] ∧ .rollback ∉ requests earlier ∧
      (last.request = .rollback ∨ last.reply = .hangup)

namespace Session

variable {before after : Session σ} {rows : List Observation} {answer : Except Failure Nat}
  {sent : List Exchange}

/-- The work of a call neither starts nor ends a transaction. -/
theorem notMem_of_work (hwork : ∀ request ∈ requests sent, request ∈ writer.work rows) :
    .startTransaction ∉ requests sent ∧ .commit ∉ requests sent ∧ .rollback ∉ requests sent :=
  ⟨fun h => (Writer.ne_of_mem_insertions (hwork _ h)).1 rfl,
    fun h => (Writer.ne_of_mem_insertions (hwork _ h)).2.1 rfl,
    fun h => (Writer.ne_of_mem_insertions (hwork _ h)).2.2 rfl⟩

/-- Of the kinds of conversation only one has a commit in it, and that at the end. -/
theorem Conversation.exists_of_commit_mem
    (hcall : Conversation writer rows before answer sent after)
    (hcommit : .commit ∈ requests sent) :
    ∃ reply last inserted, sent = ⟨.startTransaction, reply⟩ :: (inserted ++ [⟨.commit, last⟩]) ∧
      reply.isGranted = true ∧ (∀ exchange ∈ inserted, exchange.reply.isGranted = true) ∧
        requests inserted = writer.work rows ∧
          rows.length = (counts sent).sum % UInt64.size ∧ counts sent = counts inserted := by
  cases hcall with
  | cutOff hclosed => simp at hcommit
  | unstarted hopen hreply hundo hreaches =>
      rcases List.mem_cons.mp hcommit with heq | hlater
      · cases heq
      · exact absurd (hundo.eq_rollback hlater) (by simp)
  | givenUp hopen hreply hwork hshort hundo hreaches =>
      rw [requests_cons, requests_append, List.mem_cons, List.mem_append] at hcommit
      rcases hcommit with heq | hsent | hlater
      · cases heq
      · exact absurd hsent (notMem_of_work hwork).2.1
      · exact absurd (hundo.eq_rollback hlater) (by simp)
  | @decided _ reply last sent _ hopen hreply hgranted hwork hcount hdecision hreaches =>
      have hcounts : counts (⟨.startTransaction, reply⟩ :: (sent ++ [⟨.commit, last⟩])) =
          counts sent := by
        rw [counts_cons_of_count?_eq_none rfl, counts_append]
        exact List.append_nil _
      exact ⟨reply, last, sent, rfl, hreply, hgranted, hwork, hcounts ▸ hcount, hcounts⟩

theorem Conversation.commit_mem_iff (hcall : Conversation writer rows before answer sent after)
    (hfits : (counts sent).sum < UInt64.size) :
    .commit ∈ requests sent ↔
      .startTransaction :: writer.work rows <+: granted sent ∧ (counts sent).sum = rows.length := by
  constructor
  · intro hcommit
    obtain ⟨reply, last, inserted, rfl, hreply, hgranted, hwork, hcount, -⟩ :=
      hcall.exists_of_commit_mem hcommit
    rw [Nat.mod_eq_of_lt hfits] at hcount
    refine ⟨?_, hcount.symm⟩
    rw [granted_cons, if_pos hreply, granted_append, granted_eq_requests hgranted, hwork]
    exact ⟨_, List.cons_append⟩
  · rintro ⟨hbegins, hsum⟩
    cases hcall with
    | cutOff hclosed => simp at hbegins
    | @unstarted failure reply undo _ hopen hreply hundo hreaches =>
        have hstart : .startTransaction ∉ granted (⟨.startTransaction, reply⟩ :: undo) := by
          rw [granted_cons, if_neg (by simp [hreply])]
          exact fun h => absurd (hundo.eq_rollback (mem_requests_of_mem_granted h)) (by simp)
        exact absurd (hbegins.subset List.mem_cons_self) hstart
    | @givenUp failure reply sent undo _ hopen hreply hwork hshort hundo hreaches =>
        rw [counts_cons_of_count?_eq_none rfl, counts_append, hundo.counts_eq_nil,
          List.append_nil] at hfits hsum
        rw [granted_cons, if_pos hreply, granted_append, List.prefix_cons_inj] at hbegins
        -- either way of giving up leaves one of the two conditions unmet
        rcases hshort with ⟨missing, hmissing, hsplit, -⟩ | ⟨-, hwrong⟩
        · -- what is missing of the work would have to be granted with the rollback
          rw [← hsplit, List.prefix_append_right_inj] at hbegins
          obtain ⟨request, hrequest⟩ := List.exists_mem_of_ne_nil missing hmissing
          have hrollback :=
            hundo.eq_rollback (mem_requests_of_mem_granted (hbegins.subset hrequest))
          have hinwork : request ∈ writer.work rows := by
            rw [← hsplit]
            exact List.mem_append_right _ hrequest
          exact absurd hrollback (Writer.ne_of_mem_insertions hinwork).2.2
        · rw [Nat.mod_eq_of_lt hfits] at hwrong
          exact absurd hsum.symm hwrong
    | decided hopen hreply hgranted hwork hcount hdecision hreaches => simp

theorem Conversation.answer_eq_ok_iff
    (hcall : Conversation writer rows before answer sent after) (count : Nat) :
    answer = .ok count ↔ .commit ∈ granted sent ∧ count = rows.length := by
  cases hcall with
  | cutOff hclosed => simp
  | @unstarted failure reply undo _ hopen hreply hundo hreaches =>
      refine iff_of_false (by simp) fun ⟨hcommit, _⟩ => ?_
      rw [granted_cons, if_neg (by simp [hreply])] at hcommit
      exact absurd (hundo.eq_rollback (mem_requests_of_mem_granted hcommit)) (by simp)
  | @givenUp failure reply sent undo _ hopen hreply hwork hshort hundo hreaches =>
      refine iff_of_false (by simp) fun ⟨hcommit, _⟩ => ?_
      rw [granted_cons, if_pos hreply, granted_append, List.mem_cons, List.mem_append] at hcommit
      rcases hcommit with heq | hsent | hlater
      · cases heq
      · exact (notMem_of_work hwork).2.1 (mem_requests_of_mem_granted hsent)
      · exact absurd (hundo.eq_rollback (mem_requests_of_mem_granted hlater)) (by simp)
  | @decided _ reply last sent _ hopen hreply hgranted hwork hcount hdecision hreaches =>
      have hnotWork : .commit ∉ granted sent := by
        rw [granted_eq_requests hgranted]
        exact (notMem_of_work fun request hrequest => hwork ▸ hrequest).2.1
      rw [granted_cons, if_pos hreply, granted_append, granted_cons, granted_nil]
      rcases hdecision with ⟨hlast, rfl⟩ | ⟨hlast, failure, rfl⟩
      · simp [hlast, eq_comm]
      · simp [hlast, hnotWork]

theorem Conversation.undone (hcall : Conversation writer rows before answer sent after)
    (hstarted : .startTransaction ∈ granted sent) (huncommitted : .commit ∉ requests sent) :
    ∃ earlier last, sent = earlier ++ [last] ∧ .rollback ∉ requests earlier ∧
      (last.request = .rollback ∨ last.reply = .hangup) := by
  cases hcall with
  | cutOff hclosed => simp at hstarted
  | @unstarted failure reply undo _ hopen hreply hundo hreaches =>
      rw [granted_cons, if_neg (by simp [hreply])] at hstarted
      exact absurd (hundo.eq_rollback (mem_requests_of_mem_granted hstarted)) (by simp)
  | @givenUp failure reply sent undo _ hopen hreply hwork hshort hundo hreaches =>
      have hearlier : .rollback ∉ requests (⟨.startTransaction, reply⟩ :: sent) := by
        rw [requests_cons, List.mem_cons]
        rintro (heq | hsent)
        · cases heq
        · exact (notMem_of_work hwork).2.2 hsent
      rcases hundo with ⟨rfl, hclosed⟩ | ⟨answer, rfl⟩
      · -- nothing could be sent any more, so the last reply was a hangup
        rw [List.append_nil] at hreaches ⊢
        obtain ⟨last, hlast, hhangup⟩ := (hreaches.closed hopen).mp hclosed
        obtain ⟨earlier, hsplit⟩ := List.getLast?_eq_some_iff.mp hlast
        refine ⟨earlier, last, hsplit, ?_, Or.inr hhangup⟩
        rw [hsplit, requests_append, List.mem_append, not_or] at hearlier
        exact hearlier.1
      · exact ⟨_, ⟨.rollback, answer⟩, (List.cons_append ..).symm, hearlier, Or.inl rfl⟩
  | @decided _ reply last sent _ hopen hreply hgranted hwork hcount hdecision hreaches =>
      exact absurd (by simp) huncommitted

/-- Only the first request of a call can start a transaction. -/
theorem Conversation.ne_start_of_mem_tail
    (hcall : Conversation writer rows before answer sent after) :
    ∀ exchange ∈ sent.tail, exchange.request ≠ .startTransaction := by
  have hmem : ∀ {exchanges : List Exchange}, .startTransaction ∉ requests exchanges →
      ∀ exchange ∈ exchanges, exchange.request ≠ .startTransaction := by
    intro exchanges hnone exchange hexchange heq
    exact hnone (heq ▸ List.mem_map_of_mem hexchange)
  cases hcall with
  | cutOff hclosed => simp
  | unstarted hopen hreply hundo hreaches =>
      exact hmem fun h => absurd (hundo.eq_rollback h) (by simp)
  | givenUp hopen hreply hwork hshort hundo hreaches =>
      refine hmem fun h => ?_
      rw [List.tail_cons, requests_append, List.mem_append] at h
      rcases h with hsent | hlater
      · exact (notMem_of_work hwork).1 hsent
      · exact absurd (hundo.eq_rollback hlater) (by simp)
  | decided hopen hreply hgranted hwork hcount hdecision hreaches =>
      refine hmem fun h => ?_
      rw [List.tail_cons, requests_append, List.mem_append] at h
      rcases h with hsent | hlater
      · exact (notMem_of_work fun request hrequest => hwork ▸ hrequest).1 hsent
      · simp at hlater

/-- Behind a call no transaction is open, unless the connection is gone. -/
theorem Conversation.closed_of_isOpen
    (hcall : Conversation writer rows before answer sent after) {trace : List Exchange}
    (hopen : isOpen (trace ++ sent) = true) : after.closed = true := by
  have hends : ∀ {exchanges : List Exchange} {last : Exchange},
      exchanges.getLast? = some last → last.request = .commit ∨ last.request = .rollback →
        isOpen (trace ++ exchanges) = false := by
    rintro exchanges ⟨request, reply⟩ hlast hrequest
    obtain ⟨earlier, rfl⟩ := List.getLast?_eq_some_iff.mp hlast
    rw [← List.append_assoc, isOpen_append]
    rcases hrequest with rfl | rfl <;> rfl
  have hundone : ∀ {exchanges undo : List Exchange}, Undone undo after →
      isOpen (trace ++ (exchanges ++ undo)) = true → after.closed = true := by
    rintro exchanges undo (⟨-, hclosed⟩ | ⟨reply, rfl⟩) hopen
    · exact hclosed
    · rw [hends List.getLast?_concat (Or.inr rfl)] at hopen
      cases hopen
  -- each kind but the first ends in a commit or in what undoes the transaction
  cases hcall with
  | cutOff hclosed => exact hclosed
  | unstarted hbefore hreply hundo hreaches =>
      rw [← List.singleton_append] at hopen
      exact hundone hundo hopen
  | givenUp hbefore hreply hwork hshort hundo hreaches =>
      rw [← List.cons_append] at hopen
      exact hundone hundo hopen
  | decided hbefore hreply hgranted hwork hcount hdecision hreaches =>
      rw [← List.cons_append, hends List.getLast?_concat (Or.inl rfl)] at hopen
      cases hopen

end Session

/-! ## Any number of calls -/

namespace Session

/-- Make calls one after the other. -/
def deliver (server : Server σ) (writer : Writer) (session : Session σ) :
    List (String × List Observation) → List Delivery × Session σ
  | [] => ([], session)
  | (file, rows) :: rest =>
      let (answer, middle) := session.insertRows server writer file rows
      let (deliveries, after) := deliver server writer middle rest
      (⟨file, rows, answer, middle.exchanges.drop session.exchanges.length⟩ :: deliveries, after)

/-- One call: what it adds, that it is orderly, and that it leaves no transaction open. -/
theorem insertRows_orderly {before after : Session σ} {file : String} {rows : List Observation}
    {answer : Except Failure Nat}
    (hinsert : before.insertRows server writer file rows = (answer, after)) :
    ∃ sent, after.exchanges = before.exchanges ++ sent ∧
      Delivery.Orderly writer ⟨file, rows, answer, sent⟩ ∧
        ∀ trace, WellNested trace → (isOpen trace = true → before.closed = true) →
          WellNested (trace ++ sent) ∧ (isOpen (trace ++ sent) = true → after.closed = true) := by
  by_cases hrows : rows = []
  · subst hrows
    rw [insertRows, if_pos List.isEmpty_nil] at hinsert
    cases hinsert
    refine ⟨[], (List.append_nil _).symm, ⟨fun _ => ⟨rfl, rfl⟩, ?_, ?_, ?_⟩, ?_⟩
    · exact fun hne => absurd rfl hne
    · exact fun hne => absurd rfl hne
    · exact fun hstart => absurd hstart (by simp)
    · intro trace hnested hidle
      rw [List.append_nil]
      exact ⟨hnested, hidle⟩
  · obtain ⟨sent, hcall⟩ := insertRows_conversation hrows hinsert
    refine ⟨sent, hcall.reaches.exchanges, ⟨?_, ?_, ?_, ?_⟩, ?_⟩
    · exact fun heq => absurd heq hrows
    · exact fun _ hfits => hcall.commit_mem_iff hfits
    · exact fun _ count => hcall.answer_eq_ok_iff count
    · exact hcall.undone
    · intro trace hnested hidle
      refine ⟨hnested.append ?_ hcall.ne_start_of_mem_tail, hcall.closed_of_isOpen⟩
      intro hsent
      rw [← Bool.not_eq_true]
      exact fun hopen => hsent (hcall.reaches.silent (hidle hopen)).1

/-- The statement on several calls, behind exchanges that leave nothing open to be nested in. -/
theorem deliver_orderly_after (server : Server σ) (writer : Writer)
    (calls : List (String × List Observation)) {session : Session σ} {trace : List Exchange}
    (hnested : WellNested trace) (hidle : isOpen trace = true → session.closed = true) :
    let deliveries := (session.deliver server writer calls).1
    let after := (session.deliver server writer calls).2
    deliveries.map (fun delivery => (delivery.file, delivery.rows)) = calls ∧
      after.exchanges = session.exchanges ++ deliveries.flatMap Delivery.sent ∧
        WellNested (trace ++ deliveries.flatMap Delivery.sent) ∧
          ∀ delivery ∈ deliveries, delivery.Orderly writer := by
  induction calls generalizing session trace with
  | nil =>
      refine ⟨rfl, (List.append_nil _).symm, ?_, by simp [deliver]⟩
      simpa [deliver] using hnested
  | cons call rest ih =>
      obtain ⟨file, rows⟩ := call
      cases hinsert : session.insertRows server writer file rows with
      | mk answer middle =>
      obtain ⟨sent, hexchanges, horderly, hkeeps⟩ := insertRows_orderly hinsert
      obtain ⟨hnested', hidle'⟩ := hkeeps trace hnested hidle
      obtain ⟨hcalls, hafter, hall, hrest⟩ := ih hnested' hidle'
      -- what the call is said to have exchanged is what it has added
      have hsent : middle.exchanges.drop session.exchanges.length = sent := by
        rw [hexchanges, List.drop_left]
      simp only [deliver, hinsert, hsent, List.map_cons, List.flatMap_cons]
      refine ⟨by rw [hcalls], ?_, ?_, List.forall_mem_cons.mpr ⟨horderly, hrest⟩⟩
      · rw [hafter, hexchanges, List.append_assoc]
      · rw [← List.append_assoc]
        exact hall

end Session

/-- **Transactions of a writer are orderly, whatever the server replies.**  Over any number of calls
on one session, with any server and so with any script of replies, no transaction is started while
another one is open; what is exchanged for the calls follows one another in their order; and each
call keeps the protocol of a single call (`Delivery.Orderly`). -/
theorem deliver_orderly (server : Server σ) (writer : Writer) (session : Session σ)
    (calls : List (String × List Observation)) :
    let deliveries := (session.deliver server writer calls).1
    let after := (session.deliver server writer calls).2
    deliveries.map (fun delivery => (delivery.file, delivery.rows)) = calls ∧
      after.exchanges = session.exchanges ++ deliveries.flatMap Delivery.sent ∧
        WellNested (deliveries.flatMap Delivery.sent) ∧
          ∀ delivery ∈ deliveries, delivery.Orderly writer := by
  have hidle : isOpen [] = true → session.closed = true := fun hopen => by cases hopen
  exact Session.deliver_orderly_after server writer calls wellNested_nil hidle

end HourlyIngest.Database
