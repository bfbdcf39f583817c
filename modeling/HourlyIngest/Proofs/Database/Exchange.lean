import HourlyIngest.Database.Session

/-!
# What has been exchanged with a server

All that is known about a database is the list of exchanges with it.  `granted` and `counts` say
what the server has done of what it was asked for, `isOpen` whether a transaction has been started
and not ended, and `WellNested` that none is started in such a situation.  A request adds one
exchange to the list or none at all (`Sending`); what several requests add up to is `Reaches`, and
this composes (`Reaches.trans`).  Behind a connection that the server has closed nothing is added,
so a hangup can only be the last reply of all.
-/

namespace HourlyIngest.Database

/-! ## Reading a list of exchanges -/

/-- Whether the server has done what it was asked for. -/
def Reply.isGranted : Reply → Bool
  | .refused _ => false
  | .hangup => false
  | _ => true

/-- The requests, in order. -/
def requests (exchanges : List Exchange) : List Request :=
  exchanges.map Exchange.request

/-- The requests that were granted, in order. -/
def granted (exchanges : List Exchange) : List Request :=
  (exchanges.filter (·.reply.isGranted)).map Exchange.request

/-- The number of rows that a statement has changed, if it was carried out. -/
def Exchange.count? (exchange : Exchange) : Option Nat :=
  match exchange.request with
  | .execute _ _ => if exchange.reply.isGranted then some exchange.reply.affected.toNat else none
  | _ => none

/-- The numbers of rows that the server has reported. -/
def counts (exchanges : List Exchange) : List Nat :=
  exchanges.filterMap Exchange.count?

/-- Whether a transaction is open behind an exchange.  It is opened by a granted start; a commit
and a rollback end it whatever the reply, for a transaction that cannot be committed is undone. -/
def Exchange.leavesOpen (isOpen : Bool) (exchange : Exchange) : Bool :=
  match exchange.request with
  | .startTransaction => isOpen || exchange.reply.isGranted
  | .commit => false
  | .rollback => false
  | _ => isOpen

/-- Whether a transaction is open at the end. -/
def isOpen (exchanges : List Exchange) : Bool :=
  exchanges.foldl Exchange.leavesOpen false

/-- No transaction is started while another one is open. -/
def WellNested (exchanges : List Exchange) : Prop :=
  ∀ earlier reply later, exchanges = earlier ++ ⟨.startTransaction, reply⟩ :: later →
    isOpen earlier = false

section Append

variable (first second : List Exchange)

@[simp] theorem requests_append : requests (first ++ second) = requests first ++ requests second :=
  List.map_append

@[simp] theorem granted_append : granted (first ++ second) = granted first ++ granted second := by
  simp [granted]

@[simp] theorem counts_append : counts (first ++ second) = counts first ++ counts second :=
  List.filterMap_append

theorem isOpen_append :
    isOpen (first ++ second) = second.foldl Exchange.leavesOpen (isOpen first) :=
  List.foldl_append

end Append

@[simp] theorem requests_nil : requests [] = [] := rfl

@[simp] theorem requests_cons (exchange : Exchange) (rest : List Exchange) :
    requests (exchange :: rest) = exchange.request :: requests rest := rfl

@[simp] theorem granted_nil : granted [] = [] := rfl

theorem granted_cons (exchange : Exchange) (rest : List Exchange) :
    granted (exchange :: rest) =
      if exchange.reply.isGranted then exchange.request :: granted rest else granted rest := by
  by_cases hgranted : exchange.reply.isGranted = true
  · simp [granted, hgranted]
  · simp [granted, hgranted]

theorem counts_cons_of_count?_eq_none {exchange : Exchange} (hnone : exchange.count? = none)
    (rest : List Exchange) : counts (exchange :: rest) = counts rest :=
  List.filterMap_cons_none hnone

theorem mem_requests_of_mem_granted {exchanges : List Exchange} {request : Request}
    (hrequest : request ∈ granted exchanges) : request ∈ requests exchanges :=
  (List.filter_sublist.map Exchange.request).subset hrequest

theorem granted_eq_requests {exchanges : List Exchange}
    (hall : ∀ exchange ∈ exchanges, exchange.reply.isGranted = true) :
    granted exchanges = requests exchanges := by
  rw [granted, List.filter_eq_self.mpr hall, requests]

theorem wellNested_nil : WellNested [] := by
  intro earlier reply later hsplit
  simp at hsplit

/-- A conversation may be added that starts one transaction at most, and that at its beginning. -/
theorem WellNested.append {before sent : List Exchange} (hbefore : WellNested before)
    (hidle : sent ≠ [] → isOpen before = false)
    (hfirst : ∀ exchange ∈ sent.tail, exchange.request ≠ .startTransaction) :
    WellNested (before ++ sent) := by
  intro earlier reply later hsplit
  rw [List.append_eq_append_iff] at hsplit
  rcases hsplit with ⟨middle, rfl, hsent⟩ | ⟨middle, hbefore', hlater⟩
  · -- the start is in the new part, so it is the first exchange there
    cases middle with
    | nil =>
        rw [List.append_nil]
        exact hidle (by simp [hsent])
    | cons exchange middle =>
        refine absurd rfl (hfirst ⟨.startTransaction, reply⟩ ?_)
        simp [hsent]
  · -- the start is in the old part, or right behind it
    cases middle with
    | nil =>
        rw [List.append_nil] at hbefore'
        subst hbefore'
        exact hidle (by
          rw [List.nil_append] at hlater
          simp [← hlater])
    | cons exchange middle =>
        obtain ⟨rfl, -⟩ := List.cons.inj hlater
        exact hbefore earlier reply middle hbefore'

/-! ## What requests add -/

namespace Session

variable {σ : Type} {before middle after : Session σ} {sent later : List Exchange}

/-- From one session to another, exchanges have been added. -/
structure Reaches (before : Session σ) (sent : List Exchange) (after : Session σ) : Prop where
  exchanges : after.exchanges = before.exchanges ++ sent
  sendable : ∀ exchange ∈ sent, exchange.request.isUnsendable = false
  /-- Behind a closed connection nothing is sent. -/
  silent : before.closed = true → sent = [] ∧ after.closed = true
  /-- A connection is closed by the last reply. -/
  closed : before.closed = false →
    (after.closed = true ↔ ∃ last, sent.getLast? = some last ∧ last.reply = .hangup)

theorem Reaches.refl (session : Session σ) : Reaches session [] session where
  exchanges := (List.append_nil _).symm
  sendable := by simp
  silent := fun hclosed => ⟨rfl, hclosed⟩
  closed := fun hopen => by simp [hopen]

/-- Granted requests leave a connection open. -/
theorem Reaches.open_of_granted (hreaches : Reaches before sent after)
    (hopen : before.closed = false)
    (hall : ∀ exchange ∈ sent, exchange.reply.isGranted = true) : after.closed = false := by
  rw [← Bool.not_eq_true, hreaches.closed hopen]
  rintro ⟨last, hlast, hhangup⟩
  have hgranted := hall last (List.mem_of_getLast? hlast)
  rw [hhangup] at hgranted
  cases hgranted

theorem Reaches.trans (hfirst : Reaches before sent middle) (hsecond : Reaches middle later after) :
    Reaches before (sent ++ later) after where
  exchanges := by rw [hsecond.exchanges, hfirst.exchanges, List.append_assoc]
  sendable := List.forall_mem_append.mpr ⟨hfirst.sendable, hsecond.sendable⟩
  silent := by
    intro hclosed
    obtain ⟨rfl, hmiddle⟩ := hfirst.silent hclosed
    exact hsecond.silent hmiddle
  closed := by
    intro hopen
    cases hmiddle : middle.closed with
    | true =>
        -- the first part has closed the connection, so the second one is empty
        obtain ⟨rfl, hafter⟩ := hsecond.silent hmiddle
        rw [List.append_nil, ← hfirst.closed hopen, hmiddle, hafter]
    | false =>
        rw [hsecond.closed hmiddle, List.getLast?_append]
        cases hlater : later.getLast? with
        | some last => simp
        | none =>
            rw [Option.none_or, ← hfirst.closed hopen, hmiddle]
            simp

/-- What sending a request comes to: the answer, the exchange if there was one, and the session. -/
inductive Sending (before : Session σ) (request : Request) :
    Except DatabaseFault Reply → List Exchange → Session σ → Prop
  /-- The request cannot be written down, or the connection is gone. -/
  | withheld {fault : DatabaseFault} (hwhy : request.isUnsendable = true ∨ before.closed = true) :
      Sending before request (.error fault) [] before
  | granted {reply : Reply} {after : Session σ} (hopen : before.closed = false)
      (hreply : reply.isGranted = true) (hreaches : Reaches before [⟨request, reply⟩] after) :
      Sending before request (.ok reply) [⟨request, reply⟩] after
  | denied {fault : DatabaseFault} {reply : Reply} {after : Session σ}
      (hopen : before.closed = false) (hreply : reply.isGranted = false)
      (hreaches : Reaches before [⟨request, reply⟩] after) :
      Sending before request (.error fault) [⟨request, reply⟩] after

theorem Sending.reaches {request : Request} {answer : Except DatabaseFault Reply}
    (hsending : Sending before request answer sent after) : Reaches before sent after := by
  cases hsending with
  | withheld hwhy => exact Reaches.refl before
  | granted hopen hreply hreaches => exact hreaches
  | denied hopen hreply hreaches => exact hreaches

theorem send_sending (server : Server σ) {request : Request} {answer : Except DatabaseFault Reply}
    (hsend : before.send server request = (answer, after)) :
    ∃ sent, Sending before request answer sent after := by
  unfold send at hsend
  split at hsend
  · next hunsendable =>
    cases hsend
    exact ⟨[], .withheld (Or.inl hunsendable)⟩
  next hsendable =>
  rw [Bool.not_eq_true] at hsendable
  split at hsend
  · next hclosed =>
    cases hsend
    exact ⟨[], .withheld (Or.inr hclosed)⟩
  next hopen =>
  rw [Bool.not_eq_true] at hopen
  cases hreply : server.reply before.server request with
  | mk reply state =>
      refine ⟨[⟨request, reply⟩], ?_⟩
      simp only [hreply] at hsend
      -- an error and a hangup are failures, every other reply is an answer
      cases reply with
      | refused error =>
          cases hsend
          exact .denied hopen rfl ⟨rfl, by simpa using hsendable, by simp [hopen], by simp [hopen]⟩
      | hangup =>
          cases hsend
          exact .denied hopen rfl ⟨rfl, by simpa using hsendable, by simp [hopen], by simp⟩
      | _ =>
          cases hsend
          exact .granted hopen rfl ⟨rfl, by simpa using hsendable, by simp [hopen], by simp [hopen]⟩

end Session

end HourlyIngest.Database
