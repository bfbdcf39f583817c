import HourlyIngest.Database.Connect
import HourlyIngest.Proofs.Database.Arrival

/-!
# Connecting leaves the data alone

Before a session is open its client is known to the server only by what it has said to be let in:
whether it wants encryption, who it is, a password, and whether transactions may only read.  All
hosts that are tried, in whatever order (`perm_arrange`), and all that refuse, are told nothing else
(`Session.connect_greets`), so that a connection that is not made has inserted nothing.  Where
encryption is required none is made at all (`Session.connect_of_require`).
-/

namespace HourlyIngest.Database

open Connection

/-- Whether a request belongs to the opening of a session. -/
def Request.isGreeting : Request → Bool
  | .encryption => true
  | .startup _ => true
  | .password _ => true
  | .showReadOnly => true
  | _ => false

/-- No statement is carried out while sessions are opened. -/
theorem executions_of_greetings {greetings : List Exchange}
    (hall : ∀ exchange ∈ greetings, exchange.request.isGreeting = true) :
    executions greetings = [] := by
  refine executions_eq_nil fun request hrequest => ?_
  obtain ⟨exchange, hexchange, rfl⟩ := List.mem_map.mp (mem_requests_of_mem_granted hrequest)
  have hgreeting := hall exchange hexchange
  cases hkind : exchange.request <;> simp [hkind, Request.isGreeting, Request.execution?] at *

/-! ## The order of trying -/

theorem filterMap_getElem?_range {α : Type} (xs : List α) :
    (List.range xs.length).filterMap (xs[·]?) = xs := by
  have hall : (List.range xs.length).map (xs[·]?) = xs.map some :=
    List.ext_getElem (by simp) fun n _ _ => by simp
  calc (List.range xs.length).filterMap (xs[·]?)
      = ((List.range xs.length).map (xs[·]?)).filterMap id := by simp
    _ = xs := by rw [hall, List.filterMap_map]; simp

/-- No alternative is left out, and none is tried twice. -/
theorem perm_arrange {α : Type} (shuffle : Shuffle) (balance : LoadBalance)
    (occasion : Option Nat) (xs : List α) : (arrange shuffle balance occasion xs).Perm xs := by
  cases balance with
  | disable => exact .refl xs
  | random =>
      have hmoved := (shuffle.perm occasion xs.length).filterMap (xs[·]?)
      rwa [filterMap_getElem?_range] at hmoved

namespace Session

variable {σ : Type} {server : Server σ} {account : String} {parameters : Parameters}
  {shuffle : Shuffle} {named : Bool} {before middle after : Session σ}
  {answer : Except DatabaseFault Unit}

/-! ## What is exchanged -/

/-- From one session to another, greetings have been added, and nothing else. -/
def Greets (before after : Session σ) : Prop :=
  ∃ greetings, after.exchanges = before.exchanges ++ greetings ∧
    ∀ exchange ∈ greetings, exchange.request.isGreeting = true

theorem Greets.refl (session : Session σ) : Greets session session :=
  ⟨[], (List.append_nil _).symm, by simp⟩

theorem Greets.trans (hfirst : Greets before middle) (hsecond : Greets middle after) :
    Greets before after := by
  obtain ⟨first, hmiddle, hall⟩ := hfirst
  obtain ⟨second, hafter, hall'⟩ := hsecond
  refine ⟨first ++ second, ?_, List.forall_mem_append.mpr ⟨hall, hall'⟩⟩
  rw [hafter, hmiddle, List.append_assoc]

theorem Greets.executions_eq (hgreets : Greets before after) :
    executions after.exchanges = executions before.exchanges := by
  obtain ⟨greetings, hafter, hall⟩ := hgreets
  rw [hafter, executions_append, executions_of_greetings hall, List.append_nil]

theorem send_greets {request : Request} (hrequest : request.isGreeting = true)
    {answer : Except DatabaseFault Reply} (hsend : before.send server request = (answer, after)) :
    Greets before after := by
  obtain ⟨sent, hsending⟩ := send_sending server hsend
  refine ⟨sent, hsending.reaches.exchanges, ?_⟩
  cases hsending with
  | withheld hwhy => simp
  | granted hopen hreply hreaches => simpa using hrequest
  | denied hopen hreply hreaches => simpa using hrequest

theorem negotiate_greets (hnegotiate : before.negotiate server parameters named = (answer, after)) :
    Greets before after := by
  unfold negotiate at hnegotiate
  split at hnegotiate
  · cases hnegotiate
    exact Greets.refl _
  · split at hnegotiate
    · cases hnegotiate
      exact Greets.refl _
    · cases hsend : before.send server .encryption with
      | mk reply session =>
      have hasked : Greets before session := send_greets rfl hsend
      rw [hsend] at hnegotiate
      cases hnegotiate
      exact hasked

theorem givePassword_greets (hgive : before.givePassword server parameters = (answer, after)) :
    Greets before after := by
  unfold givePassword at hgive
  split at hgive
  · cases hgive
    exact Greets.refl _
  · next password _ =>
    cases hsend : before.send server (.password password) with
    | mk reply session =>
    rw [hsend] at hgive
    cases hgive
    exact send_greets rfl hsend

theorem authenticate_greets
    (hauthenticate : before.authenticate server account parameters = (answer, after)) :
    Greets before after := by
  unfold authenticate at hauthenticate
  cases hsend : before.send server (.startup (startupParameters account parameters)) with
  | mk reply session =>
  have hstartup : Greets before session := send_greets rfl hsend
  rw [hsend] at hauthenticate
  cases reply with
  | error fault =>
      cases hauthenticate
      exact hstartup
  | ok reply =>
      simp only at hauthenticate
      split at hauthenticate
      · cases hauthenticate
        exact hstartup
      · split at hauthenticate
        · exact hstartup.trans (givePassword_greets hauthenticate)
        · cases hauthenticate
          exact hstartup

theorem inspect_greets (hinspect : before.inspect server parameters = (answer, after)) :
    Greets before after := by
  unfold inspect at hinspect
  split at hinspect
  · cases hinspect
    exact Greets.refl _
  · cases hsend : before.send server .showReadOnly with
    | mk reply session =>
    rw [hsend] at hinspect
    cases hinspect
    exact send_greets rfl hsend

theorem start_greets (hstart : before.start server account parameters named = (answer, after)) :
    Greets before after := by
  unfold start at hstart
  cases hnegotiate : before.negotiate server parameters named with
  | mk agreed session =>
  have hfirst := negotiate_greets hnegotiate
  rw [hnegotiate] at hstart
  cases agreed with
  | error fault =>
      cases hstart
      exact hfirst
  | ok _ =>
      simp only at hstart
      cases hauthenticate : session.authenticate server account parameters with
      | mk admitted session =>
      have hsecond := hfirst.trans (authenticate_greets hauthenticate)
      rw [hauthenticate] at hstart
      cases admitted with
      | error fault =>
          cases hstart
          exact hsecond
      | ok _ => exact hsecond.trans (inspect_greets hstart)

theorem enter_greets {endpoint : Endpoint}
    (henter : before.enter server account parameters named endpoint = (answer, after)) :
    Greets before after := by
  unfold enter at henter
  split at henter
  · cases henter
    exact Greets.refl _
  · next state _ =>
    -- what has been exchanged before is not forgotten when a new connection is taken up
    have hstarted : Greets { before with server := state, closed := false } after :=
      start_greets henter
    exact hstarted

/-- What each attempt keeps to, all attempts together keep to. -/
theorem tryEach_greets {α : Type} {attempt : α → Session σ → Except DatabaseFault Unit × Session σ}
    (hattempt : ∀ {alternative before answer after},
      attempt alternative before = (answer, after) → Greets before after)
    {alternatives : List α} {last : DatabaseFault}
    (htry : before.tryEach attempt last alternatives = (answer, after)) : Greets before after := by
  induction alternatives generalizing before last with
  | nil =>
      cases htry
      exact Greets.refl _
  | cons alternative rest ih =>
      rw [tryEach] at htry
      cases hfirst : attempt alternative before with
      | mk outcome session =>
      have hgreets := hattempt hfirst
      rw [hfirst] at htry
      cases outcome with
      | error fault => exact hgreets.trans (ih htry)
      | ok _ =>
          cases htry
          exact hgreets

theorem tryHost_greets {files : FileSystem} {candidate : Candidate}
    (htry : before.tryHost server account parameters shuffle files candidate = (answer, after)) :
    Greets before after := by
  unfold tryHost at htry
  split at htry
  · split at htry
    · cases htry
      exact Greets.refl _
    · exact tryEach_greets enter_greets htry
  · split at htry
    · cases htry
      exact Greets.refl _
    · exact enter_greets htry

/-- Whether a connection is made or not, nothing but greetings has been exchanged. -/
theorem connect_greets {files : FileSystem}
    (hconnect : before.connect server account parameters shuffle files = (answer, after)) :
    Greets before after := by
  unfold connect at hconnect
  split at hconnect
  · cases hconnect
    exact Greets.refl _
  · exact tryEach_greets tryHost_greets hconnect

/-! ## Encryption -/

/-- If each attempt fails, all attempts together do. -/
theorem tryEach_fails {α : Type} {attempt : α → Session σ → Except DatabaseFault Unit × Session σ}
    (hattempt : ∀ alternative before, (attempt alternative before).1 ≠ .ok ())
    (alternatives : List α) (last : DatabaseFault) (before : Session σ) :
    (before.tryEach attempt last alternatives).1 ≠ .ok () := by
  induction alternatives generalizing before last with
  | nil => simp [tryEach]
  | cons alternative rest ih =>
      have hfirst := hattempt alternative before
      rw [tryEach]
      split
      · next hok => exact absurd (congrArg Prod.fst hok) hfirst
      · exact ih _ _

section Required

variable (hrequire : parameters.sslMode = .require)

include hrequire

theorem negotiate_fails (before : Session σ) :
    (before.negotiate server parameters named).1 ≠ .ok () := by
  unfold negotiate
  rw [if_neg (by simp [hrequire])]
  split <;> simp

theorem enter_fails (endpoint : Endpoint) (before : Session σ) :
    (before.enter server account parameters named endpoint).1 ≠ .ok () := by
  unfold enter start
  split
  · simp
  · next state _ =>
    split
    · simp
    · next hagreed => exact absurd (congrArg Prod.fst hagreed) (negotiate_fails hrequire _)

theorem tryHost_fails (files : FileSystem) (candidate : Candidate) (before : Session σ) :
    (before.tryHost server account parameters shuffle files candidate).1 ≠ .ok () := by
  unfold tryHost
  split
  · split
    · simp
    · exact tryEach_fails (fun address => enter_fails hrequire _) _ _ _
  · split
    · simp
    · exact enter_fails hrequire _ _

/-- No server is good enough for a client that insists on encryption. -/
theorem connect_of_require (files : FileSystem) (before : Session σ) :
    (before.connect server account parameters shuffle files).1 ≠ .ok () := by
  unfold connect
  split
  · simp
  · exact tryEach_fails (tryHost_fails hrequire files) _ _ _

end Required

end Session

end HourlyIngest.Database
