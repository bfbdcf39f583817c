import HourlyIngest.Connection
import HourlyIngest.Proofs.Connection.Pairs
import HourlyIngest.Proofs.Connection.Parameters

/-!
# The timeout of a connection string

A connection string says everything about its connection but the timeout, and says that too if it
gives a positive number of seconds (`timeouts`, of which the last positive one counts): nothing but
the timeout is left to the settings, and to them only if no number given is positive
(`connection_of_string`).  A timeout of zero is therefore not the same as one that the settings cannot
change.

As for strings of keys and values, the parameters behind the question mark of a URI may be found
first and set afterwards (`readQuery?_eq`), and what a parameter does to the timeout shows from its
name and its text (`connectTimeout_set?`).
-/

namespace HourlyIngest.Connection

open Number Text

/-! ## What a connection string gives -/

/-- The parameters behind the question mark of a URI: their names, and the characters of their
values. -/
def queryPairs? (text : List Char) : Nat → Option (List (String × List Char))
  | 0 => none
  | fuel + 1 =>
      if text.isEmpty then some []
      else
        match cut? (· = '=') text with
        | none => none
        | some (key, rest) =>
            let (value, rest) := cut (· = '&') (rest.drop 1)
            match textOf? key with
            | none => none
            | some key => (queryPairs? (rest.drop 1) fuel).map ((key, value) :: ·)

/-- The text behind the at sign of a URI, or all of it if there is none. -/
def afterCredentials (text : List Char) : List Char :=
  match cut? (· = '@') text with
  | none => text
  | some (_, rest) => rest.drop 1

/-- The text behind the name of the database. -/
def afterDatabase (text : List Char) : List Char :=
  match text with
  | '/' :: rest => (cut (· = '?') rest).2
  | _ => text

/-- The text behind the question mark of a URI, if it has one there. -/
def queryOf (text : List Char) : List Char :=
  match afterDatabase (cut (fun c => c = '/' || c = '?') (afterCredentials text)).2 with
  | '?' :: query => query
  | _ => []

/-- The names and texts in a connection string. -/
def saidIn (url : String) : List (String × String) :=
  match afterScheme? url.toList with
  | none => (pairs? url.toList (url.toList.length + 1)).getD []
  | some rest =>
      ((queryPairs? (queryOf rest) ((queryOf rest).length + 1)).getD []).filterMap fun pair =>
        (textOf? pair.2).map (pair.1, ·)

/-- The number of seconds that is given as the timeout, if this is what is given. -/
def timeout? (pair : String × String) : Option Int :=
  if pair.1 = "connect_timeout" then (readSigned64 pair.2.toList).toOption else none

/-- All numbers of seconds that a connection string gives as the timeout, in order. -/
def timeouts (url : String) : List Int :=
  (saidIn url).filterMap timeout?

/-- A positive number of seconds holds. -/
def holding? (seconds : Int) : Option Nat :=
  if 0 < seconds then some seconds.toNat else none

/-- The timeout that a connection string sets: the last one that it gives and that holds. -/
def timeoutOf? (url : String) : Option Nat :=
  ((timeouts url).filterMap holding?).getLast?

/-! ## What a parameter does to the timeout -/

variable {parameters after : Parameters} {key value : String}

namespace Parameters

theorem connectTimeout_setText? (hset : parameters.setText? key value = some after) :
    after.connectTimeout = parameters.connectTimeout := by
  unfold setText? at hset
  split at hset
  all_goals cases hset
  all_goals rfl

theorem connectTimeout_setWord? (hset : parameters.setWord? key value = some after) :
    after.connectTimeout = parameters.connectTimeout := by
  unfold setWord? at hset
  split at hset
  all_goals cases hset
  all_goals rfl

theorem connectTimeout_setList? (hset : parameters.setList? key value = some after) :
    after.connectTimeout = parameters.connectTimeout := by
  unfold setList? at hset
  dsimp only at hset
  split at hset
  · cases hset
    rfl
  · obtain ⟨addresses, -, rfl⟩ := Option.map_eq_some_iff.mp hset
    rfl
  · obtain ⟨ports, -, rfl⟩ := Option.map_eq_some_iff.mp hset
    rfl
  · cases hset

theorem connectTimeout_setNumber? (hkey : key ≠ "connect_timeout")
    (hset : parameters.setNumber? key value = some after) :
    after.connectTimeout = parameters.connectTimeout := by
  unfold setNumber? at hset
  split at hset
  · exact absurd rfl hkey
  case h_7 => cases hset
  all_goals
    obtain ⟨number, -, rfl⟩ := Option.map_eq_some_iff.mp hset
    rfl

/-- A timeout holds if it is positive. -/
theorem connectTimeout_set?_timeout
    (hset : parameters.set? "connect_timeout" value = some after) :
    after.connectTimeout =
      ((readSigned64 value.toList).toOption.bind holding?).or parameters.connectTimeout := by
  rw [set?_eq_setNumber? rfl rfl rfl] at hset
  obtain ⟨seconds, hseconds, rfl⟩ := Option.map_eq_some_iff.mp hset
  unfold readSeconds? at hseconds
  cases hread : readSigned64 value.toList with
  | error fault => simp [hread] at hseconds
  | ok number =>
      rw [hread] at hseconds
      obtain rfl := Option.some.inj hseconds
      simp only [Except.toOption, Option.bind_some, holding?]
      split <;> rfl

/-- **What setting a parameter does to the timeout.** -/
theorem connectTimeout_set? (hset : parameters.set? key value = some after) :
    after.connectTimeout = ((timeout? (key, value)).bind holding?).or parameters.connectTimeout := by
  by_cases hkey : key = "connect_timeout"
  · subst hkey
    exact connectTimeout_set?_timeout hset
  · rw [timeout?, if_neg hkey, Option.bind_none, Option.none_or]
    obtain ⟨setter, hmem, hset⟩ := List.exists_of_findSome?_eq_some hset
    simp only [List.mem_cons, List.not_mem_nil, or_false] at hmem
    rcases hmem with rfl | rfl | rfl | rfl
    · exact connectTimeout_setText? hset
    · exact connectTimeout_setWord? hset
    · exact connectTimeout_setNumber? hkey hset
    · exact connectTimeout_setList? hset

/-- Where every item sets the timeout or leaves it alone, the last one that sets it counts. -/
theorem connectTimeout_foldlM {α : Type} {set? : Parameters → α → Option Parameters}
    {own? : α → Option Nat}
    (hset : ∀ parameters item after, set? parameters item = some after →
      after.connectTimeout = (own? item).or parameters.connectTimeout)
    {items : List α} (hfold : items.foldlM set? parameters = some after) :
    after.connectTimeout = (items.filterMap own?).getLast?.or parameters.connectTimeout := by
  induction items generalizing parameters with
  | nil =>
      obtain rfl := Option.some.inj hfold
      rfl
  | cons item items ih =>
      rw [List.foldlM_cons] at hfold
      obtain ⟨next, hnext, hfold⟩ := Option.bind_eq_some_iff.mp hfold
      rw [ih hfold, hset _ _ _ hnext]
      cases hitem : own? item with
      | none => rw [List.filterMap_cons_none hitem, Option.none_or]
      | some seconds =>
          rw [List.filterMap_cons_some hitem, List.getLast?_cons]
          cases (items.filterMap own?).getLast? <;> rfl

end Parameters

/-! ## Strings of keys and values -/

variable {text rest : List Char}

theorem connectTimeout_ofKeyValues? (hread : ofKeyValues? text = some after) :
    ∃ pairs, pairs? text (text.length + 1) = some pairs ∧
      after.connectTimeout = ((pairs.filterMap timeout?).filterMap holding?).getLast? := by
  rw [ofKeyValues?, readPairs?_eq] at hread
  obtain ⟨pairs, hpairs, hset⟩ := Option.bind_eq_some_iff.mp hread
  refine ⟨pairs, hpairs, ?_⟩
  have hstep : ∀ (parameters : Parameters) (pair : String × String) (after : Parameters),
      parameters.set? pair.1 pair.2 = some after →
      after.connectTimeout = ((timeout? pair).bind holding?).or parameters.connectTimeout :=
    fun _ _ _ hone => Parameters.connectTimeout_set? hone
  rw [Parameters.connectTimeout_foldlM hstep hset, List.filterMap_filterMap]
  exact Option.or_none

/-! ## URIs -/

theorem connectTimeout_addHost? (hadd : addHost? parameters text = some after) :
    after.connectTimeout = parameters.connectTimeout := by
  unfold addHost? at hadd
  dsimp only at hadd
  split at hadd
  · cases hadd
    rfl
  · obtain ⟨name, -, rfl⟩ := Option.map_eq_some_iff.mp hadd
    rfl

/-- Set the parameter of a name to the text that characters of a URI stand for. -/
def Parameters.setCoded? (parameters : Parameters) (pair : String × List Char) :
    Option Parameters :=
  if pair.1 = "host" then addHost? parameters pair.2
  else (textOf? pair.2).bind (parameters.set? pair.1)

/-- **The parameters of a URI are found first, as it were, and set afterwards.** -/
theorem readQuery?_eq (parameters : Parameters) (text : List Char) (fuel : Nat) :
    readQuery? parameters text fuel =
      (queryPairs? text fuel).bind (·.foldlM Parameters.setCoded? parameters) := by
  induction fuel generalizing parameters text with
  | zero => rfl
  | succ fuel ih =>
      rw [readQuery?, queryPairs?]
      split
      · rfl
      cases cut? (· = '=') text with
      | none => rfl
      | some halves =>
          obtain ⟨key, rest⟩ := halves
          dsimp only
          cases textOf? key with
          | none => rfl
          | some key =>
              simp only [Option.bind_eq_bind, Option.bind_some]
              generalize cut (· = '&') (rest.drop 1) = halves
              obtain ⟨value, rest⟩ := halves
              have hset : ∀ next : Parameters → Option Parameters,
                  (if key = "host" then (addHost? parameters value).bind next
                    else ((textOf? value).bind (parameters.set? key)).bind next) =
                    (parameters.setCoded? (key, value)).bind next := by
                intro next
                unfold Parameters.setCoded?
                split <;> rfl
              rw [hset]
              cases hone : parameters.setCoded? (key, value) with
              | none =>
                  cases queryPairs? (rest.drop 1) fuel <;> simp [hone]
              | some parameters =>
                  rw [Option.bind_some, ih, Option.bind_map]
                  refine congrArg _ (funext fun pairs => ?_)
                  rw [Function.comp_apply, List.foldlM_cons, hone]
                  rfl

theorem connectTimeout_setCoded? {pair : String × List Char}
    (hset : parameters.setCoded? pair = some after) :
    after.connectTimeout = ((((textOf? pair.2).map (pair.1, ·)).bind timeout?).bind holding?).or
      parameters.connectTimeout := by
  obtain ⟨key, value⟩ := pair
  unfold Parameters.setCoded? at hset
  dsimp only at hset
  split at hset
  · next hhost =>
    have hother : ∀ text, timeout? (key, text) = none := by
      intro text
      have hkey : key ≠ "connect_timeout" := by
        rw [hhost]
        decide
      exact if_neg hkey
    rw [connectTimeout_addHost? hset]
    cases textOf? value <;> simp [hother]
  · obtain ⟨text, htext, hset⟩ := Option.bind_eq_some_iff.mp hset
    rw [Parameters.connectTimeout_set? hset, htext]
    rfl

theorem connectTimeout_readQuery? {fuel : Nat}
    (hread : readQuery? parameters text fuel = some after) :
    ∃ pairs, queryPairs? text fuel = some pairs ∧ after.connectTimeout =
      (((pairs.filterMap fun pair => (textOf? pair.2).map (pair.1, ·)).filterMap
        timeout?).filterMap holding?).getLast?.or parameters.connectTimeout := by
  rw [readQuery?_eq] at hread
  obtain ⟨pairs, hpairs, hset⟩ := Option.bind_eq_some_iff.mp hread
  refine ⟨pairs, hpairs, ?_⟩
  have hstep : ∀ (parameters : Parameters) (pair : String × List Char) (after : Parameters),
      parameters.setCoded? pair = some after → after.connectTimeout =
        ((((textOf? pair.2).map (pair.1, ·)).bind timeout?).bind holding?).or
          parameters.connectTimeout :=
    fun _ _ _ => connectTimeout_setCoded?
  rw [Parameters.connectTimeout_foldlM hstep hset, List.filterMap_filterMap,
    List.filterMap_filterMap]
  simp only [Option.bind_assoc]

/-- Credentials set no timeout. -/
theorem readCredentials?_rest (hread : readCredentials? parameters text = some (after, rest)) :
    rest = afterCredentials text ∧ after.connectTimeout = parameters.connectTimeout := by
  unfold readCredentials? at hread
  unfold afterCredentials
  cases hcut : cut? (· = '@') text with
  | none =>
      rw [hcut] at hread
      cases hread
      exact ⟨rfl, rfl⟩
  | some halves =>
      rw [hcut] at hread
      obtain ⟨user, -, hafter⟩ := Option.map_eq_some_iff.mp hread
      cases hafter
      exact ⟨rfl, rfl⟩

/-- Hosts set no timeout. -/
theorem connectTimeout_readHosts? {chunks : List (List Char)}
    (hread : readHosts? parameters chunks = some after) :
    after.connectTimeout = parameters.connectTimeout := by
  induction chunks generalizing parameters with
  | nil =>
      cases hread
      rfl
  | cons chunk chunks ih =>
      simp only [readHosts?, Option.bind_eq_bind, Option.bind_eq_some_iff] at hread
      obtain ⟨⟨host, port⟩, -, withHost, hhost, portText, -, withPort, hport, hread⟩ := hread
      calc
        after.connectTimeout = withPort.connectTimeout := ih hread
        _ = withHost.connectTimeout := Parameters.connectTimeout_set? hport
        _ = parameters.connectTimeout := connectTimeout_addHost? hhost

/-- The name of the database sets no timeout. -/
theorem readDatabase?_rest (hread : readDatabase? parameters text = some (after, rest)) :
    rest = afterDatabase text ∧ after.connectTimeout = parameters.connectTimeout := by
  by_cases hslash : ∃ tail, text = '/' :: tail
  · obtain ⟨tail, rfl⟩ := hslash
    simp only [readDatabase?] at hread
    split at hread
    · cases hread
      exact ⟨rfl, rfl⟩
    · obtain ⟨name, -, hafter⟩ := Option.map_eq_some_iff.mp hread
      cases hafter
      exact ⟨rfl, rfl⟩
  · have hdatabase : readDatabase? parameters text = some (parameters, text) := by
      unfold readDatabase?
      split
      · exact absurd ⟨_, rfl⟩ hslash
      · rfl
    have hafter : afterDatabase text = text := by
      unfold afterDatabase
      split
      · exact absurd ⟨_, rfl⟩ hslash
      · rfl
    rw [hdatabase] at hread
    cases hread
    exact ⟨hafter.symm, rfl⟩

/-- The parameters behind the question mark, if there is one. -/
def readTail? (parameters : Parameters) (text : List Char) : Option Parameters :=
  match text with
  | '?' :: query => readQuery? parameters query (query.length + 1)
  | _ => some parameters

/-- All that can set the timeout of a URI stands behind its question mark. -/
theorem exists_readQuery?_of_ofUri? (hread : ofUri? text = some after) :
    ∃ before : Parameters, before.connectTimeout = none ∧
      readQuery? before (queryOf text) ((queryOf text).length + 1) = some after := by
  obtain ⟨⟨named, rest⟩, hnamed, hread⟩ := Option.bind_eq_some_iff.mp hread
  obtain ⟨rfl, hnone⟩ := readCredentials?_rest hnamed
  have hhosts : ∃ withHosts : Parameters, withHosts.connectTimeout = none ∧
      ((readDatabase? withHosts
        (cut (fun c => c = '/' || c = '?') (afterCredentials text)).2).bind
          fun read => readTail? read.1 read.2) = some after := by
    dsimp only at hread
    split at hread
    · exact ⟨named, hnone, hread⟩
    · obtain ⟨withHosts, hhosts, hread⟩ := Option.bind_eq_some_iff.mp hread
      exact ⟨withHosts, (connectTimeout_readHosts? hhosts).trans hnone, hread⟩
  obtain ⟨withHosts, hnone, hread⟩ := hhosts
  obtain ⟨⟨before, tail⟩, hbefore, hread⟩ := Option.bind_eq_some_iff.mp hread
  obtain ⟨rfl, hsame⟩ := readDatabase?_rest hbefore
  refine ⟨before, hsame.trans hnone, ?_⟩
  unfold queryOf
  unfold readTail? at hread
  dsimp only at hread
  -- The split decides the same match of the goal.
  split at hread
  · exact hread
  · exact hread

/-! ## The connection -/

/-- **The timeout that is read is the last one given that holds.** -/
theorem connectTimeout_ofString? {url : String} (hread : ofString? url = some parameters) :
    parameters.connectTimeout = timeoutOf? url := by
  unfold ofString? at hread
  unfold timeoutOf? timeouts saidIn
  cases hscheme : afterScheme? url.toList with
  | none =>
      rw [hscheme] at hread
      obtain ⟨pairs, hpairs, hsame⟩ := connectTimeout_ofKeyValues? hread
      rw [hsame, hpairs]
      rfl
  | some rest =>
      rw [hscheme] at hread
      obtain ⟨before, hnone, hquery⟩ := exists_readQuery?_of_ofUri? hread
      obtain ⟨pairs, hpairs, hsame⟩ := connectTimeout_readQuery? hquery
      rw [hsame, hnone, Option.or_none]
      dsimp only
      rw [hpairs]
      rfl

/-- A connection string sets the timeout just if it gives a positive one. -/
theorem isSome_timeoutOf? {url : String} :
    (timeoutOf? url).isSome ↔ ∃ seconds ∈ timeouts url, 0 < seconds := by
  simp [timeoutOf?, holding?]

/-- What a connection string leaves to the settings: the timeout, and that only if it gives none
that is positive. -/
theorem connection_of_url (settings : DatabaseSettings) (url : String) :
    { settings with url := some url }.connection =
      match ofString? url with
      | none => .error invalidString
      | some parameters => .ok
          { parameters with
            connectTimeout := some ((timeoutOf? url).getD settings.connectTimeout)
            applicationName := some programName } := by
  unfold DatabaseSettings.connection
  dsimp only
  cases hread : ofString? url with
  | none => rfl
  | some parameters =>
      dsimp only
      unfold complete
      rw [connectTimeout_ofString? hread]
      cases timeoutOf? url <;> rfl

/-- **A connection string takes the place of the single fields, all but the timeout.**  For one
string and any two settings, either no connection can be read from the string, or the two
connections have the same parameters with the timeouts `timeoutOf?` where the string sets one and
those of the settings where it does not; and they are the same just if the string gives a positive
number of seconds or the settings agree on theirs. -/
theorem connection_of_string (url : String) (settings other : DatabaseSettings) :
    ({ settings with url := some url }.connection = .error invalidString ∧
      { other with url := some url }.connection = .error invalidString) ∨
    ∃ parameters : Parameters,
      { settings with url := some url }.connection = .ok
        { parameters with
          connectTimeout := some ((timeoutOf? url).getD settings.connectTimeout) } ∧
      { other with url := some url }.connection = .ok
        { parameters with
          connectTimeout := some ((timeoutOf? url).getD other.connectTimeout) } ∧
      ({ settings with url := some url }.connection = { other with url := some url }.connection ↔
        (∃ seconds ∈ timeouts url, 0 < seconds) ∨
          settings.connectTimeout = other.connectTimeout) := by
  rw [connection_of_url settings, connection_of_url other]
  cases hread : ofString? url with
  | none => exact .inl ⟨rfl, rfl⟩
  | some parameters =>
      refine .inr ⟨{ parameters with applicationName := some programName }, rfl, rfl, ?_⟩
      simp only [Except.ok.injEq, Parameters.mk.injEq, Option.some.injEq, true_and, and_true]
      rw [← isSome_timeoutOf?]
      cases timeoutOf? url <;> simp

/-- Settings of which only the connection string is not the default. -/
def Sample.ofUrl (url : String) : DatabaseSettings where
  url := some url

/-- A timeout that is given and is not positive is as good as none: `connect_timeout=0` and
`connect_timeout=-1` leave it to the settings. -/
theorem connection_of_timeout_zero :
    (0 ∈ timeouts "host=h connect_timeout=0" ∧
      (Sample.ofUrl "host=h connect_timeout=0").connection ≠
        { Sample.ofUrl "host=h connect_timeout=0" with connectTimeout := 20 }.connection) ∧
    (-1 ∈ timeouts "postgresql://h/?connect_timeout=-1" ∧
      (Sample.ofUrl "postgresql://h/?connect_timeout=-1").connection ≠
        { Sample.ofUrl "postgresql://h/?connect_timeout=-1" with
          connectTimeout := 20 }.connection) := by
  have hne : ∀ {first second : Except Failure Parameters},
      first.toOption ≠ second.toOption → first ≠ second :=
    fun hdiffer hsame => hdiffer (congrArg Except.toOption hsame)
  exact ⟨⟨by decide +kernel, hne (by decide +kernel)⟩, by decide +kernel,
    hne (by decide +kernel)⟩

end HourlyIngest.Connection
