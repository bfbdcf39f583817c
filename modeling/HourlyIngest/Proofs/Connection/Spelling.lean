import HourlyIngest.Connection
import HourlyIngest.Proofs.Connection.Coded
import HourlyIngest.Proofs.Connection.Pairs
import HourlyIngest.Proofs.Connection.Parameters

/-!
# Spellings of one connection

What the single fields of the settings say of a connection can be said in a connection string as
well, of keys and values (`keyValueText`) or in the form of a URI (`UriText`).  All three come to the
same connection (`connection_of_spellings`): quotes and backslashes protect any text in the one
form, and coded bytes do in the other, hosts that are directories among them.
-/

namespace HourlyIngest.Connection

open Number Text

/-! ## The two forms -/

/-- A password with its key, if there is one. -/
def passwordPair : Option String → List Char
  | none => []
  | some password => ' ' :: pairText "password" (quotedValue password.toList)

/-- The single fields as a string of keys and values.  Texts are in quotes. -/
def keyValueText (settings : DatabaseSettings) : String :=
  String.ofList (pairText "host" (quotedValue settings.host.toList) ++
    ' ' :: pairText "port" (digits settings.port) ++
    ' ' :: pairText "user" (quotedValue settings.user.toList) ++
    ' ' :: pairText "dbname" (quotedValue settings.dbname.toList) ++
    passwordPair settings.password)

/-- The texts among the single fields, each of them coded in one of the ways in which it can be. -/
structure UriText (settings : DatabaseSettings) where
  user : List Char
  password : Option (List Char)
  host : List Char
  dbname : List Char
  user_coded : Coded (encode settings.user) user
  password_coded : Option.Rel (fun value text => Coded (encode value) text) settings.password password
  host_coded : Coded (encode settings.host) host
  dbname_coded : Coded (encode settings.dbname) dbname

/-- A password behind its colon, if there is one. -/
def passwordPart : Option (List Char) → List Char
  | none => []
  | some password => ':' :: password

/-- The single fields as a URI. -/
def UriText.text {settings : DatabaseSettings} (uri : UriText settings) : String :=
  String.ofList ("postgresql://".toList ++ (uri.user ++ passwordPart uri.password ++ '@' ::
    (uri.host ++ ':' :: digits settings.port ++ '/' :: uri.dbname)))

/-- The URI in which only what has to be is coded. -/
def UriText.plainest (settings : DatabaseSettings) : UriText settings where
  user := codeBytes (encode settings.user)
  password := settings.password.map fun password => codeBytes (encode password)
  host := codeBytes (encode settings.host)
  dbname := codeBytes (encode settings.dbname)
  user_coded := coded_codeBytes _
  password_coded := by
    cases settings.password with
    | none => exact .none
    | some password => exact .some (coded_codeBytes _)
  host_coded := coded_codeBytes _
  dbname_coded := coded_codeBytes _

/-! ## Keys and values -/

variable {settings : DatabaseSettings}

theorem isBare_of_isDigit {c : Char} (hc : isDigit c = true) : IsBare c := by
  have hbound : 0x30 ≤ c.toNat ∧ c.toNat ≤ 0x39 := by
    unfold isDigit digit? at hc
    split at hc
    · next hrange => exact hrange
    · cases hc
  refine ⟨?_, ?_, ?_⟩
  · simp [isBlank]
    omega
  all_goals
    rintro rfl
    exact absurd hc (by decide)

/-- The pairs of the string of keys and values. -/
def keyValuePairs (settings : DatabaseSettings) : List (String × String) :=
  [("host", settings.host), ("port", String.ofList (digits settings.port)),
    ("user", settings.user), ("dbname", settings.dbname)] ++
    (settings.password.map ("password", ·)).toList

theorem row_passwordPair (password : Option String) :
    Row (password.map ("password", ·)).toList (passwordPair password) := by
  cases password with
  | none => exact .nil
  | some password =>
      have hkey : IsKey "password".toList := by decide +kernel
      have hrow := Row.cons hkey (.quoted : ValueText password.toList _) .nil
      rwa [List.append_nil] at hrow

theorem row_keyValueText (settings : DatabaseSettings) :
    Row (keyValuePairs settings) (' ' :: (keyValueText settings).toList) := by
  have hport : ValueText (String.ofList (digits settings.port)).toList (digits settings.port) := by
    have hdigits := digits_toDigits settings.port
    rw [String.toList_ofList]
    exact .bare hdigits.ne_nil fun c hc => isBare_of_isDigit (hdigits.isDigit c hc)
  have hkeys : IsKey "host".toList ∧ IsKey "port".toList ∧ IsKey "user".toList ∧
      IsKey "dbname".toList := by decide +kernel
  obtain ⟨hhostKey, hportKey, huserKey, hdbnameKey⟩ := hkeys
  rw [keyValueText, String.toList_ofList]
  simp only [List.append_assoc, List.cons_append]
  exact .cons hhostKey .quoted <| .cons hportKey hport <| .cons huserKey .quoted <|
    .cons hdbnameKey .quoted <| row_passwordPair settings.password

theorem afterScheme?_cons_of_ne {c : Char} (hc : c ≠ 'p') (text : List Char) :
    afterScheme? (c :: text) = none := by
  have hfirst : ∀ scheme : List Char, scheme.head? = some 'p' →
      scheme.isPrefixOf (c :: text) = false := by
    intro scheme hscheme
    obtain ⟨tail, rfl⟩ := List.head?_eq_some_iff.mp hscheme
    simp [List.isPrefixOf, Ne.symm hc]
  have hshort : "postgres://".toList.head? = some 'p' := by decide +kernel
  have hlong : "postgresql://".toList.head? = some 'p' := by decide +kernel
  simp only [afterScheme?, List.findSome?_cons, List.findSome?_nil, hfirst _ hshort,
    hfirst _ hlong, Bool.false_eq_true, if_false]

/-- The string of keys and values says what the single fields say. -/
theorem ofString?_keyValueText (hhost : ',' ∉ settings.host.toList)
    (hport : settings.port ≤ maxUnsigned16) :
    ofString? (keyValueText settings) = some (ofFields settings) := by
  have hscheme : afterScheme? (keyValueText settings).toList = none := by
    have hhead : "host".toList = 'h' :: "ost".toList := by decide +kernel
    rw [keyValueText, String.toList_ofList, pairText, hhead]
    exact afterScheme?_cons_of_ne (by decide) _
  have hread := ofKeyValues?_of_row (row_keyValueText settings)
  rw [ofString?, hscheme]
  dsimp only
  rw [hread, keyValuePairs]
  simp only [List.cons_append, List.nil_append, Parameters.setAll?_cons,
    Parameters.set?_host _ hhost, Parameters.set?_port _ hport, Parameters.set?_user,
    Parameters.set?_dbname, Option.bind_some]
  cases hpassword : settings.password with
  | none => simp [Parameters.setAll?, Parameters.addHost, ofFields, hpassword]
  | some password =>
    simp [Parameters.setAll?, Parameters.set?_password, Parameters.addHost, ofFields, hpassword]

/-! ## URIs -/

variable {text rest : List Char} {value : String} {parameters : Parameters}

theorem ne_of_isOrdinary {c d : Char} (hc : isOrdinary c = true) (hd : isOrdinary d = false) :
    c ≠ d := by
  rintro rfl
  rw [hc] at hd
  cases hd

/-- Coded text is not cut at a mark. -/
theorem Coded.not_mark {bytes : Bytes} (hcoded : Coded bytes text) {mark : Char}
    (hmark : isOrdinary mark = false) : ∀ c ∈ text, decide (c = mark) = false := by
  intro c hc
  simpa using ne_of_isOrdinary (hcoded.ordinary c hc) hmark

/-- A text whose first byte is a slash begins with a slash. -/
theorem head?_of_encode (hhead : (encode value).head? = some 0x2F) :
    value.toList.head? = some '/' := by
  unfold encode at hhead
  cases htext : value.toList with
  | nil => simp [htext] at hhead
  | cons c text =>
      have hmem : (0x2F : UInt8) ∈ String.utf8EncodeChar c := by
        obtain ⟨byte, others, hbytes⟩ :=
          List.exists_cons_of_ne_nil (String.utf8EncodeChar_ne_nil (c := c))
        rw [htext, List.flatMap_cons, hbytes, List.cons_append, List.head?_cons] at hhead
        rw [hbytes, Option.some.inj hhead]
        exact List.mem_cons_self
      have hvalue : c.toNat = '/'.toNat := (mem_encodeChar_iff (by decide)).mp hmem
      rw [List.head?_cons, Char.toNat_inj.mp hvalue]

/-- A host is known from its bytes, be it a directory or not. -/
theorem addHost?_of_coded (hcoded : Coded (encode value) text) :
    addHost? parameters text = some (parameters.addHost (Host.ofString value)) := by
  unfold addHost?
  rw [bytesOf_of_coded hcoded]
  dsimp only
  split
  · next hslash => rw [Host.ofString, if_pos (head?_of_encode hslash)]
  · rw [decode?, decode_encode]
    rfl

/-- What stands in front of the at sign. -/
theorem readCredentials?_of_coded {user : String} {password : Option String} {name : List Char}
    {secret : Option (List Char)} (hname : Coded (encode user) name)
    (hsecret : Option.Rel (fun value text => Coded (encode value) text) password secret) :
    readCredentials? {} (name ++ passwordPart secret ++ '@' :: rest) =
      some ({ user := some user, password := password.map encode }, rest) := by
  cases hsecret with
  | none =>
      rw [passwordPart, List.append_nil, readCredentials?,
        cut?_append (hname.not_mark (by decide)) (by decide)]
      dsimp only
      rw [cut_self (hname.not_mark (by decide)), textOf?_of_coded hname]
      rfl
  | @some value text hcoded =>
      have hplain : ∀ c ∈ name ++ ':' :: text, decide (c = '@') = false := by
        rw [List.forall_mem_append, List.forall_mem_cons]
        exact ⟨hname.not_mark (by decide), by decide, hcoded.not_mark (by decide)⟩
      rw [passwordPart, readCredentials?, cut?_append hplain (by decide)]
      dsimp only
      rw [cut_append (hname.not_mark (by decide)) (by decide), textOf?_of_coded hname]
      simp only [Option.map_some, List.isEmpty_cons, Bool.false_eq_true, if_false, List.drop_one,
        List.tail_cons, bytesOf_of_coded hcoded]

/-- A host and its port. -/
theorem splitPort?_of_coded (hcoded : Coded (encode value) text) (port : List Char) :
    splitPort? (text ++ ':' :: port) = some (text, some port) := by
  have hbracket : ∀ inside, text ++ ':' :: port ≠ '[' :: inside := by
    intro inside heq
    cases text with
    | nil => exact absurd (List.cons.inj heq).1 (by decide)
    | cons c text =>
        exact ne_of_isOrdinary (hcoded.ordinary c List.mem_cons_self) (by decide)
          (List.cons.inj heq).1
  rw [splitPort?]
  · rw [cut_append (hcoded.not_mark (by decide)) (by decide)]
    rfl
  · exact hbracket

theorem coded_digits (n : Nat) : Coded (encode (String.ofList (digits n))) (digits n) := by
  have hunreserved : ∀ c ∈ digits n, isUnreserved c = true := by
    intro c hc
    have hdigit : c.isDigit = true := Nat.isDigit_of_mem_toDigits (by decide) (by decide) hc
    simp [isUnreserved, Char.isAlphanum, hdigit]
  have hcoded := coded_self (String.ofList (digits n))
  rw [String.toList_ofList] at hcoded
  exact hcoded hunreserved

/-- One host with its port is all that a URI names. -/
theorem readHosts?_of_coded (hcoded : Coded (encode value) text) {port : Nat}
    (hport : port ≤ maxUnsigned16) :
    readHosts? parameters [text ++ ':' :: digits port] =
      some { parameters.addHost (Host.ofString value) with
        ports := parameters.ports ++ [port] } := by
  simp only [readHosts?, splitPort?_of_coded hcoded, Option.bind_eq_bind, Option.bind_some,
    addHost?_of_coded hcoded, Option.getD_some, textOf?_of_coded (coded_digits port),
    Parameters.set?_port _ hport]
  rfl

theorem readDatabase?_of_coded (hcoded : Coded (encode value) text) (hvalue : value ≠ "") :
    readDatabase? parameters ('/' :: text) = some ({ parameters with dbname := some value }, []) := by
  have hempty : text.isEmpty = false :=
    List.isEmpty_eq_false_iff.mpr (hcoded.ne_nil fun hnil => hvalue (encode_eq_nil_iff.mp hnil))
  rw [readDatabase?, cut_self (hcoded.not_mark (by decide))]
  dsimp only
  rw [hempty, textOf?_of_coded hcoded]
  rfl

theorem afterScheme?_long (text : List Char) :
    afterScheme? ("postgresql://".toList ++ text) = some text := by
  rfl

/-- The parts of a URI in order. -/
theorem ofUri?_of_coded (hport : settings.port ≤ maxUnsigned16) (hdbname : settings.dbname ≠ "")
    (uri : UriText settings) :
    ofUri? (uri.user ++ passwordPart uri.password ++ '@' ::
      (uri.host ++ ':' :: digits settings.port ++ '/' :: uri.dbname)) =
        some (ofFields settings) := by
  -- a host and a port hold no mark but the colon between them
  have hmarks : ∀ c ∈ uri.host ++ ':' :: digits settings.port,
      c = ':' ∨ isOrdinary c = true := by
    rw [List.forall_mem_append, List.forall_mem_cons]
    exact ⟨fun c hc => Or.inr (uri.host_coded.ordinary c hc), Or.inl rfl,
      fun c hc => Or.inr ((coded_digits settings.port).ordinary c hc)⟩
  have hcut : ∀ c ∈ uri.host ++ ':' :: digits settings.port, (c = '/' || c = '?') = false := by
    intro c hc
    rcases hmarks c hc with rfl | hordinary
    · decide
    · simpa using ⟨ne_of_isOrdinary hordinary (by decide), ne_of_isOrdinary hordinary (by decide)⟩
  have hcomma : ',' ∉ uri.host ++ ':' :: digits settings.port := by
    intro hmem
    rcases hmarks ',' hmem with heq | hordinary
    · exact absurd heq (by decide)
    · exact absurd hordinary (by decide)
  have hslash : ('/' = '/' || '/' = '?') = true := by decide
  have hempty : (uri.host ++ ':' :: digits settings.port).isEmpty = false := by simp
  simp only [ofUri?, readCredentials?_of_coded uri.user_coded uri.password_coded,
    Option.bind_eq_bind, Option.bind_some, cut_append hcut hslash, hempty, Bool.false_eq_true,
    if_false, splitCommas_of_notMem hcomma, readHosts?_of_coded uri.host_coded hport,
    readDatabase?_of_coded uri.dbname_coded hdbname]
  rfl

/-- The URI says what the single fields say. -/
theorem ofString?_uriText (hport : settings.port ≤ maxUnsigned16) (hdbname : settings.dbname ≠ "")
    (uri : UriText settings) : ofString? uri.text = some (ofFields settings) := by
  have htext : uri.text.toList = "postgresql://".toList ++ (uri.user ++ passwordPart uri.password ++
      '@' :: (uri.host ++ ':' :: digits settings.port ++ '/' :: uri.dbname)) := String.toList_ofList
  rw [ofString?, htext, afterScheme?_long]
  exact ofUri?_of_coded hport hdbname uri

/-! ## Three spellings -/

/-- **A connection is the same in all three spellings**, whatever the single fields of settings hold
that have a connection string. -/
theorem connection_of_spellings (hhost : ',' ∉ settings.host.toList)
    (hport : settings.port ≤ maxUnsigned16) (hdbname : settings.dbname ≠ "")
    (uri : UriText settings) (others : DatabaseSettings)
    (htimeout : others.connectTimeout = settings.connectTimeout) :
    let connection : Except Failure Parameters := .ok {
      hosts := [Host.ofString settings.host]
      ports := [settings.port]
      user := some settings.user
      dbname := some settings.dbname
      password := settings.password.map encode
      connectTimeout := some settings.connectTimeout
      applicationName := some programName }
    { settings with url := none }.connection = connection ∧
      { others with url := some (keyValueText settings) }.connection = connection ∧
      { others with url := some uri.text }.connection = connection := by
  intro connection
  have hcomplete : ∀ own : DatabaseSettings, own.connectTimeout = settings.connectTimeout →
      Except.ok (complete own (ofFields settings)) = connection := by
    intro own hown
    rw [complete, hown]
    rfl
  refine ⟨hcomplete _ rfl, ?_, ?_⟩
  · rw [DatabaseSettings.connection]
    dsimp only
    rw [ofString?_keyValueText hhost hport]
    exact hcomplete _ htimeout
  · rw [DatabaseSettings.connection]
    dsimp only
    rw [ofString?_uriText hport hdbname uri]
    exact hcomplete _ htimeout

/-- A directory with a blank in its name as the host, and a password full of marks. -/
def Sample.directory : DatabaseSettings where
  host := "/run/my pg"
  port := 6543
  user := "ann@x"
  password := some "it's \\ 7%/é"
  dbname := "a=b"
  connectTimeout := 5

/-- The two strings are what they are meant to be, and come to the connection of the single fields in
settings that have others. -/
theorem connection_of_spellings_sample :
    let settings := Sample.directory
    let uri := UriText.plainest settings
    let others : DatabaseSettings := { port := 1, connectTimeout := 5 }
    let connection : Except Failure Parameters := .ok {
      hosts := [.unix (encode "/run/my pg")]
      ports := [6543]
      user := some "ann@x"
      dbname := some "a=b"
      password := some (encode "it's \\ 7%/é")
      connectTimeout := some 5
      applicationName := some programName }
    ',' ∉ settings.host.toList ∧ settings.port ≤ maxUnsigned16 ∧ settings.dbname ≠ "" ∧
      others.connectTimeout = settings.connectTimeout ∧
      keyValueText settings = "host='/run/my pg' port=6543 user='ann@x' dbname='a=b' " ++
        "password='it\\'s \\\\ 7%/é'" ∧
      uri.text =
        "postgresql://ann%40x:it%27s%20%5C%207%25%2F%C3%A9@%2Frun%2Fmy%20pg:6543/a%3Db" ∧
      { settings with url := none }.connection = connection ∧
      { others with url := some (keyValueText settings) }.connection = connection ∧
      { others with url := some uri.text }.connection = connection := by
  intro settings uri others connection
  have hhost : ',' ∉ settings.host.toList := by decide +kernel
  have hport : settings.port ≤ maxUnsigned16 := by decide
  have hdbname : settings.dbname ≠ "" := by decide
  have htimeout : others.connectTimeout = settings.connectTimeout := rfl
  refine ⟨hhost, hport, hdbname, htimeout, by decide +kernel, by decide +kernel, ?_⟩
  have hdirectory : Host.ofString settings.host = .unix (encode "/run/my pg") := by decide +kernel
  have hspellings := connection_of_spellings hhost hport hdbname uri others htimeout
  rw [hdirectory] at hspellings
  exact hspellings

end HourlyIngest.Connection
