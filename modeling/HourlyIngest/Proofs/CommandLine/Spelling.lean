import HourlyIngest.CommandLine.Parse
import HourlyIngest.Proofs.Association
import HourlyIngest.Proofs.Number.Numeral

/-!
# Options as they are written

An option has a long name, and some have a short one.  A switch is its name alone; any other option
has its value in the next argument, or behind an equals sign in the same one, or right behind the
short name (`Written`).

Reading one written option notes it behind those that were noted before, and leaves the reader where
the option ends (`readLevel_written`).  The reader may then still have a value to look at, so what
counts is what it comes to once that is done (`Reads`).  From this a whole row of options is read,
whatever stands behind it (`readLevel_row`).
-/

namespace HourlyIngest.CommandLine

open Number

/-! ## Spellings -/

/-- The texts of a value: a text that is not empty is its own, and a number has its decimal digits if
64 bits are enough for it. -/
inductive Value.Spelled : Value → String → Prop where
  | text {text : String} : text ≠ "" → Spelled (.text text) text
  | number {text : String} : Digits text.toList → digitsValue text.toList ≤ maxUnsigned64 →
      Spelled (.number (digitsValue text.toList)) text

/-- The names of an option, with their dashes. -/
def Flag.names (flag : Flag) : List String :=
  ("--" ++ flag.long) :: (flag.short?.map fun letter => "-" ++ letter.toString).toList

/-- The arguments that an option with its value is written as. -/
inductive Written : Flag × Value → List String → Prop where
  | switch {flag : Flag} {name : String} :
      flag.argument = .switch → name ∈ flag.names → Written (flag, .on) [name]
  | separate {flag : Flag} {value : Value} {name text : String} :
      flag.argument ≠ .switch → name ∈ flag.names → value.Spelled text →
      text.toList.head? ≠ some '-' → Written (flag, value) [name, text]
  | attached {flag : Flag} {value : Value} {name text : String} :
      flag.argument ≠ .switch → name ∈ flag.names → value.Spelled text →
      Written (flag, value) [name ++ "=" ++ text]
  | joined {flag : Flag} {value : Value} {letter : Char} {text : String} :
      flag.argument ≠ .switch → flag.short? = some letter → value.Spelled text →
      text.toList.head? ≠ some '=' → Written (flag, value) ["-" ++ letter.toString ++ text]

/-- The value is one that an option may have. -/
def Value.Suits : Value → Argument → Prop
  | .on, .switch => True
  | .text _, .text => True
  | .text _, .path => True
  | .number _, .number => True
  | _, _ => False

/-- The option belongs to a level, does more than show a text, and has a value that it may have. -/
structure Admits (level : Level) (given : Flag × Value) : Prop where
  mem : given.1 ∈ level.flags
  ne_help : given.1 ≠ .help
  ne_version : given.1 ≠ .version
  suits : given.2.Suits given.1.argument

/-- The progress comes to some options, once the value of the last one has been looked at. -/
structure Reads (progress : Progress) (options : List (Flag × Value)) : Prop where
  settle : progress.settle = .ok { values := options }
  awaiting : progress.awaiting = false

theorem reads_values (options : List (Flag × Value)) : Reads { values := options } options :=
  ⟨rfl, rfl⟩

variable {level : Level} {flag : Flag} {value : Value} {options : List (Flag × Value)}
  {progress next : Progress} {name argument text : String} {tail : List Char} {rest : List String}

/-! ## Names -/

theorem findLong?_long (hflag : flag ∈ level.flags) : level.findLong? flag.long = some flag := by
  have hall : ∀ flag ∈ level.flags, level.findLong? flag.long = some flag := by
    cases level <;> decide
  exact hall flag hflag

theorem findShort?_of_short? {letter : Char} (hflag : flag ∈ level.flags)
    (hletter : flag.short? = some letter) : level.findShort? letter = some flag := by
  have hall : ∀ flag ∈ level.flags, flag.short?.isSome →
      flag.short?.bind level.findShort? = some flag := by
    cases level <;> decide
  have hfound := hall flag hflag (by rw [hletter]; rfl)
  rwa [hletter] at hfound

/-- What becomes of an option with some text behind its name: nothing, or a value behind an equals
sign. -/
def takeTail (level : Level) (progress : Progress) (flag : Flag) :
    List Char → Except UsageFault Progress
  | [] =>
      if flag.argument = .switch then progress.switch level flag else progress.await flag
  | _ :: value => progress.attach flag (String.ofList value)

/-- Behind the name of an option stands nothing or, if it takes a value, an equals sign. -/
def IsTail (flag : Flag) (tail : List Char) : Prop :=
  tail = [] ∨ flag.argument ≠ .switch ∧ ∃ value, tail = '=' :: value

theorem takeLong_long (hflag : flag ∈ level.flags) (htail : IsTail flag tail) :
    progress.takeLong level (flag.long.toList ++ tail) = takeTail level progress flag tail := by
  have hlong : flag.long.toList.all (· != '=') = true := by cases flag <;> decide
  have hname : (flag.long.toList ++ tail).takeWhile (· != '=') = flag.long.toList := by
    rw [List.takeWhile_append_of_pos (List.all_eq_true.mp hlong)]
    obtain rfl | ⟨-, value, rfl⟩ := htail <;> simp
  simp only [Progress.takeLong, hname, List.drop_left, String.ofList_toList, findLong?_long hflag]
  obtain rfl | ⟨hvalue, value, rfl⟩ := htail
  · cases hkind : flag.argument <;> simp [takeTail, hkind]
  · cases hkind : flag.argument
    · exact absurd hkind hvalue
    all_goals rfl

theorem takeShort_short {letter : Char} (hflag : flag ∈ level.flags)
    (hletter : flag.short? = some letter) (htail : IsTail flag tail) :
    progress.takeShort level (letter :: tail) = takeTail level progress flag tail := by
  rw [Progress.takeShort, findShort?_of_short? hflag hletter]
  obtain rfl | ⟨hvalue, value, rfl⟩ := htail
  · simp only [takeTail]
    split
    · simp only [Progress.takeShort]
      cases Progress.switch level progress flag <;> rfl
    · rfl
  · simp only [if_neg hvalue, takeTail]

/-- A value right behind the short name of its option. -/
theorem takeShort_joined {letter : Char} {letters : List Char} (hflag : flag ∈ level.flags)
    (hletter : flag.short? = some letter) (hkind : flag.argument ≠ .switch)
    (hne : letters ≠ []) (hequals : letters.head? ≠ some '=') :
    progress.takeShort level (letter :: letters) =
      progress.attach flag (String.ofList letters) := by
  rw [Progress.takeShort, findShort?_of_short? hflag hletter]
  dsimp only
  rw [if_neg hkind]
  split
  · exact absurd rfl hne
  · exact absurd rfl hequals
  · rfl

theorem ne_dash_of_short? {letter : Char} (hletter : flag.short? = some letter) :
    letter ≠ '-' := by
  rintro rfl
  revert hletter
  cases flag <;> decide

/-! ## Arguments -/

/-- An argument with a dash in front names no command. -/
theorem commandAt?_of_dash (hdash : argument.toList.head? = some '-') :
    commandAt? level progress argument = none := by
  have hnone : CommandName.find? argument = none := by
    unfold CommandName.find?
    split
    · exact absurd hdash (by decide)
    · exact absurd hdash (by decide)
    · exact absurd hdash (by decide)
    · rfl
  rw [commandAt?, hnone, ite_self]

theorem readLevel_long {letters : List Char} (hargument : argument.toList = '-' :: '-' :: letters)
    (hletters : letters ≠ []) (htake : progress.takeLong level letters = .ok next) :
    readLevel level progress (argument :: rest) = readLevel level next rest := by
  rw [readLevel.eq_def level progress (argument :: rest)]
  dsimp only
  rw [commandAt?_of_dash (by rw [hargument]; rfl), hargument]
  dsimp only
  split
  · next heq => exact absurd (List.cons.inj (List.cons.inj heq).2).2 hletters
  · next heq =>
    obtain rfl := (List.cons.inj (List.cons.inj heq).2).2
    rw [htake]
  · next hdash heq => exact absurd (List.cons.inj (List.cons.inj heq).2).1.symm hdash
  · next hshort => exact (hshort '-' letters rfl).elim

theorem readLevel_short {letter : Char} {letters : List Char}
    (hargument : argument.toList = '-' :: letter :: letters) (hletter : letter ≠ '-')
    (htake : progress.takeShort level (letter :: letters) = .ok next) :
    readLevel level progress (argument :: rest) = readLevel level next rest := by
  rw [readLevel.eq_def level progress (argument :: rest)]
  dsimp only
  rw [commandAt?_of_dash (by rw [hargument]; rfl), hargument]
  dsimp only
  split
  · next heq => exact absurd (List.cons.inj (List.cons.inj heq).2).1 hletter
  · next heq => exact absurd (List.cons.inj (List.cons.inj heq).2).1 hletter
  · next heq =>
    obtain ⟨rfl, rfl⟩ := List.cons.inj (List.cons.inj heq).2
    rw [htake]
  · next hother => exact absurd rfl (hother _ _)

/-- An argument that is waited for is a value, even if it could be a command. -/
theorem readLevel_awaiting (hawaiting : progress.awaiting = true)
    (hdash : argument.toList.head? ≠ some '-') :
    readLevel level progress (argument :: rest) =
      readLevel level (progress.supply argument) rest := by
  have hcommand : commandAt? level progress argument = none := by simp [commandAt?, hawaiting]
  rw [readLevel.eq_def level progress (argument :: rest)]
  dsimp only
  rw [hcommand]
  dsimp only
  split
  · next heq => exact absurd (by rw [heq]; rfl) hdash
  · next heq => exact absurd (by rw [heq]; rfl) hdash
  · next heq => exact absurd (by rw [heq]; rfl) hdash
  · rw [if_pos hawaiting]

/-- An option under one of its names, and what stands in the argument behind the name. -/
theorem readLevel_name (hflag : flag ∈ level.flags) (hname : name ∈ flag.names)
    (htail : IsTail flag tail) (hargument : argument.toList = name.toList ++ tail)
    (htake : takeTail level progress flag tail = .ok next) :
    readLevel level progress (argument :: rest) = readLevel level next rest := by
  rcases List.mem_cons.mp hname with rfl | hshort
  · have hletters : flag.long.toList ++ tail ≠ [] := by
      have hlong : flag.long.toList ≠ [] := by cases flag <;> decide
      simp [hlong]
    refine readLevel_long ?_ hletters ((takeLong_long hflag htail).trans htake)
    rw [hargument, String.toList_append]
    rfl
  · rw [Option.mem_toList, Option.map_eq_some_iff] at hshort
    obtain ⟨letter, hletter, rfl⟩ := hshort
    refine readLevel_short ?_ (ne_dash_of_short? hletter)
      ((takeShort_short hflag hletter htail).trans htake)
    rw [hargument, String.toList_append]
    simp

/-! ## Values -/

/-- An option that was not noted before is noted with its value. -/
theorem accept_of_reads (hnew : flag ∉ options.map Prod.fst)
    (hvalue : Progress.readValue flag text = .ok value) :
    ({ values := options } : Progress).accept flag text =
      .ok { values := options ++ [(flag, value)] } := by
  have hnone : Progress.value? { values := options } flag = none := by
    rw [Progress.value?, find?_eq_none_of_notMem hnew]
    rfl
  rw [Progress.accept, hnone, hvalue]
  rfl

/-- The text of a value is read as the value. -/
theorem readValue_of_spelled (hsuits : value.Suits flag.argument) (htext : value.Spelled text) :
    Progress.readValue flag text = .ok value := by
  cases htext with
  | text hne =>
      unfold Progress.readValue
      cases hkind : flag.argument with
      | switch => simp [hkind, Value.Suits] at hsuits
      | text => rfl
      | path => exact if_neg hne
      | number => simp [hkind, Value.Suits] at hsuits
  | number hdigits hlimit =>
      unfold Progress.readValue
      cases hkind : flag.argument with
      | number => simp only [readUnsigned_of_digits hdigits hlimit]
      | _ => simp [hkind, Value.Suits] at hsuits

theorem Value.Spelled.ne_empty (htext : value.Spelled text) : text ≠ "" := by
  cases htext with
  | text hne => exact hne
  | number hdigits hlimit =>
      rintro rfl
      exact hdigits.ne_nil rfl

theorem switch_of_reads (hreads : Reads progress options) (hkind : flag.argument = .switch)
    (hhelp : flag ≠ .help) (hversion : flag ≠ .version) (hnew : flag ∉ options.map Prod.fst) :
    progress.switch level flag = .ok { values := options ++ [(flag, .on)] } := by
  have hvalue : Progress.readValue flag "" = .ok .on := by rw [Progress.readValue, hkind]
  rw [Progress.switch, hreads.settle]
  dsimp only
  split
  · exact absurd rfl hhelp
  · exact absurd rfl hversion
  · exact accept_of_reads hnew hvalue

theorem attach_of_reads (hreads : Reads progress options) (hnew : flag ∉ options.map Prod.fst)
    (hvalue : Progress.readValue flag text = .ok value) :
    progress.attach flag text = .ok { values := options ++ [(flag, value)] } := by
  rw [Progress.attach, hreads.settle]
  exact accept_of_reads hnew hvalue

/-- The value of an option in the argument behind it is looked at later. -/
theorem reads_pending (hnew : flag ∉ options.map Prod.fst)
    (hvalue : Progress.readValue flag text = .ok value) :
    Reads { values := options, pending := some (flag, some text) }
      (options ++ [(flag, value)]) where
  settle := accept_of_reads hnew hvalue
  awaiting := rfl

/-! ## Written options -/

/-- **A written option is read, in whichever way it is written.** -/
theorem readLevel_written {given : Flag × Value} {arguments : List String}
    (hwritten : Written given arguments) (hadmits : Admits level given)
    (hreads : Reads progress options) (hnew : given.1 ∉ options.map Prod.fst)
    (rest : List String) :
    ∃ next, Reads next (options ++ [given]) ∧
      readLevel level progress (arguments ++ rest) = readLevel level next rest := by
  obtain ⟨hflag, hhelp, hversion, hsuits⟩ := hadmits
  cases hwritten with
  | @switch flag name hkind hname =>
      refine ⟨_, reads_values _, readLevel_name hflag hname (.inl rfl) (by simp) ?_⟩
      rw [takeTail, if_pos hkind, switch_of_reads hreads hkind hhelp hversion hnew]
  | @separate flag value name text hkind hname htext hdash =>
      have hvalue := readValue_of_spelled hsuits htext
      refine ⟨_, reads_pending hnew hvalue, ?_⟩
      have hawait : takeTail level progress flag [] =
          .ok { values := options, pending := some (flag, none), awaiting := true } := by
        rw [takeTail, if_neg hkind, Progress.await, hreads.settle]
      calc
        readLevel level progress ([name, text] ++ rest) =
            readLevel level { values := options, pending := some (flag, none), awaiting := true }
              (text :: rest) := readLevel_name hflag hname (.inl rfl) (by simp) hawait
        _ = _ := readLevel_awaiting rfl hdash
  | @attached flag value name text hkind hname htext =>
      have hvalue := readValue_of_spelled hsuits htext
      refine ⟨_, reads_values _, readLevel_name hflag hname (.inr ⟨hkind, text.toList, rfl⟩) ?_ ?_⟩
      · simp [String.toList_append]
      · rw [takeTail, String.ofList_toList]
        exact attach_of_reads hreads hnew hvalue
  | @joined flag value letter text hkind hletter htext hequals =>
      have hvalue := readValue_of_spelled hsuits htext
      have hne : text.toList ≠ [] := mt String.toList_eq_nil_iff.mp htext.ne_empty
      have hargument : ("-" ++ letter.toString ++ text).toList = '-' :: letter :: text.toList := by
        simp [String.toList_append]
      refine ⟨_, reads_values _, readLevel_short hargument (ne_dash_of_short? hletter) ?_⟩
      rw [takeShort_joined hflag hletter hkind hne hequals, String.ofList_toList]
      exact attach_of_reads hreads hnew hvalue

/-- **A row of written options is read, option by option.** -/
theorem readLevel_row {row : List (Flag × Value)} {parts : List (List String)}
    (hrow : List.Forall₂ Written row parts) (hadmits : ∀ given ∈ row, Admits level given)
    (hreads : Reads progress options) (hnodup : ((options ++ row).map Prod.fst).Nodup)
    (rest : List String) :
    ∃ next, Reads next (options ++ row) ∧
      readLevel level progress (parts.flatten ++ rest) = readLevel level next rest := by
  induction hrow generalizing progress options with
  | nil => exact ⟨progress, by rwa [List.append_nil], rfl⟩
  | @cons given arguments row parts hwritten hrow ih =>
      rw [List.forall_mem_cons] at hadmits
      have hnew : given.1 ∉ options.map Prod.fst := by
        rw [List.map_append, List.map_cons, List.nodup_append] at hnodup
        exact fun hmem => hnodup.2.2 _ hmem _ List.mem_cons_self rfl
      obtain ⟨next, hnext, hread⟩ :=
        readLevel_written hwritten hadmits.1 hreads hnew (parts.flatten ++ rest)
      have hsame : options ++ given :: row = (options ++ [given]) ++ row := by simp
      rw [hsame] at hnodup ⊢
      obtain ⟨last, hlast, hreadRow⟩ := ih hadmits.2 hnext hnodup
      refine ⟨last, hlast, ?_⟩
      rw [List.flatten_cons, List.append_assoc, hread, hreadRow]

end HourlyIngest.CommandLine
