import HourlyIngest.Proofs.Json.Scalar

/-!
# Values read back

A value that is written over several lines is read as the same value (`parse?_pretty`), if it is one
that the reader keeps exactly: its numbers are whole ones of 64 bits, no object has two members of
one name, and it is not nested too deep (`Exact`).

The reader is told how deep it may go and how many steps it may take.  The depth goes down where the
value itself goes down, so the induction is on `Exact`, which counts it.  The steps are bounded by
twice the length of the text: every step of the reader but the one that comes down to an element
takes a character.
-/

namespace HourlyIngest.Json

variable {depth level fuel : Nat} {value : Json} {text rest : List Char} {c : Char}

/-! ## Blanks -/

theorem skipGap_cons (hc : isGap c = false) : skipGap (c :: rest) = c :: rest := by
  rw [skipGap, List.dropWhile_cons_of_neg (Bool.not_eq_true _ ▸ hc)]

/-- A line break and the indentation are skipped. -/
theorem skipGap_newLine (level : Nat) (text : List Char) :
    skipGap (newLine level ++ text) = skipGap text := by
  have hblank : ∀ c ∈ newLine level, isGap c = true := by
    intro c hc
    obtain rfl | hc := List.mem_cons.mp hc
    · rfl
    · rw [List.eq_of_mem_replicate hc]
      rfl
  exact List.dropWhile_append_of_pos hblank

theorem endsNumber_cons (hc : isGap c = true ∨ c = ',') : EndsNumber (c :: rest) := by
  rintro _ ⟨⟩
  simp only [isGap, Bool.or_eq_true, beq_iff_eq, or_assoc] at hc
  obtain rfl | rfl | rfl | rfl | rfl := hc
  all_goals decide

theorem endsNumber_newLine (level : Nat) (text : List Char) :
    EndsNumber (newLine level ++ text) :=
  endsNumber_cons (.inl rfl)

/-! ## Members -/

/-- Members of different names all stay. -/
theorem lastMembers_of_nodup {members : List (String × Json)}
    (hnodup : (members.map Prod.fst).Nodup) : lastMembers members = members := by
  induction members with
  | nil => rfl
  | cons member members ih =>
      obtain ⟨hfresh, hnodup⟩ := List.nodup_cons.mp hnodup
      have hnone : ¬ members.any (·.1 == member.1) = true := by
        intro hany
        obtain ⟨other, hother, hname⟩ := List.any_eq_true.mp hany
        exact hfresh (List.mem_map.mpr ⟨other, hother, beq_iff_eq.mp hname⟩)
      rw [lastMembers, List.foldr_cons, ← lastMembers, ih hnodup, if_neg hnone]

/-! ## Values -/

/-- Values that can be read back, nested at most so deep. -/
inductive Exact : Nat → Json → Prop where
  | null {depth : Nat} : Exact depth null
  | boolean {depth : Nat} (b : Bool) : Exact depth (boolean b)
  | integer {depth : Nat} {n : Int} : IsWhole64 n → Exact depth (integer n)
  | string {depth : Nat} (text : String) : Exact depth (string text)
  | array {depth : Nat} {elements : List Json} :
      (∀ element ∈ elements, Exact depth element) → Exact (depth + 1) (array elements)
  | object {depth : Nat} {members : List (String × Json)} : (members.map Prod.fst).Nodup →
      (∀ member ∈ members, Exact depth member.2) → Exact (depth + 1) (object members)

/-- At every level the reader takes the text of the value for the value, and stops behind it. -/
def ReadsBack (depth : Nat) (value : Json) : Prop :=
  ∀ level rest fuel, EndsNumber rest → 2 * (writePretty level value).length ≤ fuel →
    readValue? depth (writePretty level value ++ rest) fuel = some (value, rest)

/-- The text begins with a character that is neither a blank nor a closing bracket. -/
def BeginsValue (text : List Char) : Prop :=
  ∃ c rest, text = c :: rest ∧ isGap c = false ∧ c ≠ ']'

theorem BeginsValue.append (hbegins : BeginsValue text) (rest : List Char) :
    BeginsValue (text ++ rest) := by
  obtain ⟨c, tail, rfl, hc⟩ := hbegins
  exact ⟨c, tail ++ rest, rfl, hc⟩

theorem BeginsValue.skipGap_eq (hbegins : BeginsValue text) : skipGap text = text := by
  obtain ⟨c, rest, rfl, hgap, -⟩ := hbegins
  exact skipGap_cons hgap

/-- A number begins with a minus sign or a digit. -/
theorem writeInteger_eq_cons (n : Int) :
    ∃ c tail, writeInteger n = c :: tail ∧ (c = '-' ∨ Number.isDigit c = true) := by
  have hdigits := Number.digits_toDigits n.natAbs
  unfold writeInteger
  split
  · exact ⟨_, _, rfl, .inl rfl⟩
  · obtain ⟨c, tail, htext⟩ := List.exists_cons_of_ne_nil hdigits.ne_nil
    exact ⟨c, tail, htext, .inr (hdigits.isDigit c (htext ▸ List.mem_cons_self))⟩

/-- What begins like a number is no other value and no blank. -/
theorem ne_of_numeral (hc : c = '-' ∨ Number.isDigit c = true) :
    isGap c = false ∧ c ≠ ']' ∧ c ≠ 'n' ∧ c ≠ 't' ∧ c ≠ 'f' ∧ c ≠ '"' ∧ c ≠ '[' ∧ c ≠ '\x7b' := by
  refine ⟨?_, ?_, ?_, ?_, ?_, ?_, ?_, ?_⟩
  · by_contra hgap
    simp only [Bool.not_eq_false, isGap, Bool.or_eq_true, beq_iff_eq, or_assoc] at hgap
    obtain rfl | rfl | rfl | rfl := hgap
    all_goals exact absurd hc (by decide)
  all_goals
    rintro rfl
    exact absurd hc (by decide)

theorem beginsValue_writePretty (hvalue : Exact depth value) (level : Nat) :
    BeginsValue (writePretty level value) := by
  cases hvalue with
  | null => exact ⟨_, _, rfl, rfl, by decide⟩
  | boolean b => cases b <;> exact ⟨_, _, rfl, rfl, by decide⟩
  | @integer _ n _ =>
      obtain ⟨c, tail, htext, hc⟩ := writeInteger_eq_cons n
      obtain ⟨hgap, hbracket, -⟩ := ne_of_numeral hc
      exact ⟨c, tail, htext, hgap, hbracket⟩
  | string text => exact ⟨_, _, rfl, rfl, by decide⟩
  | @array _ elements _ => cases elements <;> exact ⟨_, _, rfl, rfl, by decide⟩
  | @object _ members _ _ => cases members <;> exact ⟨_, _, rfl, rfl, by decide⟩

/-- A value is written with at least one character, so there is a step to take. -/
theorem readsBack_of_step (hvalue : Exact depth value)
    (hstep : ∀ level rest fuel, EndsNumber rest → 2 * (writePretty level value).length ≤ fuel + 1 →
      readValue? depth (writePretty level value ++ rest) (fuel + 1) = some (value, rest)) :
    ReadsBack depth value := by
  intro level rest fuel hrest hfuel
  obtain ⟨c, tail, htext, -⟩ := beginsValue_writePretty hvalue level
  have hlength : 0 < (writePretty level value).length := by
    rw [htext]
    exact Nat.zero_lt_succ _
  obtain ⟨fuel, rfl⟩ := Nat.exists_eq_add_one.mpr (show 0 < fuel by omega)
  exact hstep level rest fuel hrest hfuel

theorem readValue?_writeInteger {n : Int} (hn : IsWhole64 n) (hrest : EndsNumber rest) :
    readValue? depth (writeInteger n ++ rest) (fuel + 1) = some (integer n, rest) := by
  obtain ⟨c, tail, htext, hc⟩ := writeInteger_eq_cons n
  obtain ⟨-, -, hnull, htrue, hfalse, hquote, harray, hobject⟩ := ne_of_numeral hc
  have hread := readNumber?_writeInteger hn hrest
  rw [htext, List.cons_append] at hread ⊢
  rw [readValue?, hread]
  all_goals
    rintro _ heq
    exact absurd (List.cons.inj heq).1 (by assumption)

theorem skipGap_line (hbegins : BeginsValue text) (level : Nat) (rest : List Char) :
    skipGap (newLine level ++ (text ++ rest)) = text ++ rest := by
  rw [skipGap_newLine, (hbegins.append rest).skipGap_eq]

/-! ## Elements and members -/

section Steps

variable {after finish : List Char} {elements : List Json} {members : List (String × Json)}
  {name : String}

theorem readElements?_last (hvalue : readValue? depth text fuel = some (value, rest))
    (hclose : skipGap rest = ']' :: after) :
    readElements? depth text (fuel + 1) = some ([value], after) := by
  rw [readElements?, hvalue]
  simp only [hclose]

theorem readElements?_more (hvalue : readValue? depth text fuel = some (value, rest))
    (hcomma : skipGap rest = ',' :: after)
    (hmore : readElements? depth (skipGap after) fuel = some (elements, finish)) :
    readElements? depth text (fuel + 1) = some (value :: elements, finish) := by
  rw [readElements?, hvalue]
  simp only [hcomma, hmore, Option.map_some]

theorem readMembers?_last (hbegins : BeginsValue text)
    (hvalue : readValue? depth text fuel = some (value, rest))
    (hclose : skipGap rest = '\x7d' :: after) :
    readMembers? depth (writeString name ++ ':' :: ' ' :: text) (fuel + 1) =
      some ([(name, value)], after) := by
  obtain ⟨body, hwrite, hread⟩ := readString?_writeString name (':' :: ' ' :: text)
  have hblank : skipGap (' ' :: text) = text := hbegins.skipGap_eq
  rw [hwrite, readMembers?, hread]
  dsimp only
  rw [skipGap_cons rfl]
  simp only [hblank, hvalue, hclose, String.ofList_toList]

theorem readMembers?_more (hbegins : BeginsValue text)
    (hvalue : readValue? depth text fuel = some (value, rest))
    (hcomma : skipGap rest = ',' :: after)
    (hmore : readMembers? depth (skipGap after) fuel = some (members, finish)) :
    readMembers? depth (writeString name ++ ':' :: ' ' :: text) (fuel + 1) =
      some ((name, value) :: members, finish) := by
  obtain ⟨body, hwrite, hread⟩ := readString?_writeString name (':' :: ' ' :: text)
  have hblank : skipGap (' ' :: text) = text := hbegins.skipGap_eq
  rw [hwrite, readMembers?, hread]
  dsimp only
  rw [skipGap_cons rfl]
  simp only [hblank, hvalue, hcomma, hmore, Option.map_some, String.ofList_toList]

end Steps

/-- The elements of an array are read, if each of them is. -/
theorem readElements?_writePrettyElements {elements : List Json} (hne : elements ≠ [])
    (hread : ∀ element ∈ elements, Exact depth element ∧ ReadsBack depth element)
    (hfuel : 2 * (writePrettyElements level elements).length ≤ fuel) :
    readElements? depth (skipGap (writePrettyElements level elements ++ rest)) fuel =
      some (elements, rest) := by
  induction elements generalizing fuel with
  | nil => exact absurd rfl hne
  | cons element others ih =>
      rw [List.forall_mem_cons] at hread
      obtain ⟨⟨hexact, hback⟩, hothers⟩ := hread
      have hbegins := beginsValue_writePretty hexact (level + 1)
      cases others with
      | nil =>
          simp only [writePrettyElements, List.length_append, newLine, List.length_cons] at hfuel
          obtain ⟨fuel, rfl⟩ := Nat.exists_eq_add_one.mpr (show 0 < fuel by omega)
          simp only [writePrettyElements, List.append_assoc]
          rw [skipGap_line hbegins]
          apply readElements?_last
          · exact hback _ _ _ (endsNumber_newLine _ _) (by omega)
          · rw [skipGap_newLine, List.singleton_append, skipGap_cons rfl]
      | cons next others =>
          simp only [writePrettyElements, List.length_append, newLine, List.length_cons] at hfuel
          obtain ⟨fuel, rfl⟩ := Nat.exists_eq_add_one.mpr (show 0 < fuel by omega)
          rw [writePrettyElements, List.append_assoc, List.append_assoc, List.cons_append,
            skipGap_line hbegins]
          apply readElements?_more
          · exact hback _ _ _ (endsNumber_cons (.inr rfl)) (by omega)
          · exact skipGap_cons rfl
          · exact ih (List.cons_ne_nil next others) hothers (by omega)

theorem skipGap_writeString (name : String) (rest : List Char) :
    skipGap (writeString name ++ rest) = writeString name ++ rest :=
  skipGap_cons rfl

/-- The members of an object are read, if the value of each of them is. -/
theorem readMembers?_writePrettyMembers {members : List (String × Json)} (hne : members ≠ [])
    (hread : ∀ member ∈ members, Exact depth member.2 ∧ ReadsBack depth member.2)
    (hfuel : 2 * (writePrettyMembers level members).length ≤ fuel) :
    readMembers? depth (skipGap (writePrettyMembers level members ++ rest)) fuel =
      some (members, rest) := by
  induction members generalizing fuel with
  | nil => exact absurd rfl hne
  | cons member others ih =>
      obtain ⟨name, value⟩ := member
      rw [List.forall_mem_cons] at hread
      obtain ⟨⟨hexact, hback⟩, hothers⟩ : (Exact depth value ∧ ReadsBack depth value) ∧ _ := hread
      have hbegins := beginsValue_writePretty hexact (level + 1)
      cases others with
      | nil =>
          simp only [writePrettyMembers, List.length_append, newLine, List.length_cons] at hfuel
          obtain ⟨fuel, rfl⟩ := Nat.exists_eq_add_one.mpr (show 0 < fuel by omega)
          simp only [writePrettyMembers, List.append_assoc, List.cons_append]
          rw [skipGap_newLine, skipGap_writeString]
          apply readMembers?_last (hbegins.append _)
          · exact hback _ _ _ (endsNumber_newLine _ _) (by omega)
          · rw [skipGap_newLine, skipGap_cons rfl, List.nil_append]
      | cons next others =>
          simp only [writePrettyMembers, List.length_append, newLine, List.length_cons] at hfuel
          obtain ⟨fuel, rfl⟩ := Nat.exists_eq_add_one.mpr (show 0 < fuel by omega)
          rw [writePrettyMembers]
          simp only [List.append_assoc, List.cons_append]
          rw [skipGap_newLine, skipGap_writeString]
          apply readMembers?_more (hbegins.append _)
          · exact hback _ _ _ (endsNumber_cons (.inr rfl)) (by omega)
          · exact skipGap_cons rfl
          · exact ih (List.cons_ne_nil next others) hothers (by omega)

/-! ## Whole values -/

theorem readValue?_writeString (text : String) (rest : List Char) :
    readValue? depth (writeString text ++ rest) (fuel + 1) = some (string text, rest) := by
  obtain ⟨body, hwrite, hread⟩ := readString?_writeString text rest
  rw [hwrite, readValue?, hread, Option.map_some, String.ofList_toList]

theorem readValue?_array {elements : List Json}
    (hread : ∀ element ∈ elements, Exact depth element ∧ ReadsBack depth element)
    (hfuel : 2 * (writePretty level (array elements)).length ≤ fuel + 1) :
    readValue? (depth + 1) (writePretty level (array elements) ++ rest) (fuel + 1) =
      some (array elements, rest) := by
  cases elements with
  | nil => rfl
  | cons first others =>
      have hwrite : writePretty level (array (first :: others)) =
          '[' :: writePrettyElements level (first :: others) := by rw [writePretty]
      rw [hwrite, List.length_cons] at hfuel
      have helements := @readElements?_writePrettyElements _ level fuel rest _
        (List.cons_ne_nil first others) hread (by omega)
      -- the first element does not look like the closing bracket
      have hbegins : BeginsValue
          (skipGap (writePrettyElements level (first :: others) ++ rest)) := by
        have hfirst := beginsValue_writePretty (hread first List.mem_cons_self).1 (level + 1)
        cases others
        all_goals
          simp only [writePrettyElements, List.append_assoc]
          rw [skipGap_line hfirst]
          exact hfirst.append _
      obtain ⟨c, tail, hhead, -, hbracket⟩ := hbegins
      rw [hwrite, List.cons_append, readValue?]
      split
      · next heq => exact absurd (List.cons.inj (hhead.symm.trans heq)).1 hbracket
      · rw [helements, Option.map_some]

theorem readValue?_object {members : List (String × Json)}
    (hnodup : (members.map Prod.fst).Nodup)
    (hread : ∀ member ∈ members, Exact depth member.2 ∧ ReadsBack depth member.2)
    (hfuel : 2 * (writePretty level (object members)).length ≤ fuel + 1) :
    readValue? (depth + 1) (writePretty level (object members) ++ rest) (fuel + 1) =
      some (object members, rest) := by
  cases members with
  | nil => rfl
  | cons first others =>
      have hwrite : writePretty level (object (first :: others)) =
          '\x7b' :: writePrettyMembers level (first :: others) := by rw [writePretty]
      rw [hwrite, List.length_cons] at hfuel
      have hmembers := @readMembers?_writePrettyMembers _ level fuel rest _
        (List.cons_ne_nil first others) hread (by omega)
      have hquote : ∃ tail, skipGap (writePrettyMembers level (first :: others) ++ rest) =
          '"' :: tail := by
        obtain ⟨name, value⟩ := first
        cases others
        all_goals
          simp only [writePrettyMembers, List.append_assoc]
          rw [skipGap_newLine, skipGap_writeString]
          exact ⟨_, rfl⟩
      obtain ⟨tail, hhead⟩ := hquote
      rw [hwrite, List.cons_append, readValue?]
      split
      · next heq => exact absurd (List.cons.inj (hhead.symm.trans heq)).1 (by decide)
      · rw [hmembers, Option.map_some, ofMembers, lastMembers_of_nodup hnodup]

theorem readsBack_of_exact (hvalue : Exact depth value) : ReadsBack depth value := by
  induction hvalue with
  | null => exact readsBack_of_step .null fun _ _ _ _ _ => rfl
  | boolean b =>
      apply readsBack_of_step (.boolean b)
      intro level rest fuel _ _
      cases b <;> rfl
  | integer hn =>
      apply readsBack_of_step (.integer hn)
      intro level rest fuel hrest _
      exact readValue?_writeInteger hn hrest
  | string text =>
      apply readsBack_of_step (.string text)
      intro level rest fuel _ _
      exact readValue?_writeString text rest
  | array hexact ih =>
      apply readsBack_of_step (.array hexact)
      intro level rest fuel _ hfuel
      exact readValue?_array
        (fun element helement => ⟨hexact element helement, ih element helement⟩) hfuel
  | object hnodup hexact ih =>
      apply readsBack_of_step (.object hnodup hexact)
      intro level rest fuel _ hfuel
      exact readValue?_object hnodup
        (fun member hmember => ⟨hexact member hmember, ih member hmember⟩) hfuel

/-- **The text of a value is read as that value.** -/
theorem parse?_pretty (hvalue : Exact maxDepth value) : parse? value.pretty = some value := by
  have hbegins := beginsValue_writePretty hvalue 0
  have hread := readsBack_of_exact hvalue 0 [] (2 * (writePretty 0 value).length + 2)
    (by simp [EndsNumber]) (Nat.le_add_right _ 2)
  rw [List.append_nil] at hread
  rw [parse?, pretty, String.toList_ofList, hbegins.skipGap_eq, hread]
  rfl

end HourlyIngest.Json
