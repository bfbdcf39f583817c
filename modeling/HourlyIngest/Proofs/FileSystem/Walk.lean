import HourlyIngest.Proofs.FileSystem.Removal

/-!
# Where a path leads

`Walks` says in rules what a successful walk is, and `walk_eq_ok_iff` says that the walk along a
path succeeds exactly as the rules allow.  Three facts follow by induction on the rules: a walk does
not notice that a regular file has gone, since no walk passes through one (`Walks.erase`); a walk to
a directory can be prolonged, and what comes of it is decided in the directory
(`Walks.walk_append`); and a slash behind the name of a directory changes nothing (`Walks.trim`).
-/

namespace HourlyIngest.FileSystem

open Text

/-! ## The rules of walking -/

/-- A name that leads from a directory to what stands below it. -/
structure Plain (name : Bytes) : Prop where
  not_silent : Path.isSilent name = false
  ne_dotDot : name ≠ Path.dotDot
  length_le : name.length ≤ maxName

section Rules

variable (fs : FileSystem) (purpose : Purpose)

/-- The last name may be wanted for a file only if it can be a file's. -/
def Allowed (name : Bytes) (rest : List Bytes) : Prop :=
  purpose = .file → meansDirectory name rest = false

/-- With so many links still allowed, the walk from a place along names ends at the last place. -/
inductive Walks : Nat → Location → List Bytes → Location → Prop
  | done {links : Nat} {place : Location} : Walks links place [] place
  | silent {links : Nat} {here place : Location} {name : Bytes} {rest : List Bytes}
      (hhere : fs.node? here = some .directory) (hallowed : Allowed purpose name rest)
      (hname : Path.isSilent name = true) (hrest : Walks links here rest place) :
      Walks links here (name :: rest) place
  | up {links : Nat} {here place : Location} {rest : List Bytes}
      (hhere : fs.node? here = some .directory) (hallowed : Allowed purpose Path.dotDot rest)
      (hrest : Walks links here.dropLast rest place) :
      Walks links here (Path.dotDot :: rest) place
  | down {links : Nat} {here place : Location} {name : Bytes} {rest : List Bytes}
      (hhere : fs.node? here = some .directory) (hallowed : Allowed purpose name rest)
      (hname : Plain name) (hnode : ∀ target, fs.node? (here ++ [name]) ≠ some (.link target))
      (hrest : Walks links (here ++ [name]) rest place) :
      Walks links here (name :: rest) place
  | stop {links : Nat} {here : Location} {name : Bytes} {target : Path}
      (hhere : fs.node? here = some .directory) (hname : Plain name)
      (hnode : fs.node? (here ++ [name]) = some (.link target)) (hpurpose : purpose = .entry) :
      Walks links here [name] (here ++ [name])
  | follow {links : Nat} {here place : Location} {name : Bytes} {rest : List Bytes} {target : Path}
      (hhere : fs.node? here = some .directory) (hallowed : Allowed purpose name rest)
      (hname : Plain name) (hnode : fs.node? (here ++ [name]) = some (.link target))
      (hpurpose : rest = [] → purpose ≠ .entry)
      (hrest : Walks links (if Path.isAbsolute target then [] else here)
        (Path.segments target ++ rest) place) :
      Walks (links + 1) here (name :: rest) place

end Rules

variable {fs : FileSystem} {purpose : Purpose} {links : Nat} {here place : Location}
  {names : List Bytes}

theorem plain_iff {name : Bytes} :
    Plain name ↔ Path.isSilent name = false ∧ name ≠ Path.dotDot ∧ ¬ maxName < name.length :=
  ⟨fun h => ⟨h.1, h.2, Nat.not_lt.mpr h.3⟩, fun h => ⟨h.1, h.2.1, Nat.not_lt.mp h.2.2⟩⟩

/-! ## The rules describe the walk -/

theorem Allowed.not_refused {name : Bytes} {rest : List Bytes}
    (hallowed : Allowed purpose name rest) :
    ¬ (decide (purpose = .file) && meansDirectory name rest) = true := by
  simpa [Allowed] using hallowed

theorem walk_nil : fs.walk purpose links here [] = .ok here := by
  cases links <;> rfl

theorem walk_cons (name : Bytes) (rest : List Bytes) :
    fs.walk purpose links here (name :: rest) =
      match fs.node? here with
      | none => .error .notFound
      | some .directory =>
          if purpose = .file && meansDirectory name rest then .error .isDirectory
          else if Path.isSilent name then fs.walk purpose links here rest
          else if name = Path.dotDot then fs.walk purpose links here.dropLast rest
          else if maxName < name.length then .error .nameTooLong
          else
            match fs.node? (here ++ [name]) with
            | some (.link target) =>
                if rest.isEmpty && purpose = .entry then .ok (here ++ [name])
                else
                  match links with
                  | 0 => .error .tooManyLinks
                  | fewer + 1 =>
                      fs.walk purpose fewer (if Path.isAbsolute target then [] else here)
                        (Path.segments target ++ rest)
            | _ => fs.walk purpose links (here ++ [name]) rest
      | some _ => .error .notDirectory := by
  cases links <;> rfl

section Step

variable {name : Bytes} {rest : List Bytes} (hhere : fs.node? here = some .directory)
  (hallowed : Allowed purpose name rest)

include hhere hallowed

theorem walk_silent (hname : Path.isSilent name = true) :
    fs.walk purpose links here (name :: rest) = fs.walk purpose links here rest := by
  rw [walk_cons, hhere]
  simp only [if_neg hallowed.not_refused, hname, if_true]

theorem walk_dotDot (hname : name = Path.dotDot) :
    fs.walk purpose links here (name :: rest) = fs.walk purpose links here.dropLast rest := by
  have hloud : Path.isSilent name = false := by
    rw [hname]
    decide
  rw [walk_cons, hhere]
  simp only [if_neg hallowed.not_refused, hloud, Bool.false_eq_true, if_false, if_pos hname]

theorem walk_down (hname : Plain name)
    (hnode : ∀ target, fs.node? (here ++ [name]) ≠ some (.link target)) :
    fs.walk purpose links here (name :: rest) = fs.walk purpose links (here ++ [name]) rest := by
  obtain ⟨hloud, hdots, hlength⟩ := plain_iff.mp hname
  rw [walk_cons, hhere]
  simp only [if_neg hallowed.not_refused, hloud, Bool.false_eq_true, if_false, if_neg hdots,
    if_neg hlength]

theorem walk_follow (hname : Plain name) {target : Path}
    (hnode : fs.node? (here ++ [name]) = some (.link target))
    (hpurpose : rest = [] → purpose ≠ .entry) :
    fs.walk purpose (links + 1) here (name :: rest) =
      fs.walk purpose links (if Path.isAbsolute target then [] else here)
        (Path.segments target ++ rest) := by
  have hgo : ¬ (rest.isEmpty && decide (purpose = .entry)) = true := by
    simpa using hpurpose
  obtain ⟨hloud, hdots, hlength⟩ := plain_iff.mp hname
  rw [walk_cons, hhere]
  simp only [if_neg hallowed.not_refused, hloud, Bool.false_eq_true, if_false, if_neg hdots,
    if_neg hlength, hnode, if_neg hgo]

end Step

theorem walk_stop {name : Bytes} {target : Path} (hhere : fs.node? here = some .directory)
    (hname : Plain name) (hnode : fs.node? (here ++ [name]) = some (.link target)) :
    fs.walk .entry links here [name] = .ok (here ++ [name]) := by
  obtain ⟨hloud, hdots, hlength⟩ := plain_iff.mp hname
  rw [walk_cons, hhere]
  simp [hloud, hdots, Nat.not_lt.mp hlength, hnode]

theorem walks_of_walk (hwalk : fs.walk purpose links here names = .ok place) :
    Walks fs purpose links here names place := by
  -- a link uses up one of the links and may bring any number of names, everything else a name
  induction links using Nat.strongRecOn generalizing here names with
  | ind links ihLinks =>
      induction names generalizing here with
      | nil =>
          rw [walk_nil] at hwalk
          cases hwalk
          exact .done
      | cons name rest ih =>
          rw [walk_cons] at hwalk
          split at hwalk
          · simp at hwalk
          · next hhere =>
            split at hwalk
            · simp at hwalk
            next hfile =>
            have hallowed : Allowed purpose name rest := by
              intro hpurpose
              simpa [hpurpose] using hfile
            split at hwalk
            · next hsilent => exact .silent hhere hallowed hsilent (ih hwalk)
            next hsilent =>
            split at hwalk
            · next hdots =>
              subst hdots
              exact .up hhere hallowed (ih hwalk)
            next hdots =>
            split at hwalk
            · simp at hwalk
            next hlength =>
            have hname : Plain name := plain_iff.mpr ⟨by simpa using hsilent, hdots, hlength⟩
            split at hwalk
            · next target hnode =>
              split at hwalk
              · next hstop =>
                simp only [Bool.and_eq_true, List.isEmpty_iff, decide_eq_true_eq] at hstop
                obtain ⟨rfl, hpurpose⟩ := hstop
                cases hwalk
                exact .stop hhere hname hnode hpurpose
              · next hstop =>
                have hgo : rest = [] → purpose ≠ .entry := by
                  intro hrest hpurpose
                  exact hstop (by simp [hrest, hpurpose])
                cases links with
                | zero => simp at hwalk
                | succ fewer =>
                    exact .follow hhere hallowed hname hnode hgo
                      (ihLinks fewer (Nat.lt_succ_self fewer) hwalk)
            · next hnode => exact .down hhere hallowed hname hnode (ih hwalk)
          · simp at hwalk

theorem Walks.walk_eq (hwalks : Walks fs purpose links here names place) :
    fs.walk purpose links here names = .ok place := by
  induction hwalks with
  | done => exact walk_nil
  | silent hhere hallowed hname _ ih => rw [walk_silent hhere hallowed hname, ih]
  | up hhere hallowed _ ih => rw [walk_dotDot hhere hallowed rfl, ih]
  | down hhere hallowed hname hnode _ ih => rw [walk_down hhere hallowed hname hnode, ih]
  | stop hhere hname hnode hpurpose => rw [hpurpose, walk_stop hhere hname hnode]
  | follow hhere hallowed hname hnode hpurpose _ ih =>
      rw [walk_follow hhere hallowed hname hnode hpurpose, ih]

/-- A walk succeeds exactly as the rules allow. -/
theorem walk_eq_ok_iff :
    fs.walk purpose links here names = .ok place ↔ Walks fs purpose links here names place :=
  ⟨walks_of_walk, Walks.walk_eq⟩

/-- A path leads to a place if it can be opened and the walk along its names ends there. -/
theorem locate_eq_ok_iff {path : Path} :
    fs.locate purpose path = .ok place ↔
      path.contains 0 = false ∧ path.isEmpty = false ∧ path.length ≤ maxPath ∧
        Walks fs purpose maxLinks (fs.startOf path)
          (if purpose = .entry then Path.names path else Path.segments path) place := by
  rw [← walk_eq_ok_iff, locate]
  constructor
  · intro hlocate
    split at hlocate
    · simp at hlocate
    next hzero =>
    split at hlocate
    · simp at hlocate
    next hempty =>
    split at hlocate
    · simp at hlocate
    next hlength =>
    exact ⟨by simpa using hzero, by simpa using hempty, Nat.not_lt.mp hlength, hlocate⟩
  · rintro ⟨hzero, hempty, hlength, hwalk⟩
    rw [hzero, hempty, if_neg (Nat.not_lt.mpr hlength), hwalk]
    rfl

/-! ## Walks and removals -/

/-- Walks do not notice that a regular file has gone. -/
theorem Walks.erase (hwalks : Walks fs purpose links here names place) {gone : Location}
    {bytes : Bytes} (hfile : fs.node? gone = some (.file bytes)) :
    Walks (fs.erase gone) purpose links here names place := by
  -- what a walk passes through is a directory or a link, and so not what has gone
  have hkeep : ∀ {other node}, fs.node? other = some node → (∀ bytes, node ≠ .file bytes) →
      (fs.erase gone).node? other = some node := by
    intro other node hother hnode
    rw [node?_erase_of_ne, hother]
    rintro rfl
    rw [hfile] at hother
    exact hnode bytes (Option.some.inj hother).symm
  induction hwalks with
  | done => exact .done
  | silent hhere hallowed hname _ ih => exact .silent (hkeep hhere (by simp)) hallowed hname ih
  | up hhere hallowed _ ih => exact .up (hkeep hhere (by simp)) hallowed ih
  | down hhere hallowed hname hnode _ ih =>
      refine .down (hkeep hhere (by simp)) hallowed hname ?_ ih
      intro target htarget
      rw [node?_erase] at htarget
      split at htarget
      · simp at htarget
      · exact hnode target htarget
  | stop hhere hname hnode hpurpose =>
      exact .stop (hkeep hhere (by simp)) hname (hkeep hnode (by simp)) hpurpose
  | follow hhere hallowed hname hnode hpurpose _ ih =>
      exact .follow (hkeep hhere (by simp)) hallowed hname (hkeep hnode (by simp)) hpurpose ih

/-! ## Walks into a directory -/

/-- What a walk through a place comes to is decided from that place on. -/
theorem Walks.walk_append (hwalks : Walks fs .node links here names place)
    (hpurpose : purpose ≠ .file) {tail : List Bytes} (htail : tail ≠ [])
    {result : Except IoFault Location}
    (hresult : ∀ fewer, fs.walk purpose fewer place tail = result) :
    fs.walk purpose links here (names ++ tail) = result := by
  have hallowed : ∀ name rest, Allowed purpose name rest := fun _ _ h => absurd h hpurpose
  induction hwalks with
  | done => exact hresult _
  | silent hhere _ hname _ ih =>
      rw [List.cons_append, walk_silent hhere (hallowed _ _) hname, ih hresult]
  | up hhere _ _ ih => rw [List.cons_append, walk_dotDot hhere (hallowed _ _) rfl, ih hresult]
  | down hhere _ hname hnode _ ih =>
      rw [List.cons_append, walk_down hhere (hallowed _ _) hname hnode, ih hresult]
  | stop _ _ _ hentry => cases hentry
  | follow hhere _ hname hnode _ _ ih =>
      have hrest := ih hresult
      rw [List.append_assoc] at hrest
      -- the tail is not empty, so the link is not the last name and is followed in either walk
      rw [List.cons_append, walk_follow hhere (hallowed _ _) hname hnode (by simp [htail]), hrest]

/-- A slash behind the name of a directory does not change where a walk leads. -/
theorem Walks.trim (hwalks : Walks fs .node links here (names ++ [[]]) place) :
    Walks fs .node links here names place := by
  -- the empty name behind the slash is silent, so only that rule can have been the last one
  generalize hall : names ++ [[]] = all at hwalks
  induction hwalks generalizing names with
  | done => simp at hall
  | silent hhere hallowed hname hrest ih =>
      cases names with
      | nil =>
          obtain ⟨rfl, rfl⟩ := List.cons.inj hall
          exact hrest
      | cons first names =>
          obtain ⟨rfl, rfl⟩ := List.cons.inj hall
          exact .silent hhere (by simp [Allowed]) hname (ih rfl)
  | up hhere hallowed hrest ih =>
      cases names with
      | nil => cases (List.cons.inj hall).1
      | cons first names =>
          obtain ⟨rfl, rfl⟩ := List.cons.inj hall
          exact .up hhere (by simp [Allowed]) (ih rfl)
  | down hhere hallowed hname hnode hrest ih =>
      cases names with
      | nil =>
          obtain ⟨rfl, rfl⟩ := List.cons.inj hall
          exact absurd hname.not_silent (by decide)
      | cons first names =>
          obtain ⟨rfl, rfl⟩ := List.cons.inj hall
          exact .down hhere (by simp [Allowed]) hname hnode (ih rfl)
  | stop hhere hname hnode hpurpose => cases hpurpose
  | follow hhere hallowed hname hnode hpurpose hrest ih =>
      cases names with
      | nil =>
          obtain ⟨rfl, rfl⟩ := List.cons.inj hall
          exact absurd hname.not_silent (by decide)
      | cons first names =>
          obtain ⟨rfl, rfl⟩ := List.cons.inj hall
          exact .follow hhere (by simp [Allowed]) hname hnode (by simp)
            (ih (List.append_assoc _ _ _))

end HourlyIngest.FileSystem
