import HourlyIngest.Proofs.Association
import HourlyIngest.Proofs.FileSystem.Directory

/-!
# File systems that differ at one place

Two file systems may be the same but for one place, where each has a regular file or nothing and
forbids what it likes (`Variants`).  A path makes the same of both unless its walk comes by that
place, be it on its way or at its end (`Meets`): it leads to the same place or is refused with the
same fault (`Variants.locate_eq`), reads the same, and removes the same.  This stays so while things
are taken away (`Thinned`): a walk may then break off earlier, but it comes by no place that it has
not come by before (`Thinned.walkMeets`), and an entry that is still found is found where it was
(`Thinned.locate_entry`).
-/

namespace HourlyIngest.FileSystem

open Text

/-! ## Coming by a place -/

/-- On its way or at its end, a walk comes to the place `goal`. -/
inductive WalkMeets (fs : FileSystem) (purpose : Purpose) (goal : Location) :
    Nat → Location → List Bytes → Prop
  | here {links : Nat} {names : List Bytes} : WalkMeets fs purpose goal links goal names
  | silent {links : Nat} {here : Location} {name : Bytes} {rest : List Bytes}
      (hhere : fs.node? here = some .directory) (hallowed : Allowed purpose name rest)
      (hname : Path.isSilent name = true) (hrest : WalkMeets fs purpose goal links here rest) :
      WalkMeets fs purpose goal links here (name :: rest)
  | up {links : Nat} {here : Location} {rest : List Bytes}
      (hhere : fs.node? here = some .directory) (hallowed : Allowed purpose Path.dotDot rest)
      (hrest : WalkMeets fs purpose goal links here.dropLast rest) :
      WalkMeets fs purpose goal links here (Path.dotDot :: rest)
  | down {links : Nat} {here : Location} {name : Bytes} {rest : List Bytes}
      (hhere : fs.node? here = some .directory) (hallowed : Allowed purpose name rest)
      (hname : Plain name) (hnode : ∀ target, fs.node? (here ++ [name]) ≠ some (.link target))
      (hrest : WalkMeets fs purpose goal links (here ++ [name]) rest) :
      WalkMeets fs purpose goal links here (name :: rest)
  | follow {links : Nat} {here : Location} {name : Bytes} {rest : List Bytes} {target : Path}
      (hhere : fs.node? here = some .directory) (hallowed : Allowed purpose name rest)
      (hname : Plain name) (hnode : fs.node? (here ++ [name]) = some (.link target))
      (hpurpose : rest = [] → purpose ≠ .entry)
      (hrest : WalkMeets fs purpose goal links (if Path.isAbsolute target then [] else here)
        (Path.segments target ++ rest)) :
      WalkMeets fs purpose goal (links + 1) here (name :: rest)

/-- Opening the path leads to the place or through it. -/
def Meets (fs : FileSystem) (path : Path) (place : Location) : Prop :=
  fs.WalkMeets .node place maxLinks (fs.startOf path) (Path.segments path)

/-- A regular file stands at the place, or nothing. -/
def HoldsFile (fs : FileSystem) (place : Location) : Prop :=
  ∀ node, fs.node? place = some node → ∃ bytes, node = .file bytes

/-- The two file systems have the same everywhere but at the place and forbid the same there; at the
place each of them has a regular file or nothing. -/
structure Variants (place : Location) (fs other : FileSystem) : Prop where
  working : other.working = fs.working
  elsewhere : ∀ there, there ≠ place → other.node? there = fs.node? there
  forbids : ∀ there, there ≠ place → ∀ access,
    other.forbids? access there = fs.forbids? access there
  holdsFile : fs.HoldsFile place
  holdsFile' : other.HoldsFile place

/-- Some things have been taken away, and nothing else has changed. -/
structure Thinned (fs now : FileSystem) : Prop where
  working : now.working = fs.working
  forbidden : now.forbidden = fs.forbidden
  node? : ∀ place, now.node? place = none ∨ now.node? place = fs.node? place

variable {fs other now : FileSystem} {purpose : Purpose} {links : Nat} {here place : Location}
  {there : Location} {names : List Bytes} {path : Path}

theorem HoldsFile.ne_directory (hholds : fs.HoldsFile place) :
    fs.node? place ≠ some .directory := by
  intro hdirectory
  obtain ⟨bytes, hbytes⟩ := hholds _ hdirectory
  cases hbytes

theorem HoldsFile.ne_link (hholds : fs.HoldsFile place) (target : Path) :
    fs.node? place ≠ some (.link target) := by
  intro hlink
  obtain ⟨bytes, hbytes⟩ := hholds _ hlink
  cases hbytes

theorem HoldsFile.erase (hholds : fs.HoldsFile place) (gone : Location) :
    (fs.erase gone).HoldsFile place := by
  intro node hnode
  rw [node?_erase] at hnode
  split at hnode
  · cases hnode
  · exact hholds node hnode

theorem startOf_congr (hworking : other.working = fs.working) (path : Path) :
    other.startOf path = fs.startOf path := by
  rw [startOf, startOf, hworking]

/-- A walk meets the place where it ends. -/
theorem Walks.meets (hwalks : Walks fs purpose links here names place)
    (hholds : fs.HoldsFile place) : fs.WalkMeets purpose place links here names := by
  induction hwalks with
  | done => exact .here
  | silent hhere hallowed hname _ ih => exact .silent hhere hallowed hname (ih hholds)
  | up hhere hallowed _ ih => exact .up hhere hallowed (ih hholds)
  | down hhere hallowed hname hnode _ ih => exact .down hhere hallowed hname hnode (ih hholds)
  | stop hhere hname hnode hpurpose => exact absurd hnode (hholds.ne_link _)
  | follow hhere hallowed hname hnode hpurpose _ ih =>
      exact .follow hhere hallowed hname hnode hpurpose (ih hholds)

/-- The walk to an entry comes by no place that the walk behind all links does not come by. -/
theorem WalkMeets.follow_last (hmeets : fs.WalkMeets .entry place links here names)
    (tail : List Bytes) : fs.WalkMeets .node place links here (names ++ tail) := by
  have hallowed : ∀ name rest, Allowed .node name rest := by simp [Allowed]
  induction hmeets with
  | here => exact .here
  | silent hhere _ hname _ ih => exact .silent hhere (hallowed _ _) hname ih
  | up hhere _ _ ih => exact .up hhere (hallowed _ _) ih
  | down hhere _ hname hnode _ ih => exact .down hhere (hallowed _ _) hname hnode ih
  | follow hhere _ hname hnode _ _ ih =>
      rw [List.append_assoc] at ih
      exact .follow hhere (hallowed _ _) hname hnode (by simp) ih

/-- If opening a path does not lead by a place, then neither opening it nor looking for its entry
does. -/
theorem not_walkMeets_of_not_meets (hnot : ¬ fs.Meets path place) (hpurpose : purpose ≠ .file) :
    ¬ fs.WalkMeets purpose place maxLinks (fs.startOf path)
      (if purpose = .entry then Path.names path else Path.segments path) := by
  cases purpose with
  | node => exact hnot
  | file => exact absurd rfl hpurpose
  | entry =>
      intro hmeets
      rw [if_pos rfl] at hmeets
      refine hnot ?_
      rw [Meets, Path.segments]
      split
      · exact hmeets.follow_last [[]]
      · simpa using hmeets.follow_last []

/-- A path that does not meet a place does not lead there. -/
theorem ne_of_locate (hlocate : fs.locate purpose path = .ok here) (hpurpose : purpose ≠ .file)
    (hholds : fs.HoldsFile place) (hnot : ¬ fs.Meets path place) : here ≠ place := by
  rintro rfl
  obtain ⟨-, -, -, hwalks⟩ := locate_eq_ok_iff.mp hlocate
  exact not_walkMeets_of_not_meets hnot hpurpose (hwalks.meets hholds)

/-! ## Paths into a directory -/

namespace WalkMeets

variable {goal : Location} {name : Bytes} {rest : List Bytes}
  (hmeets : fs.WalkMeets purpose goal links here (name :: rest))

include hmeets

theorem of_silent (hname : Path.isSilent name = true) :
    here = goal ∨ fs.WalkMeets purpose goal links here rest := by
  cases hmeets with
  | here => exact Or.inl rfl
  | silent _ _ _ hrest => exact Or.inr hrest
  | up => exact absurd hname (by decide)
  | down _ _ hplain => simp [hplain.not_silent] at hname
  | follow _ _ hplain => simp [hplain.not_silent] at hname

theorem of_dotDot (hname : name = Path.dotDot) :
    here = goal ∨ fs.WalkMeets purpose goal links here.dropLast rest := by
  cases hmeets with
  | here => exact Or.inl rfl
  | silent _ _ hsilent => exact absurd (hname ▸ hsilent) (by decide)
  | up _ _ hrest => exact Or.inr hrest
  | down _ _ hplain => exact absurd hname hplain.ne_dotDot
  | follow _ _ hplain => exact absurd hname hplain.ne_dotDot

theorem of_plain (hname : Plain name)
    (hnode : ∀ target, fs.node? (here ++ [name]) ≠ some (.link target)) :
    here = goal ∨ fs.WalkMeets purpose goal links (here ++ [name]) rest := by
  cases hmeets with
  | here => exact Or.inl rfl
  | silent _ _ hsilent => simp [hname.not_silent] at hsilent
  | up => exact absurd rfl hname.ne_dotDot
  | down _ _ _ _ hrest => exact Or.inr hrest
  | follow _ _ _ hlink => exact absurd hlink (hnode _)

theorem of_link {fewer : Nat} (hlinks : links = fewer + 1) (hname : Plain name) {target : Path}
    (hnode : fs.node? (here ++ [name]) = some (.link target)) :
    here = goal ∨ fs.WalkMeets purpose goal fewer (if Path.isAbsolute target then [] else here)
      (Path.segments target ++ rest) := by
  cases hmeets with
  | here => exact Or.inl rfl
  | silent _ _ hsilent => simp [hname.not_silent] at hsilent
  | up => exact absurd rfl hname.ne_dotDot
  | down _ _ _ hnolink => exact absurd hnode (hnolink _)
  | follow _ _ _ hlink _ hrest =>
      obtain rfl := Nat.succ.inj hlinks
      rw [hnode] at hlink
      cases hlink
      exact Or.inr hrest

end WalkMeets

/-- A walk through a directory meets no file on the way there. -/
theorem Walks.not_walkMeets_append {home : Location}
    (hwalks : Walks fs .node links here names home) (hholds : fs.HoldsFile place)
    {tail : List Bytes} (htail : ∀ fewer, ¬ fs.WalkMeets .node place fewer home tail) :
    ¬ fs.WalkMeets .node place links here (names ++ tail) := by
  have hne : ∀ {stop}, fs.node? stop = some .directory → stop ≠ place := by
    rintro stop hstop rfl
    exact hholds.ne_directory hstop
  intro hmeets
  induction hwalks with
  | done => exact htail _ hmeets
  | silent hhere _ hname _ ih => exact ih htail ((hmeets.of_silent hname).resolve_left (hne hhere))
  | up hhere _ _ ih => exact ih htail ((hmeets.of_dotDot rfl).resolve_left (hne hhere))
  | down hhere _ hname hnode _ ih =>
      exact ih htail ((hmeets.of_plain hname hnode).resolve_left (hne hhere))
  | stop _ _ _ hentry => cases hentry
  | follow hhere _ hname hnode _ _ ih =>
      refine ih htail ?_
      rw [List.append_assoc]
      exact (hmeets.of_link rfl hname hnode).resolve_left (hne hhere)

/-- The path of a file in a directory meets no other file of the directory. -/
theorem not_meets_join {directory : Path} {home : Location} {name other bytes : Bytes}
    (hlookup : fs.lookup .node directory = .ok (home, .directory)) (hother : Proper other)
    (hnode : fs.node? (home ++ [other]) = some (.file bytes)) (hne : other ≠ name)
    (hholds : fs.HoldsFile (home ++ [name])) :
    ¬ fs.Meets (Path.join directory other) (home ++ [name]) := by
  have hdirectory : directory ≠ [] := ne_nil_of_lookup hlookup
  have hstart : fs.startOf (Path.join directory other) = fs.startOf directory := by
    rw [startOf, Path.isAbsolute_join hdirectory hother.slash_notMem, startOf]
  rw [Meets, hstart, Path.segments_join hdirectory hother.slash_notMem hother.ne_nil]
  refine (walks_of_lookup hlookup).not_walkMeets_append hholds fun fewer hmeets => ?_
  generalize hgoal : home ++ [name] = goal at hmeets
  cases hmeets with
  | here => simp at hgoal
  | silent _ _ hsilent => simp [hother.not_silent] at hsilent
  | up => exact absurd rfl hother.ne_dotDot
  | down _ _ _ _ hrest =>
      generalize hthere : home ++ [other] = there at hrest
      cases hrest with
      | here => exact hne (by simpa using hthere.trans hgoal.symm)
  | follow _ _ _ hlink => simp [hnode] at hlink

/-! ## Variants -/

namespace Variants

variable (hvariants : Variants place fs other)

include hvariants

theorem erase (gone : Location) : Variants place (fs.erase gone) (other.erase gone) where
  working := hvariants.working
  elsewhere := by
    intro there hthere
    rw [node?_erase, node?_erase, hvariants.elsewhere there hthere]
  forbids := hvariants.forbids
  holdsFile := hvariants.holdsFile.erase gone
  holdsFile' := hvariants.holdsFile'.erase gone

/-- What stands at the place may be taken away from one of the two alone. -/
theorem erase_left : Variants place (fs.erase place) other where
  working := hvariants.working
  elsewhere := fun there hthere =>
    (hvariants.elsewhere there hthere).trans (node?_erase_of_ne hthere).symm
  forbids := hvariants.forbids
  holdsFile := hvariants.holdsFile.erase place
  holdsFile' := hvariants.holdsFile'

theorem erase_right : Variants place fs (other.erase place) where
  working := hvariants.working
  elsewhere := fun there hthere =>
    (node?_erase_of_ne hthere).trans (hvariants.elsewhere there hthere)
  forbids := hvariants.forbids
  holdsFile := hvariants.holdsFile
  holdsFile' := hvariants.holdsFile'.erase place

/-- A walk that does not meet the place comes to the same in both. -/
theorem walk_eq (hnot : ¬ fs.WalkMeets purpose place links here names) :
    other.walk purpose links here names = fs.walk purpose links here names := by
  -- a link uses up one of the links and may bring any number of names, everything else a name
  induction links using Nat.strongRecOn generalizing here names with
  | ind links ihLinks =>
      induction names generalizing here with
      | nil => rw [walk_nil, walk_nil]
      | cons name rest ih =>
          have hhere : here ≠ place := by
            rintro rfl
            exact hnot .here
          rw [walk_cons, walk_cons, hvariants.elsewhere here hhere]
          split
          · rfl
          · next hdirectory =>
            split
            · rfl
            next hfile =>
            have hallowed : Allowed purpose name rest := by
              intro hpurpose
              simpa [hpurpose] using hfile
            split
            · next hsilent =>
              exact ih fun hmeets => hnot (.silent hdirectory hallowed hsilent hmeets)
            next hsilent =>
            split
            · next hdots =>
              subst hdots
              exact ih fun hmeets => hnot (.up hdirectory hallowed hmeets)
            next hdots =>
            split
            · rfl
            next hlength =>
            have hname : Plain name := plain_iff.mpr ⟨by simpa using hsilent, hdots, hlength⟩
            have hchild : here ++ [name] ≠ place := by
              rintro rfl
              exact hnot (.down hdirectory hallowed hname hvariants.holdsFile.ne_link .here)
            rw [hvariants.elsewhere _ hchild]
            split
            · next target hlink =>
              split
              · rfl
              next hstop =>
              have hgo : rest = [] → purpose ≠ .entry := by
                intro hrest hpurpose
                exact hstop (by simp [hrest, hpurpose])
              cases links with
              | zero => rfl
              | succ fewer =>
                  exact ihLinks fewer (Nat.lt_succ_self fewer) fun hmeets =>
                    hnot (.follow hdirectory hallowed hname hlink hgo hmeets)
            · next hlink =>
              exact ih fun hmeets => hnot (.down hdirectory hallowed hname hlink hmeets)
          · rfl

/-- A path that does not meet the place leads to the same place in both, or is refused alike. -/
theorem locate_eq (hnot : ¬ fs.Meets path place) (hpurpose : purpose ≠ .file) :
    other.locate purpose path = fs.locate purpose path := by
  have hstart := startOf_congr hvariants.working path
  rw [locate, locate, hstart, hvariants.walk_eq (not_walkMeets_of_not_meets hnot hpurpose)]

theorem lookup_eq (hnot : ¬ fs.Meets path place) (hpurpose : purpose ≠ .file) :
    other.lookup purpose path = fs.lookup purpose path := by
  rw [lookup, lookup, hvariants.locate_eq hnot hpurpose]
  cases hlocate : fs.locate purpose path with
  | error fault => rfl
  | ok there =>
      simp only
      rw [hvariants.elsewhere there (ne_of_locate hlocate hpurpose hvariants.holdsFile hnot)]

/-- Where a path leads that does not meet the place, the same is forbidden in both. -/
theorem forbids_eq (hnot : ¬ fs.Meets path place) (hpurpose : purpose ≠ .file) {node : Node}
    (hlookup : fs.lookup purpose path = .ok (there, node)) (access : Access) :
    other.forbids? access there = fs.forbids? access there :=
  hvariants.forbids there
    (ne_of_locate (lookup_eq_ok_iff.mp hlookup).1 hpurpose hvariants.holdsFile hnot) access

theorem read_eq (hnot : ¬ fs.Meets path place) : other.read path = fs.read path := by
  have hpurpose : Purpose.node ≠ .file := by decide
  rw [read, read, hvariants.lookup_eq hnot hpurpose]
  cases hlookup : fs.lookup .node path with
  | error fault => rfl
  | ok found =>
      obtain ⟨there, node⟩ := found
      cases node with
      | file bytes => simp only [hvariants.forbids_eq hnot hpurpose hlookup]
      | directory => rfl
      | link target => rfl

/-- A removal erases the same place in both, or is refused alike. -/
theorem remove_eq (hnot : ¬ fs.Meets path place) :
    (∃ fault, fs.remove path = .error fault ∧ other.remove path = .error fault) ∨
      ∃ gone, fs.remove path = .ok (fs.erase gone) ∧ other.remove path = .ok (other.erase gone) := by
  have hpurpose : Purpose.entry ≠ .file := by decide
  rw [remove, remove, hvariants.lookup_eq hnot hpurpose]
  cases hlookup : fs.lookup .entry path with
  | error fault => exact Or.inl ⟨fault, rfl, rfl⟩
  | ok found =>
      obtain ⟨there, node⟩ := found
      cases node with
      | directory => exact Or.inl ⟨_, rfl, rfl⟩
      | _ =>
          simp only [hvariants.forbids_eq hnot hpurpose hlookup]
          cases hslash : Path.endsInSlash path with
          | true => exact Or.inl ⟨.notDirectory, by simp, by simp⟩
          | false =>
              cases fs.forbids? .remove there with
              | some fault => exact Or.inl ⟨fault, by simp, by simp⟩
              | none => exact Or.inr ⟨there, by simp, by simp⟩

/-- A walk that succeeds in the second ends at the same place in the first. -/
theorem walks (hwalks : Walks other purpose links here names there) :
    Walks fs purpose links here names there := by
  -- what a walk passes through is a directory or a link, and so does not stand at the place
  have hkeep : ∀ {stop node}, other.node? stop = some node → (∀ bytes, node ≠ .file bytes) →
      fs.node? stop = some node := by
    intro stop node hstop hnode
    rw [← hvariants.elsewhere, hstop]
    rintro rfl
    obtain ⟨bytes, hbytes⟩ := hvariants.holdsFile' node hstop
    exact hnode bytes hbytes
  induction hwalks with
  | done => exact .done
  | silent hhere hallowed hname _ ih => exact .silent (hkeep hhere (by simp)) hallowed hname ih
  | up hhere hallowed _ ih => exact .up (hkeep hhere (by simp)) hallowed ih
  | @down _ here _ name _ hhere hallowed hname hnode _ ih =>
      refine .down (hkeep hhere (by simp)) hallowed hname ?_ ih
      intro target hlink
      by_cases hplace : here ++ [name] = place
      · exact hvariants.holdsFile.ne_link target (hplace ▸ hlink)
      · exact hnode target ((hvariants.elsewhere _ hplace).trans hlink)
  | stop hhere hname hnode hpurpose =>
      exact .stop (hkeep hhere (by simp)) hname (hkeep hnode (by simp)) hpurpose
  | follow hhere hallowed hname hnode hpurpose _ ih =>
      exact .follow (hkeep hhere (by simp)) hallowed hname (hkeep hnode (by simp)) hpurpose ih

theorem locate_of_other (hlocate : other.locate purpose path = .ok there) :
    fs.locate purpose path = .ok there := by
  obtain ⟨hzero, hempty, hlength, hwalks⟩ := locate_eq_ok_iff.mp hlocate
  have hstart := startOf_congr hvariants.working path
  rw [hstart] at hwalks
  exact locate_eq_ok_iff.mpr ⟨hzero, hempty, hlength, hvariants.walks hwalks⟩

end Variants

/-! ## Putting a file at a place -/

theorem put_eq (fs : FileSystem) (place : Location) (node : Node) :
    fs.put place node = { fs with entries := putEntry fs.entries place node } := by
  unfold put putEntry
  split <;> rfl

/-- A node that is put at a place shows there alone. -/
theorem node?_put (fs : FileSystem) (place there : Location) (node : Node) :
    (fs.put place node).node? there =
      if there = place ∧ place ≠ [] then some node else fs.node? there := by
  by_cases hroot : there = []
  · subst hroot
    rw [if_neg fun h => h.2 h.1.symm, node?_root, node?_root]
  · simp only [put_eq, node?, if_neg hroot, find?_putEntry, beq_iff_eq]
    by_cases hthere : there = place
    · subst hthere
      rw [if_pos rfl, if_pos ⟨rfl, hroot⟩]
    · rw [if_neg hthere, if_neg fun h => hthere h.1]

/-- A file system and the one with another file at the place. -/
theorem HoldsFile.variants_put (hholds : fs.HoldsFile place) (bytes : Text.Bytes) :
    Variants place fs (fs.put place (.file bytes)) where
  working := by rw [put_eq]
  elsewhere := by
    intro there hthere
    rw [node?_put, if_neg fun h => hthere h.1]
  forbids := fun there _ access => by rw [put_eq, forbids?, forbids?]
  holdsFile := hholds
  holdsFile' := by
    intro node hnode
    rw [node?_put] at hnode
    split at hnode
    · exact ⟨bytes, (Option.some.inj hnode).symm⟩
    · exact hholds node hnode

/-! ## Things taken away -/

namespace Thinned

theorem refl (fs : FileSystem) : Thinned fs fs where
  working := rfl
  forbidden := rfl
  node? := fun _ => Or.inr rfl

variable (hthinned : Thinned fs now)

include hthinned

theorem erase (gone : Location) : Thinned fs (now.erase gone) where
  working := hthinned.working
  forbidden := hthinned.forbidden
  node? := by
    intro there
    rw [node?_erase]
    split
    · exact Or.inl rfl
    · exact hthinned.node? there

theorem node?_eq {node : Node} (hnode : now.node? place = some node) :
    fs.node? place = some node := by
  rcases hthinned.node? place with hnone | hsame
  · rw [hnone] at hnode
    cases hnode
  · exact hsame.symm.trans hnode

/-- What is left of a link is a link or nothing. -/
theorem node?_eq_none {target : Path} (hlink : fs.node? place = some (.link target))
    (hnow : ∀ target, now.node? place ≠ some (.link target)) : now.node? place = none := by
  rcases hthinned.node? place with hnone | hsame
  · exact hnone
  · exact absurd (hsame.trans hlink) (hnow target)

/-- A walk comes by no place that it did not come by before. -/
theorem walkMeets (hholds : fs.HoldsFile place)
    (hmeets : now.WalkMeets purpose place links here names) :
    fs.WalkMeets purpose place links here names := by
  induction hmeets with
  | here => exact .here
  | silent hhere hallowed hname _ ih => exact .silent (hthinned.node?_eq hhere) hallowed hname ih
  | up hhere hallowed _ ih => exact .up (hthinned.node?_eq hhere) hallowed ih
  | down hhere hallowed hname hnode hrest ih =>
      refine .down (hthinned.node?_eq hhere) hallowed hname ?_ ih
      -- behind a link that has gone no walk gets any further
      intro target hlink
      have hnone := hthinned.node?_eq_none hlink hnode
      cases hrest with
      | here => exact hholds.ne_link target hlink
      | silent hchild => simp [hnone] at hchild
      | up hchild => simp [hnone] at hchild
      | down hchild => simp [hnone] at hchild
      | follow hchild => simp [hnone] at hchild
  | follow hhere hallowed hname hnode hpurpose _ ih =>
      exact .follow (hthinned.node?_eq hhere) hallowed hname (hthinned.node?_eq hnode) hpurpose ih

theorem not_meets (hholds : fs.HoldsFile place) (hnot : ¬ fs.Meets path place) :
    ¬ now.Meets path place := by
  intro hmeets
  refine hnot (hthinned.walkMeets hholds ?_)
  have hstart := startOf_congr hthinned.working path
  rw [← hstart]
  exact hmeets

/-- The walk to an entry that is still found ends where it did before. -/
theorem walks_entry (hwalks : Walks now .entry links here names place) :
    Walks fs .entry links here names place := by
  induction hwalks with
  | done => exact .done
  | silent hhere hallowed hname _ ih => exact .silent (hthinned.node?_eq hhere) hallowed hname ih
  | up hhere hallowed _ ih => exact .up (hthinned.node?_eq hhere) hallowed ih
  | @down _ here _ name _ hhere hallowed hname hnode hrest ih =>
      cases hlink : fs.node? (here ++ [name]) with
      | some node =>
          cases node with
          | link target =>
              -- the link has gone, so its name was the last one, and the link was the entry
              have hnone := hthinned.node?_eq_none hlink hnode
              cases hrest with
              | done => exact .stop (hthinned.node?_eq hhere) hname hlink rfl
              | silent hchild => simp [hnone] at hchild
              | up hchild => simp [hnone] at hchild
              | down hchild => simp [hnone] at hchild
              | stop hchild => simp [hnone] at hchild
              | follow hchild => simp [hnone] at hchild
          | _ => exact .down (hthinned.node?_eq hhere) hallowed hname (by simp [hlink]) ih
      | none => exact .down (hthinned.node?_eq hhere) hallowed hname (by simp [hlink]) ih
  | stop hhere hname hnode hpurpose =>
      exact .stop (hthinned.node?_eq hhere) hname (hthinned.node?_eq hnode) hpurpose
  | follow hhere hallowed hname hnode hpurpose _ ih =>
      exact .follow (hthinned.node?_eq hhere) hallowed hname (hthinned.node?_eq hnode) hpurpose ih

/-- An entry that is still found is found where it was. -/
theorem locate_entry (hlocate : now.locate .entry path = .ok place) :
    fs.locate .entry path = .ok place := by
  obtain ⟨hzero, hempty, hlength, hwalks⟩ := locate_eq_ok_iff.mp hlocate
  have hstart := startOf_congr hthinned.working path
  rw [hstart] at hwalks
  exact locate_eq_ok_iff.mpr ⟨hzero, hempty, hlength, hthinned.walks_entry hwalks⟩

/-- A walk to something that still stands ends where it did before. -/
theorem walks_of_stands (hwalks : Walks now purpose links here names place)
    (hstands : now.node? place ≠ none) : Walks fs purpose links here names place := by
  induction hwalks with
  | done => exact .done
  | silent hhere hallowed hname _ ih =>
      exact .silent (hthinned.node?_eq hhere) hallowed hname (ih hstands)
  | up hhere hallowed _ ih => exact .up (hthinned.node?_eq hhere) hallowed (ih hstands)
  | down hhere hallowed hname hnode hrest ih =>
      refine .down (hthinned.node?_eq hhere) hallowed hname ?_ (ih hstands)
      -- behind a link that has gone nothing stands
      intro target hlink
      have hnone := hthinned.node?_eq_none hlink hnode
      cases hrest with
      | done => exact hstands hnone
      | silent hchild => simp [hnone] at hchild
      | up hchild => simp [hnone] at hchild
      | down hchild => simp [hnone] at hchild
      | stop hchild => simp [hnone] at hchild
      | follow hchild => simp [hnone] at hchild
  | stop hhere hname hnode hpurpose =>
      exact .stop (hthinned.node?_eq hhere) hname (hthinned.node?_eq hnode) hpurpose
  | follow hhere hallowed hname hnode hpurpose _ ih =>
      exact .follow (hthinned.node?_eq hhere) hallowed hname (hthinned.node?_eq hnode) hpurpose
        (ih hstands)

theorem lookup_eq {node : Node} (hlookup : now.lookup purpose path = .ok (place, node)) :
    fs.lookup purpose path = .ok (place, node) := by
  obtain ⟨hlocate, hnode⟩ := lookup_eq_ok_iff.mp hlookup
  obtain ⟨hzero, hempty, hlength, hwalks⟩ := locate_eq_ok_iff.mp hlocate
  have hstart := startOf_congr hthinned.working path
  rw [hstart] at hwalks
  have hbefore := hthinned.walks_of_stands hwalks (by simp [hnode])
  exact lookup_eq_ok_iff.mpr
    ⟨locate_eq_ok_iff.mpr ⟨hzero, hempty, hlength, hbefore⟩, hthinned.node?_eq hnode⟩

/-- What can still be read reads as it did before. -/
theorem read_eq {content : Option Bytes} (hread : now.read path = .ok content) :
    fs.read path = .ok content := by
  unfold read at hread ⊢
  cases hlookup : now.lookup .node path with
  | error fault => simp [hlookup] at hread
  | ok found =>
      rw [hlookup] at hread
      rw [hthinned.lookup_eq hlookup]
      simp only [forbids?, hthinned.forbidden] at hread ⊢
      exact hread

end Thinned

end HourlyIngest.FileSystem
