import HourlyIngest.Proofs.FileSystem.Variant

/-!
# What writing a file changes

Before a file is written the directories above it are made.  A directory is made where nothing
stands, so that nothing is lost by it (`Extended`), and the file itself shows at one place alone
(`write_eq_ok_iff`, `node?_put`).  Whatever comes of it, a regular file that stands somewhere else
afterwards has stood there before.
-/

namespace HourlyIngest.FileSystem

variable {fs now later files : FileSystem} {place there : Location} {path : Path} {node : Node}
  {bytes : Text.Bytes}

/-- A file that has been written stands at the place that its path leads to. -/
theorem write_eq_ok_iff :
    fs.write path bytes = .ok files ↔
      ∃ place, fs.locate .file path = .ok place ∧ fs.node? place ≠ some .directory ∧
        fs.forbids? .write place = none ∧ files = fs.put place (.file bytes) := by
  unfold write
  cases fs.locate .file path with
  | error fault => simp
  | ok place =>
      simp only [Except.ok.injEq, exists_eq_left']
      split
      · next hdirectory => simp [hdirectory]
      · next hdirectory =>
        cases hforbids : fs.forbids? .write place with
        | some fault => simp
        | none => simp [hdirectory, eq_comm (a := files)]

/-- Directories have been added, and nothing else has changed. -/
def Extended (fs now : FileSystem) : Prop :=
  ∀ there, now.node? there = fs.node? there ∨
    fs.node? there = none ∧ now.node? there = some .directory

namespace Extended

theorem refl (fs : FileSystem) : Extended fs fs := fun _ => Or.inl rfl

theorem trans (hfirst : Extended fs now) (hsecond : Extended now later) : Extended fs later := by
  intro there
  rcases hsecond there with hsame | ⟨hnone, hadded⟩
  · rw [hsame]
    exact hfirst there
  · rcases hfirst there with hbefore | ⟨-, hdirectory⟩
    · exact Or.inr ⟨hbefore ▸ hnone, hadded⟩
    · rw [hnone] at hdirectory
      cases hdirectory

/-- No regular file is among what was added. -/
theorem file (hextended : Extended fs now) (hfile : now.node? there = some (.file bytes)) :
    fs.node? there = some (.file bytes) := by
  rcases hextended there with hsame | ⟨-, hdirectory⟩
  · exact hsame.symm.trans hfile
  · rw [hdirectory] at hfile
    cases hfile

end Extended

theorem extended_of_makeDirectory (hmake : fs.makeDirectory path = .ok now) : Extended fs now := by
  unfold makeDirectory at hmake
  split at hmake
  · cases hmake
  · next place _ =>
    split at hmake
    · cases hmake
    next hnone =>
    split at hmake
    · cases hmake
    · cases hmake
      intro there
      rw [node?_put]
      split
      · next hthere =>
        rw [hthere.1]
        exact Or.inr ⟨by simpa using hnone, rfl⟩
      · exact Or.inl rfl

theorem extended_makeAlong (fs : FileSystem) (parts : List Text.Bytes) :
    Extended fs (fs.makeAlong parts).2 := by
  induction parts generalizing fs with
  | nil => exact .refl fs
  | cons part above ih =>
      rw [makeAlong]
      split
      · exact ih fs
      · simp only
        split
        · next made hmade => exact extended_of_makeDirectory hmade
        · split
          · have habove := ih fs
            split
            · next fault made hmade => rwa [hmade] at habove
            · next made hmade =>
              rw [hmade] at habove
              split
              · next later hlater => exact habove.trans (extended_of_makeDirectory hlater)
              · exact habove
          · exact .refl fs

theorem extended_makeParents (fs : FileSystem) (path : Path) : Extended fs (fs.makeParents path).2 :=
  extended_makeAlong fs _

end HourlyIngest.FileSystem
