import HourlyIngest.FileSystem.Basic

/-!
# What a removal changes

`FileSystem.remove` takes one entry away and nothing else.  The file system after it is the one
before with one place erased (`remove_eq_ok_iff`), and erasing a place leaves what stands at all
other places, and what is forbidden there, as it was (`node?_erase`, `forbids?_erase`).  The root is
a directory without an entry, so it can never be the place that is erased.
-/

namespace HourlyIngest.FileSystem

variable {fs files : FileSystem} {purpose : Purpose} {path : Path} {place : Location} {node : Node}

@[simp] theorem node?_root (fs : FileSystem) : fs.node? [] = some .directory := by
  simp [node?]

/-- Erasing a place shows at that place alone. -/
theorem node?_erase (fs : FileSystem) (gone place : Location) :
    (fs.erase gone).node? place =
      if place = gone ∧ gone ≠ [] then none else fs.node? place := by
  by_cases hroot : place = []
  · subst hroot
    rw [if_neg fun h => h.2 h.1.symm, node?_root, node?_root]
  by_cases hgone : place = gone
  · subst hgone
    rw [if_pos ⟨rfl, hroot⟩, node?, if_neg hroot, Option.map_eq_none_iff, List.find?_eq_none]
    intro entry hentry
    simpa using (List.mem_filter.mp hentry).2
  · rw [if_neg fun h => hgone h.1]
    simp only [node?, if_neg hroot, erase, List.find?_filter]
    congr 2
    funext entry
    by_cases hplace : entry.1 = place
    · simp [hplace, hgone]
    · simp [hplace]

theorem node?_erase_of_ne {gone : Location} (hne : place ≠ gone) :
    (fs.erase gone).node? place = fs.node? place := by
  rw [node?_erase, if_neg fun h => hne h.1]

/-- A node that is no directory does not stand at the root. -/
theorem ne_root_of_node? (hnode : fs.node? place = some node) (hfile : node ≠ .directory) :
    place ≠ [] := by
  rintro rfl
  rw [node?_root] at hnode
  exact hfile (Option.some.inj hnode).symm

theorem lookup_eq_ok_iff :
    fs.lookup purpose path = .ok (place, node) ↔
      fs.locate purpose path = .ok place ∧ fs.node? place = some node := by
  unfold lookup
  cases fs.locate purpose path with
  | error fault => simp
  | ok found =>
      simp only [Except.ok.injEq]
      constructor
      · intro hfound
        cases hnode : fs.node? found with
        | none => simp [hnode] at hfound
        | some other =>
            simp only [hnode, Except.ok.injEq, Prod.mk.injEq] at hfound
            obtain ⟨rfl, rfl⟩ := hfound
            exact ⟨rfl, hnode⟩
      · rintro ⟨rfl, hnode⟩
        simp [hnode]

@[simp] theorem forbids?_erase (fs : FileSystem) (gone : Location) (access : Access)
    (place : Location) : (fs.erase gone).forbids? access place = fs.forbids? access place := rfl

/-- A removal succeeds where the path names a file or a link that may be removed, and erases its
place. -/
theorem remove_eq_ok_iff :
    fs.remove path = .ok files ↔
      ∃ place node, fs.lookup .entry path = .ok (place, node) ∧ node ≠ .directory ∧
        Path.endsInSlash path = false ∧ fs.forbids? .remove place = none ∧
          files = fs.erase place := by
  unfold remove
  cases hlookup : fs.lookup .entry path with
  | error fault => simp
  | ok found =>
      obtain ⟨place, node⟩ := found
      constructor
      · intro hremove
        refine ⟨place, node, rfl, ?_⟩
        cases node <;> cases hslash : Path.endsInSlash path <;>
          cases hforbids : fs.forbids? .remove place <;> simp_all
      · rintro ⟨place', node', hfound, hnode, hslash, hforbids, rfl⟩
        cases hfound
        cases node <;> simp_all

end HourlyIngest.FileSystem
