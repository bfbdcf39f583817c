import HourlyIngest.Proofs.FileSystem.Variant

/-!
# The order of enumeration

Two file systems may hold the same and enumerate it in different orders (`Reordered`).  The same
stands at every place then (`Reordered.node?_eq`), and a path leads to the same
(`Reordered.lookup_eq_ok_iff`).
-/

namespace HourlyIngest.FileSystem

/-- The same entries in any order, the same working directory, and the same forbidden. -/
structure Reordered (fs other : FileSystem) : Prop where
  working : other.working = fs.working
  forbidden : other.forbidden = fs.forbidden
  perm : other.entries.Perm fs.entries

variable {fs other : FileSystem} {purpose : Purpose} {path : Path} {place : Location} {node : Node}

namespace Reordered

theorem symm (hreordered : Reordered fs other) : Reordered other fs where
  working := hreordered.working.symm
  forbidden := hreordered.forbidden.symm
  perm := hreordered.perm.symm

theorem sound (hreordered : Reordered fs other) (hsound : fs.Sound) : other.Sound where
  nodup := (hreordered.perm.map Prod.fst).nodup_iff.mpr hsound.nodup
  named := fun entry hentry => hsound.named entry (hreordered.perm.mem_iff.mp hentry)

theorem node?_eq (hreordered : Reordered fs other) (hsound : fs.Sound) (place : Location) :
    other.node? place = fs.node? place := by
  by_cases hplace : place = []
  · rw [hplace]
    rfl
  · ext node
    rw [(hreordered.sound hsound).node?_eq_some_iff hplace, hsound.node?_eq_some_iff hplace,
      hreordered.perm.mem_iff]

/-- Nothing has been taken away, to be sure. -/
theorem thinned (hreordered : Reordered fs other) (hsound : fs.Sound) : Thinned fs other where
  working := hreordered.working
  forbidden := hreordered.forbidden
  node? := fun place => Or.inr (hreordered.node?_eq hsound place)

theorem lookup_eq_ok_iff (hreordered : Reordered fs other) (hsound : fs.Sound) :
    other.lookup purpose path = .ok (place, node) ↔ fs.lookup purpose path = .ok (place, node) :=
  ⟨(hreordered.thinned hsound).lookup_eq,
    (hreordered.symm.thinned (hreordered.sound hsound)).lookup_eq⟩

end Reordered

end HourlyIngest.FileSystem
