import HourlyIngest.FileSystem.Path

/-!
# Paths of a directory and a name

A path that is put together from a directory and a name without slashes is walked along like the
directory's and then along the name (`segments_join`), and different names make different paths
(`join_injective`).
-/

namespace HourlyIngest

open Text

/-! ## Names and slashes -/

namespace Path

theorem split_ne_nil (path : Path) : split path ≠ [] := by
  cases path with
  | nil => simp [split]
  | cons byte rest =>
      rw [split]
      split
      · simp
      · split <;> simp

theorem split_append_slash (path rest : Path) :
    split (path ++ slash :: rest) = split path ++ split rest := by
  induction path with
  | nil => simp [split]
  | cons byte path ih =>
      rw [List.cons_append, split, split, ih]
      by_cases hslash : byte = slash
      · simp [hslash]
      · simp only [if_neg hslash]
        cases hpath : split path with
        | nil => exact absurd hpath (split_ne_nil path)
        | cons part parts => rfl

theorem split_of_notMem {name : Bytes} (hname : slash ∉ name) : split name = [name] := by
  induction name with
  | nil => rfl
  | cons byte rest ih =>
      rw [List.mem_cons, not_or] at hname
      rw [split, if_neg (Ne.symm hname.1), ih hname.2]

@[simp] theorem names_nil : names [] = [] := rfl

theorem names_append_slash (path rest : Path) :
    names (path ++ slash :: rest) = names path ++ names rest := by
  rw [names, split_append_slash, List.filter_append]
  rfl

theorem names_of_notMem {name : Bytes} (hname : slash ∉ name) (hne : name ≠ []) :
    names name = [name] := by
  simp [names, split_of_notMem hname, hne]

theorem endsInSlash_append {path name : Bytes} (hname : slash ∉ name) (hne : name ≠ []) :
    endsInSlash (path ++ name) = false := by
  have hlast : name.getLast hne ≠ slash := fun h => hname (h ▸ List.getLast_mem hne)
  rw [endsInSlash, List.getLast?_append, List.getLast?_eq_some_getLast hne, Option.some_or]
  simpa using hlast

theorem exists_of_endsInSlash {path : Path} (hslash : endsInSlash path = true) :
    ∃ front, path = front ++ [slash] := by
  rw [endsInSlash, beq_iff_eq, List.getLast?_eq_some_iff] at hslash
  exact hslash

/-! ## Paths of the form directory and name -/

section Join

variable {directory : Path} {name : Bytes} (hdirectory : directory ≠ []) (hname : slash ∉ name)
  (hne : name ≠ [])

include hname in
/-- A joined path is the directory's, possibly a slash, and the name. -/
theorem join_eq (directory : Path) (hdirectory : directory ≠ []) :
    (∃ front, directory = front ++ [slash] ∧ join directory name = front ++ slash :: name) ∨
      endsInSlash directory = false ∧ join directory name = directory ++ slash :: name := by
  have hrelative : isAbsolute name = false := by
    cases name with
    | nil => rfl
    | cons byte rest => simpa [isAbsolute] using fun h => hname (by simp [h])
  cases hslash : endsInSlash directory with
  | true =>
      obtain ⟨front, rfl⟩ := exists_of_endsInSlash hslash
      exact Or.inl ⟨front, rfl, by simp [join, hrelative, hslash]⟩
  | false => exact Or.inr ⟨rfl, by simp [join, hrelative, hdirectory, hslash]⟩

include hdirectory hname hne

theorem names_join : names (join directory name) = names directory ++ [name] := by
  rcases join_eq hname directory hdirectory with ⟨front, rfl, hjoin⟩ | ⟨-, hjoin⟩
  · rw [hjoin, names_append_slash, names_append_slash, names_nil, List.append_nil,
      names_of_notMem hname hne]
  · rw [hjoin, names_append_slash, names_of_notMem hname hne]

theorem endsInSlash_join : endsInSlash (join directory name) = false := by
  rcases join_eq hname directory hdirectory with ⟨front, rfl, hjoin⟩ | ⟨-, hjoin⟩
  · rw [hjoin, List.append_cons]
    exact endsInSlash_append hname hne
  · rw [hjoin, List.append_cons]
    exact endsInSlash_append hname hne

omit hne in
theorem isAbsolute_join : isAbsolute (join directory name) = isAbsolute directory := by
  rcases join_eq hname directory hdirectory with ⟨front, rfl, hjoin⟩ | ⟨-, hjoin⟩
  · rw [hjoin]
    cases front <;> rfl
  · rw [hjoin]
    cases directory with
    | nil => exact absurd rfl hdirectory
    | cons byte rest => rfl

theorem join_ne_nil : join directory name ≠ [] := by
  intro hjoin
  have hnames := names_join hdirectory hname hne
  rw [hjoin, names_nil] at hnames
  simp at hnames

theorem segments_join : segments (join directory name) = names directory ++ [name] := by
  rw [segments, endsInSlash_join hdirectory hname hne, names_join hdirectory hname hne]
  rfl

/-- A name that is no dots is the last component. -/
theorem components_join (hdot : name ≠ dot) (hdots : name ≠ dotDot) :
    components (join directory name) = components directory ++ [.name name] := by
  have hpart : Component.ofPart name = .name name := by
    rw [Component.ofPart, if_neg hdot, if_neg hdots]
  have hhead : ∀ parts : List Component,
      (parts ++ [Component.name name]).head? = some .current ↔ parts.head? = some .current := by
    intro parts
    cases parts <;> simp
  simp only [components, isAbsolute_join hdirectory hname, names_join hdirectory hname hne,
    List.map_append, List.map_cons, List.map_nil, hpart, List.filter_append, hhead]
  split
  · rfl
  · split <;> rfl

theorem fileName?_join (hdot : name ≠ dot) (hdots : name ≠ dotDot) :
    fileName? (join directory name) = some name := by
  rw [fileName?, components_join hdirectory hname hne hdot hdots, List.getLast?_concat]

end Join

theorem join_injective {directory : Path} (hdirectory : directory ≠ []) {name other : Bytes}
    (hname : slash ∉ name) (hother : slash ∉ other)
    (heq : join directory name = join directory other) : name = other := by
  rcases join_eq hname directory hdirectory with ⟨front, rfl, hjoin⟩ | ⟨hslash, hjoin⟩
  · rcases join_eq hother (front ++ [slash]) hdirectory with ⟨front', hfront, hjoin'⟩ | ⟨hno, -⟩
    · obtain rfl := List.append_cancel_right hfront
      rw [hjoin, hjoin'] at heq
      simpa using heq
    · simp [endsInSlash] at hno
  · rcases join_eq hother directory hdirectory with ⟨front, rfl, -⟩ | ⟨-, hjoin'⟩
    · simp [endsInSlash] at hslash
    · rw [hjoin, hjoin'] at heq
      simpa using heq

end Path

end HourlyIngest
