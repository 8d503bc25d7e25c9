import BootScript.Host.Path

/-!
# Beside a file

A path is written as a directory, a slash and a name.  Then the directory is its parent,
and what lies beside the file is written with the same directory and slash.  A mere name has
the empty parent, and what lies beside it is written as it is.
-/

namespace BootScript.Path

/-! ## Components -/

theorem components_append (before after : List Char) :
    components (before ++ separator :: after) = components before ++ components after :=
  List.splitOnP_append_cons before after (decide_eq_true rfl)

theorem components_of_notMem {name : List Char} (plain : separator ∉ name) :
    components name = [name] :=
  List.splitOnP_eq_singleton fun _ member =>
    decide_eq_false fun same => plain (same ▸ member)

theorem ofComponents_components (path : List Char) : ofComponents (components path) = path :=
  List.intercalate_splitOn separator

/-- A component that says something, and holds no slash. -/
structure IsName (name : List Char) : Prop where
  plain : separator ∉ name
  solid : isFiller name = false

/-- The path says something after its last slash. -/
def Solid (path : List Char) : Prop :=
  ∃ before last, components (anchor path).2 = before ++ [last] ∧ isFiller last = false

theorem fromLast_of_solid {body : List Char} {before : List (List Char)} {last : List Char}
    (split : components body = before ++ [last]) (solid : isFiller last = false) :
    fromLast body = last :: before.reverse := by
  rw [fromLast, split, List.reverse_append, List.reverse_singleton, List.singleton_append,
    List.dropWhile_cons_of_neg (by rw [solid]; decide)]

/-! ## Parents -/

theorem append_anchor (path : List Char) : (anchor path).1 ++ (anchor path).2 = path := by
  unfold anchor
  split <;> rfl

theorem anchor_append {base : List Char} (some : base ≠ []) (name : List Char) :
    anchor (base ++ separator :: name) =
      ((anchor base).1, (anchor base).2 ++ separator :: name) := by
  obtain ⟨first, rest, rfl⟩ := List.exists_cons_of_ne_nil some
  by_cases slash : first = '/'
  · rw [slash]
    rfl
  by_cases dot : first = '.'
  · rw [dot]
    cases rest with
    | nil => rfl
    | cons second rest =>
        by_cases slash : second = '/'
        · rw [slash]
          rfl
        · simp [anchor, slash]
  · simp [anchor, slash, dot]

theorem Solid.getLast? {path : List Char} (solid : Solid path) :
    ∃ character, path.getLast? = some character ∧ character ≠ separator := by
  obtain ⟨before, last, split, named⟩ := solid
  have not_filler (pieces : List (List Char)) : components (anchor path).2 ≠ pieces ++ [[]] := by
    intro empty
    have same := (List.append_inj' (split.symm.trans empty) rfl).2
    rw [List.singleton_inj.mp same] at named
    exact absurd named (by decide)
  rcases List.eq_nil_or_concat (anchor path).2 with none | ⟨rest, character, ends⟩
  · exact absurd (congrArg components none) (not_filler [])
  · rw [List.concat_eq_append] at ends
    refine ⟨character, ?_, ?_⟩
    · rw [← append_anchor path, ends, ← List.append_assoc, List.getLast?_concat]
    · rintro rfl
      have split := congrArg components ends
      rw [components_append] at split
      exact not_filler (components rest) split

theorem Solid.ne_nil {path : List Char} (solid : Solid path) : path ≠ [] := by
  obtain ⟨character, last, -⟩ := solid.getLast?
  rintro rfl
  cases last

theorem anchor_of_isName {name : List Char} (named : IsName name) : anchor name = ([], name) := by
  unfold anchor
  split
  · exact absurd List.mem_cons_self named.plain
  · exact absurd named.solid (by decide)
  · exact absurd (List.mem_cons_of_mem _ List.mem_cons_self) named.plain
  · rfl

theorem toList_child (base name : String) :
    (base ++ "/" ++ name).toList = base.toList ++ separator :: name.toList := by
  simp [separator]

theorem parent?_of_child {base name : String} (solid : Solid base.toList)
    (named : IsName name.toList) : parent? (base ++ "/" ++ name) = some base := by
  have some := solid.ne_nil
  obtain ⟨before, last, split, kept⟩ := solid
  have pieces : components ((anchor base.toList).2 ++ separator :: name.toList) =
      (before ++ [last]) ++ [name.toList] := by
    rw [components_append, split, components_of_notMem named.plain]
  rw [parent?, toList_child, anchor_append some]
  dsimp only
  rw [fromLast_of_solid pieces named.solid]
  dsimp only
  rw [List.reverse_append, List.reverse_singleton, List.singleton_append,
    List.dropWhile_cons_of_neg (by rw [kept]; decide), List.reverse_cons, List.reverse_reverse,
    ← split, ofComponents_components, append_anchor, String.ofList_toList]

theorem parent?_of_isName {name : String} (named : IsName name.toList) :
    parent? name = some "" := by
  have pieces : components name.toList = [] ++ [name.toList] :=
    components_of_notMem named.plain
  rw [parent?, anchor_of_isName named]
  dsimp only
  rw [fromLast_of_solid pieces named.solid]
  rfl

/-! ## Beside a file -/

theorem besideFile_eq (file path : String) :
    besideFile file path =
      if isRelative path then (parent? file).elim path (join · path) else path := by
  rw [besideFile]
  cases parent? file with
  | none => exact (ite_self path).symm
  | some base => rfl

/-- A relative path is followed from the directory of the file that it is beside. -/
theorem besideFile_of_child {base name : String} (solid : Solid base.toList)
    (named : IsName name.toList) {path : String} (relative : isRelative path = true) :
    besideFile (base ++ "/" ++ name) path = base ++ "/" ++ path := by
  obtain ⟨character, last, inside⟩ := solid.getLast?
  have joined : join base path = base ++ "/" ++ path := by
    simp [join, relative, last, inside, solid.ne_nil]
  rw [besideFile, parent?_of_child solid named]
  dsimp only
  rw [if_pos relative, joined]

/-- Beside a file that is named without a directory every path stays as it is. -/
theorem besideFile_of_isName {name : String} (named : IsName name.toList) (path : String) :
    besideFile name path = path := by
  have joined : join "" path = path := by
    simp [join]
  rw [besideFile, parent?_of_isName named]
  dsimp only
  rw [joined, ite_self]

example : besideFile "conf/boot.toml" "menu" = "conf/menu" := by decide

end BootScript.Path
