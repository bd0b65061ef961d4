import Mathlib.Data.String.Basic
import Switchboard.Plugin.Folder
import Switchboard.Proofs.Lists

/-
  Trees of files.

  A tree is known by what stands at its paths.  A file leaves nothing at the paths
  below it, and a folder is what is left where something lies below.

  * `Stands`: what can stand at a path, and `look_stands` says that the list is
    complete;
  * `look_eq_folder`: which paths lead to folders, `look_in_folder`: that nothing in
    a folder is out of reach;
  * `mem_foldersIn`, `pairwise_foldersIn`: the folders in a folder, by name.
-/

namespace Switchboard.Files

variable {files : Files} {path : List String} {name : String}

/-! ## What stands at a path -/

/-- No file stands at a path or above it. -/
def Clear (files : Files) (path : List String) : Prop :=
  ∀ above bytes, (above, .file bytes) ∈ files → ¬above <+: path

/-- What can stand at a path. -/
inductive Stands (files : Files) (path : List String) : FileView → Prop
  | file (bytes) : (path, .file bytes) ∈ files → Stands files path (.file bytes)
  | blocked (above bytes) : (above, .file bytes) ∈ files → above <+: path → above ≠ path →
      Stands files path .blocked
  | folder : files.Clear path → (path = [] ∨ ∃ e ∈ files, path <+: e.1) →
      Stands files path .folder
  | missing : files.Clear path → path ≠ [] → (∀ e ∈ files, ¬path <+: e.1) →
      Stands files path .missing

theorem look_stands (files : Files) (path : List String) : files.Stands path (files.look path) := by
  unfold look
  dsimp only
  split
  · next p bytes hfind =>
    have hat := List.find?_some hfind
    simp only [Bool.and_true, decide_eq_true_eq] at hat
    exact .file bytes (hat ▸ List.mem_of_find?_eq_some hfind)
  · next hfind =>
    have hat : ∀ bytes, (path, .file bytes) ∉ files := by
      intro bytes hmem
      generalize hfound : List.find? _ files = found at hfind
      rcases found with _ | ⟨p, _ | bytes'⟩
      · simpa using List.find?_eq_none.1 hfound _ hmem
      · simpa using List.find?_some hfound
      · exact hfind p bytes' rfl
    split
    · next hblocked =>
      obtain ⟨⟨above, entry⟩, hmem, h⟩ := List.any_eq_true.1 hblocked
      cases entry with
      | folder => simp at h
      | file bytes =>
        simp only [Bool.true_and, Bool.and_eq_true, decide_eq_true_eq,
          List.isPrefixOf_iff_prefix] at h
        exact .blocked above bytes hmem h.2 fun heq => by simp [heq] at h
    · next hblocked =>
      -- no file is at the path, and none strictly above it
      have hclear : files.Clear path := by
        intro above bytes hmem habove
        by_cases heq : above = path
        · exact hat bytes (heq ▸ hmem)
        · have hlt : above.length < path.length :=
            lt_of_le_of_ne habove.length_le fun h => heq (habove.eq_of_length h)
          refine hblocked (List.any_eq_true.2 ⟨_, hmem, ?_⟩)
          simpa [hlt] using habove
      split
      · next hthere => exact .folder hclear (by simpa using hthere)
      · next hthere =>
        simp only [Bool.or_eq_true, decide_eq_true_eq, List.any_eq_true, not_or, not_exists,
          not_and, List.isPrefixOf_iff_prefix] at hthere
        exact .missing hclear hthere.1 hthere.2

theorem look_eq_folder :
    files.look path = .folder ↔
      files.Clear path ∧ (path = [] ∨ ∃ e ∈ files, path <+: e.1) := by
  have hlook := files.look_stands path
  generalize files.look path = view at hlook
  constructor
  · rintro rfl
    cases hlook with
    | folder hclear hthere => exact ⟨hclear, hthere⟩
  · rintro ⟨hclear, hthere⟩
    cases hlook with
    | file bytes hmem => exact absurd List.prefix_rfl (hclear _ _ hmem)
    | blocked above bytes hmem habove _ => exact absurd habove (hclear _ _ hmem)
    | folder => rfl
    | missing _ hne hnone =>
      obtain rfl | ⟨e, he, hbelow⟩ := hthere
      · exact absurd rfl hne
      · exact absurd hbelow (hnone e he)

/-- Nothing in a folder is behind a file. -/
theorem look_in_folder (h : files.look path = .folder) (name : String) :
    files.look (path ++ [name]) ≠ .blocked := by
  intro hblocked
  have hlook := files.look_stands (path ++ [name])
  rw [hblocked] at hlook
  cases hlook with
  | blocked above bytes hmem habove hne =>
    rcases List.prefix_concat_iff.1 habove with rfl | habove
    · exact hne rfl
    · exact (look_eq_folder.1 h).1 above bytes hmem habove

/-! ## The folders in a folder -/

theorem mem_foldersIn :
    name ∈ files.foldersIn path ↔ files.look (path ++ [name]) = .folder := by
  unfold foldersIn
  dsimp only
  rw [List.mem_mergeSort, List.mem_filter, List.mem_eraseDups, List.mem_filterMap]
  constructor
  · rintro ⟨-, h⟩
    split at h
    · next hlook => exact hlook
    · cases h
  · intro h
    refine ⟨?_, by rw [h]⟩
    obtain ⟨-, hnil | ⟨e, he, below, hbelow⟩⟩ := look_eq_folder.1 h
    · simp at hnil
    · refine ⟨e, he, ?_⟩
      rw [← hbelow]
      simp

theorem pairwise_foldersIn (files : Files) (path : List String) :
    (files.foldersIn path).Pairwise (· ≤ ·) :=
  List.pairwise_mergeSort_le (f := fun name : String => name) _

/-- The folders that come before one of them by name are in front of it. -/
theorem mem_front {front back : List String} {name' : String}
    (hnames : files.foldersIn path = front ++ name :: back)
    (hfolder : files.look (path ++ [name']) = .folder) (hlt : name' < name) : name' ∈ front := by
  have hsorted := files.pairwise_foldersIn path
  have hmem := mem_foldersIn.2 hfolder
  rw [hnames] at hsorted hmem
  rcases List.mem_append.1 hmem with hfront | hback
  · exact hfront
  · have hle : name ≤ name' := by
      rcases List.mem_cons.1 hback with rfl | hback
      · exact le_rfl
      · exact List.rel_of_pairwise_cons (List.pairwise_append.1 hsorted).2.1 hback
    exact absurd hlt (not_lt.2 hle)

end Switchboard.Files
