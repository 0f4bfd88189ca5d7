import SiteCache.Files

set_option autoImplicit false

namespace SiteCache.Files

variable {α : Type} {files made after : Files α} {names place : List String} {path : String}
  {content : α} {entry : FileEntry α}

theorem entry?_put (files : Files α) (entry : FileEntry α) (free : ¬(names = [] ∨ names = ["/"]))
    (place : List String) :
    Files.entry? (files.put names entry) place =
      if place = names then some entry else files.entry? place := by
  unfold entry?
  split
  next standing =>
    rw [if_neg]
    rintro rfl
    exact free standing
  next =>
    by_cases same : place = names
    · simp [put, same]
    · have others : ((files.entries.filter fun e => e.1 ≠ names).find? fun e => e.1 = place) =
          files.entries.find? fun e => e.1 = place := by
        rw [List.find?_filter]
        congr 1
        funext e
        by_cases here : e.1 = place <;> simp [here, same]
      rw [if_neg same, put, List.find?_cons_of_neg (by simp [Ne.symm same]), others]

theorem obstacle?_eq_none : files.obstacle? names = none ↔
    ∀ way ∈ waysTo names, files.entry? way = some .directory := by
  rw [obstacle?, List.findSome?_eq_none_iff]
  refine forall₂_congr fun way _ => ?_
  split <;> simp [*]

theorem ne_of_mem_waysTo (way : place ∈ waysTo names) : place ≠ names := by
  obtain ⟨n, short, rfl⟩ := List.mem_map.mp way
  intro same
  have length := congrArg List.length same
  rw [List.length_take] at length
  have := List.mem_range.mp short
  omega

theorem find_eq_ok : files.find path = .ok entry ↔ path ≠ "" ∧
    files.obstacle? (Path.names path) = none ∧ files.entry? (Path.names path) = some entry := by
  unfold find
  by_cases empty : path = ""
  · simp [empty]
  · rw [if_neg empty]
    split <;> simp [*]

theorem read_eq_ok : files.read path = .ok content ↔ path ≠ "" ∧
    files.obstacle? (Path.names path) = none ∧
      files.entry? (Path.names path) = some (.file content) := by
  rw [← find_eq_ok]
  unfold read
  split <;> simp [*]

theorem write_eq_ok : files.write path content = .ok after ↔ path ≠ "" ∧
    files.obstacle? (Path.names path) = none ∧
      files.entry? (Path.names path) ≠ some .directory ∧
        files.put (Path.names path) (.file content) = after := by
  unfold write find
  by_cases empty : path = ""
  · simp [empty]
  · rw [if_neg empty]
    cases obstacle : files.obstacle? (Path.names path) with
    | some e => cases e <;> simp [empty]
    | none => rcases there : files.entry? (Path.names path) with _ | _ | _ <;> simp [empty]

theorem read_of_write (written : files.write path content = .ok after) :
    after.read path = .ok content := by
  obtain ⟨nonempty, reached, free, rfl⟩ := write_eq_ok.mp written
  have free : ¬(Path.names path = [] ∨ Path.names path = ["/"]) := fun standing =>
    free (if_pos standing)
  refine read_eq_ok.mpr ⟨nonempty, ?_, by rw [entry?_put _ _ free, if_pos rfl]⟩
  refine obstacle?_eq_none.mpr fun way leads => ?_
  rw [entry?_put _ _ free, if_neg (ne_of_mem_waysTo leads)]
  exact obstacle?_eq_none.mp reached way leads

def Grown (files made : Files α) : Prop :=
  ∀ names, made.entry? names = files.entry? names ∨
    files.entry? names = none ∧ made.entry? names = some .directory

theorem Grown.refl (files : Files α) : Grown files files := fun _ => .inl rfl

theorem Grown.trans (first : Grown files made) (second : Grown made after) :
    Grown files after := by
  intro names
  obtain same | ⟨missing, new⟩ := first names <;> obtain same' | ⟨missing', new'⟩ := second names
  · exact .inl (same'.trans same)
  · exact .inr ⟨same ▸ missing', new'⟩
  · exact .inr ⟨missing, same'.trans new⟩
  · exact .inr ⟨missing, new'⟩

theorem Grown.stays (grown : Grown files made) (there : files.entry? names = some entry) :
    made.entry? names = some entry := by
  obtain same | ⟨missing, -⟩ := grown names
  · exact same.trans there
  · cases missing.symm.trans there

theorem Grown.file_iff (grown : Grown files made) :
    made.entry? names = some (.file content) ↔ files.entry? names = some (.file content) := by
  refine ⟨fun there => ?_, grown.stays⟩
  obtain same | ⟨-, new⟩ := grown names
  · exact same.symm.trans there
  · cases new.symm.trans there

theorem Grown.read (grown : Grown files made) (held : files.read path = .ok content) :
    made.read path = .ok content := by
  obtain ⟨nonempty, reached, there⟩ := read_eq_ok.mp held
  refine read_eq_ok.mpr ⟨nonempty, obstacle?_eq_none.mpr fun way leads => ?_, grown.stays there⟩
  exact grown.stays (obstacle?_eq_none.mp reached way leads)

theorem grown_put_directory (missing : files.entry? names = none) :
    Grown files (files.put names .directory) := by
  have free : ¬(names = [] ∨ names = ["/"]) := by
    intro standing
    cases missing.symm.trans (if_pos standing)
  intro place
  rw [entry?_put _ _ free]
  by_cases same : place = names
  · exact .inr ⟨same ▸ missing, if_pos same⟩
  · exact .inl (if_neg same)

def makeWay (names : List String) (files : Files α) (way : List String) :
    Except FileError (Files α) :=
  match files.entry? way with
  | some .directory => .ok files
  | some (.file _) => .error (if way = names then .alreadyExists else .notDirectory)
  | none => .ok (files.put way .directory)

theorem grown_of_makeWay (step : makeWay names files place = .ok made) : Grown files made := by
  unfold makeWay at step
  split at step
  · cases step
    exact .refl files
  · cases step
  · rename_i missing
    cases step
    exact grown_put_directory missing

theorem grown_of_makeWays {ways : List (List String)}
    (run : ways.foldlM (makeWay names) files = .ok made) : Grown files made := by
  induction ways generalizing files with
  | nil =>
    cases run
    exact .refl _
  | cons way ways ih =>
    rw [List.foldlM_cons] at run
    cases step : makeWay names files way with
    | error e =>
      rw [step] at run
      cases run
    | ok next =>
      rw [step] at run
      exact (grown_of_makeWay step).trans (ih run)

theorem grown_of_createDirectories (success : files.createDirectories path = .ok made) :
    Grown files made := by
  have run : (waysTo (Path.names path) ++ [Path.names path]).foldlM
      (makeWay (Path.names path)) files = .ok made := success
  exact grown_of_makeWays run

theorem grown_of_createParent (success : files.createParent path = .ok made) :
    Grown files made := by
  unfold createParent at success
  split at success
  · exact grown_of_createDirectories success
  · cases success
    exact .refl files

-- A place where a file can be written once the directories on the way to it are made.
def Writable (files : Files α) (path : String) : Prop :=
  ∃ made, files.createParent path = .ok made ∧
    ∀ content : α, ∃ after, made.write path content = .ok after

end SiteCache.Files
