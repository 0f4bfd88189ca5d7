import SiteCache.Proofs.Files
import SiteCache.Store.File

set_option autoImplicit false

namespace SiteCache.Store.Database

variable {files : Files FileContent} {path : String} {db : Database}

theorem ready_of_openFile (opened : openFile files path = .ok db) :
    db.isOpen = true ∧ db.migrated = true := by
  unfold openFile at opened
  split at opened
  · cases opened
    exact ⟨rfl, rfl⟩
  · split at opened
    · cases opened
      exact ⟨rfl, rfl⟩
    · split at opened <;> cases opened
      exact ⟨rfl, rfl⟩
    · cases opened
    · split at opened <;> cases opened
      exact ⟨rfl, rfl⟩

theorem writable_of_openFile (lasting : isTemporary path = false)
    (opened : openFile files path = .ok db) (content : FileContent) :
    ∃ after, files.write path content = .ok after := by
  have place : path ≠ "" ∧ files.obstacle? (Path.names path) = none ∧
      files.entry? (Path.names path) ≠ some .directory := by
    unfold openFile at opened
    rw [lasting] at opened
    simp only [Bool.false_eq_true, if_false] at opened
    split at opened
    · rename_i found
      obtain ⟨named, reached, there⟩ := Files.find_eq_ok.mp found
      exact ⟨named, reached, by rw [there]; exact nofun⟩
    · rename_i found
      obtain ⟨named, reached, there⟩ := Files.find_eq_ok.mp found
      exact ⟨named, reached, by rw [there]; exact nofun⟩
    · cases opened
    · split at opened
      · rename_i written
        obtain ⟨named, reached, free, -⟩ := Files.write_eq_ok.mp written
        exact ⟨named, reached, free⟩
      · cases opened
  obtain ⟨named, reached, free⟩ := place
  exact ⟨_, Files.write_eq_ok.mpr ⟨named, reached, free, rfl⟩⟩

theorem openFile_closeFile (lasting : isTemporary path = false)
    (opened : openFile files path = .ok db) {db' : Database}
    (ready : db'.isOpen = true ∧ db'.migrated = true) :
    openFile (closeFile files path db') path = .ok db' := by
  obtain ⟨after, written⟩ := writable_of_openFile lasting opened (.database db')
  have found : after.find path = .ok (.file (.database db')) :=
    Files.find_eq_ok.mpr (Files.read_eq_ok.mp (Files.read_of_write written))
  rw [closeFile, lasting, written, openFile, lasting]
  obtain ⟨contents, supply, migrated, isOpen, refuses⟩ := db'
  obtain ⟨rfl, rfl⟩ := ready
  simp [Except.toOption, found]

end SiteCache.Store.Database
