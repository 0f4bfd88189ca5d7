import SiteCache.Config.Stored
import SiteCache.Proofs.Files
import SiteCache.Proofs.Toml.Document

set_option autoImplicit false

namespace SiteCache.Config

open Store (FileContent)
open Toml (Section Setting Value)

theorem text_text (s : String) : text (Setting.text s).value = some s := rfl

theorem inRange_of_le {n : Nat} (small : n ≤ Text.maxInt64) : Toml.InRange n := by
  unfold Toml.InRange
  omega

theorem inRange_toInt (n : Int64) : Toml.InRange n.toInt := by
  have low := n.le_toInt
  have high := n.toInt_lt
  simp only [Toml.InRange, Text.maxInt64]
  omega

theorem natural_number {limit n : Nat} (within : n ≤ limit) (small : n ≤ Text.maxInt64) :
    natural limit (Setting.number n).value = some n := by
  have held : (Int64.ofInt n).toInt = n := by
    simp only [Text.maxInt64] at small
    exact Int64.toInt_ofInt_of_le (by omega) (by omega)
  simp [natural, Setting.value, Toml.numberValue, integer, held, within]

theorem natural64_number {n : UInt64} (small : n.toNat ≤ Text.maxInt64) :
    natural64 (Setting.number n.toNat).value = some n := by
  have within : n.toNat ≤ UInt64.size - 1 := Nat.le_sub_one_of_lt n.toNat_lt
  rw [natural64, natural_number within small, Option.map_some, UInt64.ofNat_toNat]

theorem toNat_le_maxInt64 (n : UInt32) : n.toNat ≤ Text.maxInt64 :=
  Nat.le_trans (Nat.le_of_lt n.toNat_lt) (by decide)

theorem natural32_number (n : UInt32) : natural32 (Setting.number n.toNat).value = some n := by
  have within : n.toNat ≤ UInt32.size - 1 := Nat.le_sub_one_of_lt n.toNat_lt
  rw [natural32, natural_number within (toNat_le_maxInt64 n), Option.map_some, UInt32.ofNat_toNat]

theorem integers_numbers (ns : List Int64) :
    integers (Setting.numbers (ns.map Int64.toInt)).value = some ns := by
  induction ns with
  | nil => rfl
  | cons n ns ih =>
    have first : integer (Toml.numberValue n.toInt) = some n :=
      congrArg some (Int64.ofInt_toInt n)
    simp only [Setting.value, integers] at ih ⊢
    rw [List.map_cons, List.map_cons, List.mapM_cons, first, ih]
    rfl

def sourceOf (settings : List (String × Setting)) : Source :=
  .named (settings.map Toml.settingEntry)

section

variable {α : Type} {place : Nat} {reader : Value → Option α} {default : α}

theorem setting_here (name : String) (setting : Setting) (rest : List (String × Setting)) :
    (sourceOf ((name, setting) :: rest)).setting place name reader default =
      reader setting.value := by
  simp [sourceOf, Toml.settingEntry, Source.setting, Source.get?, Toml.Entries.get?]

theorem setting_later {key name : String} (other : key ≠ name) (setting : Setting)
    (rest : List (String × Setting)) :
    (sourceOf ((key, setting) :: rest)).setting place name reader default =
      (sourceOf rest).setting place name reader default := by
  simp [sourceOf, Toml.settingEntry, Source.setting, Source.get?, Toml.Entries.get?, other]

end

variable {c : Config}

theorem sections_readable (small : c.timeoutSecs.toNat ≤ Text.maxInt64) :
    ∀ sec ∈ c.sections, sec.Readable := by
  have names : Toml.IsBare "api" ∧ Toml.IsBare "sync" ∧ Toml.IsBare "database" := by decide
  have api : ∀ key ∈ ["base_url", "timeout_secs", "user_agent"], Toml.IsBare key := by decide
  have sync : ∀ key ∈ ["page_size", "max_pages", "site_ids"], Toml.IsBare key := by decide
  have path : Toml.IsBare "path" := by decide
  rw [sections, List.forall_mem_cons, List.forall_mem_cons, List.forall_mem_singleton]
  refine ⟨⟨names.1, api, ?_, by simp⟩, ⟨names.2.1, sync, ?_, by simp⟩, ⟨names.2.2, ?_, ?_, ?_⟩⟩
  · simp [Setting.Fits, inRange_of_le small]
  · simp [Setting.Fits, inRange_of_le (toNat_le_maxInt64 _), inRange_toInt]
  · cases c.databasePath <;> simp [path]
  · cases c.databasePath <;> simp [Setting.Fits]
  · cases c.databasePath <;> simp

theorem ofEntries_sections (small : c.timeoutSecs.toNat ≤ Text.maxInt64) :
    ofEntries (c.sections.map Section.entry) = some c := by
  have api : sectionOf (c.sections.map Section.entry) "api" = some (sourceOf
      [("base_url", .text c.baseUrl), ("timeout_secs", .number c.timeoutSecs.toNat),
        ("user_agent", .text c.userAgent)]) := rfl
  have sync : sectionOf (c.sections.map Section.entry) "sync" = some (sourceOf
      [("page_size", .number c.pageSize.toNat), ("max_pages", .number c.maxPages.toNat),
        ("site_ids", .numbers (c.siteIds.map Int64.toInt))]) := rfl
  have database : sectionOf (c.sections.map Section.entry) "database" = some (sourceOf
      (c.databasePath.toList.map fun path => ("path", .text path))) := rfl
  have path : (sourceOf (c.databasePath.toList.map fun path => ("path", .text path))).setting 0
      "path" (fun value => (text value).map some) none = some c.databasePath := by
    cases c.databasePath <;> rfl
  rw [ofEntries, api, sync, database]
  simp [path, setting_here, setting_later, text_text, natural64_number small, natural32_number,
    integers_numbers]

theorem ofText_write (small : c.timeoutSecs.toNat ≤ Text.maxInt64) :
    ofText (Toml.write c.sections) = .ok c := by
  have distinct : (c.sections.map Section.name).Nodup := by
    simp [sections]
  rw [ofText, Toml.read_write (sections_readable small) distinct, Option.bind_some,
    ofEntries_sections small]

variable {files made after : Files FileContent} {path : String}

theorem save_of_large (directory : files.createParent path = .ok made)
    (large : Text.maxInt64 < c.timeoutSecs.toNat) :
    c.save files path =
      (.error (.configSaveFailed "out-of-range value for u64 type"), made) := by
  simp [save, toText, directory, Nat.not_le.mpr large]

theorem save_of_small (directory : files.createParent path = .ok made)
    (small : c.timeoutSecs.toNat ≤ Text.maxInt64)
    (written : made.write path (.text (Toml.write c.sections)) = .ok after) :
    c.save files path = (.ok (), after) := by
  simp [save, toText, directory, small, written]

theorem ofFile_of_write (small : c.timeoutSecs.toNat ≤ Text.maxInt64)
    (written : made.write path (.text (Toml.write c.sections)) = .ok after) :
    ofFile after path = .ok c := by
  rw [ofFile, Files.read_of_write written]
  exact ofText_write small

def SameFiles (files after : Files FileContent) : Prop :=
  (∀ place content, files.read place = .ok content → after.read place = .ok content) ∧
    ∀ names content, after.entry? names = some (.file content) ↔
      files.entry? names = some (.file content)

theorem sameFiles_of_grown (grown : files.Grown made) : SameFiles files made :=
  ⟨fun _ _ => grown.read, fun _ _ => grown.file_iff⟩

/-- Saving where a file can be written fails for the timeouts that no file holds and for no others.
It leaves every file as it was then, and otherwise the same configuration is read back. -/
theorem save_ofFile (c : Config) (writable : files.Writable path) :
    ((∃ reason, (c.save files path).1 = .error (.configSaveFailed reason)) ↔
        Text.maxInt64 < c.timeoutSecs.toNat) ∧
      (Text.maxInt64 < c.timeoutSecs.toNat → SameFiles files (c.save files path).2) ∧
      (c.timeoutSecs.toNat ≤ Text.maxInt64 → (c.save files path).1 = .ok () ∧
        ofFile (c.save files path).2 path = .ok c) := by
  obtain ⟨made, directory, accepts⟩ := writable
  by_cases small : c.timeoutSecs.toNat ≤ Text.maxInt64
  · obtain ⟨after, written⟩ := accepts (.text (Toml.write c.sections))
    have large := Nat.not_lt.mpr small
    rw [save_of_small directory small written]
    refine ⟨⟨nofun, fun absurd => (large absurd).elim⟩, fun absurd => (large absurd).elim, ?_⟩
    exact fun _ => ⟨rfl, ofFile_of_write small written⟩
  · have large := Nat.not_le.mp small
    rw [save_of_large directory large]
    refine ⟨⟨fun _ => large, fun _ => ⟨_, rfl⟩⟩, fun _ => ?_, fun absurd => (small absurd).elim⟩
    exact sameFiles_of_grown (Files.grown_of_createParent directory)

-- Texts that need each of the ways of quoting, and the largest timeout that a file holds.
def quotedConfig : Config where
  baseUrl := "https://a/\"b\"\n\r\t'''c\\"
  timeoutSecs := 9223372036854775807
  userAgent := "\u0000\u007f\"\"\" é"
  pageSize := 0
  maxPages := 4294967295
  siteIds := [7, -9223372036854775808, 0]
  databasePath := some "C:\\data\nshop.db"

def unstorableConfig : Config := { quotedConfig with timeoutSecs := 9223372036854775808 }

def configPath : String := "settings/shopsync.toml"

def olderFiles : Files FileContent :=
  ⟨[(["settings"], .directory), (["settings", "shopsync.toml"], .file (.text "older"))]⟩

theorem quotedConfig_save :
    olderFiles.Writable configPath ∧
      (quotedConfig.save olderFiles configPath).1 = .ok () ∧
      ofFile (quotedConfig.save olderFiles configPath).2 configPath = .ok quotedConfig ∧
      (∃ reason, (unstorableConfig.save olderFiles configPath).1 =
        .error (.configSaveFailed reason)) ∧
      (unstorableConfig.save olderFiles configPath).2.read configPath = .ok (.text "older") := by
  have writable : olderFiles.Writable configPath := ⟨_, rfl, fun _ => ⟨_, rfl⟩⟩
  have stored := (save_ofFile quotedConfig writable).2.2 (by decide)
  have refused := save_ofFile unstorableConfig writable
  have kept := refused.2.1 (by decide)
  exact ⟨writable, stored.1, stored.2, refused.1.mpr (by decide), kept.1 _ _ rfl⟩

end SiteCache.Config
