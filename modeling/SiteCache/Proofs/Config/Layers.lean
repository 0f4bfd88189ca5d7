import SiteCache.Config.Stored
import SiteCache.Proofs.Config.Sites

set_option autoImplicit false

namespace SiteCache.Config

open Store (FileContent)
open Toml (Value Entries)

theorem override_eq (c : Config) (vars : Variables) :
    c.override vars = { c with
      baseUrl := (vars.read urlVariable some).getD c.baseUrl
      timeoutSecs := (vars.read timeoutVariable readUInt64).getD c.timeoutSecs
      pageSize := (vars.read pageSizeVariable readUInt32).getD c.pageSize
      maxPages := (vars.read maxPagesVariable readUInt32).getD c.maxPages
      siteIds := (vars.read sitesVariable readSites).getD c.siteIds
      databasePath := (vars.read databaseVariable fun s => some (some s)).getD c.databasePath } := by
  cases path : vars databaseVariable <;> simp [override, Variables.read, path]

section

variable {α : Type}

-- `raw` is what the file has for the setting, and `given` what its variable holds.
inductive Layered (given : Option String) (Denotes : String → α → Prop) (raw : Option Value)
    (Holds : Value → α → Prop) (default : α) : α → Prop
  | overridden {s : String} {a : α} : given = some s → Denotes s a →
    Layered given Denotes raw Holds default a
  | stored {value : Value} {a : α} : (∀ s, given = some s → ∀ b, ¬ Denotes s b) →
    raw = some value → Holds value a → Layered given Denotes raw Holds default a
  | missing : (∀ s, given = some s → ∀ b, ¬ Denotes s b) → raw = none →
    Layered given Denotes raw Holds default default

def rawSetting (entries : Entries) (table : String) (place : Nat) (name : String) : Option Value :=
  (sectionOf entries table).bind fun source => source.get? place name

variable {source : Source} {entries : Entries} {table name : String} {place : Nat}
  {reader : Value → Option α} {default a : α}

theorem layered_of_setting {Denotes : String → α → Prop} {Holds : Value → α → Prop}
    (given : Option String) (parse : String → Option α)
    (here : sectionOf entries table = some source)
    (setting : source.setting place name reader default = some a)
    (denotes : ∀ s b, parse s = some b ↔ Denotes s b)
    (holds : ∀ value b, reader value = some b → Holds value b) :
    Layered given Denotes (rawSetting entries table place name) Holds default
      ((given.bind parse).getD a) := by
  cases read : given.bind parse with
  | some b =>
    obtain ⟨s, set, parsed⟩ := Option.bind_eq_some_iff.mp read
    exact .overridden set ((denotes s b).mp parsed)
  | none =>
    have unread : ∀ s, given = some s → ∀ b, ¬ Denotes s b := by
      rintro s rfl b denoted
      rw [Option.bind_some, (denotes s b).mpr denoted] at read
      cases read
    rw [Source.setting] at setting
    split at setting
    · next absent =>
      obtain rfl := Option.some.inj setting
      exact .missing unread (by rw [rawSetting, here, Option.bind_some, absent])
    · next value present =>
      exact .stored unread (by rw [rawSetting, here, Option.bind_some, present])
        (holds value a setting)

end

def DenotesSites (s : String) (ids : List Int64) : Prop := Lists Literal (s.toList.splitOn ',') ids

def Denotes32 (s : String) (n : UInt32) : Prop := Text.NatNumeral s.toList n.toNat

def Denotes64 (s : String) (n : UInt64) : Prop := Text.NatNumeral s.toList n.toNat

theorem readSites_eq_some {s : String} {ids : List Int64} :
    readSites s = some ids ↔ DenotesSites s ids := by
  rw [readSites_eq, readParts_eq_some, DenotesSites]

theorem readUInt32_eq_some {s : String} {n : UInt32} : readUInt32 s = some n ↔ Denotes32 s n := by
  rw [readUInt32, Text.toOption_eq_some, Text.readUInt32_eq_ok, Denotes32]

theorem readUInt64_eq_some {s : String} {n : UInt64} : readUInt64 s = some n ↔ Denotes64 s n := by
  rw [readUInt64, Text.toOption_eq_some, Text.readUInt64_eq_ok, Denotes64]

theorem text_eq_some {value : Value} {s : String} : text value = some s ↔ value = .string s := by
  cases value <;> simp [text]

theorem integer_eq_some {value : Value} {n : Int64} :
    integer value = some n ↔ value = .integer n := by
  cases value <;> simp [integer]

def HoldsNumber (value : Value) (n : Nat) : Prop := ∃ k : Int64, value = .integer k ∧ k.toInt = n

theorem natural_holds {limit n : Nat} {value : Value} (read : natural limit value = some n) :
    ∃ k, value = .integer k ∧ k.toInt = n ∧ n ≤ limit := by
  rw [natural] at read
  split at read
  · next k here =>
    obtain ⟨⟨least, most⟩, same⟩ := Option.ite_none_right_eq_some.mp read
    obtain rfl := Option.some.inj same
    exact ⟨k, integer_eq_some.mp here, by omega, by omega⟩
  · cases read

theorem holdsNumber_of_map {α : Type} {limit : Nat} {ofNat : Nat → α} {toNat : α → Nat}
    {value : Value} {a : α} (exact : ∀ n ≤ limit, toNat (ofNat n) = n)
    (read : (natural limit value).map ofNat = some a) : HoldsNumber value (toNat a) := by
  obtain ⟨n, number, rfl⟩ := Option.map_eq_some_iff.mp read
  obtain ⟨k, rfl, same, small⟩ := natural_holds number
  exact ⟨k, rfl, by rw [same, exact n small]⟩

theorem natural32_holds {value : Value} {n : UInt32} (read : natural32 value = some n) :
    HoldsNumber value n.toNat :=
  holdsNumber_of_map (fun _ small => UInt32.toNat_ofNat_of_lt' (Nat.lt_succ_of_le small)) read

theorem natural64_holds {value : Value} {n : UInt64} (read : natural64 value = some n) :
    HoldsNumber value n.toNat :=
  holdsNumber_of_map (fun _ small => UInt64.toNat_ofNat_of_lt' (Nat.lt_succ_of_le small)) read

theorem mapM_integer {items : List Value} {ids : List Int64} (read : items.mapM integer = some ids) :
    items = ids.map .integer := by
  induction items generalizing ids with
  | nil => simpa using read
  | cons item items ih =>
    simp only [List.mapM_cons, Option.bind_eq_bind, Option.bind_eq_some_iff, integer_eq_some,
      Option.pure_def, Option.some.injEq] at read
    obtain ⟨n, rfl, ids, rest, rfl⟩ := read
    rw [ih rest, List.map_cons]

theorem integers_holds {value : Value} {ids : List Int64} (read : integers value = some ids) :
    value = .array (ids.map .integer) := by
  cases value with
  | array items => rw [mapM_integer read]
  | _ => cases read

-- The effective configuration, setting by setting. No variable holds the user agent.
structure Effective (entries : Entries) (vars : Variables) (c : Config) : Prop where
  baseUrl : Layered (vars urlVariable) (fun s url => s = url) (rawSetting entries "api" 0 "base_url")
    (fun value url => value = .string url) "https://public-api.wordpress.com" c.baseUrl
  timeoutSecs : Layered (vars timeoutVariable) Denotes64 (rawSetting entries "api" 1 "timeout_secs")
    (fun value n => HoldsNumber value n.toNat) 30 c.timeoutSecs
  userAgent : Layered none (fun _ _ => False) (rawSetting entries "api" 2 "user_agent")
    (fun value agent => value = .string agent) "shopsync/0.1.0" c.userAgent
  pageSize : Layered (vars pageSizeVariable) Denotes32 (rawSetting entries "sync" 0 "page_size")
    (fun value n => HoldsNumber value n.toNat) defaultPageSize c.pageSize
  maxPages : Layered (vars maxPagesVariable) Denotes32 (rawSetting entries "sync" 1 "max_pages")
    (fun value n => HoldsNumber value n.toNat) defaultMaxPages c.maxPages
  siteIds : Layered (vars sitesVariable) DenotesSites (rawSetting entries "sync" 2 "site_ids")
    (fun value ids => value = .array (ids.map .integer)) [] c.siteIds
  databasePath : Layered (vars databaseVariable) (fun s path => some s = path)
    (rawSetting entries "database" 0 "path") (fun value path => ∃ s, value = .string s ∧ some s = path)
    none c.databasePath

theorem effective_of_entries {entries : Entries} {c : Config} (vars : Variables)
    (read : ofEntries entries = some c) : Effective entries vars (c.override vars) := by
  simp only [ofEntries, Option.bind_eq_bind, Option.bind_eq_some_iff, Option.pure_def,
    Option.some.injEq] at read
  obtain ⟨api, hereApi, sync, hereSync, database, hereDatabase, url, urlSet, timeout, timeoutSet,
    agent, agentSet, size, sizeSet, pages, pagesSet, ids, idsSet, path, pathSet, rfl⟩ := read
  have textHolds (value : Value) (s : String) (read : text value = some s) : value = .string s :=
    text_eq_some.mp read
  rw [override_eq]
  constructor
  case baseUrl =>
    exact layered_of_setting _ some hereApi urlSet (fun _ _ => Option.some_inj) textHolds
  case timeoutSecs =>
    exact layered_of_setting _ readUInt64 hereApi timeoutSet (fun _ _ => readUInt64_eq_some)
      fun _ _ => natural64_holds
  case userAgent =>
    exact layered_of_setting none (fun _ => none) hereApi agentSet
      (fun _ _ => iff_of_false nofun id) textHolds
  case pageSize =>
    exact layered_of_setting _ readUInt32 hereSync sizeSet (fun _ _ => readUInt32_eq_some)
      fun _ _ => natural32_holds
  case maxPages =>
    exact layered_of_setting _ readUInt32 hereSync pagesSet (fun _ _ => readUInt32_eq_some)
      fun _ _ => natural32_holds
  case siteIds =>
    exact layered_of_setting _ readSites hereSync idsSet (fun _ _ => readSites_eq_some)
      fun _ _ => integers_holds
  case databasePath =>
    exact layered_of_setting _ (fun s => some (some s)) hereDatabase pathSet
      (fun _ _ => Option.some_inj) (by simp [text_eq_some])

theorem exists_of_ofFile {files : Files FileContent} {path : String} {c : Config}
    (accepted : ofFile files path = .ok c) :
    ∃ content s entries, files.read path = .ok content ∧ content.text? = some s ∧
      Toml.read s = some entries ∧ ofEntries entries = some c := by
  rw [ofFile] at accepted
  split at accepted
  · cases accepted
  · next content held =>
    split at accepted
    · next s decoded =>
      rw [ofText] at accepted
      split at accepted
      · next c' read =>
        obtain ⟨entries, parsed, settings⟩ := Option.bind_eq_some_iff.mp read
        obtain rfl := Except.ok.inj accepted
        exact ⟨content, s, entries, held, decoded, parsed, settings⟩
      · cases accepted
    · cases accepted

-- Any text is a URL or a path.
def Malformed (name text : String) : Prop :=
  (name = timeoutVariable ∧ ∀ n, ¬ Denotes64 text n) ∨
    ((name = pageSizeVariable ∨ name = maxPagesVariable) ∧ ∀ n, ¬ Denotes32 text n) ∨
    (name = sitesVariable ∧ ∀ ids, ¬ DenotesSites text ids)

-- Of some variables that cannot be read, none is set any more.
def Dropped (vars others : Variables) : Prop :=
  ∀ name, others name = vars name ∨
    others name = none ∧ ∃ text, vars name = some text ∧ Malformed name text

theorem read_of_dropped {α : Type} {vars others : Variables} {name : String}
    {reader : String → Option α} (dropped : Dropped vars others)
    (fails : ∀ text, Malformed name text → reader text = none) :
    others.read name reader = vars.read name reader := by
  rcases dropped name with same | ⟨unset, text, set, malformed⟩
  · rw [Variables.read, Variables.read, same]
  · rw [Variables.read, Variables.read, unset, set, Option.bind_some, fails text malformed,
      Option.bind_none]

theorem fails_of_malformed :
    (∀ text, Malformed urlVariable text → some text = none) ∧
      (∀ text, Malformed timeoutVariable text → readUInt64 text = none) ∧
      (∀ text, Malformed pageSizeVariable text → readUInt32 text = none) ∧
      (∀ text, Malformed maxPagesVariable text → readUInt32 text = none) ∧
      (∀ text, Malformed sitesVariable text → readSites text = none) ∧
      ∀ text, Malformed databaseVariable text → some (some text) = none := by
  simp [Malformed, urlVariable, databaseVariable, timeoutVariable, pageSizeVariable,
    maxPagesVariable, sitesVariable, Option.eq_none_iff_forall_ne_some, readUInt64_eq_some,
    readUInt32_eq_some, readSites_eq_some]

theorem override_dropped (c : Config) {vars others : Variables} (dropped : Dropped vars others) :
    c.override others = c.override vars := by
  obtain ⟨url, timeout, pageSize, maxPages, sites, path⟩ := fails_of_malformed
  rw [override_eq, override_eq, read_of_dropped dropped url, read_of_dropped dropped timeout,
    read_of_dropped dropped pageSize, read_of_dropped dropped maxPages,
    read_of_dropped dropped sites, read_of_dropped dropped path]

theorem override_override (c : Config) (vars : Variables) :
    (c.override vars).override vars = c.override vars := by
  have again {α : Type} (value : Option α) (a : α) : value.getD (value.getD a) = value.getD a := by
    cases value <;> rfl
  simp only [override_eq, again]

/-- Each setting is that of its variable, else that of the file, else the default. A variable that
cannot be read might as well not be set, and overriding again changes nothing. -/
theorem override_layered (c : Config) (vars : Variables) :
    (∀ files path, ofFile files path = .ok c →
      ∃ content s entries, files.read path = .ok content ∧ content.text? = some s ∧
        Toml.read s = some entries ∧ Effective entries vars (c.override vars)) ∧
    (∀ others, Dropped vars others → c.override others = c.override vars) ∧
    (c.override vars).override vars = c.override vars := by
  refine ⟨fun files path accepted => ?_, fun _ => override_dropped c, override_override c vars⟩
  obtain ⟨content, s, entries, held, decoded, parsed, read⟩ := exists_of_ofFile accepted
  exact ⟨content, s, entries, held, decoded, parsed, effective_of_entries vars read⟩

def partialFiles : Files FileContent :=
  ⟨[(["shop.toml"], .file (.text "[sync]\nsite_ids = [3]\npage_size = 20\n"))]⟩

def soundVariables : Variables
  | "SHOPSYNC_API_URL" => some "x"
  | "SHOPSYNC_MAX_PAGES" => some "+7"
  | _ => none

def mixedVariables : Variables
  | "SHOPSYNC_SITE_IDS" => some "1,two"
  | "SHOPSYNC_TIMEOUT_SECS" => some "-1"
  | name => soundVariables name

theorem mixedVariables_dropped : Dropped mixedVariables soundVariables := by
  intro name
  by_cases sites : name = sitesVariable
  · subst sites
    refine .inr ⟨rfl, "1,two", rfl, .inr (.inr ⟨rfl, fun ids denoted => ?_⟩)⟩
    exact nomatch (readSites_eq_some.mpr denoted : none = some ids)
  · by_cases timeout : name = timeoutVariable
    · subst timeout
      refine .inr ⟨rfl, "-1", rfl, .inl ⟨rfl, fun n denoted => ?_⟩⟩
      exact nomatch (readUInt64_eq_some.mpr denoted : none = some n)
    · exact .inl (by simp_all [mixedVariables, sitesVariable, timeoutVariable])

theorem partialFiles_layered :
    (∃ content s entries, partialFiles.read "shop.toml" = .ok content ∧ content.text? = some s ∧
      Toml.read s = some entries ∧ Effective entries mixedVariables
        { baseUrl := "x", maxPages := 7, siteIds := [3], pageSize := 20 }) ∧
    ({ siteIds := [3], pageSize := 20 } : Config).override soundVariables =
      ({ siteIds := [3], pageSize := 20 } : Config).override mixedVariables := by
  obtain ⟨layers, others, -⟩ := override_layered { siteIds := [3], pageSize := 20 } mixedVariables
  refine ⟨?_, others _ mixedVariables_dropped⟩
  exact layers partialFiles "shop.toml" (by decide +kernel)

end SiteCache.Config
