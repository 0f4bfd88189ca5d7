import Mathlib.Order.Interval.Finset.Nat
import SiteCache.Program.Seed
import SiteCache.Proofs.Store.File
import SiteCache.Proofs.Store.Merging
import SiteCache.Proofs.Sync.Synchronizing

set_option autoImplicit false

namespace SiteCache.Seed

open Program (Ending)
open Store
open Sync (inSession)

def samples (site : SiteId) (now : Time.Instant) (count : Nat) :
    (k : ResourceKind) → List (RecordOf k)
  | .sitePlugin => samplePlugins site
  | .product => sampleProducts site now count
  | .coupon => sampleCoupons site now

def productKey (i : Nat) : Int64 := .ofNat (1000 + i)

def sampleKeys (count : Nat) : (k : ResourceKind) → List (KeyOf k)
  | .sitePlugin => plugins.map fun plugin => plugin.2.1
  | .product => (List.range count).map productKey
  | .coupon => (List.range coupons.length).map fun i => .ofNat (500 + i)

def Summaries.of (s : Summaries) : ResourceKind → Summary
  | .sitePlugin => s.plugins
  | .product => s.products
  | .coupon => s.coupons

section

variable {site : SiteId} {now : Time.Instant} {count : Nat} {k : ResourceKind}

theorem samples_keys (site : SiteId) (now : Time.Instant) (count : Nat) (k : ResourceKind) :
    (samples site now count k).map Resource.key = sampleKeys count k := by
  cases k with
  | sitePlugin => rfl
  | product => exact List.map_map
  | coupon => rfl

theorem samples_site {r : RecordOf k} (member : r ∈ samples site now count k) :
    Resource.site r = site := by
  cases k with
  | product =>
    obtain ⟨i, -, rfl⟩ := List.mem_map.mp member
    rfl
  | sitePlugin =>
    obtain ⟨i, inside, rfl⟩ := List.mem_mapIdx.mp member
    rfl
  | coupon =>
    obtain ⟨i, inside, rfl⟩ := List.mem_mapIdx.mp member
    rfl

theorem mem_fetchedKeys_samples {key : KeyOf k} :
    key ∈ fetchedKeys site (samples site now count k) ↔ key ∈ sampleKeys count k := by
  rw [mem_fetchedKeys, ← samples_keys site now count k, List.mem_map]
  refine exists_congr fun r => and_congr_right fun member => and_iff_right ?_
  simpa [Plan.isLocal] using samples_site member

theorem productKey_inj {i j : Nat} (first : i < 2 ^ 58) (second : j < 2 ^ 58)
    (same : productKey i = productKey j) : i = j := by
  have value {n : Nat} (small : n < 2 ^ 58) : (productKey n).toInt = 1000 + n := by
    rw [productKey, Int64.toInt_ofNat_of_lt (by omega)]
    omega
  have both := congrArg Int64.toInt same
  rw [value first, value second] at both
  omega

theorem latest_sample {i : Nat} {r : Product} (few : count ≤ 2 ^ 58) (below : i < count)
    (latest : Plan.latest site (sampleProducts site now count) (productKey i) = some r) :
    r = sampleProduct site now i := by
  obtain ⟨member, -, key⟩ := Plan.latest_some latest
  obtain ⟨j, inside, rfl⟩ := List.mem_map.mp member
  have small := List.mem_range.mp inside
  rw [productKey_inj (j := i) (by omega) (by omega) key]

end

theorem fill_ok {site : SiteId} {now : Time.Instant} {count : Nat} {s s' : Session}
    {summaries : Summaries} (kept : KeptContents s.supply s.contents)
    (ran : (fill site now count).run s = (.ok summaries, s')) :
    KeptContents s'.supply s'.contents ∧ ∀ k, Merged site (samples site now count k)
      (kindRows k s.contents) (kindRows k s'.contents) (summaries.of k) := by
  unfold fill at ran
  rw [Session.run_bind] at ran
  split at ran
  · rename_i plugins s₁ first
    rw [Session.run_bind] at ran
    split at ran
    · rename_i products s₂ second
      rw [Session.run_bind] at ran
      split at ran
      · rename_i coupons s₃ third
        cases ran
        obtain ⟨kept₁, merged₁, others₁⟩ := Session.merge_ok (k := .sitePlugin) kept first
        obtain ⟨kept₂, merged₂, others₂⟩ := Session.merge_ok (k := .product) kept₁ second
        obtain ⟨kept₃, merged₃, others₃⟩ := Session.merge_ok (k := .coupon) kept₂ third
        refine ⟨kept₃, fun k => ?_⟩
        -- Each of the three merges is the only one that changes its table.
        cases k with
        | sitePlugin =>
          rw [others₃ .sitePlugin nofun, others₂ .sitePlugin nofun]
          exact merged₁
        | product =>
          rw [others₃ .product nofun, ← others₁ .product nofun]
          exact merged₂
        | coupon =>
          rw [← others₁ .coupon nofun, ← others₂ .coupon nofun]
          exact merged₃
      · cases ran
    · cases ran
  · cases ran

theorem fill_succeeds {s : Session} (willing : s.Willing) (site : SiteId) (now : Time.Instant)
    (count : Nat) : ∃ summaries s', (fill site now count).run s = (.ok summaries, s') ∧
      s'.Willing := by
  obtain ⟨plugins, s₁, first, willing₁⟩ :=
    Session.apply_succeeds (k := .sitePlugin) willing site (samplePlugins site) .merge
  obtain ⟨products, s₂, second, willing₂⟩ :=
    Session.apply_succeeds (k := .product) willing₁ site (sampleProducts site now count) .merge
  obtain ⟨coupons, s₃, third, willing₃⟩ :=
    Session.apply_succeeds (k := .coupon) willing₂ site (sampleCoupons site now) .merge
  refine ⟨⟨plugins, products, coupons⟩, s₃, ?_, willing₃⟩
  unfold fill
  rw [Session.run_bind, first]
  dsimp only
  rw [Session.run_bind, second]
  dsimp only
  rw [Session.run_bind, third]
  rfl

namespace Settings

variable {s : Settings} {now : Time.Instant} {files files' : Files FileContent}
  {db db' : Database} {summaries : Summaries}

def Reports (s : Settings) (now : Time.Instant) (files : Files FileContent)
    (summaries : Summaries) (files' : Files FileContent) : Prop :=
  ∃ lines, s.run now files = (⟨0, s.heading ++ ["✓ Connected to database, migrations applied"] ++
    summaries.lines ++ lines, []⟩, files')

theorem closing_ok (ready : db.isOpen = true ∧ db.migrated = true) (site : SiteId) :
    ∃ lines, closing site db = .ok lines := by
  have counts (R : Type) {K : Type} [DecidableEq K] [NaturalKey K] [Cached R K] :
      db.count R site = .ok (((Cached.rows db.contents : List (Row R)).filter (·.isOf site)).length)
      := by
    simp [Database.count, Database.siteRows, Database.rows, ready, Except.map]
  unfold closing
  rw [counts, counts, counts]
  exact ⟨_, rfl⟩

theorem reports_of_filled (opened : Database.openFile files s.database = .ok db)
    (filled : inSession (fill s.site now s.count.toNat) db = (.ok summaries, db'))
    (ready : db'.isOpen = true ∧ db'.migrated = true) :
    s.Reports now files summaries (Database.closeFile files s.database db') := by
  obtain ⟨lines, closed⟩ := closing_ok ready s.site
  refine ⟨lines, ?_⟩
  unfold run
  rw [opened]
  dsimp only
  rw [filled]
  dsimp only
  rw [closed]
  rfl

theorem filled_of_status (opened : Database.openFile files s.database = .ok db)
    (ended : (s.run now files).1.status = 0) :
    ∃ summaries db', inSession (fill s.site now s.count.toNat) db = (.ok summaries, db') := by
  unfold run at ended
  rw [opened] at ended
  dsimp only at ended
  cases filled : inSession (fill s.site now s.count.toNat) db with
  | mk result db' =>
    cases result with
    | ok summaries => exact ⟨summaries, db', rfl⟩
    | error e =>
      rw [filled] at ended
      cases ended

structure Fills (s : Settings) (now : Time.Instant) (files files' : Files FileContent)
    (db db' : Database) (summaries : Summaries) : Prop where
  reports : s.Reports now files summaries files'
  opens : Database.openFile files' s.database = .ok db'
  refuses : db'.refuses = db.refuses
  kept : KeptContents db'.supply db'.contents
  merged : ∀ k, Merged s.site (samples s.site now s.count.toNat k) (kindRows k db.contents)
    (kindRows k db'.contents) (summaries.of k)

theorem exists_fills (lasting : Database.isTemporary s.database = false)
    (opened : Database.openFile files s.database = .ok db)
    (kept : KeptContents db.supply db.contents) (ended : (s.run now files).1.status = 0) :
    ∃ db' summaries, s.Fills now files (s.run now files).2 db db' summaries := by
  obtain ⟨summaries, db', filled⟩ := filled_of_status opened ended
  obtain ⟨session, session', begun, ran, committed⟩ := Sync.inSession_ok filled
  have ready := Database.ready_of_openFile opened
  obtain rfl := begin_ok begun
  obtain ⟨kept', merged⟩ := fill_ok kept ran
  obtain ⟨-, after⟩ := commit_ok committed
  have ready' : db'.isOpen = true ∧ db'.migrated = true := by
    rw [after]
    exact ready
  obtain ⟨lines, reports⟩ := reports_of_filled opened filled ready'
  have files' : (s.run now files).2 = Database.closeFile files s.database db' :=
    congrArg Prod.snd reports
  refine ⟨db', summaries, ?_⟩
  constructor
  case reports =>
    rw [files']
    exact ⟨lines, reports⟩
  case opens => rw [files', Database.openFile_closeFile lasting opened ready']
  case refuses => rw [after]
  case kept => exact after ▸ kept'
  case merged => exact after ▸ merged

theorem status_of_willing (opened : Database.openFile files s.database = .ok db)
    (accepts : ∀ statement, db.refuses statement = none) (now : Time.Instant) :
    (s.run now files).1.status = 0 := by
  have ready := Database.ready_of_openFile opened
  obtain ⟨session, begun, -, willing⟩ := begin_of_willing ⟨ready.1, ready.2, accepts⟩
  obtain ⟨summaries, session', ran, willing'⟩ := fill_succeeds willing s.site now s.count.toNat
  have filled : inSession (fill s.site now s.count.toNat) db = (.ok summaries,
      { db with contents := session'.contents, supply := session'.supply }) := by
    rw [inSession, begun]
    dsimp only
    rw [ran]
    dsimp only
    rw [commit_of_willing db willing']
  obtain ⟨lines, ran⟩ := reports_of_filled opened filled ready
  rw [ran]

end Settings

section

variable {site : SiteId} {now : Time.Instant} {count other : Nat} {k : ResourceKind}

theorem sampleKeys_mono (fewer : count ≤ other) {key : KeyOf k}
    (member : key ∈ sampleKeys count k) : key ∈ sampleKeys other k := by
  cases k with
  | product =>
    obtain ⟨i, inside, rfl⟩ := List.mem_map.mp member
    exact List.mem_map.mpr ⟨i, List.mem_range.mpr (by have := List.mem_range.mp inside; omega), rfl⟩
  | sitePlugin => exact member
  | coupon => exact member

theorem productKey_mem {i : Nat} (few : count ≤ 2 ^ 58) (small : i < 2 ^ 58) :
    productKey i ∈ sampleKeys count .product ↔ i < count := by
  constructor
  · intro member
    obtain ⟨j, inside, same⟩ := List.mem_map.mp member
    have below := List.mem_range.mp inside
    rwa [← productKey_inj (by omega) small same]
  · exact fun below => List.mem_map.mpr ⟨i, List.mem_range.mpr below, rfl⟩

theorem card_products {rows : List (Row Product)} (few : count ≤ 2 ^ 58)
    (stored : ∀ i < count, productKey i ∈ storedKeys site rows ↔ i < other) :
    (fetchedKeys site (sampleProducts site now count) \ storedKeys site rows).card =
        count - other ∧
      (fetchedKeys site (sampleProducts site now count) ∩ storedKeys site rows).card =
        min other count := by
  have fetched (key : Int64) : key ∈ fetchedKeys site (sampleProducts site now count) ↔
      ∃ i < count, productKey i = key := by
    refine (mem_fetchedKeys_samples (k := .product)).trans ?_
    simp [sampleKeys]
  have injective {keys : Finset Nat} (below : ∀ i ∈ keys, i < count) :
      (keys.image productKey).card = keys.card :=
    Finset.card_image_of_injOn fun i first j second same =>
      productKey_inj (by have := below i first; omega) (by have := below j second; omega) same
  have new : fetchedKeys site (sampleProducts site now count) \ storedKeys site rows =
      (Finset.Ico other count).image productKey := by
    ext key
    rw [Finset.mem_sdiff, fetched, Finset.mem_image]
    constructor
    · rintro ⟨⟨i, below, rfl⟩, absent⟩
      rw [stored i below] at absent
      exact ⟨i, Finset.mem_Ico.mpr (by omega), rfl⟩
    · rintro ⟨i, inside, rfl⟩
      obtain ⟨beyond, below⟩ := Finset.mem_Ico.mp inside
      exact ⟨⟨i, below, rfl⟩, by rw [stored i below]; omega⟩
  have old : fetchedKeys site (sampleProducts site now count) ∩ storedKeys site rows =
      (Finset.range (min other count)).image productKey := by
    ext key
    rw [Finset.mem_inter, fetched, Finset.mem_image]
    constructor
    · rintro ⟨⟨i, below, rfl⟩, present⟩
      rw [stored i below] at present
      exact ⟨i, Finset.mem_range.mpr (by omega), rfl⟩
    · rintro ⟨i, inside, rfl⟩
      have both := Finset.mem_range.mp inside
      exact ⟨⟨i, by omega, rfl⟩, (stored i (by omega)).mpr (by omega)⟩
  rw [new, old, injective (by simp), injective (by simp)]
  simp

def isSample (site : SiteId) (count : Nat) (row : Row Product) : Bool :=
  row.isOf site && (sampleKeys count .product).contains (Resource.key row.record)

theorem countP_isSample {supply : Nat} {rows : List (Row Product)} (kept : Kept supply rows)
    (few : count ≤ 2 ^ 58)
    (there : ∀ i < count, ∃ row ∈ rows, row.identity = (site, productKey i)) :
    rows.countP (isSample site count) = count := by
  have distinct : ((rows.filter (isSample site count)).map Row.identity).Nodup :=
    kept.identities.sublist (List.filter_sublist.map _)
  have identities : ((rows.filter (isSample site count)).map Row.identity).toFinset =
      (Finset.range count).image fun i => (site, productKey i) := by
    ext identity
    simp only [List.mem_toFinset, List.mem_map, List.mem_filter, Finset.mem_image,
      Finset.mem_range]
    constructor
    · rintro ⟨row, ⟨-, sample⟩, rfl⟩
      obtain ⟨ofSite, key⟩ := Bool.and_eq_true_iff.mp sample
      obtain ⟨i, inside, same⟩ := List.mem_map.mp (List.contains_iff_mem.mp key)
      exact ⟨i, List.mem_range.mp inside, Prod.ext ((isOf_iff site row).mp ofSite).symm same⟩
    · rintro ⟨i, below, rfl⟩
      obtain ⟨row, member, identity⟩ := there i below
      obtain ⟨ofSite, key⟩ := Prod.mk.inj identity
      have sample : (sampleKeys count .product).contains (Resource.key row.record) = true := by
        rw [List.contains_iff_mem, key]
        exact (productKey_mem few (by omega)).mpr below
      exact ⟨row, ⟨member, Bool.and_eq_true_iff.mpr ⟨(isOf_iff site row).mpr ofSite, sample⟩⟩,
        identity⟩
  rw [List.countP_eq_length_filter, ← List.length_map Row.identity,
    ← List.toFinset_card_of_nodup distinct, identities, Finset.card_image_of_injOn,
    Finset.card_range]
  intro i first j second same
  have below := Finset.mem_range.mp first
  have below' := Finset.mem_range.mp second
  exact productKey_inj (by omega) (by omega) (Prod.mk.inj same).2

end

namespace Settings.Fills

variable {s : Settings} {now : Time.Instant} {files files' : Files FileContent} {db db' : Database}
  {summaries : Summaries} {i : Nat}

theorem product (fills : s.Fills now files files' db db' summaries)
    (few : s.count.toNat ≤ 2 ^ 58) (below : i < s.count.toNat) :
    ∃ row ∈ kindRows .product db'.contents, row.identity = (s.site, productKey i) ∧
      row.record = sampleProduct s.site now i ∧ row.damage = [] := by
  obtain ⟨row, member, identity, latest, clean⟩ := (fills.merged .product).planned (productKey i)
    (mem_fetchedKeys_samples.mpr ((productKey_mem few (by omega)).mpr below))
  exact ⟨row, member, identity, latest_sample few below latest, clean⟩

theorem product_beyond (fills : s.Fills now files files' db db' summaries)
    (few : s.count.toNat ≤ 2 ^ 58) (small : i < 2 ^ 58) (beyond : ¬ i < s.count.toNat)
    {row : Row Product} (identity : row.identity = (s.site, productKey i)) :
    row ∈ kindRows .product db'.contents ↔ row ∈ kindRows .product db.contents := by
  refine (fills.merged .product).others row fun _ planned => beyond ?_
  rw [(Prod.mk.inj identity).2, mem_fetchedKeys_samples] at planned
  exact (productKey_mem few small).mp planned

theorem productKey_stored (fills : s.Fills now files files' db db' summaries)
    (few : s.count.toNat ≤ 2 ^ 58) (small : i < 2 ^ 58)
    (absent : productKey i ∉ storedKeys s.site (kindRows .product db.contents)) :
    productKey i ∈ storedKeys s.site (kindRows .product db'.contents) ↔ i < s.count.toNat := by
  rw [mem_storedKeys]
  constructor
  · rintro ⟨row, member, identity⟩
    by_contra beyond
    have stood := (fills.product_beyond few small beyond identity).mp member
    exact absent ((mem_storedKeys _ _ _).mpr ⟨row, stood, identity⟩)
  · intro below
    obtain ⟨row, member, identity, -⟩ := fills.product few below
    exact ⟨row, member, identity⟩

theorem products_counted (fills : s.Fills now files files' db db' summaries)
    (few : s.count.toNat ≤ 2 ^ 58) {other : Nat} (stored : ∀ i < s.count.toNat,
      productKey i ∈ storedKeys s.site (kindRows .product db.contents) ↔ i < other) :
    summaries.products = ⟨s.count.toNat - other, min other s.count.toNat, 0⟩ := by
  obtain ⟨new, old⟩ := card_products few stored
  rw [← new, ← old]
  exact (fills.merged .product).counted

end Settings.Fills

structure Reseeded (site : SiteId) (n m : Nat) (now₁ now₂ : Time.Instant)
    (db db₁ db₂ : Database) (first second : Summaries) : Prop where
  seeded : ∀ i < max n m, ∃ id, ⟨id, sampleProduct site (if i < m then now₂ else now₁) i, []⟩ ∈
    kindRows .product db₂.contents
  counted : (kindRows .product db₂.contents).countP (isSample site (max n m)) = max n m
  untouched : ∀ k (row : Row (RecordOf k)), (Resource.site row.record = site →
    Resource.key row.record ∉ sampleKeys (max n m) k) →
      (row ∈ kindRows k db₂.contents ↔ row ∈ kindRows k db.contents)
  fresh : (∀ i < max n m, productKey i ∉ storedKeys site (kindRows .product db.contents)) →
    first.products = ⟨n, 0, 0⟩ ∧ second.products = ⟨m - n, min n m, 0⟩
  undeleted : ∀ k, (first.of k).deleted = 0 ∧ (second.of k).deleted = 0
  retained : Retains db.contents db₁.contents ∧ Retains db₁.contents db₂.contents

theorem reseeded_of_fills {site : SiteId} {n m : UInt64} {now₁ now₂ : Time.Instant} {path : String}
    {files₀ files₁ files₂ : Files FileContent} {db db₁ db₂ : Database} {first second : Summaries}
    (fewer : n.toNat ≤ 2 ^ 58) (fewer' : m.toNat ≤ 2 ^ 58)
    (one : Settings.Fills ⟨n, site, path⟩ now₁ files₀ files₁ db db₁ first)
    (two : Settings.Fills ⟨m, site, path⟩ now₂ files₁ files₂ db₁ db₂ second) :
    Reseeded site n.toNat m.toNat now₁ now₂ db db₁ db₂ first second := by
  -- After the second run, a sample stands as the last run that makes it has left it.
  have seeded : ∀ i < max n.toNat m.toNat, ∃ row ∈ kindRows .product db₂.contents,
      row.identity = (site, productKey i) ∧
      row.record = sampleProduct site (if i < m.toNat then now₂ else now₁) i ∧
      row.damage = [] := by
    intro i below
    by_cases again : i < m.toNat
    · rw [if_pos again]
      exact two.product fewer' again
    · obtain ⟨row, member, identity, rest⟩ := one.product fewer (i := i) (by dsimp only; omega)
      rw [if_neg again]
      exact ⟨row, (two.product_beyond fewer' (by omega) again identity).mpr member, identity, rest⟩
  constructor
  case seeded =>
    intro i below
    obtain ⟨⟨id, record, damage⟩, member, -, rfl, rfl⟩ := seeded i below
    exact ⟨id, member⟩
  case counted =>
    refine countP_isSample (two.kept .product) (by omega) fun i below => ?_
    obtain ⟨row, member, identity, -⟩ := seeded i below
    exact ⟨row, member, identity⟩
  case untouched =>
    intro k row other
    have outside {count : Nat} (fewer : count ≤ max n.toNat m.toNat) (now : Time.Instant) :
        Resource.site row.record = site →
          Resource.key row.record ∉ fetchedKeys site (samples site now count k) := by
      intro ofSite planned
      exact other ofSite (sampleKeys_mono fewer (mem_fetchedKeys_samples.mp planned))
    exact ((two.merged k).others row (outside (Nat.le_max_right _ _) now₂)).trans
      ((one.merged k).others row (outside (Nat.le_max_left _ _) now₁))
  case fresh =>
    intro absent
    have counts : first.products = ⟨n.toNat - 0, min 0 n.toNat, 0⟩ :=
      one.products_counted fewer fun i (below : i < n.toNat) =>
        iff_of_false (absent i (by omega)) (Nat.not_lt_zero i)
    have counts' : second.products = ⟨m.toNat - n.toNat, min n.toNat m.toNat, 0⟩ :=
      two.products_counted fewer' fun i (below : i < m.toNat) =>
        one.productKey_stored fewer (by omega) (absent i (by omega))
    rw [counts, Nat.zero_min, Nat.sub_zero]
    exact ⟨rfl, counts'⟩
  case undeleted =>
    intro k
    rw [(one.merged k).counted, (two.merged k).counted]
    exact ⟨rfl, rfl⟩
  case retained =>
    exact ⟨fun k => (one.merged k).retained, fun k => (two.merged k).retained⟩

/-- A second run updates what the first one has inserted, and adds what is missing. Both runs end
well where the database refuses nothing. -/
theorem runs_reseed {files : Files FileContent} {path : String} {db : Database}
    (lasting : Database.isTemporary path = false) (opened : Database.openFile files path = .ok db)
    (kept : KeptContents db.supply db.contents) (site : SiteId) {n m : UInt64}
    (fewer : n.toNat ≤ 2 ^ 58) (fewer' : m.toNat ≤ 2 ^ 58) (now₁ now₂ : Time.Instant) :
    let once := Settings.run ⟨n, site, path⟩ now₁ files
    let twice := Settings.run ⟨m, site, path⟩ now₂ once.2
    ((∀ statement, db.refuses statement = none) → once.1.status = 0 ∧ twice.1.status = 0) ∧
      (once.1.status = 0 → twice.1.status = 0 → ∃ first second db₁ db₂,
        Settings.Reports ⟨n, site, path⟩ now₁ files first once.2 ∧
        Settings.Reports ⟨m, site, path⟩ now₂ once.2 second twice.2 ∧
        Database.openFile once.2 path = .ok db₁ ∧ Database.openFile twice.2 path = .ok db₂ ∧
        Reseeded site n.toNat m.toNat now₁ now₂ db db₁ db₂ first second) := by
  intro once twice
  constructor
  · intro accepts
    have ended : once.1.status = 0 := Settings.status_of_willing opened accepts now₁
    obtain ⟨db₁, first, one⟩ :=
      Settings.exists_fills (s := ⟨n, site, path⟩) lasting opened kept ended
    have accepts' : ∀ statement, db₁.refuses statement = none := one.refuses ▸ accepts
    exact ⟨ended, Settings.status_of_willing (s := ⟨m, site, path⟩) one.opens accepts' now₂⟩
  · intro ended ended'
    obtain ⟨db₁, first, one⟩ :=
      Settings.exists_fills (s := ⟨n, site, path⟩) lasting opened kept ended
    obtain ⟨db₂, second, two⟩ :=
      Settings.exists_fills (s := ⟨m, site, path⟩) lasting one.opens one.kept ended'
    exact ⟨first, second, db₁, db₂, one.reports, two.reports, one.opens, two.opens,
      reseeded_of_fills fewer fewer' one two⟩

def summerFiles : Files FileContent := ⟨[(["summer.db"], .file (.database summerStore))]⟩

def nextDay : Time.Instant :=
  { Time.Instant.epoch with day := 1, day_from := by decide, day_to := by decide }

theorem summerFiles_reseed : ∃ first second files₁ files₂ db₁ db₂,
    Settings.Reports ⟨2, ⟨7⟩, "summer.db"⟩ .epoch summerFiles first files₁ ∧
    Settings.Reports ⟨3, ⟨7⟩, "summer.db"⟩ nextDay files₁ second files₂ ∧
    first.products = ⟨2, 0, 0⟩ ∧ second.products = ⟨1, 2, 0⟩ ∧
    ⟨.issued 0, seasonCoupon 1 "summer", []⟩ ∈ kindRows .coupon db₂.contents ∧
    Reseeded ⟨7⟩ 2 3 .epoch nextDay summerStore db₁ db₂ first second := by
  have opened : Database.openFile summerFiles "summer.db" = .ok summerStore := rfl
  have reachable : summerStore.Reachable := .commit _ .new rfl
  obtain ⟨ends, leaves⟩ := runs_reseed rfl opened reachable.kept ⟨7⟩ (n := 2) (m := 3) (by decide)
    (by decide) .epoch nextDay
  obtain ⟨ended, ended'⟩ := ends fun _ => rfl
  obtain ⟨first, second, db₁, db₂, reports, reports', -, -, reseeded⟩ := leaves ended ended'
  obtain ⟨counts, counts'⟩ := reseeded.fresh (by decide)
  refine ⟨first, second, _, _, db₁, db₂, reports, reports', counts, counts', ?_, reseeded⟩
  exact (reseeded.untouched .coupon ⟨.issued 0, seasonCoupon 1 "summer", []⟩
    fun _ => by decide).mpr (List.mem_singleton.mpr rfl)

end SiteCache.Seed
