import SiteCache.Proofs.Store.Identity
import SiteCache.Proofs.Sync.Accounting
import SiteCache.Proofs.Sync.Dispatching
import SiteCache.Proofs.Sync.Requests

set_option autoImplicit false

namespace SiteCache.Sync

open Remote (Service Reply Exchange)
open Store

variable {σ : Type} {remote : Service σ}

-- The records of a kind that came with the replies to these requests.
def responseOf (k : ResourceKind) (log : List Exchange) : List (RecordOf k) :=
  log.flatMap fun x => if same : x.kind = k then replied (same ▸ x.reply) else []

section

variable {k : ResourceKind} {site : SiteId} {q : ListQuery}

theorem responseOf_cons (reply : Reply (List (RecordOf k))) (log : List Exchange) :
    responseOf k (⟨k, site, q, reply⟩ :: log) = replied reply ++ responseOf k log := by
  simp [responseOf]

def Walk.requestAfter {R : Type} (w : Walk R) (q : ListQuery) (pages : Nat) : ListQuery :=
  match w.page with
  | none => q
  | some page => q.atPage ⟨page.number + .ofNat pages, page.size⟩

theorem Walk.requestAfter_zero {R : Type} (w : Walk R) : w.requestAfter q 0 = w.request q := by
  unfold Walk.requestAfter Walk.request
  cases w.page <;> simp

theorem one_add_ofNat (n : Nat) : 1 + UInt32.ofNat n = .ofNat (n + 1) := by
  rw [Nat.add_comm n 1, UInt32.ofNat_add]
  rfl

theorem requestAfter_of_take {R : Type} {w w' : Walk R} {reply : Reply (List R)}
    (took : w.take reply = .more w') (q : ListQuery) (pages : Nat) :
    w'.requestAfter q pages = w.requestAfter q (pages + 1) := by
  cases reply with
  | failed e => cases took
  | crashed text => cases took
  | records batch =>
    simp only [Walk.take, Walk.receive] at took
    split at took <;> rename_i paged
    · cases took
    · split at took
      · cases took
      · split at took <;> rename_i numbered <;> cases took
        simp only [Page.next?, Option.ite_none_right_eq_some, Option.some.injEq] at numbered
        obtain ⟨-, rfl⟩ := numbered
        simp only [Walk.requestAfter, paged, ← one_add_ofNat pages, UInt32.add_assoc]

/-- What a walk asks from where it stands on, and what the records are with which it ends. -/
structure Requests (k : ResourceKind) (site : SiteId) (q : ListQuery) (w : Walk (RecordOf k))
    (asked : List Exchange) (result : Outcome (List (RecordOf k))) : Prop where
  bounded : asked.length ≤ w.left
  asks : ∀ i x, asked[i]? = some x → x.kind = k ∧ x.site = site ∧ x.query = w.requestAfter q i
  brings : ∀ records, result = .ok records → records = w.got ++ responseOf k asked

namespace Requests

variable {w w' : Walk (RecordOf k)} {reply : Reply (List (RecordOf k))}
  {result : Outcome (List (RecordOf k))} {asked : List Exchange}

theorem none (w : Walk (RecordOf k)) (e : SyncError) : Requests k site q w [] (fail e) where
  bounded := Nat.zero_le _
  asks _ _ member := by cases member
  brings _ ended := by cases ended

theorem last (left : w.left ≠ 0) (took : w.take reply = .done result) :
    Requests k site q w [⟨k, site, w.request q, reply⟩] result where
  bounded := Nat.one_le_iff_ne_zero.mpr left
  asks i x member := by
    rw [List.getElem?_singleton, Option.ite_none_right_eq_some, Option.some.injEq] at member
    obtain ⟨rfl, rfl⟩ := member
    exact ⟨rfl, rfl, w.requestAfter_zero.symm⟩
  brings records ended := by
    subst ended
    rw [responseOf_cons, take_done took]
    simp [responseOf]

theorem more (left : w.left ≠ 0) (took : w.take reply = .more w')
    (rest : Requests k site q w' asked result) :
    Requests k site q w (⟨k, site, w.request q, reply⟩ :: asked) result where
  bounded := by
    have bounded := rest.bounded
    rw [Task.left_of_take took] at bounded
    rw [List.length_cons]
    omega
  asks i x member := by
    cases i with
    | zero =>
      cases member
      exact ⟨rfl, rfl, w.requestAfter_zero.symm⟩
    | succ i =>
      rw [← requestAfter_of_take took q i]
      exact rest.asks i x member
  brings records ended := by
    rw [rest.brings records ended, take_more took, responseOf_cons, List.append_assoc]

end Requests

theorem walk_requests (remote : Service σ) (site : SiteId) (q : ListQuery) (limit : SyncError)
    (fuel : Nat) (w : Walk (RecordOf k)) (now : σ) (log : List Exchange) :
    ∃ asked, (walk remote.logged k site q limit fuel w).run (now, log) =
        (((walk remote k site q limit fuel w).run now).1,
          (((walk remote k site q limit fuel w).run now).2, log ++ asked)) ∧
      Requests k site q w asked ((walk remote k site q limit fuel w).run now).1 := by
  induction fuel generalizing w now log with
  | zero => exact ⟨[], by rw [List.append_nil]; rfl, .none w limit⟩
  | succ fuel ih =>
    rw [walk_succ, walk_succ, logged_list]
    split <;> rename_i left
    · exact ⟨[], by rw [List.append_nil], .none w limit⟩
    · obtain ⟨reply, next⟩ := (remote.list k site (w.request q)).run now
      dsimp only
      cases took : w.take reply with
      | more w' =>
        obtain ⟨asked, ran, requests⟩ := ih w' next (log ++ [⟨k, site, w.request q, reply⟩])
        refine ⟨_ :: asked, ?_, requests.more left took⟩
        dsimp only
        rw [ran, List.append_assoc]
        rfl
      | done result => exact ⟨_, rfl, .last left took⟩

def pagePairs : Paging → Nat → Pairs
  | .unpaged, _ => []
  | .paged size _, pages =>
    [("page", Text.natText (pages + 1)), ("per_page", Text.natText size.toNat)]

theorem fetchAll_requests (remote : Service σ) (k : ResourceKind) (site : SiteId)
    (paging : Paging) (unpaged : q.page = none) (start : σ) :
    ∃ log, (fetchAll remote.logged k paging site q).run (start, []) =
        (((fetchAll remote k paging site q).run start).1,
          (((fetchAll remote k paging site q).run start).2, log)) ∧
      (∀ i x, log[i]? = some x → x.kind = k ∧ x.site = site ∧
        x.query.toPairs = pagePairs paging i ++ q.params) ∧
      ∀ records, ((fetchAll remote k paging site q).run start).1 = .ok records →
        records = responseOf k log := by
  let first : Walk (RecordOf k) := .start paging
  obtain ⟨log, ran, requests⟩ := walk_requests remote site q (limitError k site paging)
    (first.left + 1) first start []
  rw [List.nil_append] at ran
  refine ⟨log, ran, fun i x member => ?_, fun records ended => ?_⟩
  · obtain ⟨kind, ofSite, query⟩ := requests.asks i x member
    refine ⟨kind, ofSite, ?_⟩
    rw [query]
    cases paging with
    | unpaged => simp [Walk.requestAfter, first, Walk.start, ListQuery.toPairs, unpaged, pagePairs]
    | paged size maxPages =>
      -- The number of the page does not overflow, since there are no more pages than that.
      have below : i < log.length := (List.getElem?_eq_some_iff.mp member).1
      have bounded : log.length ≤ maxPages.toNat := requests.bounded
      have fits : maxPages.toNat < UInt32.size := maxPages.toNat_lt
      have number : (1 + UInt32.ofNat i).toNat = i + 1 := by
        rw [one_add_ofNat]
        exact UInt32.toNat_ofNat_of_lt' (by omega)
      simp [Walk.requestAfter, first, Walk.start, Page.first, firstPageNumber, ListQuery.toPairs,
        ListQuery.atPage, pagePairs, number]
  · have nothing : first.got = [] := by cases paging <;> rfl
    rw [requests.brings records ended, nothing, List.nil_append]

-- A world whose remote also notes its requests.
def World.noting (w : World σ) (log : List Exchange) : World (σ × List Exchange) :=
  ⟨(w.remote, log), w.db, w.events⟩

variable {paging : Paging} {mode : ReconcileMode} {w : World σ}

theorem synchronize_noting {log : List Exchange}
    (ran : (fetchAll remote.logged k paging site q).run (w.remote, []) =
      (((fetchAll remote k paging site q).run w.remote).1,
        (((fetchAll remote k paging site q).run w.remote).2, log))) :
    (synchronize remote.logged k paging site q mode).run (w.noting []) =
      (((synchronize remote k paging site q mode).run w).1,
        ((synchronize remote k paging site q mode).run w).2.noting log) := by
  have start : (w.noting []).remote = (w.remote, []) := rfl
  rw [synchronize_run, synchronize_run, fetchAndApply_run, fetchAndApply_run, start, ran]
  obtain ⟨result, next⟩ := (fetchAll remote k paging site q).run w.remote
  cases result <;> rfl

theorem synchronize_reconciles {summary : Summary}
    (ran : ((synchronize remote k paging site q mode).run w).1 = .ok summary) :
    ∃ records, ((fetchAll remote k paging site q).run w.remote).1 = .ok records ∧
      Reconciles w.db site records mode summary
        ((synchronize remote k paging site q mode).run w).2.db := by
  obtain ⟨batches, collected, worked⟩ := synchronize_ok (Prod.ext ran rfl)
  exact ⟨_, congrArg Prod.fst (fetchAll_collected collected), reconciles_of_inSession worked⟩

end

section

variable {k : ResourceKind} {site : SiteId} {db after : Database} {records : List (RecordOf k)}
  {mode : ReconcileMode} {summary : Summary}

theorem reconciled_row (kept : KeptContents db.supply db.contents)
    (pass : Reconciles db site records mode summary after) {row : Row (RecordOf k)}
    (member : row ∈ kindRows k db.contents) :
    (∃ row' ∈ kindRows k after.contents, SameRow row' row) ∨
      (mode = .replace ∧ row.isOf site ∧
        Resource.key row.record ∉ fetchedKeys site records ∧
        ∀ row' ∈ kindRows k after.contents, row'.id ≠ row.id) := by
  obtain ⟨session, session', begun, ran, committed⟩ := pass
  have started := begin_ok begun
  subst started
  have state := Session.apply_row (s := ⟨db.contents, db.supply, db.migrated, db.refuses⟩)
    kept site records mode member
  rw [ran] at state
  obtain ⟨-, rfl⟩ := commit_ok committed
  rwa [← List.mem_toFinset, ← fetchedKeys_eq site records mode] at state

theorem sameBut_reconciled (kept : KeptContents db.supply db.contents)
    (pass : Reconciles db site records mode summary after) :
    SameBut k site db.contents after.contents := by
  obtain ⟨session, session', begun, ran, committed⟩ := pass
  have started := begin_ok begun
  subst started
  have changes := Session.apply_within (Plan.ofSite_build site records mode)
    ⟨db.contents, db.supply, db.migrated, db.refuses⟩ kept
  rw [ran] at changes
  obtain ⟨-, rfl⟩ := commit_ok committed
  exact SameBut.changes kept changes

theorem retains_merged (kept : KeptContents db.supply db.contents)
    (pass : Reconciles db site records .merge summary after) :
    Retains db.contents after.contents := by
  intro j row member
  by_cases same : j = k
  · subst same
    rcases reconciled_row kept pass member with stays | ⟨replaces, -⟩
    · exact stays
    · cases replaces
  · exact ⟨row, by rwa [(sameBut_reconciled kept pass).kinds j same], .refl row⟩

theorem fetched_of_overwritten (kept : KeptContents db.supply db.contents)
    (pass : Reconciles db site records .merge summary after) {row : Row (RecordOf k)}
    (member : row ∈ kindRows k db.contents) (ofSite : row.isOf site)
    (overwritten : row ∉ kindRows k after.contents) :
    Resource.key row.record ∈ fetchedKeys site records := by
  by_contra unplanned
  apply overwritten
  have identity : row.identity = (site, Resource.key row.record) :=
    Prod.ext ((isOf_iff site row).mp ofSite) rfl
  rw [pass.kindRows_eq kept, mem_settled_unplanned identity unplanned]
  exact ⟨member, rfl⟩

theorem replaced_away_iff (kept : KeptContents db.supply db.contents)
    (pass : Reconciles db site records .replace summary after) {row : Row (RecordOf k)}
    (member : row ∈ kindRows k db.contents) :
    (∀ row' ∈ kindRows k after.contents, row'.id ≠ row.id) ↔
      row.isOf site ∧ Resource.key row.record ∉ fetchedKeys site records := by
  have keys : storedKeys site (kindRows k after.contents) = fetchedKeys site records :=
    storedKeys_reconciled kept pass
  rcases reconciled_row kept pass member with ⟨row', stays, same⟩ | ⟨-, ofSite, absent, gone⟩
  · -- The site holds the keys of the response only, so the row has one of them.
    refine iff_of_false (fun gone => gone row' stays same.1) fun ⟨ofSite, absent⟩ => absent ?_
    rw [← keys, mem_storedKeys]
    exact ⟨row', stays, same.2.trans (Prod.ext ((isOf_iff site row).mp ofSite) rfl)⟩
  · exact iff_of_true gone ⟨ofSite, absent⟩

theorem deleted_eq (kept : KeptContents db.supply db.contents)
    (pass : Reconciles db site records mode summary after) :
    summary.deleted = if mode.deletesStale then
      (storedKeys site (kindRows k db.contents) \ fetchedKeys site records).card else 0 := by
  obtain ⟨-, -, rfl⟩ := pass.eq kept
  rw [countP_isStale (kept k)]

end

def setFields (filter : ProductFilter) : Pairs :=
  [filter.stockStatus.map fun s => ("stock_status", s.name),
    filter.productStatus.map fun s => ("status", s.name),
    filter.productType.map fun t => ("type", t.name)].filterMap id

def filterNames : List String := ["stock_status", "status", "type"]

theorem params_eq_setFields (filter : ProductFilter) : filter.params = setFields filter := by
  obtain ⟨stock, status, type⟩ := filter
  cases stock <;> cases status <;> cases type <;> rfl

theorem isEmpty_iff (filter : ProductFilter) : filter.isEmpty ↔ filter = .none := by
  obtain ⟨stock, status, type⟩ := filter
  simp [ProductFilter.isEmpty, ProductFilter.none, and_assoc]

theorem productMode_of_some {filter : ProductFilter} (given : filter ≠ .none) :
    productMode filter = .merge :=
  if_neg fun empty => given ((isEmpty_iff filter).mp empty)

theorem productQuery_params (filter : ProductFilter) (order : ProductSortOrder) :
    (productQuery filter order).params =
      [("orderby", order.orderBy), ("order", order.order)] ++ setFields filter := by
  rw [← params_eq_setFields]
  rfl

structure FollowsFilter (paging : Paging) (site : SiteId) (filter : ProductFilter)
    (order : ProductSortOrder) (before after : Contents) (log : List Exchange)
    (result : Outcome Summary) : Prop where
  requests : ∀ i x, log[i]? = some x → x.kind = .product ∧ x.site = site ∧
    x.query.toPairs = pagePairs paging i ++
      ([("orderby", order.orderBy), ("order", order.order)] ++ setFields filter)
  others : SameBut .product site before after
  retains : filter ≠ .none → Retains before after
  overwrites : filter ≠ .none → ∀ row ∈ kindRows .product before, row.isOf site →
    row ∉ kindRows .product after →
    Resource.key row.record ∈ fetchedKeys site (responseOf .product log)
  noneDeleted : filter ≠ .none → ∀ summary, result = .ok summary → summary.deleted = 0
  deletes : filter = .none → ∀ summary, result = .ok summary →
    (∀ row ∈ kindRows .product before,
      (∀ row' ∈ kindRows .product after, row'.id ≠ row.id) ↔
        row.isOf site ∧ Resource.key row.record ∉ fetchedKeys site (responseOf .product log)) ∧
    summary.deleted = (storedKeys site (kindRows .product before) \
      fetchedKeys site (responseOf .product log)).card
  harmless : ∀ x ∈ log, ∀ name ∈ filterNames, name ∈ x.query.toPairs.map Prod.fst →
    Retains before after
  unchanged : ∀ f, result = .error f → after = before

theorem filter_of_carried {paging : Paging} {filter : ProductFilter} {order : ProductSortOrder}
    {i : Nat} {name : String} (known : name ∈ filterNames)
    (carried : name ∈ (pagePairs paging i ++
      ([("orderby", order.orderBy), ("order", order.order)] ++ setFields filter)).map Prod.fst) :
    filter ≠ .none := by
  rintro rfl
  have names : (pagePairs paging i ++ ([("orderby", order.orderBy), ("order", order.order)] ++
      setFields .none)).map Prod.fst ⊆ ["page", "per_page", "orderby", "order"] := by
    cases paging <;> simp [pagePairs, setFields, ProductFilter.none]
  have foreign : ∀ name ∈ filterNames, name ∉ ["page", "per_page", "orderby", "order"] := by
    decide
  exact foreign name known (names carried)

/-- Under a filter nothing is deleted, and without one the rows are that the response lacks. -/
theorem synchronizeProducts_followsFilter (remote : Service σ) (paging : Paging) (site : SiteId)
    (filter : ProductFilter) (order : ProductSortOrder) (w : World σ)
    (kept : KeptContents w.db.supply w.db.contents) :
    let a : Action := .synchronizeProducts site filter order
    let ended := (operation remote paging a).run w
    ∃ log, (operation remote.logged paging a).run (w.noting []) = (ended.1, ended.2.noting log) ∧
      FollowsFilter paging site filter order w.db.contents ended.2.db.contents log ended.1 := by
  intro a ended
  have unpaged : (productQuery filter order).page = none := rfl
  obtain ⟨log, ran, asks, brings⟩ := fetchAll_requests remote .product site paging unpaged w.remote
  rw [productQuery_params] at asks
  have passed : ∀ summary, ended.1 = .ok summary →
      Reconciles w.db site (responseOf .product log) (productMode filter) summary ended.2.db := by
    intro summary ok
    obtain ⟨records, fetched, pass⟩ := synchronize_reconciles ok
    exact brings records fetched ▸ pass
  have merged (given : filter ≠ .none) (summary : Summary) (ok : ended.1 = .ok summary) :
      Reconciles w.db site (responseOf .product log) .merge summary ended.2.db :=
    productMode_of_some given ▸ passed summary ok
  have unchanged : ∀ f, ended.1 = .error f → ended.2.db.contents = w.db.contents :=
    fun f failed => fetchAndApply_contents_of_error failed
  have retains (given : filter ≠ .none) : Retains w.db.contents ended.2.db.contents := by
    cases result : ended.1 with
    | error f =>
      rw [unchanged f result]
      exact .refl _
    | ok summary => exact retains_merged kept (merged given summary result)
  refine ⟨log, synchronize_noting ran, ?_⟩
  constructor
  case requests => exact asks
  case others =>
    cases result : ended.1 with
    | error f =>
      rw [unchanged f result]
      exact .refl ..
    | ok summary => exact sameBut_reconciled kept (passed summary result)
  case retains => exact retains
  case overwrites =>
    intro given row member ofSite overwritten
    cases result : ended.1 with
    | error f =>
      rw [unchanged f result] at overwritten
      exact absurd member overwritten
    | ok summary =>
      exact fetched_of_overwritten kept (merged given summary result) member ofSite overwritten
  case noneDeleted => exact fun given summary ok => deleted_eq kept (merged given summary ok)
  case deletes =>
    rintro rfl summary ok
    have pass := passed summary ok
    exact ⟨fun row member => replaced_away_iff kept pass member, deleted_eq kept pass⟩
  case harmless =>
    intro x inside name known carried
    obtain ⟨i, found⟩ := List.mem_iff_getElem?.mp inside
    rw [(asks i x found).2.2] at carried
    exact retains (filter_of_carried known carried)
  case unchanged => exact unchanged

def shopProduct (key : Int64) (name : String) : Product := .new ⟨7⟩ key name .epoch

def shop : Database :=
  (Database.new.commit (Session.after ⟨.empty, 0, true, fun _ => none⟩
    [.insert .product (shopProduct 1 "old"), .insert .product (shopProduct 5 "sold out")])).2

theorem shop_kept : KeptContents shop.supply shop.contents :=
  (Database.Reachable.commit _ .new rfl).kept

def shopWorld : World Remote.Script where
  remote := Remote.Script.empty.modify .product fun part =>
    part.serve ⟨7⟩ [shopProduct 1 "new", shopProduct 2 "more"]
  db := shop
  events := []

def inStock : ProductFilter := ⟨some .inStock, none, none⟩

def syncedShop (filter : ProductFilter) : Outcome Summary × World Remote.Script :=
  (operation Remote.Script.service (.paged 2 5)
    (.synchronizeProducts ⟨7⟩ filter .nameAscending)).run shopWorld

theorem shop_followsFilter :
    KeptContents shopWorld.db.supply shopWorld.db.contents ∧
      (syncedShop inStock).2.db.contents.products =
        [⟨.issued 0, shopProduct 1 "new", []⟩, ⟨.issued 1, shopProduct 5 "sold out", []⟩,
          ⟨.issued 2, shopProduct 2 "more", []⟩] ∧
      (∃ log, log.map (·.query.params) =
          [[("orderby", "title"), ("order", "asc"), ("stock_status", "instock")],
            [("orderby", "title"), ("order", "asc"), ("stock_status", "instock")]] ∧
        FollowsFilter (.paged 2 5) ⟨7⟩ inStock .nameAscending shop.contents
          (syncedShop inStock).2.db.contents log (.ok ⟨1, 1, 0⟩)) ∧
      ∃ log, FollowsFilter (.paged 2 5) ⟨7⟩ .none .nameAscending shop.contents
        (syncedShop .none).2.db.contents log (.ok ⟨1, 1, 1⟩) := by
  obtain ⟨log, ran, follows⟩ := synchronizeProducts_followsFilter Remote.Script.service
    (.paged 2 5) ⟨7⟩ inStock .nameAscending shopWorld shop_kept
  obtain ⟨log', -, follows'⟩ := synchronizeProducts_followsFilter Remote.Script.service
    (.paged 2 5) ⟨7⟩ .none .nameAscending shopWorld shop_kept
  have params := congrArg (fun ended => ended.2.remote.2.map (·.query.params)) ran
  exact ⟨shop_kept, rfl, ⟨log, params.symm.trans rfl, follows⟩, log', follows'⟩

end SiteCache.Sync
