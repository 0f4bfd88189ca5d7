import SiteCache.Config.Basic
import SiteCache.Proofs.Sync.Mirroring

set_option autoImplicit false

namespace SiteCache.Remote

structure Exchange where
  kind : ResourceKind
  site : SiteId
  query : ListQuery
  reply : Reply (List (RecordOf kind))

def Service.logged {σ : Type} (remote : Service σ) : Service (σ × List Exchange) where
  list k site q := fun (now, log) =>
    let (reply, next) := (remote.list k site q).run now
    (reply, (next, log ++ [⟨k, site, q, reply⟩]))

end SiteCache.Remote

namespace SiteCache.Sync

open Remote (Service Reply Exchange)

variable {σ : Type} {remote : Service σ} {k : ResourceKind} {site : SiteId} {q : ListQuery}

theorem logged_list (now : σ) (log : List Exchange) :
    (remote.logged.list k site q).run (now, log) =
      (((remote.list k site q).run now).1, (((remote.list k site q).run now).2,
        log ++ [⟨k, site, q, ((remote.list k site q).run now).1⟩])) := rfl

theorem walk_logged (limit : SyncError) (fuel : Nat) (w : Walk (RecordOf k)) (now : σ)
    (log : List Exchange) :
    ∃ log', (walk remote.logged k site q limit fuel w).run (now, log) =
      (((walk remote k site q limit fuel w).run now).1,
        (((walk remote k site q limit fuel w).run now).2, log')) := by
  induction fuel generalizing w now log with
  | zero => exact ⟨log, rfl⟩
  | succ fuel ih =>
    rw [walk_succ, walk_succ, logged_list]
    split
    · exact ⟨log, rfl⟩
    · obtain ⟨reply, next⟩ := (remote.list k site (w.request q)).run now
      dsimp only
      cases w.take reply with
      | more w => exact ih w next _
      | done r => exact ⟨_, rfl⟩

theorem fetchAll_logged (remote : Service σ) (k : ResourceKind) (site : SiteId) (q : ListQuery)
    (paging : Paging) (start : σ) :
    ∃ log, (fetchAll remote.logged k paging site q).run (start, []) =
      (((fetchAll remote k paging site q).run start).1,
        (((fetchAll remote k paging site q).run start).2, log)) :=
  walk_logged _ _ _ _ _

def pageExchange (k : ResourceKind) (site : SiteId) (q : ListQuery) (size : UInt32) (pages : Nat)
    (reply : Reply (List (RecordOf k))) : Exchange :=
  ⟨k, site, pageQuery q size pages, reply⟩

def fullExchanges (k : ResourceKind) (site : SiteId) (q : ListQuery) (size : UInt32)
    (full : List (List (RecordOf k))) : List Exchange :=
  full.mapIdx fun pages batch => pageExchange k site q size pages (.records batch)

theorem FullPages.logged {size : UInt32} {start now : σ} {full : List (List (RecordOf k))}
    (walked : FullPages remote k site q size start full now) :
    FullPages remote.logged k site q size (start, []) full
      (now, fullExchanges k site q size full) := by
  induction walked with
  | start => exact .start
  | @more full batch now next _ asked long ih =>
    have noted : fullExchanges k site q size (full ++ [batch]) =
        fullExchanges k site q size full ++
          [pageExchange k site q size full.length (.records batch)] := by
      simp [fullExchanges, List.mapIdx_append]
    refine .more ih ?_ long
    rw [logged_list, asked, noted]
    rfl

section

variable (remote k site q)

-- A walk goes on until a page does not come back full, or as many as are allowed have.
theorem exists_fullPages (size : UInt32) (maxPages : Nat) (start : σ) :
    ∃ full now, FullPages remote k site q size start full now ∧ full.length ≤ maxPages ∧
      (full.length < maxPages → ∀ batch next,
        (remote.list k site (pageQuery q size full.length)).run now = (.records batch, next) →
          batch.length < size.toNat) := by
  induction maxPages with
  | zero => exact ⟨[], start, .start, by simp, by simp⟩
  | succ maxPages ih =>
    obtain ⟨full, now, walked, within, stops⟩ := ih
    by_cases early : full.length < maxPages
    · exact ⟨full, now, walked, by omega, fun _ => stops early⟩
    · by_cases goesOn : ∃ batch next,
        (remote.list k site (pageQuery q size full.length)).run now = (.records batch, next) ∧
          size.toNat ≤ batch.length
      · obtain ⟨batch, next, asked, long⟩ := goesOn
        exact ⟨full ++ [batch], next, .more walked asked long, by simp; omega, by simp; omega⟩
      · refine ⟨full, now, walked, by omega, ?_⟩
        intro _ batch next asked
        by_contra long
        exact goesOn ⟨batch, next, asked, by omega⟩

end

/-- How a walk may end after these requests. -/
inductive Reports (k : ResourceKind) (site : SiteId) (size maxPages : UInt32)
    (log : List Exchange) : Outcome (List (RecordOf k)) → Prop
  | collection (records : List (RecordOf k)) : Reports k site size maxPages log (.ok records)
  | refusal {x : Exchange} {e : Remote.RemoteError} : log.getLast? = some x →
    x.reply = .failed e → Reports k site size maxPages log (fail (.remote e))
  | limit : log.length = maxPages.toNat → maxPages.toNat + 1 < UInt32.size →
    Reports k site size maxPages log (fail (.pageLimitExceeded k site maxPages))
  | broken {x : Exchange} {text : String} : log.getLast? = some x → x.reply = .crashed text →
    Reports k site size maxPages log (crash text)
  | overflow : log.length = maxPages.toNat → maxPages.toNat + 1 = UInt32.size →
    (∀ x ∈ log, ∃ batch, x.reply = .records batch ∧ size.toNat ≤ batch.length) →
    Reports k site size maxPages log (crash "attempt to add with overflow")

-- What a request of a walk asks for.
def AsksWithin (k : ResourceKind) (site : SiteId) (q : ListQuery) (size maxPages : UInt32)
    (x : Exchange) : Prop :=
  x.kind = k ∧ x.site = site ∧
    ∃ number, 1 ≤ number ∧ number ≤ maxPages ∧ x.query = q.atPage ⟨number, size⟩

theorem pageQuery_within (size : UInt32) {maxPages : UInt32} {pages : Nat}
    (below : pages < maxPages.toNat) :
    ∃ number, 1 ≤ number ∧ number ≤ maxPages ∧
      pageQuery q size pages = q.atPage ⟨number, size⟩ := by
  have fits : maxPages.toNat < UInt32.size := maxPages.toNat_lt
  have number : (UInt32.ofNat (pages + 1)).toNat = pages + 1 :=
    UInt32.toNat_ofNat_of_lt' (by omega)
  refine ⟨.ofNat (pages + 1), ?_, ?_, rfl⟩
  · rw [UInt32.le_iff_toNat_le, number]
    simp
  · rw [UInt32.le_iff_toNat_le, number]
    omega

theorem fullExchanges_within (size : UInt32) {maxPages : UInt32} {full : List (List (RecordOf k))}
    (within : full.length ≤ maxPages.toNat) {x : Exchange}
    (member : x ∈ fullExchanges k site q size full) :
    AsksWithin k site q size maxPages x := by
  obtain ⟨pages, bound, rfl⟩ := List.mem_mapIdx.mp member
  exact ⟨rfl, rfl, pageQuery_within size (by omega)⟩

theorem FullPages.long {size : UInt32} {start now : σ} {full : List (List (RecordOf k))}
    (walked : FullPages remote k site q size start full now) :
    ∀ batch ∈ full, size.toNat ≤ batch.length := by
  induction walked with
  | start => simp
  | more _ _ long ih =>
    intro batch member
    rcases List.mem_append.mp member with earlier | last
    · exact ih batch earlier
    · rw [List.mem_singleton.mp last]
      exact long

theorem fullExchanges_full {size : UInt32} {full : List (List (RecordOf k))}
    (long : ∀ batch ∈ full, size.toNat ≤ batch.length) {x : Exchange}
    (member : x ∈ fullExchanges k site q size full) :
    ∃ batch, x.reply = .records batch ∧ size.toNat ≤ batch.length := by
  obtain ⟨pages, bound, rfl⟩ := List.mem_mapIdx.mp member
  exact ⟨full[pages], rfl, long _ (List.getElem_mem bound)⟩

structure Reported (remote : Service σ) (k : ResourceKind) (site : SiteId) (q : ListQuery)
    (size maxPages : UInt32) (start : σ) (result : Outcome (List (RecordOf k))) (next : σ)
    (log : List Exchange) : Prop where
  ran : (fetchAll remote k (.paged size maxPages) site q).run start = (result, next)
  logged : (fetchAll remote.logged k (.paged size maxPages) site q).run (start, []) =
    (result, (next, log))
  bounded : log.length ≤ maxPages.toNat
  within : ∀ x ∈ log, AsksWithin k site q size maxPages x
  ended : Reports k site size maxPages log result

section

variable {size maxPages : UInt32} {start now next : σ} {full : List (List (RecordOf k))}

theorem ran_of_logged {result : Outcome (List (RecordOf k))} {log : List Exchange}
    (ran : (fetchAll remote.logged k (.paged size maxPages) site q).run (start, []) =
      (result, (next, log))) :
    (fetchAll remote k (.paged size maxPages) site q).run start = (result, next) := by
  obtain ⟨log', same⟩ := fetchAll_logged remote k site q (.paged size maxPages) start
  rw [ran] at same
  obtain ⟨result, rest⟩ := Prod.mk.inj same
  exact Prod.ext result.symm (Prod.mk.inj rest).1.symm

theorem reported_all (walked : FullPages remote k site q size start full now)
    (all : full.length = maxPages.toNat) :
    ∃ result, Reported remote k site q size maxPages start result now
      (fullExchanges k site q size full) := by
  have length : (fullExchanges k site q size full).length = maxPages.toNat := by
    simp [fullExchanges, all]
  have within : ∀ x ∈ fullExchanges k site q size full, AsksWithin k site q size maxPages x :=
    fun x member => fullExchanges_within size (by omega) member
  have below : maxPages.toNat < UInt32.size := maxPages.toNat_lt
  by_cases small : maxPages.toNat + 1 < UInt32.size
  · have ran := fetchAll_limit walked.logged all small
    exact ⟨_, ran_of_logged ran, ran, by omega, within, .limit length small⟩
  · have ran := fetchAll_overflows walked.logged all (by omega)
    exact ⟨_, ran_of_logged ran, ran, by omega, within,
      .overflow length (by omega) fun x => fullExchanges_full walked.long⟩

theorem reported_last {reply : Reply (List (RecordOf k))}
    (walked : FullPages remote k site q size start full now)
    (moreLeft : full.length < maxPages.toNat)
    (asked : (remote.list k site (pageQuery q size full.length)).run now = (reply, next))
    (stops : ∀ batch, reply = .records batch → batch.length < size.toNat) :
    ∃ result, Reported remote k site q size maxPages start result next
      (fullExchanges k site q size full ++ [pageExchange k site q size full.length reply]) := by
  have bounded : (fullExchanges k site q size full ++
      [pageExchange k site q size full.length reply]).length ≤ maxPages.toNat := by
    simp [fullExchanges]
    omega
  have within : ∀ x ∈ fullExchanges k site q size full ++
      [pageExchange k site q size full.length reply], AsksWithin k site q size maxPages x := by
    intro x member
    rcases List.mem_append.mp member with earlier | last
    · exact fullExchanges_within size (by omega) earlier
    · rw [List.mem_singleton.mp last]
      exact ⟨rfl, rfl, pageQuery_within size moreLeft⟩
  have noted : (remote.logged.list k site (pageQuery q size full.length)).run
      (now, fullExchanges k site q size full) = (reply, (next, fullExchanges k site q size full ++
        [pageExchange k site q size full.length reply])) := by
    rw [logged_list, asked]
    rfl
  have ran := fetchAll_asks walked.logged moreLeft noted
  cases reply with
  | records batch =>
    rw [walkAfter_take_short (stops batch rfl)] at ran
    exact ⟨_, ran_of_logged ran, ran, bounded, within, .collection _⟩
  | failed e =>
    exact ⟨_, ran_of_logged ran, ran, bounded, within, .refusal List.getLast?_concat rfl⟩
  | crashed text =>
    exact ⟨_, ran_of_logged ran, ran, bounded, within, .broken List.getLast?_concat rfl⟩

end

/-- Whatever a remote replies, fetching a paged collection ends: with records, the error of the
remote, or the limit, unless the remote crashes or all pages that can be numbered are full. -/
theorem fetchAll_reported (remote : Service σ) (k : ResourceKind) (site : SiteId) (q : ListQuery)
    (size maxPages : UInt32) (start : σ) :
    ∃ result next log, Reported remote k site q size maxPages start result next log := by
  obtain ⟨full, now, walked, within, stops⟩ :=
    exists_fullPages remote k site q size maxPages.toNat start
  by_cases all : full.length = maxPages.toNat
  · obtain ⟨result, reported⟩ := reported_all walked all
    exact ⟨_, _, _, reported⟩
  · have moreLeft : full.length < maxPages.toNat := by omega
    cases asked : (remote.list k site (pageQuery q size full.length)).run now with
    | mk reply next =>
      obtain ⟨result, reported⟩ := reported_last walked moreLeft asked fun batch same =>
        stops moreLeft batch next (same ▸ asked)
      exact ⟨_, _, _, reported⟩

def endless : Service Unit where
  list
    | .coupon, _, _ => pure (.records [couponOf ⟨7⟩ 1 "more"])
    | _, _, _ => pure (.records [])

theorem endless_fullPages (site : SiteId) (q : ListQuery) (pages : Nat) :
    FullPages endless .coupon site q 1 () (List.replicate pages [couponOf ⟨7⟩ 1 "more"]) () := by
  induction pages with
  | zero => exact .start
  | succ pages ih =>
    rw [List.replicate_succ']
    exact .more ih rfl (by decide)

theorem fetchAll_endless {maxPages : UInt32} (largest : maxPages.toNat + 1 = UInt32.size)
    (site : SiteId) (q : ListQuery) :
    (fetchAll endless .coupon (.paged 1 maxPages) site q).run () =
      (crash "attempt to add with overflow", ()) :=
  fetchAll_overflows (endless_fullPages site q maxPages.toNat) List.length_replicate largest

theorem largestLimit_overflows :
    ({ pageSize := 1, maxPages := 4294967295 } : Config).validate.1 = .ok () ∧
      ((fetchAll endless .coupon (.paged 1 4294967295) ⟨7⟩ .unpaged).run ()).1 =
        crash "attempt to add with overflow" := by
  refine ⟨by decide +kernel, ?_⟩
  rw [fetchAll_endless rfl]

end SiteCache.Sync
