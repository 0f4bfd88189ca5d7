import SiteCache.Sync.PageWalk

set_option autoImplicit false

namespace SiteCache.Sync

open Remote (Service Reply)

variable {σ : Type}

def pageQuery (q : ListQuery) (size : UInt32) (pages : Nat) : ListQuery :=
  q.atPage ⟨.ofNat (pages + 1), size⟩

section

variable (remote : Service σ) (k : ResourceKind) (site : SiteId) (q : ListQuery)

inductive FullPages (size : UInt32) (start : σ) : List (List (RecordOf k)) → σ → Prop
  | start : FullPages size start [] start
  | more {full : List (List (RecordOf k))} {batch : List (RecordOf k)} {now next : σ} :
    FullPages size start full now →
    (remote.list k site (pageQuery q size full.length)).run now = (.records batch, next) →
    size.toNat ≤ batch.length → FullPages size start (full ++ [batch]) next

/-- A collection has come back complete, in these batches. -/
inductive Collected (start : σ) : Paging → List (List (RecordOf k)) → σ → Prop
  | whole {batch : List (RecordOf k)} {next : σ} :
    (remote.list k site q).run start = (.records batch, next) →
    Collected start .unpaged [batch] next
  | pages {size maxPages : UInt32} {full : List (List (RecordOf k))} {last : List (RecordOf k)}
      {now next : σ} :
    FullPages remote k site q size start full now → full.length < maxPages.toNat →
    (remote.list k site (pageQuery q size full.length)).run now = (.records last, next) →
    last.length < size.toNat → Collected start (.paged size maxPages) (full ++ [last]) next

/-- A request has failed after all earlier ones went well, or there are too many pages. The largest
limit is never met: the number of the page overflows before. -/
inductive FetchFails (start : σ) : Paging → SyncError → Prop
  | whole {e : Remote.RemoteError} {next : σ} :
    (remote.list k site q).run start = (.failed e, next) → FetchFails start .unpaged (.remote e)
  | page {size maxPages : UInt32} {full : List (List (RecordOf k))} {e : Remote.RemoteError}
      {now next : σ} :
    FullPages remote k site q size start full now → full.length < maxPages.toNat →
    (remote.list k site (pageQuery q size full.length)).run now = (.failed e, next) →
    FetchFails start (.paged size maxPages) (.remote e)
  | limit {size maxPages : UInt32} {full : List (List (RecordOf k))} {now : σ} :
    FullPages remote k site q size start full now → full.length = maxPages.toNat →
    maxPages.toNat + 1 < UInt32.size →
    FetchFails start (.paged size maxPages) (.pageLimitExceeded k site maxPages)

inductive FetchEnds (start : σ) (paging : Paging) : Outcome (List (RecordOf k)) → σ → Prop
  | complete {batches : List (List (RecordOf k))} {next : σ} :
    Collected remote k site q start paging batches next →
    FetchEnds start paging (.ok batches.flatten) next
  | failed {e : SyncError} {next : σ} :
    FetchFails remote k site q start paging e → FetchEnds start paging (fail e) next
  | crashed {text : String} {next : σ} : FetchEnds start paging (crash text) next

end

section

variable {remote : Service σ} {k : ResourceKind} {site : SiteId} {q : ListQuery}

theorem walk_succ (limit : SyncError) (fuel : Nat) (w : Walk (RecordOf k)) (now : σ) :
    (walk remote k site q limit (fuel + 1) w).run now =
      if w.left = 0 then (fail limit, now)
      else
        match (remote.list k site (w.request q)).run now with
        | (reply, next) =>
          match w.take reply with
          | .more w => (walk remote k site q limit fuel w).run next
          | .done r => (r, next) := by
  rw [walk]
  split
  · rfl
  · change (match w.take ((remote.list k site (w.request q)).run now).1 with
      | .more w => walk remote k site q limit fuel w
      | .done r => pure r) ((remote.list k site (w.request q)).run now).2 = _
    obtain ⟨reply, next⟩ := (remote.list k site (w.request q)).run now
    dsimp only
    cases w.take reply <;> rfl

-- The walk after some full pages.
def walkAfter (size : UInt32) (maxPages : Nat) (full : List (List (RecordOf k))) :
    Walk (RecordOf k) :=
  ⟨some ⟨.ofNat (full.length + 1), size⟩, maxPages - full.length, full.flatten⟩

theorem walkAfter_request (size : UInt32) (maxPages : Nat) (full : List (List (RecordOf k))) :
    (walkAfter size maxPages full).request q = pageQuery q size full.length := rfl

theorem next?_ofNat (size : UInt32) {n : Nat} (fits : n + 1 < UInt32.size) :
    (⟨.ofNat n, size⟩ : Page).next? = some ⟨.ofNat (n + 1), size⟩ := by
  have number : (UInt32.ofNat n).toNat = n := UInt32.toNat_ofNat_of_lt' (by omega)
  have next : UInt32.ofNat n + 1 = UInt32.ofNat (n + 1) := by simp [UInt32.ofNat_add]
  rw [Page.next?, number, if_pos fits, next]

theorem next?_last (size : UInt32) {n : Nat} (last : n + 1 = UInt32.size) :
    (⟨.ofNat n, size⟩ : Page).next? = none := by
  have number : (UInt32.ofNat n).toNat = n := UInt32.toNat_ofNat_of_lt' (by omega)
  rw [Page.next?, number, if_neg (by omega)]

theorem walkAfter_take_full {size : UInt32} {maxPages : Nat} {full : List (List (RecordOf k))}
    {batch : List (RecordOf k)} (long : size.toNat ≤ batch.length)
    (fits : full.length + 2 < UInt32.size) :
    (walkAfter size maxPages full).take (.records batch) =
      .more (walkAfter size maxPages (full ++ [batch])) := by
  have next := next?_ofNat size fits
  have short : ¬ batch.length < size.toNat := by omega
  simp only [walkAfter, Walk.take, Walk.receive, short, if_false, next]
  simp [Nat.sub_sub]

theorem walkAfter_take_overflow {size : UInt32} {maxPages : Nat} {full : List (List (RecordOf k))}
    {batch : List (RecordOf k)} (long : size.toNat ≤ batch.length)
    (overflows : full.length + 2 = UInt32.size) :
    (walkAfter size maxPages full).take (.records batch) =
      .done (crash "attempt to add with overflow") := by
  have next := next?_last size overflows
  have short : ¬ batch.length < size.toNat := by omega
  simp only [walkAfter, Walk.take, Walk.receive, short, if_false, next]

theorem walkAfter_take_short {size : UInt32} {maxPages : Nat} {full : List (List (RecordOf k))}
    {batch : List (RecordOf k)} (short : batch.length < size.toNat) :
    (walkAfter size maxPages full).take (.records batch) =
      .done (.ok (full ++ [batch]).flatten) := by
  simp [walkAfter, Walk.take, Walk.receive, short]

theorem walk_result {size maxPages : UInt32} {full : List (List (RecordOf k))} {start now next : σ}
    {result : Outcome (List (RecordOf k))} {fuel : Nat}
    (walked : FullPages remote k site q size start full now)
    (within : full.length ≤ maxPages.toNat) (fits : full.length + 1 < UInt32.size)
    (enough : fuel = maxPages.toNat + 1 - full.length)
    (ran : (walk remote k site q (limitError k site (.paged size maxPages)) fuel
      (walkAfter size maxPages.toNat full)).run now = (result, next)) :
    FetchEnds remote k site q start (.paged size maxPages) result next := by
  -- The fuel is one more than the pages that are left, so the limit ends the walk before it.
  -- The fuel is one more than the pages that are left, so the limit ends the walk before it.
  induction fuel generalizing full now with
  | zero => omega
  | succ fuel ih =>
    rw [walk_succ, walkAfter_request] at ran
    split at ran <;> rename_i left
    · have all : full.length = maxPages.toNat := by
        simp only [walkAfter] at left
        omega
      cases ran
      exact .failed (.limit walked all (by omega))
    · have moreLeft : full.length < maxPages.toNat := by
        simp only [walkAfter] at left
        omega
      cases asked : (remote.list k site (pageQuery q size full.length)).run now with
      | mk reply now' =>
        rw [asked] at ran
        dsimp only at ran
        cases reply with
        | failed e =>
          cases ran
          exact .failed (.page walked moreLeft asked)
        | crashed text =>
          cases ran
          exact .crashed
        | records batch =>
          by_cases short : batch.length < size.toNat
          · rw [walkAfter_take_short short] at ran
            cases ran
            exact .complete (.pages walked moreLeft asked short)
          · have long : size.toNat ≤ batch.length := by omega
            -- The next page must have a number.
            by_cases fits' : full.length + 2 < UInt32.size
            · rw [walkAfter_take_full long fits'] at ran
              exact ih (.more walked asked long) (by simp; omega) (by simpa using fits')
                (by simp; omega) ran
            · rw [walkAfter_take_overflow long (by omega)] at ran
              cases ran
              exact .crashed

theorem walk_full {size : UInt32} {maxPages : Nat} {limit : SyncError}
    {full : List (List (RecordOf k))} {start now : σ}
    (walked : FullPages remote k site q size start full now) (within : full.length ≤ maxPages)
    (fits : full.length + 1 < UInt32.size) :
    (walk remote k site q limit (maxPages + 1) (walkAfter size maxPages [])).run start =
      (walk remote k site q limit (maxPages + 1 - full.length)
        (walkAfter size maxPages full)).run now := by
  -- Each full page takes one turn of the walk.
  induction walked with
  | start => rfl
  | @more full batch now next earlier asked long ih =>
    simp only [List.length_append, List.length_singleton] at within fits
    have fuel : maxPages + 1 - full.length = (maxPages + 1 - (full ++ [batch]).length) + 1 := by
      simp
      omega
    have left : (walkAfter size maxPages full).left ≠ 0 := by
      simp only [walkAfter]
      omega
    rw [ih (by omega) (by omega), fuel, walk_succ, if_neg left, walkAfter_request, asked]
    dsimp only
    rw [walkAfter_take_full long fits]

variable {paging : Paging} {start next : σ}

theorem fetchAll_paged (size maxPages : UInt32) :
    fetchAll remote k (.paged size maxPages) site q =
      walk remote k site q (limitError k site (.paged size maxPages)) (maxPages.toNat + 1)
        (walkAfter size maxPages.toNat []) := rfl

theorem fetchAll_unpaged (now : σ) :
    (fetchAll remote k .unpaged site q).run now =
      match (remote.list k site q).run now with
      | (.records batch, next) => (.ok batch, next)
      | (.failed e, next) => (fail (.remote e), next)
      | (.crashed text, next) => (crash text, next) := by
  unfold fetchAll
  rw [walk_succ, if_neg (by simp [Walk.start])]
  have request : (Walk.start .unpaged : Walk (RecordOf k)).request q = q := rfl
  rw [request]
  obtain ⟨reply, next⟩ := (remote.list k site q).run now
  cases reply <;> rfl

theorem fetchAll_ends {result : Outcome (List (RecordOf k))}
    (ran : (fetchAll remote k paging site q).run start = (result, next)) :
    FetchEnds remote k site q start paging result next := by
  cases paging with
  | unpaged =>
    rw [fetchAll_unpaged] at ran
    split at ran <;> rename_i asked <;> cases ran
    · simpa using FetchEnds.complete (.whole asked)
    · exact .failed (.whole asked)
    · exact .crashed
  | paged size maxPages =>
    rw [fetchAll_paged] at ran
    exact walk_result .start (by simp) (by simp [UInt32.size]) (by simp) ran

theorem fetchAll_ok {records : List (RecordOf k)}
    (ran : (fetchAll remote k paging site q).run start = (.ok records, next)) :
    ∃ batches, Collected remote k site q start paging batches next ∧
      records = batches.flatten := by
  cases fetchAll_ends ran with
  | complete collected => exact ⟨_, collected, rfl⟩

theorem fetchAll_asks {size maxPages : UInt32} {full : List (List (RecordOf k))} {now : σ}
    {reply : Reply (List (RecordOf k))} (walked : FullPages remote k site q size start full now)
    (moreLeft : full.length < maxPages.toNat)
    (asked : (remote.list k site (pageQuery q size full.length)).run now = (reply, next)) :
    (fetchAll remote k (.paged size maxPages) site q).run start =
      match (walkAfter size maxPages.toNat full).take reply with
      | .more w => (walk remote k site q (limitError k site (.paged size maxPages))
          (maxPages.toNat - full.length) w).run next
      | .done r => (r, next) := by
  have below : maxPages.toNat < UInt32.size := maxPages.toNat_lt
  have fuel : maxPages.toNat + 1 - full.length = (maxPages.toNat - full.length) + 1 := by omega
  have left : (walkAfter size maxPages.toNat full).left ≠ 0 := by
    simp only [walkAfter]
    omega
  rw [fetchAll_paged, walk_full walked (by omega) (by omega), fuel, walk_succ, if_neg left,
    walkAfter_request, asked]
  rfl

theorem fetchAll_limit {size maxPages : UInt32} {full : List (List (RecordOf k))} {now : σ}
    (walked : FullPages remote k site q size start full now)
    (all : full.length = maxPages.toNat) (small : maxPages.toNat + 1 < UInt32.size) :
    (fetchAll remote k (.paged size maxPages) site q).run start =
      (fail (.pageLimitExceeded k site maxPages), now) := by
  have left : (walkAfter size maxPages.toNat full).left = 0 := by
    simp only [walkAfter]
    omega
  have fuel : maxPages.toNat + 1 - full.length = 0 + 1 := by omega
  rw [fetchAll_paged, walk_full walked (by omega) (by omega), fuel, walk_succ, if_pos left]
  rfl

theorem fetchAll_overflows {size maxPages : UInt32} {full : List (List (RecordOf k))} {now : σ}
    (walked : FullPages remote k site q size start full now)
    (all : full.length = maxPages.toNat) (largest : maxPages.toNat + 1 = UInt32.size) :
    (fetchAll remote k (.paged size maxPages) site q).run start =
      (crash "attempt to add with overflow", now) := by
  cases walked with
  | start =>
    rw [List.length_nil] at all
    rw [← all] at largest
    cases largest
  | more earlier asked long =>
    rw [List.length_append, List.length_singleton] at all
    rw [fetchAll_asks earlier (by omega) asked, walkAfter_take_overflow long (by omega)]

theorem fetchAll_collected {batches : List (List (RecordOf k))}
    (collected : Collected remote k site q start paging batches next) :
    (fetchAll remote k paging site q).run start = (.ok batches.flatten, next) := by
  cases collected with
  | whole asked =>
    rw [fetchAll_unpaged, asked]
    simp
  | pages walked moreLeft asked short =>
    rw [fetchAll_asks walked moreLeft asked, walkAfter_take_short short]

theorem fetchAll_fails_iff (e : SyncError) :
    ((fetchAll remote k paging site q).run start).1 = fail e ↔
      FetchFails remote k site q start paging e := by
  constructor
  · intro failed
    cases ran : (fetchAll remote k paging site q).run start with
    | mk result next =>
      rw [ran] at failed
      subst failed
      cases fetchAll_ends ran with
      | failed fails => exact fails
  · intro fails
    cases fails with
    | whole asked => rw [fetchAll_unpaged, asked]
    | page walked moreLeft asked =>
      rw [fetchAll_asks walked moreLeft asked]
      rfl
    | limit walked all small => rw [fetchAll_limit walked all small]

end

end SiteCache.Sync
