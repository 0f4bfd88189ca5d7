import SiteCache.Proofs.Sync.Requests

set_option autoImplicit false

namespace SiteCache.Sync

open Remote (Service Reply Exchange pageOf)

variable {σ : Type}

def batchOf {R : Type} : Reply (List R) → List R
  | .records batch => batch
  | .failed _ | .crashed _ => []

def IsFull {R : Type} (size : UInt32) : Reply (List R) → Prop
  | .records batch => size.toNat ≤ batch.length
  | .failed _ | .crashed _ => False

-- What the last reply makes of the records before it.
def conclusion {R : Type} (got : List R) : Reply (List R) → Outcome (List R)
  | .records batch => .ok (got ++ batch)
  | .failed e => fail (.remote e)
  | .crashed text => crash text

section

variable (remote : Service σ) (k : ResourceKind) (site : SiteId) (q : ListQuery) (size : UInt32)
  (start : σ)

def remoteAfter : Nat → σ
  | 0 => start
  | pages + 1 => ((remote.list k site (pageQuery q size pages)).run (remoteAfter pages)).2

def pageReply (pages : Nat) : Reply (List (RecordOf k)) :=
  let now := remoteAfter remote k site q size start pages
  ((remote.list k site (pageQuery q size pages)).run now).1

def batches (pages : Nat) : List (List (RecordOf k)) :=
  (List.range pages).map fun i => batchOf (pageReply remote k site q size start i)

def exchanges (pages : Nat) : List Exchange :=
  (List.range pages).map fun i =>
    ⟨k, site, q.atPage ⟨.ofNat (i + 1), size⟩, pageReply remote k site q size start i⟩

structure EndsAfter (maxPages : UInt32) (pages : Nat) (result : Outcome (List (RecordOf k))) :
    Prop where
  ran : (fetchAll remote k (.paged size maxPages) site q).run start =
    (result, remoteAfter remote k site q size start pages)
  logged : (fetchAll remote.logged k (.paged size maxPages) site q).run (start, []) =
    (result, (remoteAfter remote k site q size start pages,
      exchanges remote k site q size start pages))

-- A remote that replies with the pages of one list.
def Serves (records : List (RecordOf k)) : Prop :=
  ∀ pages, pageReply remote k site q size start pages =
    .records (pageOf records ⟨.ofNat (pages + 1), size⟩)

/-- Which requests a walk makes, and how it ends: at the first page that does not come back full, or
else at the limit. -/
structure ExactWalk (maxPages : UInt32) : Prop where
  asks : ∀ pages ≤ maxPages.toNat,
    (exchanges remote k site q size start pages).map (·.query.toPairs) =
      (List.range pages).map fun i =>
        ("page", Text.natText (i + 1)) :: ("per_page", Text.natText size.toNat) :: q.params
  last : ∀ pages < maxPages.toNat,
    (∀ i < pages, IsFull size (pageReply remote k site q size start i)) →
    ¬ IsFull size (pageReply remote k site q size start pages) →
    EndsAfter remote k site q size start maxPages (pages + 1)
      (conclusion (batches remote k site q size start pages).flatten
        (pageReply remote k site q size start pages))
  limit : (∀ i < maxPages.toNat, IsFull size (pageReply remote k site q size start i)) →
    EndsAfter remote k site q size start maxPages maxPages.toNat
      (fail (.pageLimitExceeded k site maxPages))
  served : ∀ records, Serves remote k site q size start records →
    records.length < size.toNat * maxPages.toNat →
    EndsAfter remote k site q size start maxPages (records.length / size.toNat + 1) (.ok records)
  servedLimit : ∀ records, Serves remote k site q size start records →
    size.toNat * maxPages.toNat ≤ records.length →
    EndsAfter remote k site q size start maxPages maxPages.toNat
      (fail (.pageLimitExceeded k site maxPages))

end

section

variable {remote : Service σ} {k : ResourceKind} {site : SiteId} {q : ListQuery}
  {size maxPages : UInt32} {start : σ} {pages : Nat}

theorem batches_succ (pages : Nat) :
    batches remote k site q size start (pages + 1) =
      batches remote k site q size start pages ++
        [batchOf (pageReply remote k site q size start pages)] := by
  simp [batches, List.range_succ]

theorem length_batches (pages : Nat) :
    (batches remote k site q size start pages).length = pages := by
  simp [batches]

theorem exists_records_of_isFull {reply : Reply (List (RecordOf k))} (full : IsFull size reply) :
    ∃ batch, reply = .records batch ∧ size.toNat ≤ batch.length := by
  cases reply with
  | records batch => exact ⟨batch, rfl, full⟩
  | failed e => cases full
  | crashed text => cases full

theorem fullPages_batches
    (full : ∀ i < pages, IsFull size (pageReply remote k site q size start i)) :
    FullPages remote k site q size start (batches remote k site q size start pages)
      (remoteAfter remote k site q size start pages) := by
  induction pages with
  | zero => exact .start
  | succ pages ih =>
    obtain ⟨batch, reply, long⟩ := exists_records_of_isFull (full pages (by omega))
    rw [batches_succ, reply]
    refine .more (ih fun i below => full i (by omega)) ?_ long
    rw [length_batches]
    exact Prod.ext reply rfl

theorem fullExchanges_batches
    (full : ∀ i < pages, IsFull size (pageReply remote k site q size start i)) :
    fullExchanges k site q size (batches remote k site q size start pages) =
      exchanges remote k site q size start pages := by
  apply List.ext_getElem
  · simp [fullExchanges, exchanges, batches]
  · intro i bound _
    have below : i < pages := by simpa [fullExchanges, batches] using bound
    obtain ⟨batch, reply, -⟩ := exists_records_of_isFull (full i below)
    simp only [fullExchanges, exchanges, batches, List.getElem_mapIdx, List.getElem_map,
      List.getElem_range, pageExchange, pageQuery, reply]
    rfl

theorem endsAfter_of_logged {result : Outcome (List (RecordOf k))}
    (logged : (fetchAll remote.logged k (.paged size maxPages) site q).run (start, []) =
      (result, (remoteAfter remote k site q size start pages,
        exchanges remote k site q size start pages))) :
    EndsAfter remote k site q size start maxPages pages result :=
  ⟨ran_of_logged logged, logged⟩

theorem endsAfter_last (moreLeft : pages < maxPages.toNat)
    (full : ∀ i < pages, IsFull size (pageReply remote k site q size start i))
    (stops : ¬ IsFull size (pageReply remote k site q size start pages)) :
    EndsAfter remote k site q size start maxPages (pages + 1)
      (conclusion (batches remote k site q size start pages).flatten
        (pageReply remote k site q size start pages)) := by
  have asked : (remote.logged.list k site (pageQuery q size
      (batches remote k site q size start pages).length)).run
        (remoteAfter remote k site q size start pages,
          fullExchanges k site q size (batches remote k site q size start pages)) =
      (pageReply remote k site q size start pages,
        (remoteAfter remote k site q size start (pages + 1),
          exchanges remote k site q size start (pages + 1))) := by
    rw [fullExchanges_batches full, length_batches, logged_list]
    simp only [exchanges, List.range_succ, List.map_append]
    rfl
  have ran := fetchAll_asks (fullPages_batches full).logged
    (by rwa [length_batches]) asked
  apply endsAfter_of_logged
  rw [ran]
  cases reply : pageReply remote k site q size start pages with
  | records batch =>
    rw [reply] at stops
    rw [walkAfter_take_short (Nat.not_le.mp stops)]
    simp [conclusion]
  | failed e => rfl
  | crashed text => rfl

theorem endsAfter_limit (small : maxPages.toNat + 1 < UInt32.size)
    (full : ∀ i < maxPages.toNat, IsFull size (pageReply remote k site q size start i)) :
    EndsAfter remote k site q size start maxPages maxPages.toNat
      (fail (.pageLimitExceeded k site maxPages)) := by
  apply endsAfter_of_logged
  rw [fetchAll_limit (fullPages_batches full).logged (length_batches _) small,
    fullExchanges_batches full]

theorem pageNumber {i : Nat} (below : i < maxPages.toNat) :
    (UInt32.ofNat (i + 1)).toNat = i + 1 := by
  have fits : maxPages.toNat < UInt32.size := maxPages.toNat_lt
  exact UInt32.toNat_ofNat_of_lt' (by omega)

theorem exchanges_asks (within : pages ≤ maxPages.toNat) :
    (exchanges remote k site q size start pages).map (·.query.toPairs) =
      (List.range pages).map fun i =>
        ("page", Text.natText (i + 1)) :: ("per_page", Text.natText size.toNat) :: q.params := by
  rw [exchanges, List.map_map]
  refine List.map_congr_left fun i member => ?_
  have below : i < maxPages.toNat := by
    have inside := List.mem_range.mp member
    omega
  simp only [Function.comp_apply, ListQuery.toPairs, ListQuery.atPage, pageNumber below]
  rfl

variable {records : List (RecordOf k)}

theorem pageReply_served (serves : Serves remote k site q size start records) {i : Nat}
    (below : i < maxPages.toNat) :
    pageReply remote k site q size start i =
      .records ((records.drop (i * size.toNat)).take size.toNat) := by
  rw [serves, pageOf, pageNumber below]
  rfl

theorem batches_served (serves : Serves remote k site q size start records)
    (within : pages ≤ maxPages.toNat) :
    (batches remote k site q size start pages).flatten = records.take (pages * size.toNat) := by
  induction pages with
  | zero => simp [batches]
  | succ pages ih =>
    rw [batches_succ, pageReply_served serves within, List.flatten_append, ih (by omega)]
    simp [batchOf, Nat.succ_mul, List.take_add]

theorem isFull_served (serves : Serves remote k site q size start records)
    (some_size : 0 < size.toNat) {i : Nat} (below : i < maxPages.toNat) :
    IsFull size (pageReply remote k site q size start i) ↔
      (i + 1) * size.toNat ≤ records.length := by
  rw [pageReply_served serves below, IsFull, List.length_take, List.length_drop, Nat.succ_mul]
  omega

-- The first page that is not full begins before the end of the list and reaches behind it.
theorem endsAfter_served (serves : Serves remote k site q size start records)
    (some_size : 0 < size.toNat) (few : records.length < size.toNat * maxPages.toNat) :
    EndsAfter remote k site q size start maxPages (records.length / size.toNat + 1)
      (.ok records) := by
  have moreLeft : records.length / size.toNat < maxPages.toNat := Nat.div_lt_of_lt_mul few
  have whole := Nat.div_add_mod' records.length size.toNat
  have short := Nat.mod_lt records.length some_size
  have full : ∀ i < records.length / size.toNat,
      IsFull size (pageReply remote k site q size start i) := by
    intro i below
    rw [isFull_served serves some_size (Nat.lt_trans below moreLeft)]
    calc (i + 1) * size.toNat ≤ records.length / size.toNat * size.toNat :=
          Nat.mul_le_mul_right _ below
      _ ≤ records.length := Nat.div_mul_le_self _ _
  have stops : ¬ IsFull size
      (pageReply remote k site q size start (records.length / size.toNat)) := by
    rw [isFull_served serves some_size moreLeft, Nat.succ_mul]
    omega
  have ended := endsAfter_last moreLeft full stops
  have last : (records.drop (records.length / size.toNat * size.toNat)).length ≤ size.toNat := by
    rw [List.length_drop]
    omega
  rwa [pageReply_served serves moreLeft, batches_served serves (Nat.le_of_lt moreLeft), conclusion,
    List.take_of_length_le last, List.take_append_drop] at ended

theorem endsAfter_served_limit (serves : Serves remote k site q size start records)
    (some_size : 0 < size.toNat) (small : maxPages.toNat + 1 < UInt32.size)
    (many : size.toNat * maxPages.toNat ≤ records.length) :
    EndsAfter remote k site q size start maxPages maxPages.toNat
      (fail (.pageLimitExceeded k site maxPages)) := by
  refine endsAfter_limit small fun i below => ?_
  rw [isFull_served serves some_size below]
  calc (i + 1) * size.toNat ≤ maxPages.toNat * size.toNat := Nat.mul_le_mul_right _ below
    _ = size.toNat * maxPages.toNat := Nat.mul_comm _ _
    _ ≤ records.length := many

end

theorem walk_exact (remote : Service σ) (k : ResourceKind) (site : SiteId) (q : ListQuery)
    {size maxPages : UInt32} (start : σ) (some_size : 1 ≤ size) (small : maxPages < 4294967295) :
    ExactWalk remote k site q size start maxPages := by
  have positive : 0 < size.toNat := UInt32.le_iff_toNat_le.mp some_size
  have numbered : maxPages.toNat + 1 < UInt32.size :=
    Nat.succ_lt_succ (UInt32.lt_iff_toNat_lt.mp small)
  exact {
    asks := fun _ within => exchanges_asks within
    last := fun _ moreLeft full stops => endsAfter_last moreLeft full stops
    limit := endsAfter_limit numbered
    served := fun _ serves few => endsAfter_served serves positive few
    servedLimit := fun _ serves many => endsAfter_served_limit serves positive numbered many }

def catalog (coupons : List Coupon) : Service Unit where
  list
    | .coupon, _, q => pure (.records (q.page.elim coupons (pageOf coupons)))
    | _, _, _ => pure (.records [])

def fourCoupons : List Coupon :=
  [couponOf ⟨7⟩ 1 "a", couponOf ⟨7⟩ 2 "b", couponOf ⟨7⟩ 3 "c", couponOf ⟨7⟩ 4 "d"]

theorem fourCoupons_exact :
    Serves (catalog fourCoupons) .coupon ⟨7⟩ .unpaged 2 () fourCoupons ∧
      EndsAfter (catalog fourCoupons) .coupon ⟨7⟩ .unpaged 2 () 3 3 (.ok fourCoupons) ∧
      EndsAfter (catalog fourCoupons) .coupon ⟨7⟩ .unpaged 2 () 2 2
        (fail (.pageLimitExceeded .coupon ⟨7⟩ 2)) := by
  have serves : Serves (catalog fourCoupons) .coupon ⟨7⟩ .unpaged 2 () fourCoupons :=
    fun _ => rfl
  have three : ExactWalk (catalog fourCoupons) .coupon ⟨7⟩ .unpaged 2 () 3 :=
    walk_exact _ _ _ _ () (by decide) (by decide)
  have two : ExactWalk (catalog fourCoupons) .coupon ⟨7⟩ .unpaged 2 () 2 :=
    walk_exact _ _ _ _ () (by decide) (by decide)
  exact ⟨serves, three.served _ serves (by decide), two.servedLimit _ serves (by decide)⟩

end SiteCache.Sync
