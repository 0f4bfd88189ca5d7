import SiteCache.Proofs.Store.Statements

set_option autoImplicit false

namespace SiteCache.Store

variable {R K : Type} [DecidableEq K] [NaturalKey K] [Cached R K]

def refresh (site : SiteId) (records : List R) (row : Row R) : Row R :=
  if row.isOf site then
    match records.find? (Resource.key · == Resource.key row.record) with
    | some r => row.overwrite r
    | none => row
  else row

def issue (supply : Nat) : List R → List (Row R)
  | [] => []
  | r :: rest => freshRow supply r :: issue (supply + 1) rest

def isNew (site : SiteId) (rows : List (Row R)) (r : R) : Bool :=
  !rows.any (·.isAt site (Resource.key r))

def written (site : SiteId) (records : List R) (supply : Nat) (rows : List (Row R)) :
    List (Row R) :=
  rows.map (refresh site records) ++ issue supply (records.filter (isNew site rows))

theorem refresh_id (site : SiteId) (records : List R) (row : Row R) :
    (refresh site records row).id = row.id := by
  unfold refresh
  split
  · split <;> rfl
  · rfl

theorem refresh_identity (site : SiteId) (records : List R) (row : Row R) :
    (refresh site records row).identity = row.identity := by
  unfold refresh
  split
  · split
    · exact overwrite_identity row _
    · rfl
  · rfl

theorem refresh_of_absent {site : SiteId} {records : List R} {row : Row R}
    (absent : ∀ r ∈ records, row.identity ≠ (site, Resource.key r)) :
    refresh site records row = row := by
  unfold refresh
  split <;> rename_i ofSite
  · have noneFound : records.find? (Resource.key · == Resource.key row.record) = none := by
      rw [List.find?_eq_none]
      intro r member same
      apply absent r member
      simp [Row.identity, (isOf_iff site row).mp ofSite, beq_iff_eq.mp same]
    rw [noneFound]
  · rfl

theorem refresh_cons (site : SiteId) (r : R) (rest : List R) {row : Row R}
    (apart : ∀ x ∈ rest, Resource.key x ≠ Resource.key r) :
    refresh site (r :: rest) row =
      refresh site rest
        (if row.identity = (site, Resource.key r) then row.overwrite r else row) := by
  by_cases here : row.identity = (site, Resource.key r)
  · have absent : ∀ x ∈ rest, (row.overwrite r).identity ≠ (site, Resource.key x) := by
      intro x member same
      rw [overwrite_identity, here] at same
      exact apart x member (Prod.mk.inj same).2.symm
    rw [if_pos here, refresh_of_absent absent]
    simp only [Row.identity, Prod.mk.injEq] at here
    simp [refresh, Row.isOf, here.1, here.2]
  · rw [if_neg here]
    by_cases ofSite : row.isOf site
    · have other : Resource.key r ≠ Resource.key row.record := by
        intro same
        apply here
        simp [Row.identity, (isOf_iff site row).mp ofSite, same]
      simp [refresh, ofSite, other]
    · simp [refresh, ofSite]

theorem isNew_of_identities {site : SiteId} {rows rows' : List (Row R)}
    (same : rows'.map Row.identity = rows.map Row.identity) (r : R) :
    isNew site rows' r = isNew site rows r := by
  have asMember (rows : List (Row R)) :
      rows.any (·.isAt site (Resource.key r)) ↔ (site, Resource.key r) ∈ rows.map Row.identity := by
    simp only [List.any_eq_true, List.mem_map, isAt_iff]
  unfold isNew
  rw [Bool.eq_iff_iff.mpr ((asMember rows').trans (same ▸ (asMember rows).symm))]

theorem overwriteAt_identities (id : RowId) (r : R) (rows : List (Row R)) :
    (overwriteAt id r rows).map Row.identity = rows.map Row.identity := by
  simp only [overwriteAt, List.map_map]
  exact List.map_congr_left fun row _ => overwriteAt_identity id r row

theorem isNew_overwriteAt (site : SiteId) (id : RowId) (r : R) (rows : List (Row R)) :
    isNew site (overwriteAt id r rows) = isNew site rows :=
  funext fun x => isNew_of_identities (overwriteAt_identities id r rows) x

theorem isNew_append {site : SiteId} {r x : R} (supply : Nat) (rows : List (Row R))
    (other : Resource.key x ≠ Resource.key r) :
    isNew site (rows ++ [freshRow supply r]) x = isNew site rows x := by
  simp [isNew, freshRow, Row.isAt, Ne.symm other]

theorem isNew_of_found {site : SiteId} {r : R} {rows : List (Row R)} {row : Row R}
    (found : rows.find? (·.isAt site (Resource.key r)) = some row) : isNew site rows r = false := by
  have taken := List.find?_isSome.mp (by rw [found]; rfl)
  simpa [isNew] using taken

theorem written_of_present {site : SiteId} {r : R} {rest : List R} {supply : Nat}
    {rows : List (Row R)} {row : Row R} (kept : Kept supply rows)
    (apart : ∀ x ∈ rest, Resource.key x ≠ Resource.key r)
    (found : rows.find? (·.isAt site (Resource.key r)) = some row) :
    written site (r :: rest) supply rows =
      written site rest supply (overwriteAt row.id r rows) := by
  obtain ⟨member, identity⟩ := (kept.find?_isAt _ _ _).mp found
  unfold written
  congr 1
  · rw [overwriteAt, List.map_map]
    apply List.map_congr_left
    intro x present
    -- Local ids and identities pick the same row.
    have same : x.id = row.id ↔ x.identity = (site, Resource.key r) := by
      constructor
      · intro id
        rw [kept.eq_of_id present member id, identity]
      · intro atKey
        rw [kept.eq_of_identity present member (atKey.trans identity.symm)]
    simp only [Function.comp_apply, same, refresh_cons site r rest apart]
  · simp [isNew_of_found found, isNew_overwriteAt]

theorem written_of_absent {site : SiteId} {r : R} {rest : List R} {supply : Nat}
    {rows : List (Row R)} (apart : ∀ x ∈ rest, Resource.key x ≠ Resource.key r)
    (absent : rows.any (·.isAt site (Resource.key r)) = false) :
    written site (r :: rest) supply rows =
      written site rest (supply + 1) (rows ++ [freshRow supply r]) := by
  have unchanged : rows.map (refresh site (r :: rest)) = rows.map (refresh site rest) := by
    apply List.map_congr_left
    intro row member
    rw [refresh_cons site r rest apart, if_neg]
    intro identity
    rw [List.any_eq_false] at absent
    exact absent row member ((isAt_iff _ _ _).mpr identity)
  have fresh : refresh site rest (freshRow supply r) = freshRow supply r := by
    apply refresh_of_absent
    intro x member same
    exact apart x member (Prod.mk.inj same).2.symm
  have news : rest.filter (isNew site (rows ++ [freshRow supply r])) =
      rest.filter (isNew site rows) :=
    List.filter_congr fun x member => isNew_append supply rows (apart x member)
  unfold written
  rw [unchanged, news, List.filter_cons]
  simp [isNew, absent, issue, fresh]

theorem written_nil (site : SiteId) (supply : Nat) (rows : List (Row R)) :
    written site [] supply rows = rows := by
  have unchanged : rows.map (refresh site []) = rows.map id :=
    List.map_congr_left fun row _ => refresh_of_absent (by simp)
  simp [written, issue, unchanged]

theorem mem_issue {supply : Nat} {records : List R} {row : Row R}
    (member : row ∈ issue supply records) :
    row.record ∈ records ∧ row.damage = [] ∧ ∃ n, supply ≤ n ∧ row.id = .issued n := by
  induction records generalizing supply with
  | nil => cases member
  | cons r rest ih =>
    rcases List.mem_cons.mp member with rfl | later
    · exact ⟨List.mem_cons_self, rfl, supply, Nat.le_refl supply, rfl⟩
    · obtain ⟨present, clean, n, le, id⟩ := ih later
      exact ⟨List.mem_cons_of_mem r present, clean, n, by omega, id⟩

theorem issue_records (supply : Nat) (records : List R) :
    (issue supply records).map (·.record) = records := by
  induction records generalizing supply with
  | nil => rfl
  | cons r rest ih => simp [issue, freshRow, ih]

def isStale (plan : Plan R) : Row R → Bool :=
  doomed plan.site fun key => !plan.keys.contains key

theorem isStale_of_identity (plan : Plan R) {a b : Row R} (same : a.identity = b.identity) :
    isStale plan a = isStale plan b := by
  unfold isStale doomed
  rw [isOf_of_identity same, (Prod.mk.inj same).2]

theorem isStale_issue (plan : Plan R) {supply : Nat} {keep : R → Bool} {row : Row R}
    (member : row ∈ issue supply (plan.records.filter keep)) : isStale plan row = false := by
  have present := (List.mem_filter.mp (mem_issue member).1).1
  have key : Resource.key row.record ∈ plan.keys := List.mem_map.mpr ⟨_, present, rfl⟩
  simp [isStale, doomed, key]

theorem countP_isStale_written (plan : Plan R) (supply : Nat) (rows : List (Row R)) :
    (written plan.site plan.records supply rows).countP (isStale plan) =
      rows.countP (isStale plan) := by
  have noneIssued :
      (issue supply (plan.records.filter (isNew plan.site rows))).countP (isStale plan) = 0 :=
    List.countP_eq_zero.mpr fun row member => by simp [isStale_issue plan member]
  rw [written, List.countP_append, noneIssued, List.countP_map, Nat.add_zero]
  apply List.countP_congr
  intro row _
  rw [Function.comp_apply, isStale_of_identity plan (refresh_identity _ _ row)]

def settled (plan : Plan R) (supply : Nat) (rows : List (Row R)) : List (Row R) :=
  let rows := written plan.site plan.records supply rows
  if plan.mode.deletesStale then
    rows.filter fun row => !isStale plan row
  else rows

namespace Session

@[simp] theorem tableRows_withRows (s : Session) (rows : List (Row R)) :
    tableRows R (s.withRows rows) = rows :=
  Cached.rows_setRows _ _

@[simp] theorem withRows_withRows (s : Session) (rows rows' : List (Row R)) :
    (s.withRows rows).withRows rows' = s.withRows rows' := by
  simp [withRows, Cached.setRows_setRows]

@[simp] theorem withRows_tableRows (s : Session) : s.withRows (tableRows R s) = s := by
  simp [withRows, tableRows, Cached.setRows_rows]

@[simp] theorem withRows_supply (s : Session) (rows : List (Row R)) :
    (s.withRows rows).supply = s.supply := rfl

-- The session with other rows in a table and some local ids drawn.
def drawn (s : Session) (rows : List (Row R)) (count : Nat) : Session :=
  { s.withRows rows with supply := s.supply + count }

@[simp] theorem tableRows_drawn (s : Session) (rows : List (Row R)) (count : Nat) :
    tableRows R (s.drawn rows count) = rows :=
  Cached.rows_setRows _ _

@[simp] theorem drawn_supply (s : Session) (rows : List (Row R)) (count : Nat) :
    (s.drawn rows count).supply = s.supply + count := rfl

@[simp] theorem drawn_withRows (s : Session) (rows rows' : List (Row R)) (count : Nat) :
    (s.withRows rows).drawn rows' count = s.drawn rows' count := by
  simp [drawn, withRows, Cached.setRows_setRows]

theorem inserted_eq_drawn (s : Session) (r : R) :
    s.inserted r = s.drawn (tableRows R s ++ [freshRow s.supply r]) 1 := rfl

theorem drawn_drawn (s : Session) (rows rows' : List (Row R)) (count count' : Nat) :
    (s.drawn rows count).drawn rows' count' = s.drawn rows' (count' + count) := by
  simp [drawn, withRows, Cached.setRows_setRows]
  omega

theorem upsert_ok {site : SiteId} {summary summary' : Summary} {r : R} {s s' : Session}
    (ofSite : Resource.site r = site)
    (ran : (upsert site summary r).run s = (.ok summary', s')) :
    (∃ row, (tableRows R s).find? (·.isAt site (Resource.key r)) = some row ∧
      s' = s.withRows (overwriteAt row.id r (tableRows R s)) ∧
      summary' = { summary with updated := summary.updated + 1 }) ∨
    ((tableRows R s).any (·.isAt site (Resource.key r)) = false ∧ s' = s.inserted r ∧
      summary' = { summary with inserted := summary.inserted + 1 }) := by
  unfold upsert at ran
  rw [run_bind] at ran
  split at ran <;> rename_i looked
  · obtain ⟨rfl, answer⟩ := find_ok looked
    cases found : (tableRows R _).find? (·.isAt site (Resource.key r)) with
    | some row =>
      rw [found, Option.map_some] at answer
      subst answer
      simp only [run_bind] at ran
      split at ran <;> rename_i updated <;> cases ran
      exact .inl ⟨row, rfl, (update_ok updated).2.2, rfl⟩
    | none =>
      rw [found, Option.map_none] at answer
      subst answer
      simp only [run_bind] at ran
      split at ran <;> rename_i made <;> cases ran
      obtain ⟨-, absent, -, rfl⟩ := insert_ok made
      exact .inr ⟨ofSite ▸ absent, rfl, rfl⟩
  · cases ran

theorem upserts_ok {site : SiteId} {records : List R} {summary summary' : Summary} {s s' : Session}
    (kept : Kept s.supply (tableRows R s)) (ofSite : ∀ r ∈ records, Resource.site r = site)
    (nodup : (records.map Resource.key).Nodup)
    (ran : (records.foldlM (upsert site) summary).run s = (.ok summary', s')) :
    s' = s.drawn (written site records s.supply (tableRows R s))
        (records.countP (isNew site (tableRows R s))) ∧
      Kept s'.supply (tableRows R s') ∧
      summary' = ⟨summary.inserted + records.countP (isNew site (tableRows R s)),
        summary.updated + records.countP (fun r => !isNew site (tableRows R s) r),
        summary.deleted⟩ := by
  -- The table that the first record leaves is the one that the rest is written to.
  induction records generalizing summary s with
  | nil =>
    cases ran
    simpa [written_nil, drawn] using kept
  | cons r rest ih =>
    obtain ⟨other, nodup⟩ := List.nodup_cons.mp nodup
    obtain ⟨first, ofSite⟩ := List.forall_mem_cons.mp ofSite
    have apart : ∀ x ∈ rest, Resource.key x ≠ Resource.key r := by
      intro x member same
      exact other (List.mem_map.mpr ⟨x, member, same⟩)
    rw [List.foldlM_cons, run_bind] at ran
    split at ran <;> rename_i one
    · rcases upsert_ok first one with ⟨row, found, rfl, rfl⟩ | ⟨absent, rfl, rfl⟩
      · obtain ⟨rfl, kept', rfl⟩ := ih (by simpa using kept.overwriteAt row.id r) ofSite nodup ran
        simp only [tableRows_withRows, isNew_overwriteAt, withRows_supply, drawn_withRows,
          ← written_of_present kept apart found] at kept' ⊢
        refine ⟨?_, kept', ?_⟩
        · simp [isNew_of_found found]
        · simp only [List.countP_cons, isNew_of_found found]
          congr 1
          simp
          omega
      · have same : ∀ x ∈ rest, isNew site (tableRows R s ++ [freshRow s.supply r]) x =
            isNew site (tableRows R s) x := fun x member => isNew_append _ _ (apart x member)
        have news := List.countP_congr fun x member => Bool.eq_iff_iff.mp (same x member)
        have olds := List.countP_congr fun x member =>
          Bool.eq_iff_iff.mp (congrArg not (same x member))
        have new : isNew site (tableRows R s) r = true := by simp [isNew, absent]
        rw [inserted_eq_drawn] at ran
        obtain ⟨rfl, kept', rfl⟩ := ih
          (by simpa using kept.append r (by rw [first]; exact absent)) ofSite nodup ran
        simp only [tableRows_drawn, drawn_supply, drawn_drawn,
          ← written_of_absent apart absent] at kept' ⊢
        refine ⟨?_, kept', ?_⟩
        · simp [new, news]
        · simp [new, news, olds]
          omega
    · cases ran

theorem apply_ok {plan : Plan R} {summary : Summary} {s s' : Session}
    (kept : Kept s.supply (tableRows R s))
    (ofSite : ∀ r ∈ plan.records, Resource.site r = plan.site)
    (nodup : (plan.records.map Resource.key).Nodup)
    (ran : (apply plan).run s = (.ok summary, s')) :
    s' = s.drawn (settled plan s.supply (tableRows R s))
        (plan.records.countP (isNew plan.site (tableRows R s))) ∧
      Kept s'.supply (tableRows R s') ∧
      summary = ⟨plan.records.countP (isNew plan.site (tableRows R s)),
        plan.records.countP (fun r => !isNew plan.site (tableRows R s) r),
        if plan.mode.deletesStale then (tableRows R s).countP (isStale plan) else 0⟩ := by
  unfold apply at ran
  rw [run_bind] at ran
  split at ran <;> rename_i upserted
  · obtain ⟨rfl, kept', rfl⟩ := upserts_ok kept ofSite nodup upserted
    cases deletes : plan.mode.deletesStale with
    | false =>
      simp only [deletes, Bool.false_eq_true, if_false, run_pure] at ran
      cases ran
      exact ⟨by simp [settled, deletes], kept', by simp [Summary.zero]⟩
    | true =>
      simp only [deletes, if_true, run_bind] at ran
      split at ran <;> rename_i deleted
      · obtain ⟨rfl, rfl⟩ := deleteWhere_ok deleted
        cases ran
        simp only [tableRows_drawn] at kept' ⊢
        refine ⟨?_, ?_, ?_⟩
        · simp [settled, deletes, isStale, drawn, withRows, Cached.setRows_setRows]
        · simpa using kept'.filter _
        · simpa [Summary.zero, isStale] using countP_isStale_written plan s.supply (tableRows R s)
      · cases ran
  · cases ran

end Session

end SiteCache.Store
