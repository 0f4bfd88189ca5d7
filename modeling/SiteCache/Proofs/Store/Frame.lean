import SiteCache.Proofs.Store.Pass
import SiteCache.Proofs.Store.Reachable

set_option autoImplicit false

namespace SiteCache.Store

section

variable {R K : Type} [DecidableEq K] [NaturalKey K] [Cached R K]

theorem filter_not_doomed_others (site : SiteId) (stale : K → Bool) (rows : List (Row R)) :
    (rows.filter fun row => !doomed site stale row).filter (!·.isOf site) =
      rows.filter (!·.isOf site) := by
  rw [List.filter_filter]
  apply List.filter_congr
  intro row _
  cases ofSite : row.isOf site <;> simp [doomed, ofSite]

theorem append_freshRow_others {site : SiteId} {r : R} (ofSite : Resource.site r = site)
    (supply : Nat) (rows : List (Row R)) :
    (rows ++ [freshRow supply r]).filter (!·.isOf site) = rows.filter (!·.isOf site) := by
  simp [freshRow, Row.isOf, ofSite]

theorem overwriteAt_others {site : SiteId} {supply : Nat} {rows : List (Row R)} {row : Row R}
    (kept : Kept supply rows) (member : row ∈ rows) (ofSite : row.isOf site) (r : R) :
    (overwriteAt row.id r rows).filter (!·.isOf site) = rows.filter (!·.isOf site) := by
  have same : rows.filter ((fun x => !x.isOf site) ∘
      fun x => if x.id = row.id then x.overwrite r else x) = rows.filter (!·.isOf site) := by
    apply List.filter_congr
    intro x _
    rw [Function.comp_apply, isOf_of_identity (overwriteAt_identity row.id r x)]
  rw [overwriteAt, List.filter_map, same]
  -- Local ids are unique, so a row of another site is not the one that is overwritten.
  apply (List.map_congr_left _).trans (List.map_id _)
  intro x inside
  obtain ⟨present, other⟩ := List.mem_filter.mp inside
  have apart : x.id ≠ row.id := by
    intro clash
    rw [kept.eq_of_id present member clash, ofSite] at other
    cases other
  rw [if_neg apart]
  rfl

end

def rowsOf (k : ResourceKind) (site : SiteId) (c : Contents) : List (Row (RecordOf k)) :=
  (kindRows k c).filter (·.isOf site)

/-- Contents that differ in rows of one kind and one site at most. -/
structure SameBut (k : ResourceKind) (site : SiteId) (before after : Contents) : Prop where
  kinds : ∀ j, j ≠ k → kindRows j after = kindRows j before
  sites : (kindRows k after).filter (!·.isOf site) = (kindRows k before).filter (!·.isOf site)

namespace SameBut

variable {k : ResourceKind} {site : SiteId} {c : Contents}

theorem refl (k : ResourceKind) (site : SiteId) (c : Contents) : SameBut k site c c :=
  ⟨fun _ _ => rfl, rfl⟩

theorem setRows {rows : List (Row (RecordOf k))}
    (others : rows.filter (!·.isOf site) = (kindRows k c).filter (!·.isOf site)) :
    SameBut k site c (Cached.setRows c rows) where
  kinds _ other := kindRows_setRows_of_ne other c rows
  sites := by
    rw [kindRows, Cached.rows_setRows]
    exact others

theorem trans {before between after : Contents} (first : SameBut k site before between)
    (second : SameBut k site between after) : SameBut k site before after :=
  ⟨fun j other => (second.kinds j other).trans (first.kinds j other),
    second.sites.trans first.sites⟩

theorem change {s s' : Session} (kept : KeptContents s.supply s.contents)
    (change : Session.Change k site s s') : SameBut k site s.contents s'.contents := by
  cases change with
  | insert ofSite _ => exact .setRows (append_freshRow_others ofSite _ _)
  | overwrite r member ofSite => exact .setRows (overwriteAt_others (kept k) member ofSite r)
  | delete stale => exact .setRows (filter_not_doomed_others site stale _)

theorem changes {s s' : Session} (kept : KeptContents s.supply s.contents)
    (changes : Session.Changes k site s s') : SameBut k site s.contents s'.contents := by
  have since : s.KeptSince s.supply := ⟨kept, Nat.le_refl _⟩
  have both := Session.keeps_changes
    (fun _ _ one (held : _ ∧ SameBut k site s.contents _) =>
      ⟨Session.KeptSince.change held.1 one, held.2.trans (SameBut.change held.1.1 one)⟩)
    changes ⟨since, .refl k site s.contents⟩
  exact both.2

theorem rowsOf_eq {before after : Contents} (same : SameBut k site before after)
    {j : ResourceKind} {site' : SiteId} (other : ¬ (k = j ∧ site = site')) :
    rowsOf j site' after = rowsOf j site' before := by
  by_cases kind : j = k
  · -- The rows of another site are among those that are not of this one.
    subst kind
    have apart : site ≠ site' := fun same => other ⟨rfl, same⟩
    have through (rows : List (Row (RecordOf j))) :
        rows.filter (·.isOf site') = (rows.filter (!·.isOf site)).filter (·.isOf site') := by
      rw [List.filter_filter]
      apply List.filter_congr
      intro row _
      by_cases here : row.isOf site'
      · have there : row.isOf site = false := by
          rw [← Bool.not_eq_true, isOf_iff]
          exact fun ofSite => apart (ofSite.symm.trans ((isOf_iff site' row).mp here))
        simp [here, there]
      · simp [here]
    rw [rowsOf, rowsOf, through, same.sites, ← through]
  · rw [rowsOf, rowsOf, same.kinds j kind]

end SameBut

end SiteCache.Store
