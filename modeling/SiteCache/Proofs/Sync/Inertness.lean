import SiteCache.Proofs.Sync.Alone
import SiteCache.Proofs.Sync.Failing
import SiteCache.Proofs.Sync.Mirroring

set_option autoImplicit false

namespace SiteCache.Sync

open Remote (Service)
open Store

variable {σ : Type} {remote : Service σ} {k : ResourceKind} {paging : Paging} {site : SiteId}
  {q : ListQuery} {mode : ReconcileMode} {s s' : Shared σ} {result : Outcome Summary}

/-- How a synchronization that runs alone leaves what it found. -/
structure EndsInert (remote : Service σ) (k : ResourceKind) (paging : Paging) (site : SiteId)
    (q : ListQuery) (mode : ReconcileMode) (s s' : Shared σ) (result : Outcome Summary) : Prop where
  first : ∀ e, result = fail e ↔ FirstFailure remote k paging site q mode s.world e
  inert : ∀ e, result = fail e → s'.world.db.contents = s.world.db.contents
  failed : ∀ e, result = fail e → s'.world.events = s.world.events ++
    if s.listened then [.failed k site e.message e.isRetryable] else []
  synced : ∀ summary, result = .ok summary → s'.world.events = s.world.events ++
    if s.listened then [.synced k site summary] else []
  closed : s'.writing = false
  released : ((s'.locks k).state ((s.locks k).enter site).1).held = false
  free : (s'.locks k).Free site
  others : ∀ j i, ((s'.locks j).state i).held = true → ((s.locks j).state i).held = true

theorem runAlone_endsInert (closed : s.writing = false) (free : (s.locks k).Free site) :
    ∃ s' result, (⟨k, site, .synchronize q mode, paging, .idle⟩ : Task).runAlone remote s =
        (s', ⟨k, site, .synchronize q mode, paging, .finished result⟩) ∧
      EndsInert remote k paging site q mode s s' result := by
  -- The run amounts to the whole synchronization, and then what is left is read off it.
  refine ⟨_, _, Task.runAlone_synchronize closed free, ?_⟩
  constructor
  · intro e
    exact fetchAndApply_error_iff
  · intro e failed
    rw [Task.left_db]
    exact fetchAndApply_contents_of_error failed
  · intro e failed
    rw [Task.left_events, failed]
    simp only [fetchAndApply_events]
    rfl
  · intro summary ended
    rw [Task.left_events, ended]
    simp only [fetchAndApply_events]
    rfl
  · rw [Task.left_writing]
    exact closed
  · rw [Task.left_holding_locks]
    simp [SiteLocks.visited, SiteLocks.leave_held]
  · rw [Task.left_holding_locks]
    simpa using SiteLocks.visited_free (s.locks k) site
  · intro j i
    rw [Task.left_holding_locks]
    dsimp only
    split
    · exact fun held => (SiteLocks.visited_held _ _ i held).2
    · exact id

def replacing (site : SiteId) (phase : Phase .coupon) : Task :=
  ⟨.coupon, site, .synchronize .unpaged .replace, .paged 2 5, phase⟩

def sharedOver (db : Database) : Shared Remote.Script :=
  ⟨⟨couponScript, db, []⟩, false, fun _ => .empty, true⟩

-- The engine refuses the last of three coupons, once the others have been written.
def refusingStore : Database := couponStore.reject .insert .coupon (.integer 4) "refused"

-- The engine is busy when it is to delete the rows of a site that has none.
def busyStore : Database :=
  { couponStore with refuses := fun statement =>
      if statement = .delete .coupon ⟨8⟩ then some (.queryFailed "database is locked") else none }

theorem refusingShared_endsInert :
    (∃ s', (replacing ⟨7⟩ .idle).runAlone Remote.Script.service (sharedOver refusingStore) =
        (s', replacing ⟨7⟩ (.finished (fail (.storage (.queryFailed "refused"))))) ∧
      s'.world.db.contents = couponStore.contents ∧
      s'.world.events = [.failed .coupon ⟨7⟩ "Storage error: Query failed: refused" false]) ∧
    ∃ s', (replacing ⟨8⟩ .idle).runAlone Remote.Script.service (sharedOver busyStore) =
        (s', replacing ⟨8⟩ (.finished (fail (.storage (.queryFailed "database is locked"))))) ∧
      s'.world.db.contents = couponStore.contents ∧
      s'.world.events =
        [.failed .coupon ⟨8⟩ "Storage error: Query failed: database is locked" false] := by
  have free (site : SiteId) (db : Database) : ((sharedOver db).locks .coupon).Free site :=
    fun _ entry => nomatch entry
  constructor
  · have failure : FirstFailure Remote.Script.service .coupon (.paged 2 5) ⟨7⟩ .unpaged .replace
        (sharedOver refusingStore).world (.storage (.queryFailed "refused")) :=
      fetchAndApply_error_iff.mp rfl
    obtain ⟨s', result, ran, ends⟩ := runAlone_endsInert rfl (free ⟨7⟩ refusingStore)
    have ended := (ends.first _).mpr failure
    subst ended
    exact ⟨s', ran, ends.inert _ rfl, ends.failed _ rfl⟩
  · have failure : FirstFailure Remote.Script.service .coupon (.paged 2 5) ⟨8⟩ .unpaged .replace
        (sharedOver busyStore).world (.storage (.queryFailed "database is locked")) :=
      fetchAndApply_error_iff.mp rfl
    obtain ⟨s', result, ran, ends⟩ := runAlone_endsInert rfl (free ⟨8⟩ busyStore)
    have ended := (ends.first _).mpr failure
    subst ended
    exact ⟨s', ran, ends.inert _ rfl, ends.failed _ rfl⟩

end SiteCache.Sync
