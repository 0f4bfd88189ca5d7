import SiteCache.Proofs.Sync.Steps

set_option autoImplicit false

namespace SiteCache.Sync

open Remote (Service Reply)
open Store

structure Errand where
  kind : ResourceKind
  site : SiteId
  work : Work

def Task.errand (t : Task) : Errand := ⟨t.kind, t.site, t.work⟩

def Act.records (k : ResourceKind) : Act → List (RecordOf k)
  | .listed j (.records batch) => if same : j = k then same ▸ batch else []
  | _ => []

def Act.isClosed : Act → Bool
  | .closed _ => true
  | _ => false

-- The records of all replies, in the order in which they came.
def fetchedRecords (k : ResourceKind) (acts : List Act) : List (RecordOf k) :=
  acts.flatMap (Act.records k)

def Errand.pass (e : Errand) (acts : List Act) : SessionM Summary :=
  match e.work with
  | .synchronize _ mode => Session.apply (Plan.build e.site (fetchedRecords e.kind acts) mode)
  | .reset =>
    (fun n => { Summary.zero with deleted := n }) <$> Session.deleteAll (RecordOf e.kind) e.site

def replied {R : Type} : Reply (List R) → List R
  | .records batch => batch
  | _ => []

theorem fetchedRecords_listed (k : ResourceKind) (acts : List Act)
    (reply : Reply (List (RecordOf k))) :
    fetchedRecords k (acts ++ [.listed k reply]) = fetchedRecords k acts ++ replied reply := by
  cases reply <;> simp [fetchedRecords, Act.records, replied]

theorem pass_unlisted (e : Errand) (acts : List Act) {act : Act}
    (unlisted : Act.records e.kind act = []) : e.pass (acts ++ [act]) = e.pass acts := by
  unfold Errand.pass
  simp [fetchedRecords, unlisted]

theorem take_more {R : Type} {w w' : Walk R} {reply : Reply (List R)}
    (took : w.take reply = .more w') : w'.got = w.got ++ replied reply := by
  cases reply with
  | records batch =>
    simp only [Walk.take, Walk.receive] at took
    split at took
    · cases took
    · split at took
      · cases took
      · split at took <;> cases took
        rfl
  | failed e => cases took
  | crashed text => cases took

theorem take_done {R : Type} {w : Walk R} {reply : Reply (List R)} {records : List R}
    (took : w.take reply = .done (.ok records)) : records = w.got ++ replied reply := by
  cases reply with
  | records batch =>
    simp only [Walk.take, Walk.receive] at took
    split at took
    · cases took
      rfl
    · split at took
      · cases took
        rfl
      · split at took <;> cases took
  | failed e => cases took
  | crashed text => cases took

theorem Task.phase_result {t : Task} {result : Outcome Summary}
    (finished : t.result? = some result) : t.phase.result? = some result := by
  obtain ⟨k, site, work, paging, p⟩ := t
  cases p <;> first | exact finished | cases finished

def unclosed (acts : List Act) : Prop := acts.countP Act.isClosed = 0

/-- Where a task stands, on a store that no session has changed since its own was opened. -/
inductive Progress (db : Database) (acts : List Act) (k : ResourceKind) (site : SiteId)
    (work : Work) : Phase k → Prop
  | unseen {p : Phase k} : p.held? = none → p.result? = none → acts = [] →
    Progress db acts k site work p
  | fetching {lock : Nat} {w : Walk (RecordOf k)} : w.got = fetchedRecords k acts →
    unclosed acts → Progress db acts k site work (.fetching lock w)
  | ready {lock : Nat} {pass : Pass k} : pass.act site = Errand.pass ⟨k, site, work⟩ acts →
    unclosed acts → Progress db acts k site work (.ready lock pass)
  | pending {p : Phase k} {act : SessionM Summary} {session begun : Session} :
    p.pending? site = some (act, session) → db.begin = .ok begun →
    act.run session = (Errand.pass ⟨k, site, work⟩ acts).run begun → unclosed acts →
    Progress db acts k site work p
  | ended {p : Phase k} {result : Outcome Summary} : p.result? = some result →
    acts.countP Act.isClosed ≤ 1 →
    (∀ summary, result = .ok summary → .closed (.ok summary) ∈ acts) →
    Progress db acts k site work p

namespace Phase

variable {k : ResourceKind} {p : Phase k} {site : SiteId} {left : SessionM Summary × Session}

theorem held_of_pending (pending : p.pending? site = some left) :
    ∃ lock, p.held? = some lock := by
  cases p <;> first | exact ⟨_, rfl⟩ | cases pending

theorem result_of_pending (pending : p.pending? site = some left) : p.result? = none := by
  cases p <;> first | rfl | cases pending

end Phase

namespace Progress

variable {σ : Type} {remote : Service σ} {k : ResourceKind} {site : SiteId} {work : Work}
  {paging : Paging} {s s' : Shared σ} {lock : Nat} {p p' : Phase k} {seen : Option Act}
  {acts : List Act} {db db' : Database}

theorem of_unseen (progress : Progress db acts k site work p)
    (unheld : p.held? = none) (unended : p.result? = none) : acts = [] := by
  cases progress with
  | unseen _ _ noneSeen => exact noneSeen
  | fetching => cases unheld
  | ready => cases unheld
  | pending pending =>
    obtain ⟨lock, held⟩ := Phase.held_of_pending pending
    cases unheld.symm.trans held
  | ended result => cases unended.symm.trans result

theorem of_fetching {w : Walk (RecordOf k)}
    (progress : Progress db acts k site work (.fetching lock w)) :
    w.got = fetchedRecords k acts ∧ unclosed acts := by
  cases progress with
  | unseen unheld => cases unheld
  | fetching got unclosed => exact ⟨got, unclosed⟩
  | pending pending => cases pending
  | ended result => cases result

theorem of_ready {pass : Pass k}
    (progress : Progress db acts k site work (.ready lock pass)) :
    pass.act site = Errand.pass ⟨k, site, work⟩ acts ∧ unclosed acts := by
  cases progress with
  | unseen unheld => cases unheld
  | ready planned unclosed => exact ⟨planned, unclosed⟩
  | pending pending => cases pending
  | ended result => cases result

theorem of_pending {act : SessionM Summary} {session : Session}
    (progress : Progress db acts k site work p)
    (pending : p.pending? site = some (act, session)) :
    (∃ begun, db.begin = .ok begun ∧
      act.run session = (Errand.pass ⟨k, site, work⟩ acts).run begun) ∧ unclosed acts := by
  cases progress with
  | unseen unheld =>
    obtain ⟨lock, held⟩ := Phase.held_of_pending pending
    cases unheld.symm.trans held
  | fetching => cases pending
  | ready => cases pending
  | pending pending' begun same unclosed =>
    cases pending.symm.trans pending'
    exact ⟨⟨_, begun, same⟩, unclosed⟩
  | ended result => cases (Phase.result_of_pending pending).symm.trans result

theorem of_ended {result : Outcome Summary}
    (progress : Progress db acts k site work p) (ended : p.result? = some result) :
    acts.countP Act.isClosed ≤ 1 ∧
      ∀ summary, result = .ok summary → .closed (.ok summary) ∈ acts := by
  cases progress with
  | unseen _ unended => cases ended.symm.trans unended
  | fetching => cases ended
  | ready => cases ended
  | pending pending => cases (Phase.result_of_pending pending).symm.trans ended
  | ended ended' once committed =>
    cases ended.symm.trans ended'
    exact ⟨once, committed⟩

-- Another session may change the store while a task has none open.
theorem of_unopened (progress : Progress db acts k site work p)
    (unopened : p.pending? site = none) : Progress db' acts k site work p := by
  cases progress with
  | unseen unheld unended noneSeen => exact .unseen unheld unended noneSeen
  | fetching got unclosed => exact .fetching got unclosed
  | ready planned unclosed => exact .ready planned unclosed
  | pending pending => cases unopened.symm.trans pending
  | ended result once committed => exact .ended result once committed

theorem stay_ended {result : Outcome Summary} (progress : Progress db acts k site work p)
    (ended : p.result? = some result) (ended' : p'.result? = some result) :
    Progress db' (acts ++ (none : Option Act).toList) k site work p' := by
  obtain ⟨once, committed⟩ := progress.of_ended ended
  rw [Option.toList_none, List.append_nil]
  exact .ended ended' once committed

theorem step_listed {w : Walk (RecordOf k)} {q : ListQuery} {mode : ReconcileMode}
    (progress : Progress db acts k site (.synchronize q mode) (.fetching lock w))
    (reply : Reply (List (RecordOf k))) :
    Progress db (acts ++ [.listed k reply]) k site (.synchronize q mode)
      (fetched k site mode lock (w.take reply)) := by
  obtain ⟨got, before⟩ := progress.of_fetching
  have after : unclosed (acts ++ [.listed k reply]) := by
    simpa [unclosed, Act.isClosed] using before
  cases took : w.take reply with
  | more w' =>
    refine .fetching ?_ after
    rw [take_more took, got]
    exact (fetchedRecords_listed k acts reply).symm
  | done result =>
    cases result with
    | error f =>
      refine .ended rfl (Nat.le_of_eq after |>.trans (Nat.zero_le 1)) ?_
      intro summary same
      cases same
    | ok records =>
      refine .ready ?_ after
      have planned :=
        act_ofPlan (Plan.build site (fetchedRecords k (acts ++ [.listed k reply])) mode)
      rw [take_done took, got, ← fetchedRecords_listed]
      exact planned

-- The store is that of the session, and before there is one it is the current one.
theorem step_inside (progress : Progress db acts k site work p)
    (current : p.pending? site = none → s.world.db = db)
    (inside : Inside remote k site work paging s lock p seen s' p') :
    Progress db (acts ++ seen.toList) k site work p' := by
  cases inside with
  | overrun =>
    obtain ⟨-, before⟩ := progress.of_fetching
    rw [Option.toList_none, List.append_nil]
    exact .ended rfl (by rw [before]; decide) nofun
  | listed same =>
    subst same
    exact progress.step_listed _
  | cleared same =>
    obtain ⟨-, before⟩ := progress.of_fetching
    subst same
    rw [Option.toList_none, List.append_nil]
    exact .ready rfl before
  | refused =>
    obtain ⟨-, before⟩ := progress.of_ready
    rw [Option.toList_none, List.append_nil]
    exact .ended rfl (by rw [before]; decide) nofun
  | opened _ begun =>
    obtain ⟨planned, before⟩ := progress.of_ready
    rw [current rfl] at begun
    refine .pending rfl begun ?_ (by simpa [unclosed, Act.isClosed] using before)
    rw [Option.toList_some, pass_unlisted _ acts rfl, ← planned]
    rfl
  | worked _ _ pending pending' same =>
    -- What is left now comes to what was left before.
    obtain ⟨⟨begun, opened, whole⟩, before⟩ := progress.of_pending pending
    rw [Option.toList_none, List.append_nil]
    exact .pending pending' opened (same.trans whole) before
  | @closed _ _ _ result _ _ pending =>
    obtain ⟨-, before⟩ := progress.of_pending pending
    refine .ended rfl ?_ ?_
    · rw [Option.toList_some, List.countP_append, before]
      simp [Act.isClosed]
    · intro summary same
      cases result with
      | error e => cases same
      | ok summary' =>
        cases same
        simp
  | told => exact progress.stay_ended rfl rfl

theorem step (progress : Progress db acts k site work p)
    (current : p.pending? site = none → s.world.db = db)
    (taken : Taken remote k site work paging s p seen s' p') :
    Progress db (acts ++ seen.toList) k site work p' := by
  cases taken with
  | enter =>
    rw [progress.of_unseen rfl rfl]
    exact .unseen rfl rfl rfl
  | acquire free =>
    rw [progress.of_unseen rfl rfl]
    cases work with
    | synchronize q mode => cases paging <;> exact .fetching rfl rfl
    | reset => exact .ready rfl rfl
  | inside inside => exact progress.step_inside current inside
  | release => exact progress.stay_ended rfl rfl
  | drop => exact progress.stay_ended rfl rfl
  | sweep => exact progress.stay_ended rfl rfl

end Progress

end SiteCache.Sync
