import SiteCache.Proofs.Sync.Synchronizing
import SiteCache.Sync.Task

set_option autoImplicit false

namespace SiteCache.Sync

open Remote (Service Reply)
open Store

def Pass.act {k : ResourceKind} (site : SiteId) (pass : Pass k) : SessionM Summary := do
  let summary ← pass.records.foldlM (Session.upsert site) Summary.zero
  pass.deletion.run site summary

theorem act_ofPlan {k : ResourceKind} (plan : Plan (RecordOf k)) :
    (Pass.ofPlan plan).act plan.site = Session.apply plan := by
  unfold Pass.act Pass.ofPlan Session.apply
  dsimp only
  cases plan.mode.deletesStale <;> rfl

namespace Phase

variable {k : ResourceKind}

def handle? : Phase k → Option Nat
  | .waiting lock | .fetching lock _ | .ready lock _ | .writing lock .. | .deleting lock ..
  | .committing lock .. | .ended lock _ | .told lock _ | .unlocked lock _ => some lock
  | .idle | .unhandled _ | .finished _ => none

def held? : Phase k → Option Nat
  | .fetching lock _ | .ready lock _ | .writing lock .. | .deleting lock .. | .committing lock ..
  | .ended lock _ | .told lock _ => some lock
  | .idle | .waiting _ | .unlocked .. | .unhandled _ | .finished _ => none

-- What is left of a write pass, and the session that it is for.
def pending? (site : SiteId) : Phase k → Option (SessionM Summary × Session)
  | .writing _ session summary rest deletion =>
    some (rest.foldlM (Session.upsert site) summary >>= deletion.run site, session)
  | .deleting _ session summary deletion => some (deletion.run site summary, session)
  | .committing _ session summary => some (pure summary, session)
  | _ => none

def result? : Phase k → Option (Outcome Summary)
  | .ended _ result | .told _ result | .unlocked _ result | .unhandled result
  | .finished result => some result
  | _ => none

def engaged : Phase k → Bool
  | .idle | .finished _ => false
  | _ => true

end Phase

/-- What a task does that others could see: it gets a reply to a request, opens a session, or closes
it, with its changes committed or not. -/
inductive Act where
  | listed (k : ResourceKind) (reply : Reply (List (RecordOf k)))
  | opened
  | closed (result : Except DbError Summary)

-- How a session ends in which all has been done that can be.
def finish (db : Database) : Except DbError Summary × Session → Except DbError Summary × Database
  | (.error e, session) => (.error e, db.rollback session)
  | (.ok summary, session) =>
    match db.commit session with
    | (.error e, db) => (.error e, db)
    | (.ok (), db) => (.ok summary, db)

theorem inSession_eq_finish {db : Database} {session : Session} (work : SessionM Summary)
    (begun : db.begin = .ok session) : inSession work db = finish db (work.run session) := by
  rw [inSession, begun]
  dsimp only
  cases work.run session with
  | mk result session' =>
    cases result with
    | error e => rfl
    | ok summary =>
      cases committed : db.commit session' with
      | mk result db' => cases result <;> simp only [finish, committed]

theorem finish_of_commit {db db' : Database} {session : Session} {result : Except DbError Unit}
    (summary : Summary) (committed : db.commit session = (result, db')) :
    finish db (.ok summary, session) = (result.map fun _ => summary, db') := by
  rw [finish, committed]
  cases result <;> rfl

variable {σ : Type}

theorem Shared.modifyLocks_locks (s : Shared σ) (k : ResourceKind) (f : SiteLocks → SiteLocks) :
    (s.modifyLocks k f).locks k = f (s.locks k) := if_pos rfl

theorem Shared.modifyLocks_modifyLocks (s : Shared σ) (k : ResourceKind)
    (f g : SiteLocks → SiteLocks) :
    (s.modifyLocks k f).modifyLocks k g = s.modifyLocks k fun l => g (f l) := by
  unfold Shared.modifyLocks
  congr 1
  funext j
  dsimp only
  split <;> rfl

def Task.act? (remote : Service σ) (s : Shared σ) (t : Task) : Option Act :=
  match t.phase with
  | .fetching _ w =>
    match t.work with
    | .synchronize q _ =>
      if w.left = 0 then none
      else some (.listed t.kind ((remote.list t.kind t.site (w.request q)).run s.world.remote).1)
    | .reset => none
  | .ready .. =>
    if s.writing then none
    else
      match s.world.db.begin with
      | .error _ => none
      | .ok _ => some .opened
  | .writing _ session summary (r :: _) _ =>
    match ((Session.upsert t.site summary r).run session).1 with
    | .error e => some (.closed (.error e))
    | .ok _ => none
  | .deleting _ session summary deletion =>
    match ((deletion.run t.site summary).run session).1 with
    | .error e => some (.closed (.error e))
    | .ok _ => none
  | .committing _ session summary =>
    some (.closed ((s.world.db.commit session).1.map fun _ => summary))
  | _ => none

section

variable (remote : Service σ) (k : ResourceKind) (site : SiteId) (work : Work) (paging : Paging)
  (s : Shared σ)

def fetched (mode : ReconcileMode) (lock : Nat) : Walk.Next (RecordOf k) → Phase k
  | .more w => .fetching lock w
  | .done (.ok records) => .ready lock (.ofPlan (Plan.build site records mode))
  | .done (.error e) => .ended lock (.error e)

inductive Inside (lock : Nat) : Phase k → Option Act → Shared σ → Phase k → Prop
  | overrun {w : Walk (RecordOf k)} {q : ListQuery} {mode : ReconcileMode} :
    work = .synchronize q mode → w.left = 0 →
    Inside lock (.fetching lock w) none s (.ended lock (fail (limitError k site paging)))
  | listed {w : Walk (RecordOf k)} {q : ListQuery} {mode : ReconcileMode}
      {reply : Reply (List (RecordOf k))} {next : σ} :
    work = .synchronize q mode → w.left ≠ 0 →
    (remote.list k site (w.request q)).run s.world.remote = (reply, next) →
    Inside lock (.fetching lock w) (some (.listed k reply)) { s with world.remote := next }
      (fetched k site mode lock (w.take reply))
  | cleared {w : Walk (RecordOf k)} : work = .reset →
    Inside lock (.fetching lock w) none s (.ready lock .clear)
  | refused {pass : Pass k} {e : DbError} : s.writing = false → s.world.db.begin = .error e →
    Inside lock (.ready lock pass) none s (.ended lock (fail (.storage e)))
  | opened {pass : Pass k} {session : Session} : s.writing = false →
    s.world.db.begin = .ok session →
    Inside lock (.ready lock pass) (some .opened) { s with writing := true }
      (.writing lock session Summary.zero pass.records pass.deletion)
  | worked {p p' : Phase k} {act act' : SessionM Summary} {session session' : Session} :
    p.held? = some lock → p'.held? = some lock → p.pending? site = some (act, session) →
    p'.pending? site = some (act', session') → act'.run session' = act.run session →
    Inside lock p none s p'
  | closed {p : Phase k} {act : SessionM Summary} {session : Session}
      {result : Except DbError Summary} {db : Database} :
    p.held? = some lock → p.pending? site = some (act, session) →
    finish s.world.db (act.run session) = (result, db) →
    Inside lock p (some (.closed result)) { s with writing := false, world.db := db }
      (.ended lock (result.mapError fun e => .error (.storage e)))
  | told {result : Outcome Summary} {events : List Event} :
    Inside lock (.ended lock result) none { s with world.events := events } (.told lock result)

inductive Taken : Phase k → Option Act → Shared σ → Phase k → Prop
  | enter : Taken .idle none (s.modifyLocks k fun _ => ((s.locks k).enter site).2)
      (.waiting ((s.locks k).enter site).1)
  | acquire {lock : Nat} : ((s.locks k).state lock).held = false →
    Taken (.waiting lock) none (s.modifyLocks k fun _ =>
      (s.locks k).modifyState lock fun state => { state with held := true })
      ((⟨k, site, work, paging, .idle⟩ : Task).begun lock)
  | inside {lock : Nat} {p p' : Phase k} {act : Option Act} {s' : Shared σ} :
    Inside remote k site work paging s lock p act s' p' → Taken p act s' p'
  | release {lock : Nat} {result : Outcome Summary} :
    Taken (.told lock result) none (s.modifyLocks k (·.release lock)) (.unlocked lock result)
  | drop {lock : Nat} {result : Outcome Summary} :
    Taken (.unlocked lock result) none (s.modifyLocks k (·.dropHandle lock)) (.unhandled result)
  | sweep {result : Outcome Summary} :
    Taken (.unhandled result) none (s.modifyLocks k (·.sweep site)) (.finished result)

end

section

variable {remote : Service σ} {k : ResourceKind} {site : SiteId} {work : Work} {paging : Paging}
  {s s' : Shared σ}

theorem taken_of_waiting {lock : Nat} {p' : Phase k}
    (stepped : (⟨k, site, work, paging, .waiting lock⟩ : Task).step remote s = some (s', p')) :
    Taken remote k site work paging s (.waiting lock) none s' p' := by
  simp only [Task.step, Option.map_eq_some_iff] at stepped
  obtain ⟨locks, acquired, same⟩ := stepped
  cases same
  unfold SiteLocks.acquire? at acquired
  split at acquired <;> rename_i held
  · cases acquired
  · cases acquired
    exact .acquire (by simpa using held)

theorem inside_of_fetchStep {lock : Nat} {w : Walk (RecordOf k)} {q : ListQuery}
    {mode : ReconcileMode} {p' : Phase k}
    (stepped : Task.fetchStep remote s ⟨k, site, .synchronize q mode, paging, .fetching lock w⟩
      lock w q mode = (s', p')) :
    Inside remote k site (.synchronize q mode) paging s lock (.fetching lock w)
      ((⟨k, site, .synchronize q mode, paging, .fetching lock w⟩ : Task).act? remote s) s' p' := by
  unfold Task.fetchStep at stepped
  simp only [Task.act?]
  split at stepped <;> rename_i left
  · cases stepped
    rw [if_pos left]
    exact .overrun rfl left
  · rw [if_neg left]
    unfold onRemote at stepped
    dsimp only [StateT.run] at stepped ⊢
    cases asked : remote.list k site (w.request q) s.world.remote with
    | mk reply next =>
      rw [asked] at stepped
      dsimp only at stepped
      have listed : Inside remote k site (.synchronize q mode) paging s lock (.fetching lock w)
        _ _ _ := .listed rfl left asked
      -- The walk says in one way what the step goes on with and what a reply leads to.
      rcases took : w.take reply with w' | (e | records) <;>
        (rw [took] at stepped listed; cases stepped; exact listed)

theorem inside_of_ready {lock : Nat} {pass : Pass k} {p' : Phase k}
    (stepped : (⟨k, site, work, paging, .ready lock pass⟩ : Task).step remote s = some (s', p')) :
    Inside remote k site work paging s lock (.ready lock pass)
      ((⟨k, site, work, paging, .ready lock pass⟩ : Task).act? remote s) s' p' := by
  simp only [Task.step] at stepped
  simp only [Task.act?]
  split at stepped <;> rename_i writing
  · cases stepped
  · have closed : s.writing = false := by simpa using writing
    rw [if_neg writing]
    cases begun : s.world.db.begin with
    | error e =>
      rw [begun] at stepped
      cases stepped
      exact .refused closed begun
    | ok session =>
      rw [begun] at stepped
      cases stepped
      exact .opened closed begun

-- A step of a session is the beginning of what is left of its pass.
theorem inside_of_sessionStep {α : Type} {lock : Nat} {session : Session} {first : SessionM α}
    {rest : α → SessionM Summary} {next : Session → α → Phase k} {p p' : Phase k} {seen : Option Act}
    (held : p.held? = some lock) (pending : p.pending? site = some (first >>= rest, session))
    (held' : ∀ session a, (next session a).held? = some lock)
    (pending' : ∀ session a, (next session a).pending? site = some (rest a, session))
    (stopped : ∀ e, (first.run session).1 = .error e → seen = some (.closed (.error e)))
    (went : ∀ a, (first.run session).1 = .ok a → seen = none)
    (stepped : Task.sessionStep s ⟨k, site, work, paging, p⟩ lock session first next = (s', p')) :
    Inside remote k site work paging s lock p seen s' p' := by
  unfold Task.sessionStep at stepped
  have whole := Session.run_bind first rest session
  cases ran : first.run session with
  | mk result session' =>
    rw [ran] at stepped whole stopped went
    cases result with
    | error e =>
      cases stepped
      rw [stopped e rfl]
      exact .closed held pending (by rw [whole]; rfl)
    | ok a =>
      cases stepped
      rw [went a rfl]
      exact .worked held (held' session' a) pending (pending' session' a) whole.symm

theorem inside_of_writing {lock : Nat} {session : Session} {summary : Summary}
    {rest : List (RecordOf k)} {deletion : Deletion k} {p' : Phase k}
    (stepped : (⟨k, site, work, paging, .writing lock session summary rest deletion⟩ : Task).step
      remote s = some (s', p')) :
    Inside remote k site work paging s lock (.writing lock session summary rest deletion)
      ((⟨k, site, work, paging, .writing lock session summary rest deletion⟩ : Task).act? remote s)
      s' p' := by
  cases rest with
  | nil =>
    cases stepped
    exact .worked rfl rfl rfl rfl rfl
  | cons r rest =>
    have pending : (Phase.writing lock session summary (r :: rest) deletion).pending? site =
        some (Session.upsert site summary r >>= fun summary =>
          rest.foldlM (Session.upsert site) summary >>= deletion.run site, session) := by
      rw [Phase.pending?, List.foldlM_cons, bind_assoc]
    exact inside_of_sessionStep rfl pending (fun _ _ => rfl) (fun _ _ => rfl)
      (fun e failed => by simp only [Task.act?, failed])
      (fun a ran => by simp only [Task.act?, ran]) (Option.some.inj stepped)

theorem inside_of_deleting {lock : Nat} {session : Session} {summary : Summary}
    {deletion : Deletion k} {p' : Phase k}
    (stepped : (⟨k, site, work, paging, .deleting lock session summary deletion⟩ : Task).step
      remote s = some (s', p')) :
    Inside remote k site work paging s lock (.deleting lock session summary deletion)
      ((⟨k, site, work, paging, .deleting lock session summary deletion⟩ : Task).act? remote s)
      s' p' := by
  have pending : (Phase.deleting lock session summary deletion).pending? site =
      some (deletion.run site summary >>= pure, session) := by
    rw [Phase.pending?, bind_pure]
  exact inside_of_sessionStep rfl pending (fun _ _ => rfl) (fun _ _ => rfl)
    (fun e failed => by simp only [Task.act?, failed])
    (fun a ran => by simp only [Task.act?, ran]) (Option.some.inj stepped)

theorem inside_of_committing {lock : Nat} {session : Session} {summary : Summary} {p' : Phase k}
    (stepped : (⟨k, site, work, paging, .committing lock session summary⟩ : Task).step remote s =
      some (s', p')) :
    Inside remote k site work paging s lock (.committing lock session summary)
      ((⟨k, site, work, paging, .committing lock session summary⟩ : Task).act? remote s) s' p' := by
  simp only [Task.step, Task.commitStep] at stepped
  simp only [Task.act?]
  cases committed : s.world.db.commit session with
  | mk result db =>
    rw [committed] at stepped
    have ends : finish s.world.db ((pure summary : SessionM Summary).run session) = _ :=
      finish_of_commit summary committed
    cases result <;> (cases stepped; exact .closed rfl rfl ends)

theorem inside_of_ended {lock : Nat} {result : Outcome Summary} {p' : Phase k}
    (stepped : (⟨k, site, work, paging, .ended lock result⟩ : Task).step remote s =
      some (s', p')) :
    Inside remote k site work paging s lock (.ended lock result) none s' p' := by
  cases stepped
  have told : Shared.tell s ⟨k, site, work, paging, .ended lock result⟩ result =
      { s with world.events :=
        (s.tell ⟨k, site, work, paging, .ended lock result⟩ result).world.events } := by
    unfold Shared.tell
    cases work with
    | reset => rfl
    | synchronize q mode =>
      dsimp only
      split <;> rfl
  rw [told]
  exact .told

theorem taken_of_step {p p' : Phase k}
    (stepped : (⟨k, site, work, paging, p⟩ : Task).step remote s = some (s', p')) :
    Taken remote k site work paging s p ((⟨k, site, work, paging, p⟩ : Task).act? remote s) s'
      p' := by
  cases p with
  | idle => cases stepped; exact .enter
  | waiting lock => exact taken_of_waiting stepped
  | fetching lock w =>
    cases work with
    | reset => cases stepped; exact .inside (.cleared rfl)
    | synchronize q mode => exact .inside (inside_of_fetchStep (Option.some.inj stepped))
  | ready lock pass => exact .inside (inside_of_ready stepped)
  | writing lock session summary rest deletion => exact .inside (inside_of_writing stepped)
  | deleting lock session summary deletion => exact .inside (inside_of_deleting stepped)
  | committing lock session summary => exact .inside (inside_of_committing stepped)
  | ended lock result => exact .inside (inside_of_ended stepped)
  | told lock result => cases stepped; exact .release
  | unlocked lock result => cases stepped; exact .drop
  | unhandled result => cases stepped; exact .sweep
  | finished result => cases stepped

end

end SiteCache.Sync
