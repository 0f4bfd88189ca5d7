import SiteCache.Proofs.Sync.Holding
import SiteCache.Proofs.Sync.Progress

set_option autoImplicit false

namespace SiteCache.Sync

open Remote (Service Reply)
open Store

section

variable {σ : Type} (remote : Service σ) (k : ResourceKind) (site : SiteId) (q : ListQuery)
  (paging : Paging)

/-- Where some replies lead that the remote has given, each in some state that it was in. -/
inductive Walked : List (Reply (List (RecordOf k))) → Walk.Next (RecordOf k) → Prop
  | start : Walked [] (.more (.start paging))
  | heard {replies : List (Reply (List (RecordOf k)))} {w : Walk (RecordOf k)} (now : σ) :
    Walked replies (.more w) → w.left ≠ 0 →
    Walked (replies ++ [((remote.list k site (w.request q)).run now).1])
      (w.take ((remote.list k site (w.request q)).run now).1)

inductive Fetches (replies : List (Reply (List (RecordOf k)))) :
    Outcome (List (RecordOf k)) → Prop
  | done {r : Outcome (List (RecordOf k))} : Walked remote k site q paging replies (.done r) →
    Fetches replies r
  | overrun {w : Walk (RecordOf k)} : Walked remote k site q paging replies (.more w) →
    w.left = 0 → Fetches replies (fail (limitError k site paging))

end

def Act.replies (k : ResourceKind) : Act → List (Reply (List (RecordOf k)))
  | .listed j reply => if same : j = k then [same ▸ reply] else []
  | _ => []

-- The replies to a task, in the order in which they came.
def heard (k : ResourceKind) (acts : List Act) : List (Reply (List (RecordOf k))) :=
  acts.flatMap (Act.replies k)

theorem heard_listed (k : ResourceKind) (acts : List Act) (reply : Reply (List (RecordOf k))) :
    heard k (acts ++ [.listed k reply]) = heard k acts ++ [reply] := by
  simp [heard, Act.replies]

-- Whether a task has all that it needs for its session, and has not ended it.
def Phase.planned {k : ResourceKind} : Phase k → Bool
  | .ready .. | .writing .. | .deleting .. | .committing .. => true
  | _ => false

section

variable {σ : Type} (remote : Service σ) (known : Database → Prop) (k : ResourceKind)
  (site : SiteId) (work : Work) (paging : Paging) (acts : List Act)

-- All has been fetched that the work needs.
def Gathered : Prop :=
  ∀ q mode, work = .synchronize q mode →
    Fetches remote k site q paging (heard k acts) (.ok (fetchedRecords k acts))

/-- How a task can end: its fetch has failed, the store has refused to open a session, or the
session has ended. -/
inductive Returned : Outcome Summary → Prop
  | unfetched {q : ListQuery} {mode : ReconcileMode} {f : Failure} :
    work = .synchronize q mode → Fetches remote k site q paging (heard k acts) (.error f) →
    unclosed acts → Returned (.error f)
  | refused {db : Database} {e : DbError} : known db → db.begin = .error e →
    Gathered remote k site work paging acts → unclosed acts → Returned (fail (.storage e))
  | closed {db : Database} {result : Except DbError Summary} : known db →
    (inSession (Errand.pass ⟨k, site, work⟩ acts) db).1 = result →
    Gathered remote k site work paging acts → .closed result ∈ acts →
    acts.countP Act.isClosed = 1 → Returned (result.mapError fun e => .error (.storage e))

inductive Stage : Phase k → Prop
  | unseen {p : Phase k} : p.held? = none → p.result? = none → Stage p
  | fetching {lock : Nat} {q : ListQuery} {mode : ReconcileMode} {w : Walk (RecordOf k)} :
    work = .synchronize q mode → Walked remote k site q paging (heard k acts) (.more w) →
    Stage (.fetching lock w)
  | planned {p : Phase k} : p.planned = true → Gathered remote k site work paging acts → Stage p
  | ended {p : Phase k} {result : Outcome Summary} : p.result? = some result →
    Returned remote known k site work paging acts result → Stage p

/-- Where a task stands, its session being one on some store that was there before. -/
structure Course (p : Phase k) : Prop where
  progress : ∃ db, known db ∧ Progress db acts k site work p
  stage : Stage remote known k site work paging acts p

end

namespace Phase

variable {k : ResourceKind} {p : Phase k} {site : SiteId} {left : SessionM Summary × Session}

theorem planned_of_pending (pending : p.pending? site = some left) : p.planned = true := by
  cases p <;> first | rfl | cases pending

theorem held_of_planned (planned : p.planned = true) : ∃ lock, p.held? = some lock := by
  cases p <;> first | exact ⟨_, rfl⟩ | cases planned

theorem result_of_planned (planned : p.planned = true) : p.result? = none := by
  cases p <;> first | rfl | cases planned

end Phase

theorem finish_ok (db : Database) (summary : Summary) (session : Session) :
    finish db (.ok summary, session) =
      match session.refuses .commit with
      | some e => (.error e, db.rollback session)
      | none => (.ok summary,
          { db with contents := session.contents, supply := session.supply }) := by
  rw [finish, Database.commit]
  cases session.refuses .commit <;> rfl

theorem finish_result (db db' : Database) (ran : Except DbError Summary × Session) :
    (finish db ran).1 = (finish db' ran).1 := by
  obtain ⟨result, session⟩ := ran
  cases result with
  | error e => rfl
  | ok summary =>
    rw [finish_ok, finish_ok]
    cases session.refuses .commit <;> rfl

section

variable {σ : Type} {remote : Service σ} {known : Database → Prop} {k : ResourceKind}
  {site : SiteId} {work : Work} {paging : Paging} {s s' : Shared σ} {lock : Nat} {p p' : Phase k}
  {seen : Option Act} {acts : List Act} {db : Database}

theorem Gathered.act (gathered : Gathered remote k site work paging acts) {act : Act}
    (unheard : act.replies k = []) (unfetched : act.records k = []) :
    Gathered remote k site work paging (acts ++ [act]) := by
  intro q mode same
  have fetches := gathered q mode same
  simpa [heard, fetchedRecords, unheard, unfetched] using fetches

namespace Stage

theorem of_fetching {w : Walk (RecordOf k)}
    (stage : Stage remote known k site work paging acts (.fetching lock w)) :
    ∃ q mode, work = .synchronize q mode ∧
      Walked remote k site q paging (heard k acts) (.more w) := by
  cases stage with
  | unseen unheld => cases unheld
  | fetching same walked => exact ⟨_, _, same, walked⟩
  | planned planned => cases planned
  | ended ended => cases ended

theorem of_planned (stage : Stage remote known k site work paging acts p)
    (planned : p.planned = true) : Gathered remote k site work paging acts := by
  cases stage with
  | unseen unheld =>
    obtain ⟨lock, held⟩ := Phase.held_of_planned planned
    cases unheld.symm.trans held
  | fetching => cases planned
  | planned _ gathered => exact gathered
  | ended ended => cases (Phase.result_of_planned planned).symm.trans ended

theorem of_ended {result : Outcome Summary}
    (stage : Stage remote known k site work paging acts p) (ended : p.result? = some result) :
    Returned remote known k site work paging acts result := by
  cases stage with
  | unseen _ unended => cases unended.symm.trans ended
  | fetching => cases ended
  | planned planned => cases (Phase.result_of_planned planned).symm.trans ended
  | ended ended' returned =>
    cases ended.symm.trans ended'
    exact returned

theorem stay_ended {result : Outcome Summary}
    (stage : Stage remote known k site work paging acts p) (ended : p.result? = some result)
    (ended' : p'.result? = some result) :
    Stage remote known k site work paging (acts ++ (none : Option Act).toList) p' := by
  rw [Option.toList_none, List.append_nil]
  exact .ended ended' (stage.of_ended ended)

theorem step_listed {w : Walk (RecordOf k)} {q : ListQuery} {mode : ReconcileMode}
    (stage : Stage remote known k site (.synchronize q mode) paging acts (.fetching lock w))
    (got : w.got = fetchedRecords k acts) (before : unclosed acts) (left : w.left ≠ 0) (now : σ) :
    Stage remote known k site (.synchronize q mode) paging
      (acts ++ [.listed k ((remote.list k site (w.request q)).run now).1])
      (fetched k site mode lock (w.take ((remote.list k site (w.request q)).run now).1)) := by
  obtain ⟨_, _, same, walked⟩ := stage.of_fetching
  cases same
  have walked' := Walked.heard now walked left
  rw [← heard_listed] at walked'
  generalize ((remote.list k site (w.request q)).run now).1 = reply at walked'
  cases took : w.take reply with
  | more w' =>
    rw [took] at walked'
    exact .fetching rfl walked'
  | done result =>
    rw [took] at walked'
    cases result with
    | error f =>
      exact .ended rfl (.unfetched rfl (.done walked')
        (by simpa [unclosed, Act.isClosed] using before))
    | ok records =>
      have all : records = fetchedRecords k (acts ++ [.listed k reply]) := by
        rw [take_done took, got, fetchedRecords_listed]
      rw [all] at walked'
      refine .planned rfl ?_
      rintro _ _ ⟨⟩
      exact .done walked'

end Stage

theorem Course.step_inside (course : Course remote known k site work paging acts p)
    (current : known s.world.db)
    (inside : Inside remote k site work paging s lock p seen s' p') :
    Stage remote known k site work paging (acts ++ seen.toList) p' := by
  obtain ⟨⟨db, before, progress⟩, stage⟩ := course
  cases inside with
  | overrun _ noneLeft =>
    obtain ⟨_, _, same, walked⟩ := stage.of_fetching
    rw [Option.toList_none, List.append_nil]
    exact .ended rfl (.unfetched same (.overrun walked noneLeft) progress.of_fetching.2)
  | listed same left asked =>
    subst same
    obtain ⟨got, unclosed⟩ := progress.of_fetching
    have listed := stage.step_listed got unclosed left s.world.remote
    rw [asked] at listed
    exact listed
  | cleared reset =>
    obtain ⟨_, _, same, -⟩ := stage.of_fetching
    cases same.symm.trans reset
  | refused _ begun =>
    rw [Option.toList_none, List.append_nil]
    exact .ended rfl (.refused current begun (stage.of_planned rfl) progress.of_ready.2)
  | opened => exact .planned rfl ((stage.of_planned rfl).act rfl rfl)
  | worked _ _ pending pending' =>
    rw [Option.toList_none, List.append_nil]
    exact .planned (Phase.planned_of_pending pending')
      (stage.of_planned (Phase.planned_of_pending pending))
  | @closed _ _ _ result db' _ pending ends =>
    have gathered := stage.of_planned (Phase.planned_of_pending pending)
    obtain ⟨⟨begun, opened, whole⟩, unclosed⟩ := progress.of_pending pending
    have once : (acts ++ [Act.closed result]).countP Act.isClosed = 1 := by
      rw [List.countP_append, unclosed]
      rfl
    -- The session has come to what the whole pass comes to on the store that it was opened on.
    have ran : (inSession (Errand.pass ⟨k, site, work⟩ (acts ++ [.closed result])) db).1 =
        result := by
      rw [pass_unlisted _ acts rfl, inSession_eq_finish _ opened, ← whole,
        finish_result db s.world.db, ends]
    exact .ended rfl (.closed before ran (gathered.act rfl rfl) (by simp) once)
  | told => exact stage.stay_ended rfl rfl

theorem Course.step (course : Course remote known k site work paging acts p)
    (current : known s.world.db)
    (taken : Taken remote k site work paging s p seen s' p') :
    Course remote known k site work paging (acts ++ seen.toList) p' := by
  obtain ⟨⟨db, before, progress⟩, stage⟩ := course
  constructor
  · cases pending : p.pending? site with
    | none =>
      exact ⟨_, current, (progress.of_unopened pending).step (fun _ => rfl) taken⟩
    | some left =>
      refine ⟨db, before, progress.step (fun unopened => ?_) taken⟩
      cases unopened.symm.trans pending
  · cases taken with
    | enter => exact .unseen rfl rfl
    | acquire =>
      have unseen := progress.of_unseen rfl rfl
      subst unseen
      cases work with
      | synchronize q mode => exact .fetching rfl .start
      | reset => exact .planned rfl nofun
    | inside inside => exact Course.step_inside ⟨⟨db, before, progress⟩, stage⟩ current inside
    | release => exact stage.stay_ended rfl rfl
    | drop => exact stage.stay_ended rfl rfl
    | sweep => exact stage.stay_ended rfl rfl

theorem Returned.mono {known' : Database → Prop} (more : ∀ db, known db → known' db)
    {result : Outcome Summary}
    (returned : Returned remote known k site work paging acts result) :
    Returned remote known' k site work paging acts result := by
  cases returned with
  | unfetched same fetches unclosed => exact .unfetched same fetches unclosed
  | refused before begun gathered unclosed => exact .refused (more _ before) begun gathered unclosed
  | closed before ran gathered ended once => exact .closed (more _ before) ran gathered ended once

theorem Course.mono {known' : Database → Prop} (more : ∀ db, known db → known' db)
    (course : Course remote known k site work paging acts p) :
    Course remote known' k site work paging acts p := by
  obtain ⟨⟨db, before, progress⟩, stage⟩ := course
  refine ⟨⟨db, more db before, progress⟩, ?_⟩
  cases stage with
  | unseen unheld unended => exact .unseen unheld unended
  | fetching same walked => exact .fetching same walked
  | planned planned gathered => exact .planned planned gathered
  | ended ended returned => exact .ended ended (returned.mono more)

theorem Returned.committed {result : Outcome Summary}
    (returned : Returned remote known k site work paging acts result) (summary : Summary) :
    result = .ok summary ↔ Act.closed (.ok summary) ∈ acts := by
  have nothing (unclosed : unclosed acts) : Act.closed (.ok summary) ∉ acts := fun ended =>
    List.countP_eq_zero.mp unclosed _ ended rfl
  cases returned with
  | unfetched _ _ unclosed => exact ⟨nofun, fun ended => absurd ended (nothing unclosed)⟩
  | refused _ _ _ unclosed => exact ⟨nofun, fun ended => absurd ended (nothing unclosed)⟩
  | @closed _ result _ _ _ ended once =>
    constructor
    · intro same
      cases result with
      | error e => cases same
      | ok summary' =>
        cases same
        exact ended
    · intro committed
      obtain ⟨i, first⟩ := List.getElem?_of_mem ended
      obtain ⟨j, second⟩ := List.getElem?_of_mem committed
      -- A session is closed once.
      cases eq_of_countP_le_one (Nat.le_of_eq once) first second rfl rfl
      cases first.symm.trans second
      rfl

theorem Course.idle (current : known db) :
    Course remote known k site work paging [] (.idle : Phase k) :=
  ⟨⟨db, current, .unseen rfl rfl rfl⟩, .unseen rfl rfl⟩

end

section

variable {σ : Type} {remote : Service σ} {k : ResourceKind} {site : SiteId} {q : ListQuery}
  {paging : Paging} {replies : List (Reply (List (RecordOf k)))}

-- The page to ask for comes after those of the replies; a fetch crashes as the remote does, or
-- where that number overflows.
def Numbered (replies : List (Reply (List (RecordOf k)))) : Walk.Next (RecordOf k) → Prop
  | .more w => ∀ page, w.page = some page → ∃ size,
    page = ⟨.ofNat (replies.length + 1), size⟩ ∧ replies.length + 1 < UInt32.size
  | .done r => ∀ text, r = crash text →
    .crashed text ∈ replies ∨ replies.length + 1 = UInt32.size

theorem receive_numbered {w : Walk (RecordOf k)} (numbered : Numbered replies (.more w))
    (batch : List (RecordOf k)) (reply : Reply (List (RecordOf k))) :
    Numbered (replies ++ [reply]) (w.receive batch) := by
  unfold Walk.receive
  cases page : w.page with
  | none => exact nofun
  | some page' =>
    obtain ⟨size, rfl, fits⟩ := numbered page' page
    dsimp only
    split
    · exact nofun
    · by_cases next : replies.length + 1 + 1 < UInt32.size
      · rw [next?_ofNat size next]
        rintro _ ⟨⟩
        exact ⟨size, by simp, by simpa using next⟩
      · rw [next?_last size (by omega)]
        intro _ _
        refine .inr ?_
        rw [List.length_append, List.length_singleton]
        omega

theorem Walked.numbered {next : Walk.Next (RecordOf k)}
    (walked : Walked remote k site q paging replies next) : Numbered replies next := by
  induction walked with
  | start =>
    cases paging with
    | unpaged => exact nofun
    | paged size maxPages =>
      rintro _ ⟨⟩
      exact ⟨size, rfl, of_decide_eq_true rfl⟩
  | @heard replies w before _ _ numbered =>
    generalize ((remote.list k site (w.request q)).run before).1 = reply
    cases reply with
    | failed e => exact nofun
    | crashed text =>
      rintro _ ⟨⟩
      exact .inl (by simp)
    | records batch => exact receive_numbered numbered batch _

theorem Fetches.crashes {text : String}
    (fetches : Fetches remote k site q paging replies (crash text)) :
    .crashed text ∈ replies ∨ replies.length + 1 = UInt32.size := by
  generalize same : (crash text : Outcome (List (RecordOf k))) = r at fetches
  cases fetches with
  | done walked => exact walked.numbered text same.symm
  | overrun => cases same

end

section

variable {σ : Type} {remote : Service σ} {known : Database → Prop} {k : ResourceKind}
  {site : SiteId} {work : Work} {paging : Paging} {acts : List Act}

theorem Returned.crashes {text : String}
    (returned : Returned remote known k site work paging acts (crash text)) :
    .crashed text ∈ heard k acts ∨ (heard k acts).length + 1 = UInt32.size := by
  generalize same : (crash text : Outcome Summary) = result at returned
  cases returned with
  | unfetched _ fetches =>
    cases same
    exact fetches.crashes
  | refused => cases same
  | @closed _ result => cases result <;> cases same

end

end SiteCache.Sync
