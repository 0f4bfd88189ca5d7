import SiteCache.Proofs.Store.Composition
import SiteCache.Proofs.Store.Locality
import SiteCache.Proofs.Sync.Interleaving
import SiteCache.Proofs.Sync.Replaying

set_option autoImplicit false

namespace SiteCache.Sync

open Remote (Service)
open Store

structure SameSettings (db db' : Database) : Prop where
  isOpen : db'.isOpen = db.isOpen
  migrated : db'.migrated = db.migrated
  refuses : db'.refuses = db.refuses

theorem SameSettings.trans {db db' db'' : Database} (first : SameSettings db db')
    (second : SameSettings db' db'') : SameSettings db db'' :=
  ⟨second.isOpen.trans first.isOpen, second.migrated.trans first.migrated,
    second.refuses.trans first.refuses⟩

theorem SameSettings.begin_error {db db' : Database} (same : SameSettings db db') {e : DbError} :
    db'.begin = .error e → db.begin = .error e := by
  unfold Database.begin
  rw [same.isOpen, same.refuses]
  cases db.isOpen with
  | false => exact id
  | true =>
    cases db.refuses .begin with
    | none => exact nofun
    | some e' => exact id

section

variable {k : ResourceKind} {site : SiteId} {base : Nat} {db db' : Database}
  {work : SessionM Summary}

theorem resembles_of_rowsOf (settings : SameSettings db db') (kept : db.opened.KeptSince base)
    (kept' : db'.opened.KeptSince base)
    (rows : rowsOf k site db'.contents = rowsOf k site db.contents) :
    Resembles k site base db db' :=
  ⟨settings.isOpen, settings.migrated, settings.refuses, kept, kept', congrArg (sights base) rows⟩

theorem settings_inSession (work : SessionM Summary) (db : Database) :
    SameSettings db (inSession work db).2 := by
  cases begun : db.begin with
  | error e =>
    rw [inSession, begun]
    exact ⟨rfl, rfl, rfl⟩
  | ok session =>
    rw [inSession_eq_finish _ begun]
    obtain ⟨result, session'⟩ := work.run session
    cases result with
    | error e => exact ⟨rfl, rfl, rfl⟩
    | ok summary =>
      rw [finish_ok]
      cases session'.refuses .commit <;> exact ⟨rfl, rfl, rfl⟩

theorem kept_inSession (inside : Session.Within k site work) (kept : db.opened.KeptSince base) :
    (inSession work db).2.opened.KeptSince base := by
  cases begun : db.begin with
  | error e =>
    rw [inSession, begun]
    exact kept
  | ok session =>
    have opened : session = db.opened := begin_ok begun
    rw [inSession_eq_finish _ begun, opened]
    have changes := inside db.opened kept.1
    have after := kept.changes changes
    -- What the session has drawn stays drawn, whatever becomes of its rows.
    have since : db.opened.KeptSince db.supply := ⟨kept.1, Nat.le_refl _⟩
    have drawn : db.supply ≤ (work.run db.opened).2.supply := (since.changes changes).2
    have abandoned : (db.rollback (work.run db.opened).2).opened.KeptSince base :=
      ⟨fun j => (kept.1 j).mono drawn, kept.2.trans drawn⟩
    generalize work.run db.opened = ran at after abandoned
    obtain ⟨result, session'⟩ := ran
    cases result with
    | error e => exact abandoned
    | ok summary =>
      rw [finish_ok]
      cases session'.refuses .commit with
      | some e => exact abandoned
      | none => exact after

theorem resembles_inSession (blind : Session.Blind k site base work)
    (inside : Session.Within k site work) (alike : Resembles k site base db db') :
    (inSession work db').1 = (inSession work db).1 ∧
      Resembles k site base (inSession work db).2 (inSession work db').2 := by
  have kept := kept_inSession inside alike.opened.kept
  have kept' := kept_inSession inside alike.opened.kept'
  rcases alike.begin_cases with ⟨e, refused, refused'⟩ | ⟨begun, begun'⟩
  · rw [inSession, inSession, refused, refused']
    exact ⟨rfl, alike⟩
  · obtain ⟨same, after⟩ := blind _ _ alike.opened
    rw [inSession_eq_finish _ begun] at kept ⊢
    rw [inSession_eq_finish _ begun'] at kept' ⊢
    obtain ⟨isOpen, migrated, refuses, -, -, rows⟩ := alike
    cases ran : work.run db.opened with
    | mk result session =>
      cases ran' : work.run db'.opened with
      | mk result' session' =>
        rw [ran] at same after kept
        rw [ran'] at same after kept'
        cases same
        cases result with
        | error e => exact ⟨rfl, isOpen, migrated, refuses, kept, kept', rows⟩
        | ok summary =>
          rw [finish_ok] at kept kept' ⊢
          rw [finish_ok]
          rw [after.refuses] at kept' ⊢
          generalize session.refuses .commit = refused at kept kept' ⊢
          cases refused with
          | some e => exact ⟨rfl, isOpen, migrated, refuses, kept, kept', rows⟩
          | none => exact ⟨rfl, isOpen, migrated, refuses, kept, kept', after.rows⟩

theorem Errand.pass_blind (e : Errand) (acts : List Act) (base : Nat) :
    Session.Blind e.kind e.site base (e.pass acts) := by
  obtain ⟨k, site, work⟩ := e
  cases work with
  | synchronize q mode =>
    exact Session.apply_blind (Plan.ofSite_build site (fetchedRecords k acts) mode)
  | reset => exact Session.blind_map _ (Session.deleteWhere_blind _)

end

section

variable {σ : Type} {remote : Service σ} {k : ResourceKind} {site : SiteId} {work : Work}
  {paging : Paging} {s s' : Shared σ} {p p' : Phase k} {seen : Option Act} {acts : List Act}
  {db : Database} {now : σ} {start : Database}

theorem Progress.unclosed_of_unended (progress : Progress db acts k site work p)
    (unended : p.result? = none) : unclosed acts := by
  cases progress with
  | unseen _ _ noneSeen =>
    rw [noneSeen]
    rfl
  | fetching _ unclosed => exact unclosed
  | ready _ unclosed => exact unclosed
  | pending _ _ _ unclosed => exact unclosed
  | ended ended => cases unended.symm.trans ended

theorem Taken.result_of_closed (taken : Taken remote k site work paging s p seen s' p')
    {result : Except DbError Summary} (closed : seen = some (.closed result)) :
    p'.result? = some (result.mapError fun e => .error (.storage e)) := by
  cases taken with
  | inside inside =>
    cases inside with
    | closed =>
      cases closed
      rfl
    | _ => cases closed
  | _ => cases closed

theorem Taken.stays_ended (taken : Taken remote k site work paging s p seen s' p')
    {result : Outcome Summary} (ended : p.result? = some result) :
    p'.result? = some result ∧ seen = none := by
  cases taken with
  | acquire => cases ended
  | inside inside =>
    cases inside with
    | told => exact ⟨ended, rfl⟩
    | worked _ _ pending => cases (Phase.result_of_pending pending).symm.trans ended
    | closed _ pending => cases (Phase.result_of_pending pending).symm.trans ended
    | _ => cases ended
  | release => exact ⟨ended, rfl⟩
  | drop => exact ⟨ended, rfl⟩
  | sweep => exact ⟨ended, rfl⟩
  | enter => cases ended

def Call.alone (remote : Service σ) (now : σ) (start : Database) (c : Call) :
    Outcome Summary × Database :=
  let ran := (c.act remote).run ⟨now, start, []⟩
  (ran.1, ran.2.db)

theorem alone_of_gathered (fixed : Fixed remote k site)
    (gathered : Gathered remote k site work paging acts) (now : σ) (start : Database) :
    Call.alone remote now start ⟨⟨k, site, work⟩, paging⟩ =
      ((inSession (Errand.pass ⟨k, site, work⟩ acts) start).1.mapError
          fun e => .error (.storage e),
        (inSession (Errand.pass ⟨k, site, work⟩ acts) start).2) :=
  Prod.ext_iff.mpr (act_of_gathered fixed.replays trivial gathered)

theorem Returned.alone {result : Outcome Summary} (fixed : Fixed remote k site)
    (returned : Returned remote (SameSettings start) k site work paging acts result)
    (unclosed : unclosed acts) (now : σ) :
    Call.alone remote now start ⟨⟨k, site, work⟩, paging⟩ = (result, start) := by
  cases returned with
  | unfetched same fetches =>
    subst same
    exact Prod.ext_iff.mpr (act_of_unfetched fixed.replays trivial fetches)
  | refused same refused gathered =>
    rw [alone_of_gathered fixed gathered, inSession, same.begin_error refused]
    rfl
  | closed _ _ _ ended => exact absurd rfl (List.countP_eq_zero.mp unclosed _ ended)

theorem Returned.gathered {known : Database → Prop} {result : Outcome Summary}
    (returned : Returned remote known k site work paging acts result)
    {ending : Except DbError Summary} (closed : .closed ending ∈ acts) :
    Gathered remote k site work paging acts := by
  cases returned with
  | unfetched _ _ unclosed => exact absurd rfl (List.countP_eq_zero.mp unclosed _ closed)
  | refused _ _ gathered => exact gathered
  | closed _ _ gathered => exact gathered

/-- A task that others do not interfere with: its site is as at the start until the task has its
result, and from then on as the operation alone would leave it. -/
structure Solo (remote : Service σ) (now : σ) (start db : Database) (t : Task) : Prop where
  before : t.phase.result? = none → Resembles t.kind t.site start.supply start db
  after : ∀ result, t.phase.result? = some result →
    result = (t.call.alone remote now start).1 ∧
      Resembles t.kind t.site start.supply (t.call.alone remote now start).2 db

namespace Solo

theorem idle {t : Task} (idle : t.phase = .idle) (kept : start.opened.KeptSince start.supply) :
    Solo remote now start start t := by
  constructor
  · exact fun _ => .refl t.kind t.site kept
  · intro result ended
    rw [idle] at ended
    cases ended

theorem frame {t : Task} {db' : Database} (solo : Solo remote now start db t)
    (alike : Resembles t.kind t.site start.supply db db') : Solo remote now start db' t where
  before unended := (solo.before unended).trans alike
  after result ended :=
    have ⟨same, left⟩ := solo.after result ended
    ⟨same, left.trans alike⟩

theorem step (solo : Solo remote now start s.world.db ⟨k, site, work, paging, p⟩)
    (fixed : Fixed remote k site) (current : SameSettings start s.world.db)
    (course : Course remote (SameSettings start) k site work paging acts p)
    (taken : Taken remote k site work paging s p seen s' p')
    (stored : (s'.world.db = s.world.db ∧ ∀ act, seen = some act → act.isClosed = false) ∨
      ∃ result, seen = some (.closed result) ∧
        inSession (Errand.pass ⟨k, site, work⟩ acts) s.world.db = (result, s'.world.db)) :
    Solo remote now start s'.world.db ⟨k, site, work, paging, p'⟩ := by
  have call : (⟨k, site, work, paging, p'⟩ : Task).call = ⟨⟨k, site, work⟩, paging⟩ := rfl
  have next := (course.step current taken).stage
  cases ended : p.result? with
  | some result =>
    obtain ⟨ended', rfl⟩ := taken.stays_ended ended
    rcases stored with ⟨same, -⟩ | ⟨_, closed, -⟩
    · rw [same]
      refine ⟨fun unended => ?_, fun result' returned => ?_⟩
      · cases unended.symm.trans ended'
      · cases ended'.symm.trans returned
        exact solo.after result ended
    · cases closed
  | none =>
    have before := solo.before ended
    obtain ⟨⟨db, -, progress⟩, -⟩ := course
    have unclosed := progress.unclosed_of_unended ended
    rcases stored with ⟨same, unclosed'⟩ | ⟨result, rfl, ends⟩
    · rw [same]
      refine ⟨fun _ => before, fun result returned => ?_⟩
      have still : Sync.unclosed (acts ++ seen.toList) := by
        cases seen with
        | none => simpa using unclosed
        | some act => simpa [Sync.unclosed, unclosed' act rfl] using unclosed
      rw [call, (next.of_ended returned).alone fixed still]
      exact ⟨rfl, before⟩
    · -- The session makes of the site what it would make of it on the store of the start.
      have ended' := taken.result_of_closed rfl
      have closed : Act.closed result ∈ acts ++ (some (Act.closed result)).toList := by simp
      have gathered := (next.of_ended ended').gathered closed
      have passes := resembles_inSession
        (Errand.pass_blind ⟨k, site, work⟩ acts start.supply)
        (Errand.pass_within ⟨k, site, work⟩ acts) before
      rw [ends] at passes
      refine ⟨fun unended => ?_, fun result' returned => ?_⟩
      · cases unended.symm.trans ended'
      · cases ended'.symm.trans returned
        rw [call, alone_of_gathered fixed gathered, Option.toList_some, pass_unlisted _ acts rfl,
          ← passes.1]
        exact ⟨rfl, passes.2⟩

end Solo

end

structure Solitary {σ : Type} (remote : Service σ) (calls : List Call) (now : σ)
    (start : Database) (log : List Mark) (tasks : List Task) (s : Shared σ) : Prop where
  sent : tasks.map Task.call = calls
  settings : SameSettings start s.world.db
  kept : s.world.db.opened.KeptSince start.supply
  course : ∀ (i : Nat) (t : Task), tasks[i]? = some t →
    Course remote (SameSettings start) t.kind t.site t.work t.paging (actsOf i log) t.phase
  solo : ∀ t ∈ tasks, Solo remote now start s.world.db t
  others : ∀ k site, (∀ c ∈ calls, ¬ (c.errand.kind = k ∧ c.errand.site = site)) →
    Resembles k site start.supply start s.world.db

def Call.place (c : Call) : ResourceKind × SiteId := (c.errand.kind, c.errand.site)

def leftAt {σ : Type} (remote : Service σ) (now : σ) (start : Database) (calls : List Call)
    (k : ResourceKind) (site : SiteId) : Database :=
  match calls.find? (·.place = (k, site)) with
  | some c => (c.alone remote now start).2
  | none => start

namespace Solitary

variable {σ C : Type} {remote : Service σ} {calls : List Call} {now : σ} {start : Database}
  {log : List Mark} {tasks : List Task} {s s' : Shared σ} {i : Nat} {k : ResourceKind}
  {site : SiteId} {work : Work} {paging : Paging} {p p' : Phase k} {seen : Option Act}
  {errands : List Errand}

theorem call_mem (solitary : Solitary remote calls now start log tasks s) {t : Task}
    (member : t ∈ tasks) : t.call ∈ calls :=
  solitary.sent ▸ List.mem_map_of_mem member

theorem place_at (solitary : Solitary remote calls now start log tasks s) {t : Task}
    (found : tasks[i]? = some t) : (calls.map Call.place)[i]? = some (t.kind, t.site) := by
  rw [← solitary.sent, List.map_map, List.getElem?_map, found]
  rfl

theorem step (solitary : Solitary remote calls now start log tasks s)
    (orderly : Orderly errands start log tasks s)
    (apart : (calls.map Call.place).Nodup)
    (fixed : ∀ c ∈ calls, Fixed remote c.errand.kind c.errand.site)
    (found : tasks[i]? = some ⟨k, site, work, paging, p⟩)
    (taken : Taken remote k site work paging s p seen s' p') :
    Solitary remote calls now start (log ++ seen.toList.map (Mark.mk i))
      (tasks.set i ⟨k, site, work, paging, p'⟩) s' := by
  have member := List.mem_of_getElem? found
  have called : (⟨⟨k, site, work⟩, paging⟩ : Call) ∈ calls := solitary.call_mem member
  have stored := orderly.step_db found taken
  have inside := Errand.pass_within ⟨k, site, work⟩ (actsOf i log)
  have settings : SameSettings s.world.db s'.world.db := by
    rcases stored with ⟨same, -⟩ | ⟨result, -, ends⟩
    · rw [same]
      exact ⟨rfl, rfl, rfl⟩
    · have settings := settings_inSession (Errand.pass ⟨k, site, work⟩ (actsOf i log)) s.world.db
      rwa [ends] at settings
  have kept : s'.world.db.opened.KeptSince start.supply := by
    rcases stored with ⟨same, -⟩ | ⟨result, -, ends⟩
    · rw [same]
      exact solitary.kept
    · have kept := kept_inSession inside solitary.kept
      rwa [ends] at kept
  -- Whoever sees another site sees nothing of the step.
  have frame {j : ResourceKind} {site' : SiteId} (other : ¬ (k = j ∧ site = site')) :
      Resembles j site' start.supply s.world.db s'.world.db := by
    apply resembles_of_rowsOf settings solitary.kept kept
    rcases stored with ⟨same, -⟩ | ⟨result, -, ends⟩
    · rw [same]
    · have same := sameBut_inSession solitary.kept.1 inside
      rw [ends] at same
      exact same.rowsOf_eq other
  constructor
  · rw [← solitary.sent]
    exact map_set_same found rfl
  · exact solitary.settings.trans settings
  · exact kept
  · intro j t looked
    rcases lookup_set found looked with ⟨rfl, rfl⟩ | ⟨other, found'⟩
    · rw [actsOf_self]
      exact (solitary.course j _ found).step solitary.settings taken
    · rw [actsOf_other other]
      exact solitary.course j t found'
  · intro t inside
    obtain ⟨j, looked⟩ := List.getElem?_of_mem inside
    rcases lookup_set found looked with ⟨rfl, rfl⟩ | ⟨other, found'⟩
    · exact (solitary.solo _ member).step (fixed _ called) solitary.settings
        (solitary.course j _ found) taken stored
    · apply (solitary.solo t (List.mem_of_getElem? found')).frame
      apply frame
      rintro ⟨rfl, rfl⟩
      have here := solitary.place_at found
      obtain ⟨within, -⟩ := List.getElem?_eq_some_iff.mp here
      exact other ((List.getElem?_inj within apart).mp
        (here.trans (solitary.place_at found').symm)).symm
  · intro j site' uncalled
    exact (solitary.others j site' uncalled).trans (frame (uncalled _ called))

section

variable (solitary : Solitary remote calls now start log tasks s)
  (ended : ∀ t ∈ tasks, t.result?.isSome = true)

include solitary ended

theorem ends {t : Task} (member : t ∈ tasks) :
    t.result? = some (t.call.alone remote now start).1 ∧
      Resembles t.kind t.site start.supply (t.call.alone remote now start).2 s.world.db := by
  obtain ⟨result, finished⟩ := Option.isSome_iff_exists.mp (ended t member)
  obtain ⟨same, left⟩ := (solitary.solo t member).after result (Task.phase_result finished)
  exact ⟨same ▸ finished, left⟩

theorem results : tasks.map Task.result? =
    calls.map fun c => some (c.alone remote now start).1 := by
  rw [← solitary.sent, List.map_map]
  exact List.map_congr_left fun t member => (solitary.ends ended member).1

theorem leaves (k : ResourceKind) (site : SiteId) :
    Resembles k site start.supply (leftAt remote now start calls k site) s.world.db := by
  unfold leftAt
  cases called : calls.find? (·.place = (k, site)) with
  | none =>
    apply solitary.others
    rintro c member ⟨rfl, rfl⟩
    exact List.find?_eq_none.mp called c member (decide_eq_true rfl)
  | some c =>
    have place : c.place = (k, site) := by simpa using List.find?_some called
    obtain ⟨rfl, rfl⟩ := Prod.mk.inj place
    have member := List.mem_of_find?_eq_some called
    rw [← solitary.sent] at member
    obtain ⟨t, inside, rfl⟩ := List.mem_map.mp member
    exact (solitary.ends ended inside).2

end

end Solitary

namespace Stores

variable {σ C : Type} {remote : Service σ} {s start : Stores σ C} {calls : List Call} {now : σ}
  {db : Database} {log : List Mark} {errands : List Errand}

theorem solitary_move (solitary : Solitary remote calls now db log s.tasks s.shared)
    (orderly : Orderly errands db log s.tasks s.shared) (apart : (calls.map Call.place).Nodup)
    (fixed : ∀ c ∈ calls, Fixed remote c.errand.kind c.errand.site) (move : Move σ) :
    Solitary remote calls now db (log ++ s.marks remote move) (s.move remote move).tasks
      (s.move remote move).shared := by
  cases move with
  | remote change =>
    rw [marks, List.append_nil]
    exact ⟨solitary.sent, solitary.settings, solitary.kept, solitary.course, solitary.solo,
      solitary.others⟩
  | task i =>
    rw [Stores.move]
    cases stepped : s.step remote i with
    | none =>
      rw [marks_of_stuck stepped, List.append_nil]
      exact solitary
    | some s' =>
      rw [Option.getD_some]
      rcases tasks_of_step stepped with ⟨t, p, found, taken, tasks⟩ | ⟨shared, tasks, unseen⟩
      · rw [tasks, marks, found, Option.bind_some]
        exact solitary.step orderly apart fixed found (taken_of_step taken)
      · rw [unseen, List.append_nil, shared, tasks]
        exact solitary

theorem solitary_trace (fresh : start.Fresh)
    (kept : KeptContents start.shared.world.db.supply start.shared.world.db.contents)
    (apart : ((start.tasks.map Task.call).map Call.place).Nodup)
    (fixed : ∀ c ∈ start.tasks.map Task.call, Fixed remote c.errand.kind c.errand.site)
    (moves : List (Move σ)) :
    Solitary remote (start.tasks.map Task.call) start.shared.world.remote start.shared.world.db
      (start.trace remote moves).1 (start.trace remote moves).2.tasks
      (start.trace remote moves).2.shared := by
  have since : start.shared.world.db.opened.KeptSince start.shared.world.db.supply :=
    ⟨kept, Nat.le_refl _⟩
  induction moves using List.reverseRecOn with
  | nil =>
    constructor
    · rfl
    · exact ⟨rfl, rfl, rfl⟩
    · exact since
    · intro i t found
      rw [fresh.idle t (List.mem_of_getElem? found)]
      exact .idle ⟨rfl, rfl, rfl⟩
    · exact fun t member => .idle (fresh.idle t member) since
    · exact fun k site _ => .refl k site since
  | append_singleton moves move ih =>
    have orderly : Orderly (start.tasks.map Task.errand) start.shared.world.db _
        (start.trace remote moves).2.tasks (start.trace remote moves).2.shared :=
      orderly_trace fresh moves
    unfold trace at ih orderly ⊢
    rw [List.foldl_append]
    exact solitary_move ih orderly apart fixed move

end Stores

theorem recordAt_eq_find? (k : ResourceKind) (site : SiteId) (c : Contents) (base : Nat)
    (key : KeyOf k) : recordAt site (kindRows k c) key =
      ((sights base (rowsOf k site c)).map (·.record)).find? fun r => Resource.key r == key := by
  rw [recordAt, find?_isAt_filter, ← records_sights, List.find?_map]
  rfl

theorem before?_of_lt {base n : Nat} (lt : n < base) :
    (RowId.issued n).before? base = some (.issued n) :=
  if_pos lt

theorem eq_of_before? {base : Nat} {id id' : RowId} (seen : id.before? base = some id') :
    id = id' := by
  cases id with
  | other text => exact Option.some.inj seen
  | issued n =>
    by_cases lt : n < base
    · rw [before?_of_lt lt] at seen
      exact Option.some.inj seen
    · rw [RowId.before?, if_neg lt] at seen
      cases seen

-- The local ids from before are among the sights of the sites.
theorem mem_ids_iff {k : ResourceKind} {c : Contents} {base n : Nat} (lt : n < base) :
    .issued n ∈ (kindRows k c).map (·.id) ↔
      ∃ site, some (.issued n) ∈ (sights base (rowsOf k site c)).map (·.id) := by
  simp only [sights, List.map_map, List.mem_map, Function.comp_apply]
  constructor
  · rintro ⟨row, member, id⟩
    refine ⟨Resource.site row.record, row,
      List.mem_filter.mpr ⟨member, (isOf_iff _ row).mpr rfl⟩, ?_⟩
    rw [Row.sight, id]
    exact before?_of_lt lt
  · rintro ⟨site, row, inside, seen⟩
    exact ⟨row, (List.mem_filter.mp inside).1, eq_of_before? seen⟩

structure Agree {σ C : Type} (remote : Service σ) (start a b : Stores σ C) : Prop where
  results : a.tasks.map Task.result? = b.tasks.map Task.result?
  records : ∀ (k : ResourceKind) (site : SiteId),
    recordAt site (kindRows k a.shared.world.db.contents) =
      recordAt site (kindRows k b.shared.world.db.contents)
  survivors : ∀ k, ∀ row ∈ kindRows k start.shared.world.db.contents,
    row.id ∈ (kindRows k a.shared.world.db.contents).map (·.id) ↔
      row.id ∈ (kindRows k b.shared.world.db.contents).map (·.id)
  rows : ∀ (k : ResourceKind) (site : SiteId),
    sights start.shared.world.db.supply (rowsOf k site a.shared.world.db.contents) =
      sights start.shared.world.db.supply (rowsOf k site b.shared.world.db.contents)
  alone : a.tasks.map Task.result? = start.tasks.map fun t =>
    some (t.call.alone remote start.shared.world.remote start.shared.world.db).1

theorem traces_agree {σ C : Type} {remote : Service σ} {start : Stores σ C} (fresh : start.Fresh)
    (kept : KeptContents start.shared.world.db.supply start.shared.world.db.contents)
    (apart : (start.tasks.map fun t => (t.kind, t.site)).Nodup)
    (fixed : ∀ t ∈ start.tasks, Fixed remote t.kind t.site) (moves moves' : List (Move σ))
    (ended : ∀ t ∈ (start.trace remote moves).2.tasks, t.result?.isSome = true)
    (ended' : ∀ t ∈ (start.trace remote moves').2.tasks, t.result?.isSome = true) :
    Agree remote start (start.trace remote moves).2 (start.trace remote moves').2 := by
  have places : ((start.tasks.map Task.call).map Call.place).Nodup := by
    rw [List.map_map]
    exact apart
  have fixed' : ∀ c ∈ start.tasks.map Task.call, Fixed remote c.errand.kind c.errand.site := by
    intro c member
    obtain ⟨t, inside, rfl⟩ := List.mem_map.mp member
    exact fixed t inside
  have first := Stores.solitary_trace fresh kept places fixed' moves
  have second := Stores.solitary_trace fresh kept places fixed' moves'
  have rows (k : ResourceKind) (site : SiteId) :
      sights start.shared.world.db.supply
          (rowsOf k site (start.trace remote moves).2.shared.world.db.contents) =
        sights start.shared.world.db.supply
          (rowsOf k site (start.trace remote moves').2.shared.world.db.contents) :=
    (first.leaves ended k site).opened.rows.trans (second.leaves ended' k site).opened.rows.symm
  constructor
  · rw [first.results ended, second.results ended']
  · intro k site
    funext key
    rw [recordAt_eq_find? _ _ _ start.shared.world.db.supply,
      recordAt_eq_find? _ _ _ start.shared.world.db.supply, rows k site]
  · intro k row member
    obtain ⟨n, lt, id⟩ := (kept k).issued row member
    rw [id, mem_ids_iff lt, mem_ids_iff lt]
    exact exists_congr fun site => by rw [rows k site]
  · exact rows
  · rw [first.results ended, List.map_map]
    rfl

-- A remote that never changes, with three pages for one site and one for another.
def seasonScript : Remote.Script :=
  couponScript.modify .coupon fun part => part.serve ⟨9⟩ [couponOf ⟨9⟩ 2 "winter"]

def seasonRemote : Service Unit :=
  ⟨fun k site q => pure ((seasonScript.parts k).reply site q).1⟩

theorem seasonRemote_fixed (k : ResourceKind) (site : SiteId) : Fixed seasonRemote k site :=
  fun _ _ _ => rfl

def seasonStores : Stores Unit Unit where
  paging := .paged 2 5
  shared := ⟨⟨(), couponStore, []⟩, false, fun _ => .empty, false⟩
  queue := .queued
  spawned :=
    [⟨(), ⟨.coupon, ⟨7⟩, .synchronize .unpaged .replace, .paged 2 5, .idle⟩, true⟩,
      ⟨(), ⟨.coupon, ⟨9⟩, .synchronize .unpaged .merge, .paged 2 5, .idle⟩, true⟩,
      ⟨(), ⟨.product, ⟨7⟩, .reset, .paged 2 5, .idle⟩, true⟩]

def seasonInOrder : List (Move Unit) :=
  List.replicate 16 (.task 0) ++ List.replicate 14 (.task 1) ++ List.replicate 12 (.task 2)

def seasonInTurns : List (Move Unit) :=
  (List.replicate 20 [.task 2, .task 1, .task 0]).flatten

theorem seasonStores_fresh : seasonStores.Fresh := by
  refine ⟨?_, fun _ => rfl, rfl⟩
  intro t member
  simp only [Stores.tasks, seasonStores, List.map_cons, List.map_nil, List.mem_cons,
    List.not_mem_nil, or_false] at member
  rcases member with rfl | rfl | rfl <;> rfl

-- The coupons have other local ids in another order.
theorem seasonStores_agree :
    let ids (s : Stores Unit Unit) :=
      (kindRows .coupon s.shared.world.db.contents).map fun row => (row.id, row.record.code)
    ids (seasonStores.trace seasonRemote seasonInOrder).2 =
        [(.issued 0, "last"), (.issued 2, "other"), (.issued 3, "new"), (.issued 4, "late"),
          (.issued 5, "winter")] ∧
      ids (seasonStores.trace seasonRemote seasonInTurns).2 =
        [(.issued 0, "last"), (.issued 2, "other"), (.issued 3, "winter"), (.issued 4, "new"),
          (.issued 5, "late")] ∧
      Agree seasonRemote seasonStores (seasonStores.trace seasonRemote seasonInOrder).2
        (seasonStores.trace seasonRemote seasonInTurns).2 := by
  refine ⟨by decide +kernel, by decide +kernel, ?_⟩
  exact traces_agree seasonStores_fresh reachable_couponStore.kept (by decide)
    (fun _ _ => seasonRemote_fixed _ _) seasonInOrder seasonInTurns (by decide +kernel)
    (by decide +kernel)

end SiteCache.Sync
