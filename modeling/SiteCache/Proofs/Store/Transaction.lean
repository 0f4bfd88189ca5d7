import SiteCache.Proofs.Store.Identity
import SiteCache.Proofs.Store.Scope

set_option autoImplicit false

namespace SiteCache.Store

section

variable {R K : Type} [DecidableEq K] [NaturalKey K] [Cached R K]

theorem uniqueFields?_append (fields : String) :
    EngineError.uniqueFields? (uniquenessText ++ fields) = some fields := by
  have begins : uniquenessText.toList.isPrefixOf (uniquenessText ++ fields).toList = true := by
    simp
  have rest : (uniquenessText ++ fields).toList.drop uniquenessText.length = fields.toList := by
    rw [String.toList_append, ← String.length_toList, List.drop_left]
  rw [EngineError.uniqueFields?, if_pos begins, rest, String.ofList_toList]

theorem duplicate_eq :
    Session.duplicate R = .uniqueViolation (Session.fieldText R "site_id" ++ ", " ++
      Session.fieldText R (Cached.keyColumn R)) "unknown" := by
  rw [Session.duplicate, String.append_assoc, String.append_assoc, EngineError.toDbError,
    uniqueFields?_append, String.append_assoc]

end

-- The engine has its tables and refuses no statement.
def Session.Willing (s : Session) : Prop :=
  s.migrated = true ∧ ∀ statement, s.refuses statement = none

def Database.Willing (db : Database) : Prop :=
  db.isOpen = true ∧ db.migrated = true ∧ ∀ statement, db.refuses statement = none

def SessionCall.effect (s : Session) : SessionCall → Session
  | .find .. => s
  | .insert _ r => s.inserted r
  | .update k id r => s.withRows (overwriteAt id r (Session.tableRows (RecordOf k) s))
  | .deleteStale k site keys => s.withRows ((Session.tableRows (RecordOf k) s).filter fun row =>
      !(row.isOf site && !keys.contains (Resource.key row.record)))
  | .deleteAll k site => s.withRows ((Session.tableRows (RecordOf k) s).filter (!·.isOf site))
  | .apply k site records mode =>
    let plan : Plan (RecordOf k) := Plan.build site records mode
    let rows := Session.tableRows (RecordOf k) s
    s.drawn (settled plan s.supply rows) (plan.records.countP (isNew site rows))

/-- The calls that fail on an engine that refuses nothing, and how. -/
inductive SessionCall.Fails (s : Session) : SessionCall → DbError → Prop
  | insert {k : ResourceKind} {r : RecordOf k} :
    (∃ row ∈ kindRows k s.contents, row.identity = (Resource.site r, Resource.key r)) →
    Fails s (.insert k r) (.uniqueViolation (Session.fieldText (RecordOf k) "site_id" ++ ", " ++
      Session.fieldText (RecordOf k) (Cached.keyColumn (RecordOf k))) "unknown")
  | update {k : ResourceKind} {id : RowId} {r : RecordOf k} :
    (∀ row ∈ kindRows k s.contents, row.id ≠ id) →
    Fails s (.update k id r) (.notFound (Cached.table (RecordOf k)) id)

namespace Session

-- The calls that succeed, each after those before it.
def successes (s : Session) : List SessionCall → List SessionCall
  | [] => []
  | call :: rest =>
    match call.act.run s with
    | (.ok (), s') => call :: successes s' rest
    | (.error _, s') => successes s' rest

section

variable {s : Session}

theorem refusal_of_willing (R : Type) {K : Type} [DecidableEq K] [NaturalKey K] [Cached R K]
    (willing : s.Willing) (statements : List Statement) : refusal R statements s = none := by
  rw [refusal, if_pos willing.1, List.findSome?_eq_none_iff]
  exact fun statement _ => willing.2 statement

theorem upsert_succeeds {k : ResourceKind} {site : SiteId} {r : RecordOf k} (willing : s.Willing)
    (ofSite : Resource.site r = site) (summary : Summary) :
    ∃ summary' s', (upsert site summary r).run s = (.ok summary', s') ∧ s'.Willing := by
  unfold upsert
  rw [run_bind, find_run, refusal_of_willing _ willing]
  dsimp only
  cases found : (tableRows (RecordOf k) s).find? (·.isAt site (Resource.key r)) with
  | none =>
    have absent : (tableRows (RecordOf k) s).any
        (·.isAt (Resource.site r) (Resource.key r)) = false := by
      rw [List.any_eq_false, ofSite]
      simpa using found
    dsimp only [Option.map_none]
    rw [run_bind, insert_run, refusal_of_willing _ willing, absent]
    exact ⟨_, _, rfl, willing⟩
  | some row =>
    have present : ((tableRows (RecordOf k) s).find? (·.id = row.id)).isSome := by
      rw [List.find?_isSome]
      exact ⟨row, List.mem_of_find?_eq_some found, by simp⟩
    obtain ⟨row', same⟩ := Option.isSome_iff_exists.mp present
    dsimp only [Option.map_some]
    rw [run_bind, update_run, refusal_of_willing _ willing, same]
    dsimp only
    rw [refusal_of_willing _ willing]
    exact ⟨_, _, rfl, willing⟩

theorem upserts_succeed {k : ResourceKind} {site : SiteId} {records : List (RecordOf k)}
    (willing : s.Willing) (ofSite : ∀ r ∈ records, Resource.site r = site) (summary : Summary) :
    ∃ summary' s', (records.foldlM (upsert site) summary).run s = (.ok summary', s') ∧
      s'.Willing := by
  induction records generalizing summary s with
  | nil => exact ⟨summary, s, rfl, willing⟩
  | cons r rest ih =>
    obtain ⟨first, ofSite⟩ := List.forall_mem_cons.mp ofSite
    obtain ⟨summary₁, s₁, ran, willing⟩ := upsert_succeeds willing first summary
    rw [List.foldlM_cons, run_bind, ran]
    exact ih willing ofSite summary₁

theorem deleteWhere_succeeds {R K : Type} [DecidableEq K] [NaturalKey K] [Cached R K]
    (willing : s.Willing) (site : SiteId) (stale : K → Bool) :
    (deleteWhere R site stale).run s = (.ok ((tableRows R s).countP (doomed site stale)),
      s.withRows ((tableRows R s).filter fun row => !doomed site stale row)) := by
  rw [deleteWhere_run, refusal_of_willing _ willing]
  dsimp only
  rw [refusal_of_willing _ willing]

theorem apply_succeeds {k : ResourceKind} (willing : s.Willing) (site : SiteId)
    (records : List (RecordOf k)) (mode : ReconcileMode) :
    ∃ summary s', (apply (Plan.build site records mode)).run s = (.ok summary, s') ∧
      s'.Willing := by
  unfold apply
  obtain ⟨summary, s₁, ran, willing⟩ :=
    upserts_succeed willing (Plan.ofSite_build site records mode) Summary.zero
  rw [run_bind, ran]
  dsimp only
  split
  · rw [run_bind, deleteStale, deleteWhere_succeeds willing]
    exact ⟨_, _, rfl, willing⟩
  · exact ⟨_, _, rfl, willing⟩

theorem discard_error_iff {α : Type} {act : SessionM α} {e : DbError} :
    ((discard act).run s).1 = .error e ↔ (act.run s).1 = .error e := by
  change ((Function.const α () <$> act).run s).1 = _ ↔ _
  rw [run_map]
  cases act.run s with
  | mk result s' => cases result <;> simp

theorem discard_error {α : Type} {act : SessionM α} {e : DbError}
    (failed : ((discard act).run s).1 = .error e) :
    act.run s = (.error e, ((discard act).run s).2) :=
  Prod.ext (discard_error_iff.mp failed) (run_discard_state act s).symm

theorem act_error_iff (willing : s.Willing) {call : SessionCall} {e : DbError} :
    (call.act.run s).1 = .error e ↔ call.Fails s e := by
  cases call with
  | insert k r =>
    rw [SessionCall.act, discard_error_iff, insert_run, refusal_of_willing _ willing]
    dsimp only
    have taken : (tableRows (RecordOf k) s).any (·.isAt (Resource.site r) (Resource.key r)) ↔
        ∃ row ∈ kindRows k s.contents, row.identity = (Resource.site r, Resource.key r) := by
      simp only [List.any_eq_true, isAt_iff]
      rfl
    constructor
    · intro failed
      split at failed
      · rename_i present
        cases failed
        rw [duplicate_eq]
        exact .insert (taken.mp present)
      · cases failed
    · intro fails
      cases fails with
      | insert present => rw [if_pos (taken.mpr present), duplicate_eq]
  | update k id r =>
    rw [SessionCall.act, update_run, refusal_of_willing _ willing]
    dsimp only
    cases found : (tableRows (RecordOf k) s).find? (·.id = id) with
    | none =>
      have absent : ∀ row ∈ kindRows k s.contents, row.id ≠ id := fun row member same =>
        List.find?_eq_none.mp found row member (by simpa using same)
      constructor
      · intro failed
        cases failed
        exact .update absent
      · intro fails
        cases fails
        rfl
    | some row =>
      have same : row.id = id := by simpa using List.find?_some found
      dsimp only
      rw [refusal_of_willing _ willing]
      constructor
      · intro failed
        cases failed
      · intro fails
        cases fails with
        | update absent => exact absurd same (absent row (List.mem_of_find?_eq_some found))
  | find k site key =>
    rw [SessionCall.act, discard_error_iff, find_run, refusal_of_willing _ willing]
    constructor
    · intro failed
      cases failed
    · intro fails
      cases fails
  | deleteStale k site keys =>
    rw [SessionCall.act, discard_error_iff, deleteStale, deleteWhere_succeeds willing]
    constructor
    · intro failed
      cases failed
    · intro fails
      cases fails
  | deleteAll k site =>
    rw [SessionCall.act, discard_error_iff, deleteAll, deleteWhere_succeeds willing]
    constructor
    · intro failed
      cases failed
    · intro fails
      cases fails
  | apply k site records mode =>
    obtain ⟨summary, s', ran, -⟩ := apply_succeeds willing site records mode
    rw [SessionCall.act, discard_error_iff, ran]
    constructor
    · intro failed
      cases failed
    · intro fails
      cases fails

theorem act_ok (kept : KeptContents s.supply s.contents) {call : SessionCall}
    (ran : (call.act.run s).1 = .ok ()) : (call.act.run s).2 = call.effect s := by
  cases call with
  | update k id r => exact (update_ok (Prod.ext ran rfl)).2.2
  | find k site key =>
    obtain ⟨found, ran⟩ := discard_ok ran
    exact (find_ok ran).1
  | insert k r =>
    obtain ⟨id, ran⟩ := discard_ok ran
    exact (insert_ok ran).2.2.2
  | deleteStale k site keys =>
    obtain ⟨n, ran⟩ := discard_ok ran
    exact (deleteWhere_ok ran).2
  | deleteAll k site =>
    obtain ⟨n, ran⟩ := discard_ok ran
    exact (deleteAll_ok ran).2
  | apply k site records mode =>
    obtain ⟨summary, ran⟩ := discard_ok ran
    exact (apply_ok (kept k) (Plan.ofSite_build site records mode)
      (Plan.keys_build_nodup site records mode) ran).1

theorem act_error {call : SessionCall}
    (single : ∀ k site records mode, call ≠ .apply k site records mode) {e : DbError}
    (failed : (call.act.run s).1 = .error e) : (call.act.run s).2 = s := by
  cases call with
  | update k id r => exact update_error (Prod.ext failed rfl)
  | find k site key => rw [SessionCall.act, run_discard_state, find_state]
  | insert k r => exact insert_error (discard_error failed)
  | deleteStale k site keys => exact deleteWhere_error (discard_error failed)
  | deleteAll k site => exact deleteWhere_error (discard_error failed)
  | apply k site records mode => exact absurd rfl (single k site records mode)

theorem act_error_of_willing (willing : s.Willing) {call : SessionCall} {e : DbError}
    (failed : (call.act.run s).1 = .error e) : (call.act.run s).2 = s := by
  refine act_error ?_ failed
  rintro k site records mode rfl
  cases (act_error_iff willing).mp failed

theorem effect_willing (willing : s.Willing) (call : SessionCall) : (call.effect s).Willing := by
  cases call <;> exact willing

theorem after_eq_effects (kept : KeptContents s.supply s.contents) (willing : s.Willing)
    (calls : List SessionCall) :
    s.after calls = (s.successes calls).foldl SessionCall.effect s := by
  induction calls generalizing s with
  | nil => rfl
  | cons call rest ih =>
    have kept' := (Continues.act kept call).1.1
    change Session.after (call.act.run s).2 rest = _
    cases ran : call.act.run s with
    | mk result s' =>
      have after : (call.act.run s).2 = s' := by rw [ran]
      cases result with
      | error e =>
        have same : s' = s := by rw [← after, act_error_of_willing willing (by rw [ran])]
        rw [successes, ran, same]
        exact ih kept willing
      | ok _ =>
        have effect : call.effect s = s' := by rw [← after, act_ok kept (by rw [ran])]
        rw [successes, ran]
        dsimp only
        rw [List.foldl_cons, effect]
        rw [after] at kept'
        exact ih kept' (effect ▸ effect_willing willing call)

theorem after_willing {base : Nat} (kept : s.KeptSince base) (willing : s.Willing)
    (calls : List SessionCall) : (s.after calls).Willing := by
  refine keeps_after ?_ kept willing calls
  intro k site s s' change willing
  cases change <;> exact willing

theorem find_eq_iff (kept : KeptContents s.supply s.contents) (willing : s.Willing)
    (k : ResourceKind) (site : SiteId) (key : KeyOf k) (found : Option RowId) :
    ((find (RecordOf k) site key).run s).1 = .ok found ↔
      ∀ id, found = some id ↔ ∃ row ∈ kindRows k s.contents, row.identity = (site, key) ∧
        row.id = id := by
  rw [find_run, refusal_of_willing _ willing]
  dsimp only
  have looked (id : RowId) :
      ((tableRows (RecordOf k) s).find? (·.isAt site key)).map (·.id) = some id ↔
        ∃ row ∈ kindRows k s.contents, row.identity = (site, key) ∧ row.id = id := by
    rw [Option.map_eq_some_iff]
    exact exists_congr fun row =>
      (and_congr_left' ((kept k).find?_isAt site key row)).trans and_assoc
  constructor
  · intro ran id
    cases ran
    exact looked id
  · intro described
    congr 1
    exact Option.ext fun id => (looked id).trans (described id).symm

end

end Session

/-- A session of a store, after some calls: what they have led to, what the next one does, and how
the session ends. -/
structure Transacts (db : Database) (session : Session) (calls : List SessionCall) : Prop where
  pending : session.after calls = (session.successes calls).foldl SessionCall.effect session
  fails : ∀ (call : SessionCall) (e : DbError), (call.act.run (session.after calls)).1 = .error e ↔
    call.Fails (session.after calls) e
  inert : ∀ (call : SessionCall) (e : DbError), (call.act.run (session.after calls)).1 = .error e →
    session.after (calls ++ [call]) = session.after calls
  finds : ∀ k site key found,
    ((Session.find (RecordOf k) site key).run (session.after calls)).1 = .ok found ↔
      ∀ id, found = some id ↔ ∃ row ∈ kindRows k (session.after calls).contents,
        row.identity = (site, key) ∧ row.id = id
  committed : (db.commit (session.after calls)).1 = .ok () ∧
    (db.commit (session.after calls)).2.contents =
      ((session.successes calls).foldl SessionCall.effect session).contents
  abandoned : (db.rollback (session.after calls)).contents = db.contents

theorem begin_of_willing {db : Database} (willing : db.Willing) :
    ∃ session, db.begin = .ok session ∧ session.contents = db.contents ∧ session.Willing := by
  obtain ⟨isOpen, migrated, accepts⟩ := willing
  refine ⟨⟨db.contents, db.supply, db.migrated, db.refuses⟩, ?_, rfl, migrated, accepts⟩
  simp [Database.begin, isOpen, accepts]

theorem commit_of_willing (db : Database) {session : Session} (willing : session.Willing) :
    db.commit session =
      (.ok (), { db with contents := session.contents, supply := session.supply }) := by
  rw [Database.commit, willing.2 .commit]

theorem session_transacts {db : Database} (reachable : db.Reachable) (willing : db.Willing) :
    ∃ session, db.begin = .ok session ∧ session.contents = db.contents ∧
      ∀ calls, Transacts db session calls := by
  obtain ⟨session, begun, started, accepts⟩ := begin_of_willing willing
  refine ⟨session, begun, started, ?_⟩
  intro calls
  have since := keptSince_begin begun reachable.kept
  have kept := (Session.kept_after since calls).1
  have willing := Session.after_willing since accepts calls
  have effects := Session.after_eq_effects since.1 accepts calls
  constructor
  case pending => exact effects
  case fails => exact fun call e => Session.act_error_iff willing
  case inert =>
    intro call e failed
    rw [Session.after, List.foldl_append]
    exact Session.act_error_of_willing willing failed
  case finds => exact Session.find_eq_iff kept willing
  case committed =>
    rw [← effects, commit_of_willing db willing]
    exact ⟨rfl, rfl⟩
  case abandoned => rfl

def seasonCoupon (key : Int64) (code : String) : Coupon := .new ⟨7⟩ key code .epoch

-- A store with one coupon.
def summerStore : Database :=
  (Database.new.commit (Session.after ⟨.empty, 0, true, fun _ => none⟩
    [.insert .coupon (seasonCoupon 1 "summer")])).2

-- The second call and the fourth one fail.
def mixedCalls : List SessionCall :=
  [.insert .coupon (seasonCoupon 2 "winter"), .insert .coupon (seasonCoupon 1 "again"),
    .update .coupon (.issued 0) (seasonCoupon 1 "autumn"),
    .update .coupon (.issued 9) (seasonCoupon 1 "spring"), .deleteStale .coupon ⟨7⟩ [(1 : Int64)]]

theorem summerStore_transacts : summerStore.Reachable ∧ summerStore.Willing ∧
    ∃ session, summerStore.begin = .ok session ∧
      session.successes mixedCalls = [.insert .coupon (seasonCoupon 2 "winter"),
        .update .coupon (.issued 0) (seasonCoupon 1 "autumn"),
        .deleteStale .coupon ⟨7⟩ [(1 : Int64)]] ∧
      kindRows .coupon (session.after mixedCalls).contents =
        [⟨.issued 0, seasonCoupon 1 "autumn", []⟩] ∧
      Transacts summerStore session mixedCalls := by
  have reachable : summerStore.Reachable := .commit _ .new rfl
  have willing : summerStore.Willing := ⟨rfl, rfl, fun _ => rfl⟩
  obtain ⟨session, begun, -, transacts⟩ := session_transacts reachable willing
  refine ⟨reachable, willing, session, begun, ?_, ?_, transacts mixedCalls⟩
  · cases begun
    rfl
  · cases begun
    rfl

end SiteCache.Store
