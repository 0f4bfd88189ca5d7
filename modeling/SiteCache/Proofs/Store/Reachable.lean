import Mathlib.Logic.Relation
import SiteCache.Proofs.Plan.Build
import SiteCache.Proofs.Store.Statements
import SiteCache.Store.Database
import SiteCache.Store.Family

set_option autoImplicit false

namespace SiteCache.Store

inductive SessionCall where
  | find (k : ResourceKind) (site : SiteId) (key : KeyOf k)
  | insert (k : ResourceKind) (r : RecordOf k)
  | update (k : ResourceKind) (id : RowId) (r : RecordOf k)
  | deleteStale (k : ResourceKind) (site : SiteId) (keys : List (KeyOf k))
  | deleteAll (k : ResourceKind) (site : SiteId)
  | apply (k : ResourceKind) (site : SiteId) (records : List (RecordOf k)) (mode : ReconcileMode)

def SessionCall.act : SessionCall → SessionM Unit
  | .find k site key => discard (Session.find (RecordOf k) site key)
  | .insert _ r => discard (Session.insert r)
  | .update _ id r => Session.update id r
  | .deleteStale k site keys => discard (Session.deleteStale (RecordOf k) site keys)
  | .deleteAll k site => discard (Session.deleteAll (RecordOf k) site)
  | .apply _ site records mode => discard (Session.apply (Plan.build site records mode))

-- The session after some calls, whether or not each of them succeeds.
def Session.after (s : Session) (calls : List SessionCall) : Session :=
  calls.foldl (fun s call => (call.act.run s).2) s

/-- A database that has come about by write sessions. Whether it is open, whether it has its tables
and what its engine refuses may change at any time. -/
inductive Database.Reachable : Database → Prop
  | new : Reachable .new
  | settings {db : Database} (migrated isOpen : Bool) (refuses : Refusal) :
    Reachable db → Reachable ⟨db.contents, db.supply, migrated, isOpen, refuses⟩
  | commit {db : Database} {session : Session} (calls : List SessionCall) :
    Reachable db → db.begin = .ok session → Reachable (db.commit (session.after calls)).2
  | rollback {db : Database} {session : Session} (calls : List SessionCall) :
    Reachable db → db.begin = .ok session → Reachable (db.rollback (session.after calls))

def kindRows (k : ResourceKind) (c : Contents) : List (Row (RecordOf k)) := Cached.rows c

theorem kindRows_setRows_of_ne {j k : ResourceKind} (other : j ≠ k) (c : Contents)
    (rows : List (Row (RecordOf k))) : kindRows j (Cached.setRows c rows) = kindRows j c := by
  cases j <;> cases k <;> first | rfl | exact absurd rfl other

def KeptContents (supply : Nat) (c : Contents) : Prop := ∀ k, Kept supply (kindRows k c)

theorem forall_setRows {P : ∀ k, List (Row (RecordOf k)) → Prop} {c : Contents}
    (old : ∀ k, P k (kindRows k c)) {k : ResourceKind} {rows : List (Row (RecordOf k))}
    (new : P k rows) (j : ResourceKind) : P j (kindRows j (Cached.setRows c rows)) := by
  by_cases same : j = k
  · subst same
    rw [kindRows, Cached.rows_setRows]
    exact new
  · rw [kindRows_setRows_of_ne same]
    exact old j

theorem KeptContents.setRows {supply later : Nat} {c : Contents} (kept : KeptContents supply c)
    (le : supply ≤ later) {k : ResourceKind} {rows : List (Row (RecordOf k))}
    (new : Kept later rows) : KeptContents later (Cached.setRows c rows) :=
  forall_setRows (P := fun _ => Kept later) (fun k => (kept k).mono le) new

namespace Session

section

variable {k : ResourceKind} {site : SiteId} {s s' : Session}

inductive Change (k : ResourceKind) (site : SiteId) (s : Session) : Session → Prop
  | insert {r : RecordOf k} : Resource.site r = site →
    (tableRows (RecordOf k) s).any (·.isAt (Resource.site r) (Resource.key r)) = false →
    Change k site s (s.inserted r)
  | overwrite {row : Row (RecordOf k)} (r : RecordOf k) : row ∈ tableRows (RecordOf k) s →
    row.isOf site →
    Change k site s (s.withRows (overwriteAt row.id r (tableRows (RecordOf k) s)))
  | delete (stale : KeyOf k → Bool) :
    Change k site s
      (s.withRows ((tableRows (RecordOf k) s).filter fun row => !doomed site stale row))

abbrev Changes (k : ResourceKind) (site : SiteId) : Session → Session → Prop :=
  Relation.ReflTransGen (Change k site)

-- What a session keeps that began when `base` local ids had been issued.
def KeptSince (s : Session) (base : Nat) : Prop :=
  KeptContents s.supply s.contents ∧ base ≤ s.supply

variable {base : Nat}

theorem KeptSince.change (kept : s.KeptSince base) (change : Change k site s s') :
    s'.KeptSince base := by
  cases change with
  | @insert r _ absent =>
    exact ⟨kept.1.setRows (Nat.le_succ _) ((kept.1 k).append r absent), Nat.le_succ_of_le kept.2⟩
  | overwrite r _ _ =>
    exact ⟨kept.1.setRows (Nat.le_refl _) ((kept.1 k).overwriteAt _ r), kept.2⟩
  | delete stale => exact ⟨kept.1.setRows (Nat.le_refl _) ((kept.1 k).filter _), kept.2⟩

theorem keeps_changes {I : Session → Prop} (change : ∀ s s', Change k site s s' → I s → I s')
    (changes : Changes k site s s') (holds : I s) : I s' := by
  induction changes with
  | refl => exact holds
  | tail _ one held => exact change _ _ one held

theorem KeptSince.changes (kept : s.KeptSince base) (changes : Changes k site s s') :
    s'.KeptSince base :=
  keeps_changes (fun _ _ change kept => KeptSince.change kept change) changes kept

-- An act that changes nothing but rows of a site, however it ends.
def Within (k : ResourceKind) (site : SiteId) {α : Type} (act : SessionM α) : Prop :=
  ∀ s, KeptContents s.supply s.contents → Changes k site s (act.run s).2

section

variable {α β : Type}

theorem within_pure (a : α) : Within k site (pure a : SessionM α) := fun _ _ => .refl

theorem within_bind {act : SessionM α} {next : α → SessionM β} (first : Within k site act)
    (second : ∀ a, Within k site (next a)) : Within k site (act >>= next) := by
  intro s kept
  rw [run_bind]
  have changes := first s kept
  split <;> rename_i ran <;> rw [ran] at changes
  · have since : s.KeptSince s.supply := ⟨kept, Nat.le_refl _⟩
    exact changes.trans (second _ _ (since.changes changes).1)
  · exact changes

theorem within_map {act : SessionM α} (f : α → β) (inside : Within k site act) :
    Within k site (f <$> act) := by
  intro s kept
  rw [run_map]
  have changes := inside s kept
  split <;> rename_i ran <;> rw [ran] at changes <;> exact changes

theorem within_foldlM {step : β → α → SessionM β} {as : List α}
    (one : ∀ b, ∀ a ∈ as, Within k site (step b a)) (b : β) :
    Within k site (as.foldlM step b) := by
  induction as generalizing b with
  | nil => exact within_pure b
  | cons a rest ih =>
    rw [List.foldlM_cons]
    exact within_bind (one b a List.mem_cons_self) fun b' =>
      ih (fun b a member => one b a (List.mem_cons_of_mem _ member)) b'

end

theorem find_within {R K : Type} [DecidableEq K] [NaturalKey K] [Cached R K] (wanted : SiteId)
    (key : K) : Within k site (find R wanted key) := by
  intro s _
  rw [find_run]
  split <;> exact .refl

theorem insert_within (r : RecordOf k) : Within k (Resource.site r) (insert r) := by
  intro s _
  cases ran : (insert r).run s with
  | mk result s' =>
    cases result with
    | error e => rw [insert_error ran]
    | ok id =>
      obtain ⟨-, absent, -, rfl⟩ := insert_ok ran
      exact .single (.insert rfl absent)

-- An update takes effect at the site of the row that it finds, whichever site its record has.
theorem update_changes {id : RowId} (r : RecordOf k)
    (found : ∀ row ∈ tableRows (RecordOf k) s, row.id = id → row.isOf site) :
    Changes k site s ((update id r).run s).2 := by
  rw [update_run]
  split
  · exact .refl
  · split
    · exact .refl
    · rename_i row present
      split
      · exact .refl
      · have member := List.mem_of_find?_eq_some present
        have same : row.id = id := by simpa using List.find?_some present
        rw [← same]
        exact .single (.overwrite r member (found row member same))

theorem deleteWhere_within (stale : KeyOf k → Bool) :
    Within k site (deleteWhere (RecordOf k) site stale) := by
  intro s _
  cases ran : (deleteWhere (RecordOf k) site stale).run s with
  | mk result s' =>
    cases result with
    | error e => rw [deleteWhere_error ran]
    | ok n =>
      rw [(deleteWhere_ok ran).2]
      exact .single (.delete stale)

theorem upsert_within {r : RecordOf k} (ofSite : Resource.site r = site) (summary : Summary) :
    Within k site (upsert site summary r) := by
  intro s kept
  unfold upsert
  rw [run_bind, find_run]
  cases refusal (RecordOf k) _ s with
  | some e => exact .refl
  | none =>
    dsimp only
    cases found : (tableRows (RecordOf k) s).find? (·.isAt site (Resource.key r)) with
    | none => exact within_bind (ofSite ▸ insert_within r) (fun _ => within_pure _) s kept
    | some row =>
      -- The local id that was found belongs to no other row.
      obtain ⟨member, identity⟩ := ((kept k).find?_isAt _ _ _).mp found
      have ofRow : ∀ row' ∈ tableRows (RecordOf k) s, row'.id = row.id → row'.isOf site := by
        intro row' member' same
        rw [(kept k).eq_of_id member' member same, isOf_iff]
        exact (Prod.mk.inj identity).1
      have changes := update_changes r ofRow
      dsimp only [Option.map_some]
      rw [run_bind]
      split <;> rename_i ran <;> rw [ran] at changes <;> exact changes

theorem apply_within {plan : Plan (RecordOf k)}
    (ofSite : ∀ r ∈ plan.records, Resource.site r = plan.site) :
    Within k plan.site (apply plan) := by
  unfold apply
  refine within_bind (within_foldlM (fun _ r member => upsert_within (ofSite r member) _) _) ?_
  intro summary
  split
  · exact within_bind (deleteWhere_within _) fun _ => within_pure _
  · exact within_pure _

end

end Session

def SessionCall.kind : SessionCall → ResourceKind
  | .find k _ _ | .insert k _ | .update k _ _ | .deleteStale k _ _ | .deleteAll k _
  | .apply k _ _ _ => k

-- The site that a call is for: the one that it names, or that of its record.
def SessionCall.site : SessionCall → SiteId
  | .find _ site _ | .deleteStale _ site _ | .deleteAll _ site | .apply _ site _ _ => site
  | .insert _ r | .update _ _ r => Resource.site r

-- An update is for the site of its record only if it overwrites a row of that site.
def SessionCall.StaysIn (site : SiteId) (s : Session) : SessionCall → Prop
  | .update k id _ => ∀ row ∈ Session.tableRows (RecordOf k) s, row.id = id → row.isOf site
  | call => call.site = site

namespace Session

variable {s : Session} {base : Nat}

theorem act_changes (kept : KeptContents s.supply s.contents) {call : SessionCall} {site : SiteId}
    (stays : call.StaysIn site s) : Changes call.kind site s (call.act.run s).2 := by
  cases call with
  | find k wanted key => exact within_map _ (find_within wanted key) s kept
  | insert k r =>
    cases stays
    exact within_map _ (insert_within r) s kept
  | update k id r => exact update_changes r stays
  | deleteStale k wanted keys =>
    cases stays
    exact within_map _ (deleteWhere_within _) s kept
  | deleteAll k wanted =>
    cases stays
    exact within_map _ (deleteWhere_within _) s kept
  | apply k wanted records mode =>
    cases stays
    exact within_map _ (apply_within (Plan.ofSite_build wanted records mode)) s kept

theorem exists_staysIn (kept : KeptContents s.supply s.contents) (call : SessionCall) :
    ∃ site, call.StaysIn site s := by
  cases call with
  | update k id r =>
    by_cases present : ∃ row ∈ tableRows (RecordOf k) s, row.id = id
    · obtain ⟨row, member, same⟩ := present
      refine ⟨Resource.site row.record, ?_⟩
      intro row' member' same'
      rw [(kept k).eq_of_id member' member (same'.trans same.symm), isOf_iff]
    · exact ⟨Resource.site r, fun row member same => absurd ⟨row, member, same⟩ present⟩
  | find k wanted key => exact ⟨wanted, rfl⟩
  | insert k r => exact ⟨_, rfl⟩
  | deleteStale k wanted keys => exact ⟨wanted, rfl⟩
  | deleteAll k wanted => exact ⟨wanted, rfl⟩
  | apply k wanted records mode => exact ⟨wanted, rfl⟩

theorem keeps_after {I : Session → Prop}
    (change : ∀ k site s s', Change k site s s' → I s → I s') (kept : s.KeptSince base)
    (holds : I s) (calls : List SessionCall) : I (s.after calls) := by
  induction calls generalizing s with
  | nil => exact holds
  | cons call rest ih =>
    obtain ⟨site, stays⟩ := exists_staysIn kept.1 call
    have changes := act_changes kept.1 stays
    exact ih (kept.changes changes) (keeps_changes (change _ _) changes holds)

theorem kept_after (kept : s.KeptSince base) (calls : List SessionCall) :
    (s.after calls).KeptSince base :=
  keeps_after (fun _ _ _ _ change kept => KeptSince.change kept change) kept kept calls

end Session

theorem begin_ok {db : Database} {session : Session} (begun : db.begin = .ok session) :
    session = ⟨db.contents, db.supply, db.migrated, db.refuses⟩ := by
  unfold Database.begin at begun
  split at begun
  · split at begun <;> cases begun
    rfl
  · cases begun

theorem commit_ok {db db' : Database} {session : Session}
    (committed : db.commit session = (.ok (), db')) :
    session.refuses .commit = none ∧
      db' = { db with contents := session.contents, supply := session.supply } := by
  unfold Database.commit at committed
  split at committed <;> cases committed
  exact ⟨by assumption, rfl⟩

theorem commit_error {db db' : Database} {session : Session} {e : DbError}
    (failed : db.commit session = (.error e, db')) :
    session.refuses .commit = some e ∧ db' = db.rollback session := by
  unfold Database.commit at failed
  split at failed <;> cases failed
  exact ⟨by assumption, rfl⟩

theorem keptSince_begin {db : Database} {session : Session} (begun : db.begin = .ok session)
    (kept : KeptContents db.supply db.contents) : session.KeptSince db.supply := by
  rw [begin_ok begun]
  exact ⟨kept, Nat.le_refl _⟩

theorem Database.Reachable.kept {db : Database} (reachable : db.Reachable) :
    KeptContents db.supply db.contents := by
  induction reachable with
  | new => intro k; cases k <;> exact Kept.empty 0
  | settings migrated isOpen refuses _ ih => exact ih
  | commit calls _ begun ih =>
    -- A refused commit keeps the ids that the session has drawn, and nothing else.
    have kept := Session.kept_after (keptSince_begin begun ih) calls
    unfold Database.commit
    split
    · exact fun k => (ih k).mono kept.2
    · exact kept.1
  | rollback calls _ begun ih =>
    have kept := Session.kept_after (keptSince_begin begun ih) calls
    exact fun k => (ih k).mono kept.2

end SiteCache.Store
