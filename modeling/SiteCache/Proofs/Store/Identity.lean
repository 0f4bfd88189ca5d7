import SiteCache.Proofs.Store.Frame

set_option autoImplicit false

namespace SiteCache.Store

/-- A write session from its opening to its end, or a change of what the store depends on. A session
that is not committed is rolled back, which is also what becomes of one that is dropped. -/
inductive Move where
  | session (calls : List SessionCall) (commits : Bool)
  | settings (migrated isOpen : Bool) (refuses : Refusal)

-- The contents that a session has before, between and after its calls.
def Session.moments (s : Session) : List SessionCall → List Contents
  | [] => [s.contents]
  | call :: rest => s.contents :: Session.moments (call.act.run s).2 rest

namespace Database

def move (db : Database) : Move → Database
  | .session calls commits =>
    match db.begin with
    | .error _ => db
    | .ok session =>
      if commits then (db.commit (session.after calls)).2 else db.rollback (session.after calls)
  | .settings migrated isOpen refuses => ⟨db.contents, db.supply, migrated, isOpen, refuses⟩

def moved (db : Database) (moves : List Move) : Database := moves.foldl move db

-- What is pending in the session of a move, if it can be opened.
def pending (db : Database) : Move → List Contents
  | .session calls _ =>
    match db.begin with
    | .error _ => []
    | .ok session => session.moments calls
  | .settings .. => []

-- All contents of a history, committed or pending.
def moments (db : Database) : List Move → List Contents
  | [] => [db.contents]
  | move :: rest => db.contents :: db.pending move ++ moments (db.move move) rest

end Database

section

variable {R K : Type} [DecidableEq K] [NaturalKey K] [Cached R K]

def SameRow (a b : Row R) : Prop := a.id = b.id ∧ a.identity = b.identity

theorem SameRow.refl (row : Row R) : SameRow row row := ⟨rfl, rfl⟩

theorem SameRow.symm {a b : Row R} (same : SameRow a b) : SameRow b a :=
  ⟨same.1.symm, same.2.symm⟩

theorem SameRow.trans {a b c : Row R} (first : SameRow a b) (second : SameRow b c) :
    SameRow a c :=
  ⟨first.1.trans second.1, first.2.trans second.2⟩

theorem sameRow_overwriteAt (id : RowId) (r : R) (row : Row R) :
    SameRow (if row.id = id then row.overwrite r else row) row :=
  ⟨overwriteAt_id id r row, overwriteAt_identity id r row⟩

end

-- Every row was there before, or has a local id that has been drawn since.
def Continues (supply : Nat) (c c' : Contents) : Prop :=
  ∀ k, ∀ row ∈ kindRows k c',
    (∃ old ∈ kindRows k c, SameRow old row) ∨ ∃ n, supply ≤ n ∧ row.id = .issued n

namespace Continues

variable {supply : Nat} {c c' c'' : Contents}

theorem refl (supply : Nat) (c : Contents) : Continues supply c c :=
  fun _ row member => .inl ⟨row, member, .refl row⟩

theorem trans {later : Nat} (first : Continues supply c c') (le : supply ≤ later)
    (second : Continues later c' c'') : Continues supply c c'' := by
  intro k row member
  rcases second k row member with ⟨old, stood, same⟩ | ⟨n, drawn, id⟩
  · rcases first k old stood with ⟨oldest, stood, same'⟩ | ⟨n, drawn, id⟩
    · exact .inl ⟨oldest, stood, same'.trans same⟩
    · exact .inr ⟨n, drawn, same.1.symm.trans id⟩
  · exact .inr ⟨n, by omega, id⟩

theorem setRows {k : ResourceKind} {rows : List (Row (RecordOf k))}
    (new : ∀ row ∈ rows,
      (∃ old ∈ kindRows k c, SameRow old row) ∨ ∃ n, supply ≤ n ∧ row.id = .issued n) :
    Continues supply c (Cached.setRows c rows) :=
  forall_setRows (P := fun k rows => ∀ row ∈ rows,
    (∃ old ∈ kindRows k c, SameRow old row) ∨ ∃ n, supply ≤ n ∧ row.id = .issued n)
    (refl supply c) new

theorem change {k : ResourceKind} {site : SiteId} {s s' : Session}
    (change : Session.Change k site s s') : Continues s.supply s.contents s'.contents := by
  cases change with
  | insert _ _ =>
    refine setRows ?_
    intro row member
    rcases List.mem_append.mp member with old | new
    · exact .inl ⟨row, old, .refl row⟩
    · rw [List.mem_singleton.mp new]
      exact .inr ⟨s.supply, Nat.le_refl _, rfl⟩
  | overwrite r _ _ =>
    refine setRows ?_
    intro row member
    obtain ⟨old, present, rfl⟩ := List.mem_map.mp member
    exact .inl ⟨old, present, (sameRow_overwriteAt _ r old).symm⟩
  | delete stale =>
    refine setRows ?_
    intro row member
    exact .inl ⟨row, (List.mem_filter.mp member).1, .refl row⟩

theorem act {s : Session} (kept : KeptContents s.supply s.contents) (call : SessionCall) :
    (call.act.run s).2.KeptSince s.supply ∧
      Continues s.supply s.contents (call.act.run s).2.contents := by
  obtain ⟨site, stays⟩ := Session.exists_staysIn kept call
  have since : s.KeptSince s.supply := ⟨kept, Nat.le_refl _⟩
  have one (t t' : Session) (change : Session.Change call.kind site t t')
      (held : t.KeptSince s.supply ∧ Continues s.supply s.contents t.contents) :
      t'.KeptSince s.supply ∧ Continues s.supply s.contents t'.contents :=
    ⟨held.1.change change, held.2.trans held.1.2 (Continues.change change)⟩
  exact Session.keeps_changes one (Session.act_changes kept stays) ⟨since, refl _ _⟩

end Continues

structure Chronicle (supply : Nat) (past : List Contents) : Prop where
  kept : ∀ c ∈ past, KeptContents supply c
  steady : ∀ c ∈ past, ∀ c' ∈ past, ∀ k, ∀ row ∈ kindRows k c, ∀ row' ∈ kindRows k c',
    row.id = row'.id → row.identity = row'.identity

namespace Chronicle

variable {supply : Nat} {past : List Contents}

theorem mono (chronicle : Chronicle supply past) {fewer : List Contents}
    (inside : ∀ c ∈ fewer, c ∈ past) : Chronicle supply fewer where
  kept c member := chronicle.kept c (inside c member)
  steady c member c' member' := chronicle.steady c (inside c member) c' (inside c' member')

theorem again (chronicle : Chronicle supply past) {c : Contents} (current : c ∈ past) :
    Chronicle supply (past ++ [c]) := by
  apply chronicle.mono
  intro b member
  rcases List.mem_append.mp member with old | here
  · exact old
  · rwa [List.mem_singleton.mp here]

theorem start (c : Contents) (kept : KeptContents supply c) : Chronicle supply [c] where
  kept c' member := by rw [List.mem_singleton.mp member]; exact kept
  steady c₁ member c₂ member' k row stored row' stored' same := by
    rw [List.mem_singleton.mp member] at stored
    rw [List.mem_singleton.mp member'] at stored'
    rw [(kept k).eq_of_id stored stored' same]

theorem grow (chronicle : Chronicle supply past) {c c' : Contents} {later : Nat}
    (current : c ∈ past) (continues : Continues supply c c') (le : supply ≤ later)
    (kept : KeptContents later c') :
    Chronicle later (past ++ [c']) := by
  -- A row of the new contents is an old row, or its local id is above all that the past has.
  have across : ∀ b ∈ past, ∀ k, ∀ row ∈ kindRows k b, ∀ row' ∈ kindRows k c',
      row.id = row'.id → row.identity = row'.identity := by
    intro b member k row stored row' stored' same
    rcases continues k row' stored' with ⟨old, stood, id, identity⟩ | ⟨n, drawn, id⟩
    · exact (chronicle.steady b member c current k row stored old stood (same.trans id.symm)).trans
        identity
    · exact absurd (same.trans id) ((chronicle.kept b member k).id_ne_issued stored drawn)
  constructor
  · intro b member
    rcases List.mem_append.mp member with old | new
    · exact fun k => (chronicle.kept b old k).mono le
    · rw [List.mem_singleton.mp new]
      exact kept
  · intro b member b' member' k row stored row' stored' same
    rcases List.mem_append.mp member with old | new <;>
      rcases List.mem_append.mp member' with old' | new'
    · exact chronicle.steady b old b' old' k row stored row' stored' same
    · rw [List.mem_singleton.mp new'] at stored'
      exact across b old k row stored row' stored' same
    · rw [List.mem_singleton.mp new] at stored
      exact (across b' old' k row' stored' row stored same.symm).symm
    · rw [List.mem_singleton.mp new] at stored
      rw [List.mem_singleton.mp new'] at stored'
      rw [(kept k).eq_of_id stored stored' same]

theorem session {s : Session} (chronicle : Chronicle s.supply past) (current : s.contents ∈ past)
    (calls : List SessionCall) : Chronicle (s.after calls).supply (past ++ s.moments calls) := by
  induction calls generalizing s past with
  | nil => exact chronicle.again current
  | cons call rest ih =>
    obtain ⟨⟨kept, le⟩, continues⟩ := Continues.act (chronicle.kept _ current) call
    have next := ih (chronicle.grow current continues le kept) (by simp)
    refine next.mono ?_
    intro c member
    simp only [Session.moments, List.mem_append, List.mem_cons] at member ⊢
    rcases member with old | rfl | later
    · exact .inl (.inl old)
    · exact .inl (.inl current)
    · exact .inr later

end Chronicle

theorem after_mem_moments (s : Session) (calls : List SessionCall) :
    (s.after calls).contents ∈ s.moments calls := by
  induction calls generalizing s with
  | nil => simp [Session.after, Session.moments]
  | cons call rest ih => exact List.mem_cons_of_mem _ (ih (call.act.run s).2)

namespace Chronicle

variable {db : Database} {past : List Contents}

theorem move (chronicle : Chronicle db.supply past) (current : db.contents ∈ past) (move : Move) :
    Chronicle (db.move move).supply (past ++ db.pending move) ∧
      (db.move move).contents ∈ past ++ db.pending move := by
  cases move with
  | settings migrated isOpen refuses =>
    simpa [Database.move, Database.pending] using And.intro chronicle current
  | session calls commits =>
    unfold Database.move Database.pending
    cases begun : db.begin with
    | error e => simpa using And.intro chronicle current
    | ok session =>
      have started := begin_ok begun
      have grown : Chronicle (session.after calls).supply (past ++ session.moments calls) := by
        apply Chronicle.session
        · rw [started]; exact chronicle
        · rw [started]; exact current
      have ended := after_mem_moments session calls
      cases commits with
      | false => exact ⟨grown, List.mem_append_left _ current⟩
      | true =>
        -- A refused commit leaves the contents that were there before.
        simp only [if_true, Database.commit]
        split
        · exact ⟨grown, List.mem_append_left _ current⟩
        · exact ⟨grown, List.mem_append_right _ ended⟩

theorem moved (chronicle : Chronicle db.supply past) (current : db.contents ∈ past)
    (moves : List Move) : Chronicle (db.moved moves).supply (past ++ db.moments moves) := by
  induction moves generalizing db past with
  | nil => exact chronicle.again current
  | cons move rest ih =>
    obtain ⟨grown, current'⟩ := chronicle.move current move
    refine (ih grown current').mono ?_
    intro c member
    simp only [Database.moments, List.mem_append, List.mem_cons] at member ⊢
    rcases member with old | (rfl | between) | later
    · exact .inl (.inl old)
    · exact .inl (.inl current)
    · exact .inl (.inr between)
    · exact .inr later

end Chronicle

/-- What deletes a row: a deletion at its site, or a complete collection that lacks its key. -/
inductive SessionCall.Deletes {k : ResourceKind} (row : Row (RecordOf k)) : SessionCall → Prop
  | stale {keys : List (KeyOf k)} : Resource.key row.record ∉ keys →
    Deletes row (.deleteStale k (Resource.site row.record) keys)
  | all : Deletes row (.deleteAll k (Resource.site row.record))
  | replaced {records : List (RecordOf k)} :
    (∀ r ∈ records, Resource.site r = Resource.site row.record →
      Resource.key r ≠ Resource.key row.record) →
    Deletes row (.apply k (Resource.site row.record) records .replace)

-- Every row stays, whatever becomes of its record.
def Retains (c c' : Contents) : Prop :=
  ∀ k, ∀ row ∈ kindRows k c, ∃ row' ∈ kindRows k c', SameRow row' row

namespace Retains

theorem refl (c : Contents) : Retains c c := fun _ row member => ⟨row, member, .refl row⟩

theorem trans {c c' c'' : Contents} (first : Retains c c') (second : Retains c' c'') :
    Retains c c'' := by
  intro k row member
  obtain ⟨row', member', same⟩ := first k row member
  obtain ⟨row'', member'', same'⟩ := second k row' member'
  exact ⟨row'', member'', same'.trans same⟩

theorem setRows {c : Contents} {k : ResourceKind} {rows : List (Row (RecordOf k))}
    (new : ∀ row ∈ kindRows k c, ∃ row' ∈ rows, SameRow row' row) :
    Retains c (Cached.setRows c rows) :=
  forall_setRows (P := fun k rows => ∀ row ∈ kindRows k c, ∃ row' ∈ rows, SameRow row' row)
    (refl c) new

end Retains

namespace Session

section

variable {k : ResourceKind} {s : Session}

theorem run_discard_state {α : Type} (act : SessionM α) (s : Session) :
    ((discard act).run s).2 = (act.run s).2 := by
  change ((Function.const α () <$> act).run s).2 = _
  exact run_map_state _ act s

theorem insert_retains (r : RecordOf k) (s : Session) :
    Retains s.contents ((insert r).run s).2.contents := by
  cases ran : (insert r).run s with
  | mk result s' =>
    cases result with
    | error e =>
      rw [insert_error ran]
      exact .refl _
    | ok id =>
      obtain ⟨-, -, -, rfl⟩ := insert_ok ran
      apply Retains.setRows
      exact fun row member => ⟨row, List.mem_append_left _ member, .refl row⟩

theorem update_retains (id : RowId) (r : RecordOf k) (s : Session) :
    Retains s.contents ((update id r).run s).2.contents := by
  rw [update_run]
  split
  · exact .refl _
  · split
    · exact .refl _
    · split
      · exact .refl _
      · apply Retains.setRows
        exact fun row member => ⟨_, List.mem_map.mpr ⟨row, member, rfl⟩,
          sameRow_overwriteAt id r row⟩

theorem upsert_retains (site : SiteId) (summary : Summary) (r : RecordOf k) (s : Session) :
    Retains s.contents ((upsert site summary r).run s).2.contents := by
  unfold upsert
  rw [run_bind, find_run]
  cases refusal (RecordOf k) _ s with
  | some e => exact .refl _
  | none =>
    dsimp only
    cases (tableRows (RecordOf k) s).find? (·.isAt site (Resource.key r)) with
    | none =>
      dsimp only [Option.map_none]
      rw [bind_pure_comp, run_map_state]
      exact insert_retains r s
    | some row =>
      dsimp only [Option.map_some]
      rw [bind_pure_comp, run_map_state]
      exact update_retains row.id r s

theorem upserts_retain (site : SiteId) (records : List (RecordOf k)) (summary : Summary)
    (s : Session) :
    Retains s.contents ((records.foldlM (upsert site) summary).run s).2.contents := by
  induction records generalizing summary s with
  | nil => exact .refl _
  | cons r rest ih =>
    have first := upsert_retains site summary r s
    rw [List.foldlM_cons, run_bind]
    split <;> rename_i ran <;> rw [ran] at first
    · exact first.trans (ih _ _)
    · exact first

theorem deleteWhere_row (kept : KeptContents s.supply s.contents) (site : SiteId)
    (stale : KeyOf k → Bool) {row : Row (RecordOf k)} (member : row ∈ kindRows k s.contents) :
    row ∈ kindRows k ((deleteWhere (RecordOf k) site stale).run s).2.contents ∨
      (doomed site stale row = true ∧
        ∀ row' ∈ kindRows k ((deleteWhere (RecordOf k) site stale).run s).2.contents,
          row'.id ≠ row.id) := by
  cases ran : (deleteWhere (RecordOf k) site stale).run s with
  | mk result s' =>
    cases result with
    | error e => rw [deleteWhere_error ran]; exact .inl member
    | ok n =>
      rw [(deleteWhere_ok ran).2]
      have after : kindRows k (s.withRows ((tableRows (RecordOf k) s).filter
          fun row => !doomed site stale row)).contents =
          (kindRows k s.contents).filter fun row => !doomed site stale row :=
        Cached.rows_setRows _ _
      rw [after]
      cases gone : doomed site stale row with
      | false => exact .inl (List.mem_filter.mpr ⟨member, by simp [gone]⟩)
      | true =>
        refine .inr ⟨rfl, ?_⟩
        intro row' member' same
        obtain ⟨present, stays⟩ := List.mem_filter.mp member'
        rw [(kept k).eq_of_id present member same, gone] at stays
        cases stays

theorem run_apply_state (plan : Plan (RecordOf k)) (s : Session) :
    ((apply plan).run s).2 =
      match (plan.records.foldlM (upsert plan.site) Summary.zero).run s with
      | (.error _, s') => s'
      | (.ok _, s') =>
        if plan.mode.deletesStale then ((deleteStale (RecordOf k) plan.site plan.keys).run s').2
        else s' := by
  unfold apply
  rw [run_bind]
  cases (plan.records.foldlM (upsert plan.site) Summary.zero).run s with
  | mk result s' =>
    cases result with
    | error e => rfl
    | ok summary =>
      dsimp only
      split
      · rw [bind_pure_comp, run_map_state]
      · rfl

theorem apply_row (kept : KeptContents s.supply s.contents) (site : SiteId)
    (records : List (RecordOf k)) (mode : ReconcileMode) {row : Row (RecordOf k)}
    (member : row ∈ kindRows k s.contents) :
    (∃ row' ∈ kindRows k ((apply (Plan.build site records mode)).run s).2.contents,
        SameRow row' row) ∨
      (mode = .replace ∧ row.isOf site ∧
        Resource.key row.record ∉ (Plan.build site records mode).keys ∧
        ∀ row' ∈ kindRows k ((apply (Plan.build site records mode)).run s).2.contents,
          row'.id ≠ row.id) := by
  generalize built : Plan.build site records mode = plan
  have ofSite : ∀ r ∈ plan.records, Resource.site r = plan.site := by
    rw [← built]
    exact Plan.ofSite_build site records mode
  have retained := upserts_retain plan.site plan.records Summary.zero s
  have changes := within_foldlM (fun summary r member => upsert_within (ofSite r member) summary)
    Summary.zero s kept
  have since : s.KeptSince s.supply := ⟨kept, Nat.le_refl _⟩
  have kept' := (since.changes changes).1
  obtain ⟨row', member', same⟩ := retained k row member
  rw [run_apply_state]
  cases ran : (plan.records.foldlM (upsert plan.site) Summary.zero).run s with
  | mk result s' =>
    rw [ran] at kept' member'
    cases result with
    | error e => exact .inl ⟨row', member', same⟩
    | ok summary =>
      cases mode with
      | merge =>
        subst built
        exact .inl ⟨row', member', same⟩
      | replace =>
        -- The records have been written, and only the deletion can take the row away.
        rcases deleteWhere_row kept' plan.site (fun key => !plan.keys.contains key) member' with
          stays | ⟨gone, none⟩
        · subst built
          exact .inl ⟨row', stays, same⟩
        · have identity := same.2
          simp only [Row.identity, Prod.mk.injEq] at identity
          simp only [doomed, Bool.and_eq_true, identity.2, List.contains_eq_mem,
            Bool.not_eq_true', decide_eq_false_iff_not] at gone
          subst built
          refine .inr ⟨rfl, ?_, gone.2, fun row'' member'' => same.1 ▸ none row'' member''⟩
          rw [← isOf_of_identity same.2]
          exact gone.1

end

theorem find_state (k : ResourceKind) (site : SiteId) (key : KeyOf k) (s : Session) :
    ((find (RecordOf k) site key).run s).2 = s := by
  rw [find_run]
  split <;> rfl

theorem act_row {s : Session} (kept : KeptContents s.supply s.contents) (call : SessionCall)
    {k : ResourceKind} {row : Row (RecordOf k)} (member : row ∈ kindRows k s.contents) :
    (∃ row' ∈ kindRows k (call.act.run s).2.contents, SameRow row' row) ∨
      (call.Deletes row ∧ ∀ row' ∈ kindRows k (call.act.run s).2.contents, row'.id ≠ row.id) := by
  by_cases other : call.kind = k
  · cases call with
    | find j site key =>
      refine .inl ⟨row, ?_, .refl row⟩
      rw [SessionCall.act, run_discard_state, find_state]
      exact member
    | insert j r =>
      rw [SessionCall.act, run_discard_state]
      exact .inl (insert_retains r s k row member)
    | update j id r => exact .inl (update_retains id r s k row member)
    | deleteStale j site keys =>
      obtain rfl : j = k := other
      rw [SessionCall.act, run_discard_state]
      rcases deleteWhere_row kept site _ member with stays | ⟨gone, none⟩
      · exact .inl ⟨row, stays, .refl row⟩
      · rw [doomed, Bool.and_eq_true, isOf_iff] at gone
        obtain ⟨rfl, absent⟩ := gone
        exact .inr ⟨.stale (by simpa using absent), none⟩
    | deleteAll j site =>
      obtain rfl : j = k := other
      rw [SessionCall.act, run_discard_state]
      rcases deleteWhere_row kept site _ member with stays | ⟨gone, none⟩
      · exact .inl ⟨row, stays, .refl row⟩
      · rw [doomed, Bool.and_eq_true, isOf_iff] at gone
        obtain ⟨rfl, -⟩ := gone
        exact .inr ⟨.all, none⟩
    | apply j site records mode =>
      obtain rfl : j = k := other
      rw [SessionCall.act, run_discard_state]
      rcases apply_row kept site records mode member with stays | ⟨rfl, ofSite, absent, none⟩
      · exact .inl stays
      · obtain rfl := (isOf_iff site row).mp ofSite
        refine .inr ⟨.replaced ?_, none⟩
        intro r present ofSite same
        apply absent
        rw [Plan.mem_keys_build]
        exact ⟨r, present, by simp [Plan.isLocal, ofSite], same⟩
  · obtain ⟨site, stays⟩ := exists_staysIn kept call
    have same := (SameBut.changes kept (act_changes kept stays)).kinds k (Ne.symm other)
    exact .inl ⟨row, same ▸ member, .refl row⟩

inductive Deletes {k : ResourceKind} (s : Session) (row : Row (RecordOf k)) :
    List SessionCall → Prop
  | call {earlier later : List SessionCall} {call : SessionCall} {old : Row (RecordOf k)} :
    old ∈ kindRows k (s.after earlier).contents → SameRow old row → call.Deletes old →
    (∀ other ∈ kindRows k (s.after (earlier ++ [call])).contents, other.id ≠ row.id) →
    Deletes s row (earlier ++ call :: later)

theorem Deletes.cons {k : ResourceKind} {s : Session} {row row' : Row (RecordOf k)}
    {call : SessionCall} {rest : List SessionCall} (same : SameRow row' row)
    (deletes : (call.act.run s).2.Deletes row' rest) : s.Deletes row (call :: rest) := by
  cases deletes with
  | @call earlier later other old member same' deletes none =>
    have gone : ∀ row'' ∈ kindRows k (s.after (call :: earlier ++ [other])).contents,
        row''.id ≠ row.id := fun row'' present => same.1 ▸ none row'' present
    have member : old ∈ kindRows k (s.after (call :: earlier)).contents := member
    exact .call member (same'.trans same) deletes gone

theorem after_row {s : Session} (kept : KeptContents s.supply s.contents)
    (calls : List SessionCall) {k : ResourceKind} {row : Row (RecordOf k)}
    (member : row ∈ kindRows k s.contents) :
    (∃ row' ∈ kindRows k (s.after calls).contents, SameRow row' row) ∨ s.Deletes row calls := by
  induction calls generalizing s row with
  | nil => exact .inl ⟨row, member, .refl row⟩
  | cons call rest ih =>
    rcases act_row kept call member with ⟨row', member', same⟩ | ⟨deletes, none⟩
    · rcases ih (Continues.act kept call).1.1 member' with ⟨row'', member'', same'⟩ | deletes
      · exact .inl ⟨row'', member'', same'.trans same⟩
      · exact .inr (.cons same deletes)
    · have first : s.Deletes row ([] ++ call :: rest) := .call member (.refl row) deletes none
      exact .inr first

end Session

namespace Database

theorem Reachable.move {db : Database} (reachable : db.Reachable) (move : Move) :
    (db.move move).Reachable := by
  cases move with
  | settings migrated isOpen refuses => exact .settings migrated isOpen refuses reachable
  | session calls commits =>
    unfold Database.move
    cases begun : db.begin with
    | error e => exact reachable
    | ok session =>
      cases commits with
      | true => exact .commit calls reachable begun
      | false => exact .rollback calls reachable begun

theorem Reachable.moved {db : Database} (reachable : db.Reachable) (moves : List Move) :
    (db.moved moves).Reachable := by
  induction moves generalizing db with
  | nil => exact reachable
  | cons move rest ih => exact ih (reachable.move move)

inductive Deletes {k : ResourceKind} (db : Database) (row : Row (RecordOf k)) : List Move → Prop
  | session {earlier later : List Move} {session : Session} {calls : List SessionCall} :
    (db.moved earlier).begin = .ok session → session.Deletes row calls →
    ((db.moved earlier).commit (session.after calls)).1 = .ok () →
    Deletes db row (earlier ++ .session calls true :: later)

theorem Deletes.cons {k : ResourceKind} {db : Database} {row row' : Row (RecordOf k)} {move : Move}
    {rest : List Move} (same : SameRow row' row) (deletes : (db.move move).Deletes row' rest) :
    db.Deletes row (move :: rest) := by
  cases deletes with
  | @session earlier later session calls begun deletes committed =>
    have sooner : session.Deletes row calls := by
      cases deletes with
      | call member same' deletes none =>
        exact .call member (same'.trans same) deletes fun other present =>
          same.1 ▸ none other present
    have begun : (db.moved (move :: earlier)).begin = .ok session := begun
    exact .session begun sooner committed

theorem Deletes.append {k : ResourceKind} {db : Database} {row : Row (RecordOf k)}
    {moves : List Move} (deletes : db.Deletes row moves) (rest : List Move) :
    db.Deletes row (moves ++ rest) := by
  cases deletes with
  | session begun deletes committed =>
    rw [List.append_assoc]
    exact .session begun deletes committed

theorem move_row {db : Database} (reachable : db.Reachable) (move : Move) {k : ResourceKind}
    {row : Row (RecordOf k)} (member : row ∈ kindRows k db.contents) :
    (∃ row' ∈ kindRows k (db.move move).contents, SameRow row' row) ∨
      db.Deletes row [move] := by
  cases move with
  | settings migrated isOpen refuses => exact .inl ⟨row, member, .refl row⟩
  | session calls commits =>
    unfold Database.move
    cases begun : db.begin with
    | error e => exact .inl ⟨row, member, .refl row⟩
    | ok session =>
      cases commits with
      | false => exact .inl ⟨row, member, .refl row⟩
      | true =>
        dsimp only [if_true]
        have kept := (keptSince_begin begun reachable.kept).1
        have stood : row ∈ kindRows k session.contents := by rw [begin_ok begun]; exact member
        unfold Database.commit
        cases refused : (session.after calls).refuses .commit with
        | some e => exact .inl ⟨row, member, .refl row⟩
        | none =>
          rcases Session.after_row kept calls stood with stays | deletes
          · exact .inl stays
          · have begun : (db.moved []).begin = .ok session := begun
            refine .inr (.session begun deletes ?_)
            simp [Database.commit, refused]

theorem moved_row {db : Database} (reachable : db.Reachable) (moves : List Move)
    {k : ResourceKind} {row : Row (RecordOf k)} (member : row ∈ kindRows k db.contents) :
    (∃ row' ∈ kindRows k (db.moved moves).contents, SameRow row' row) ∨ db.Deletes row moves := by
  induction moves generalizing db row with
  | nil => exact .inl ⟨row, member, .refl row⟩
  | cons move rest ih =>
    rcases move_row reachable move member with ⟨row', member', same⟩ | deletes
    · rcases ih (reachable.move move) member' with ⟨row'', member'', same'⟩ | deletes
      · exact .inl ⟨row'', member'', same'.trans same⟩
      · exact .inr (.cons same deletes)
    · exact .inr (deletes.append rest)

end Database

/-- What local ids are good for in a history of write sessions. -/
structure Identified (moves : List Move) : Prop where
  keys : ∀ c ∈ Database.new.moments moves, ∀ k, ((kindRows k c).map Row.identity).Nodup
  ids : ∀ c ∈ Database.new.moments moves, ∀ k, ((kindRows k c).map (·.id)).Nodup
  steady : ∀ c ∈ Database.new.moments moves, ∀ c' ∈ Database.new.moments moves,
    ∀ k, ∀ row ∈ kindRows k c, ∀ row' ∈ kindRows k c', row.id = row'.id →
      row.identity = row'.identity
  stable : ∀ earlier later, moves = earlier ++ later →
    ∀ k, ∀ row ∈ kindRows k (Database.new.moved earlier).contents,
      ∀ row' ∈ kindRows k (Database.new.moved moves).contents, row.identity = row'.identity →
        row.id ≠ row'.id → (Database.new.moved earlier).Deletes row later

theorem moves_identified (moves : List Move) : Identified moves := by
  have start := Chronicle.start _ Database.Reachable.new.kept
  have chronicle : Chronicle (Database.new.moved moves).supply (Database.new.moments moves) :=
    (start.moved (List.mem_singleton_self _) moves).mono fun c => List.mem_append_right _
  constructor
  case keys => exact fun c member k => (chronicle.kept c member k).identities
  case ids => exact fun c member k => (chronicle.kept c member k).ids
  case steady => exact chronicle.steady
  case stable =>
    rintro earlier later rfl k row stored row' stored' identity apart
    have reachable := Database.Reachable.new.moved earlier
    rcases Database.moved_row reachable later stored with ⟨last, stays, same⟩ | deletes
    · -- The row is still there, and no other row may have its key.
      rw [Database.moved, List.foldl_append] at stored'
      have kept := (reachable.moved later).kept k
      rw [kept.eq_of_identity stored' stays (identity.symm.trans same.2.symm)] at apart
      exact absurd same.1.symm apart
    · exact deletes

example :
    let coupon : Coupon := .new ⟨7⟩ 1 "again" .epoch
    let again : List SessionCall := [.deleteAll .coupon ⟨7⟩, .insert .coupon coupon]
    (Database.new.moved [.session [.insert .coupon coupon] true, .session again false,
      .session again true]).contents.coupons = [⟨.issued 2, coupon, []⟩] := rfl

end SiteCache.Store
