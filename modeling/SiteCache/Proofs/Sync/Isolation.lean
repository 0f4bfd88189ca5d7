import SiteCache.Proofs.Store.Frame
import SiteCache.Proofs.Sync.Mirroring
import SiteCache.Proofs.Sync.Ordering

set_option autoImplicit false

namespace SiteCache.Sync

open Remote (Service)
open Store

theorem inSession_map {α β : Type} (f : α → β) (work : SessionM α) (db : Database) :
    inSession (f <$> work) db = ((inSession work db).1.map f, (inSession work db).2) := by
  unfold inSession
  cases db.begin with
  | error e => rfl
  | ok session =>
    dsimp only
    rw [Session.run_map]
    cases work.run session with
    | mk result session' =>
      cases result with
      | error e => rfl
      | ok a =>
        dsimp only
        cases db.commit session' with
        | mk ended db' => cases ended <;> rfl

section

variable {db : Database}

theorem reachable_pass (reachable : db.Reachable) (e : Errand) (acts : List Act) :
    (inSession (e.pass acts) db).2.Reachable := by
  obtain ⟨k, site, work⟩ := e
  cases work with
  | synchronize q mode =>
    exact reachable_inSession reachable [.apply k site (fetchedRecords k acts) mode] fun s =>
      (Session.run_map_state _ _ s).symm
  | reset =>
    exact reachable_inSession reachable [.deleteAll k site] fun s =>
      (Session.run_map_state _ _ s).trans (Session.run_map_state _ _ s).symm

section

variable {k : ResourceKind} {site : SiteId} {α : Type} {work : SessionM α}

theorem sameBut_inSession (kept : KeptContents db.supply db.contents)
    (inside : Session.Within k site work) :
    SameBut k site db.contents (inSession work db).2.contents := by
  unfold inSession
  split
  · exact .refl _ _ _
  · rename_i session begun
    have since := keptSince_begin begun kept
    have started : session.contents = db.contents := by rw [begin_ok begun]
    have changed := SameBut.changes since.1 (inside session since.1)
    rw [started] at changed
    split <;> rename_i ran <;> rw [ran] at changed
    · exact .refl _ _ _
    · -- A session whose commit is refused changes nothing.
      split <;> rename_i committed
      · obtain ⟨-, rfl⟩ := commit_error committed
        exact .refl _ _ _
      · obtain ⟨-, rfl⟩ := commit_ok committed
        exact changed

end

theorem Errand.pass_within (e : Errand) (acts : List Act) :
    Session.Within e.kind e.site (e.pass acts) := by
  obtain ⟨k, site, work⟩ := e
  cases work with
  | synchronize q mode =>
    exact Session.apply_within (Plan.ofSite_build site (fetchedRecords k acts) mode)
  | reset => exact Session.within_map _ (Session.deleteWhere_within _)

theorem sameBut_pass (kept : KeptContents db.supply db.contents) (e : Errand) (acts : List Act) :
    SameBut e.kind e.site db.contents (inSession (e.pass acts) db).2.contents :=
  sameBut_inSession kept (e.pass_within acts)

end

theorem Serial.reachable {errands : List Errand} {start db : Database} {log : List Mark}
    (serial : Serial errands start log db) (reachable : start.Reachable) : db.Reachable := by
  induction serial with
  | start => exact reachable
  | quiet _ _ ih => exact ih
  | @closed log i e result db db' _ _ ran ih =>
    have passed := reachable_pass ih e (actsOf i log)
    rw [ran] at passed
    exact passed

theorem Serial.rowsOf_eq {errands : List Errand} {start db : Database} {log : List Mark}
    (serial : Serial errands start log db) (reachable : start.Reachable) {k : ResourceKind}
    {site : SiteId} (uncalled : ∀ e ∈ errands, ¬ (e.kind = k ∧ e.site = site)) :
    rowsOf k site db.contents = rowsOf k site start.contents := by
  induction serial with
  | start => rfl
  | quiet _ _ ih => exact ih
  | @closed log i e result db db' before sent ran ih =>
    have same := sameBut_pass (before.reachable reachable).kept e (actsOf i log)
    rw [ran] at same
    rw [same.rowsOf_eq (uncalled e (List.mem_of_getElem? sent)), ih]

structure Call where
  errand : Errand
  paging : Paging

inductive Turn (σ : Type) where
  | call (c : Call)
  | remote (change : σ → σ)
  | settings (migrated isOpen : Bool) (refuses : Refusal)

section

variable {σ : Type} {remote : Service σ} {w : World σ}

def Call.act (remote : Service σ) (c : Call) : StateM (World σ) (Outcome Summary) :=
  match c.errand.work with
  | .synchronize q mode => synchronize remote c.errand.kind c.paging c.errand.site q mode
  | .reset => reset c.errand.kind c.errand.site

def World.turn (remote : Service σ) (w : World σ) : Turn σ → World σ
  | .call c => ((c.act remote).run w).2
  | .remote change => { w with remote := change w.remote }
  | .settings migrated isOpen refuses =>
    { w with db := ⟨w.db.contents, w.db.supply, migrated, isOpen, refuses⟩ }

def World.after (remote : Service σ) (w : World σ) (turns : List (Turn σ)) : World σ :=
  turns.foldl (World.turn remote) w

theorem synchronize_db (remote : Service σ) {k : ResourceKind} {paging : Paging} {site : SiteId}
    {q : ListQuery} {mode : ReconcileMode} (w : World σ) :
    ((synchronize remote k paging site q mode).run w).2.db = w.db ∨
      ∃ records : List (RecordOf k), ((synchronize remote k paging site q mode).run w).2.db =
        (inSession (Session.apply (Plan.build site records mode)) w.db).2 := by
  rw [synchronize_run, fetchAndApply_run]
  cases (fetchAll remote k paging site q).run w.remote with
  | mk result next =>
    cases result with
    | error e => exact .inl rfl
    | ok records => exact .inr ⟨records, rfl⟩

theorem Call.act_db (remote : Service σ) (c : Call) (w : World σ) :
    ((c.act remote).run w).2.db = w.db ∨
      ∃ acts, ((c.act remote).run w).2.db = (inSession (c.errand.pass acts) w.db).2 := by
  obtain ⟨⟨k, site, work⟩, paging⟩ := c
  cases work with
  | synchronize q mode =>
    rcases synchronize_db remote w with same | ⟨records, same⟩
    · exact .inl same
    · have all : fetchedRecords k [.listed k (.records records)] = records := by
        simp [fetchedRecords, Act.records]
      refine .inr ⟨[.listed k (.records records)], same.trans ?_⟩
      rw [Errand.pass]
      dsimp only
      rw [all]
  | reset => exact .inr ⟨[], (congrArg Prod.snd (inSession_map _ _ _)).symm⟩

theorem reachable_turn (reachable : w.db.Reachable) (turn : Turn σ) :
    (w.turn remote turn).db.Reachable := by
  cases turn with
  | call c =>
    rcases c.act_db remote w with same | ⟨acts, same⟩
    · exact same ▸ reachable
    · exact same ▸ reachable_pass reachable c.errand acts
  | remote change => exact reachable
  | settings migrated isOpen refuses => exact .settings migrated isOpen refuses reachable

theorem reachable_after (reachable : w.db.Reachable) (turns : List (Turn σ)) :
    (w.after remote turns).db.Reachable := by
  induction turns generalizing w with
  | nil => exact reachable
  | cons turn rest ih => exact ih (reachable_turn reachable turn)

theorem sameBut_call (reachable : w.db.Reachable) (c : Call) :
    SameBut c.errand.kind c.errand.site w.db.contents (w.turn remote (.call c)).db.contents := by
  rcases c.act_db remote w with same | ⟨acts, same⟩
  · rw [World.turn, same]
    exact .refl _ _ _
  · rw [World.turn, same]
    exact sameBut_pass reachable.kept c.errand acts

structure Isolated (remote : Service σ) (w : World σ) (turns : List (Turn σ)) : Prop where
  call : ∀ (earlier later : List (Turn σ)) (c : Call), turns = earlier ++ .call c :: later →
    SameBut c.errand.kind c.errand.site (w.after remote earlier).db.contents
      (w.after remote (earlier ++ [.call c])).db.contents
  uncalled : ∀ k site, (∀ c, .call c ∈ turns → ¬ (c.errand.kind = k ∧ c.errand.site = site)) →
    rowsOf k site (w.after remote turns).db.contents = rowsOf k site w.db.contents
  created : ∀ k, ∀ row ∈ kindRows k (w.after remote turns).db.contents,
    row ∉ kindRows k w.db.contents →
    ∃ c, .call c ∈ turns ∧ c.errand.kind = k ∧ c.errand.site = Resource.site row.record

theorem after_append (turns : List (Turn σ)) (turn : Turn σ) :
    w.after remote (turns ++ [turn]) = (w.after remote turns).turn remote turn := by
  rw [World.after, List.foldl_append]
  rfl

theorem rowsOf_after (reachable : w.db.Reachable) {turns : List (Turn σ)} {k : ResourceKind}
    {site : SiteId}
    (uncalled : ∀ c, .call c ∈ turns → ¬ (c.errand.kind = k ∧ c.errand.site = site)) :
    rowsOf k site (w.after remote turns).db.contents = rowsOf k site w.db.contents := by
  induction turns using List.reverseRecOn with
  | nil => rfl
  | append_singleton turns turn ih =>
    rw [after_append, ← ih fun c member => uncalled c (List.mem_append_left _ member)]
    cases turn with
    | call c =>
      exact (sameBut_call (reachable_after reachable turns) c).rowsOf_eq (uncalled c (by simp))
    | remote change => rfl
    | settings migrated isOpen refuses => rfl

theorem after_isolated (reachable : w.db.Reachable) (turns : List (Turn σ)) :
    Isolated remote w turns where
  call earlier later c split := by
    rw [after_append]
    exact sameBut_call (reachable_after reachable earlier) c
  uncalled k site uncalled := rowsOf_after reachable uncalled
  created k row member new := by
    by_contra uncalled
    have same : rowsOf k (Resource.site row.record) (w.after remote turns).db.contents =
        rowsOf k (Resource.site row.record) w.db.contents := by
      apply rowsOf_after reachable
      rintro c called ⟨kind, site⟩
      exact uncalled ⟨c, called, kind, site⟩
    have inside : row ∈ rowsOf k (Resource.site row.record) (w.after remote turns).db.contents :=
      List.mem_filter.mpr ⟨member, (isOf_iff _ row).mpr rfl⟩
    rw [same] at inside
    exact new (List.mem_filter.mp inside).1

end

def couponTurns : List (Turn Remote.Script) :=
  [.call ⟨⟨.coupon, ⟨7⟩, .synchronize .unpaged .merge⟩, .paged 2 5⟩,
    .settings true true fun _ => none,
    .call ⟨⟨.coupon, ⟨7⟩, .synchronize .unpaged .replace⟩, .paged 2 5⟩,
    .remote fun _ => .empty,
    .call ⟨⟨.coupon, ⟨7⟩, .reset⟩, .paged 2 5⟩]

theorem couponTurns_isolated :
    couponStore.contents.coupons.length = 3 ∧
      kindRows .coupon (couponWorld.after Remote.Script.service couponTurns).db.contents =
        [⟨.issued 2, couponOf ⟨9⟩ 1 "other", []⟩] ∧
      Isolated Remote.Script.service couponWorld couponTurns :=
  ⟨rfl, rfl, after_isolated (show couponWorld.db.Reachable from reachable_couponStore) couponTurns⟩

end SiteCache.Sync
