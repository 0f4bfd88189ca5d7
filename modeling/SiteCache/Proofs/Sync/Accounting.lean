import Mathlib.Algebra.GroupWithZero.Nat
import SiteCache.Proofs.Store.Listing
import SiteCache.Proofs.Sync.Isolation

set_option autoImplicit false

namespace SiteCache.Sync

open Remote (Service)
open Store

section

variable {k : ResourceKind} {site : SiteId} {db db' : Database} {records : List (RecordOf k)}
  {mode : ReconcileMode} {summary : Summary}

theorem length_rowsOf (kept : KeptContents db.supply db.contents) :
    (rowsOf k site db.contents).length = (storedKeys site (kindRows k db.contents)).card := by
  rw [storedKeys, List.toFinset_card_of_nodup ((kept k).site_keys_nodup site), List.length_map,
    rowsOf]

theorem storedKeys_reconciled (kept : KeptContents db.supply db.contents)
    (pass : Reconciles db site records mode summary db') :
    storedKeys site (kindRows k db'.contents) =
      if mode.deletesStale then fetchedKeys site records
      else storedKeys site (kindRows k db.contents) ∪ fetchedKeys site records := by
  ext key
  rw [pass.kindRows_eq kept, mem_storedKeys_settled]
  cases mode.deletesStale <;> simp [or_comm]

theorem reconciled_written (kept : KeptContents db.supply db.contents)
    (pass : Reconciles db site records mode summary db') :
    summary.inserted + summary.updated = (fetchedKeys site records).card := by
  obtain ⟨-, -, rfl⟩ := pass.eq kept
  rw [countP_isNew, countP_not_isNew, Finset.card_sdiff_add_card_inter]

theorem reconciled_balance (kept : KeptContents db.supply db.contents)
    (pass : Reconciles db site records mode summary db') :
    (rowsOf k site db'.contents).length + summary.deleted =
      (rowsOf k site db.contents).length + summary.inserted := by
  rw [length_rowsOf kept, length_rowsOf (pass.kept kept), storedKeys_reconciled kept pass]
  obtain ⟨-, -, rfl⟩ := pass.eq kept
  have split := Finset.card_sdiff_add_card_inter (fetchedKeys site records)
    (storedKeys site (kindRows k db.contents))
  have split' := Finset.card_sdiff_add_card_inter (storedKeys site (kindRows k db.contents))
    (fetchedKeys site records)
  rw [Finset.inter_comm] at split'
  have union := Finset.card_sdiff_add_card (fetchedKeys site records)
    (storedKeys site (kindRows k db.contents))
  rw [Finset.union_comm] at union
  rw [countP_isNew, countP_isStale (kept k)]
  split <;> dsimp only <;> omega

theorem cleared_balance {n : Nat}
    (ran : inSession (Session.deleteAll (RecordOf k) site) db = (.ok n, db')) :
    (rowsOf k site db'.contents).length + n = (rowsOf k site db.contents).length := by
  obtain ⟨session, session', begun, worked, committed⟩ := inSession_ok ran
  have started := begin_ok begun
  subst started
  obtain ⟨rfl, rfl⟩ := Session.deleteAll_ok worked
  obtain ⟨-, rfl⟩ := commit_ok committed
  have emptied : rowsOf k site (Cached.setRows db.contents
      ((kindRows k db.contents).filter (!·.isOf site))) = [] := by
    rw [rowsOf, kindRows, Cached.rows_setRows]
    simp [List.filter_filter]
  change (rowsOf k site (Cached.setRows db.contents ((kindRows k db.contents).filter
    (!·.isOf site)))).length + (kindRows k db.contents).countP (·.isOf site) = _
  rw [emptied, List.length_nil, Nat.zero_add, List.countP_eq_length_filter, rowsOf]

end

section

variable {σ : Type} {remote : Service σ} {w : World σ}

structure Receipt where
  call : Call
  outcome : Outcome Summary

def Turn.receipt? (remote : Service σ) (w : World σ) : Turn σ → Option Receipt
  | .call c => some ⟨c, ((c.act remote).run w).1⟩
  | .remote _ | .settings .. => none

def World.receipts (remote : Service σ) (w : World σ) : List (Turn σ) → List Receipt
  | [] => []
  | turn :: rest => (turn.receipt? remote w).toList ++ (w.turn remote turn).receipts remote rest

def summariesOf (k : ResourceKind) (site : SiteId) (receipts : List Receipt) : List Summary :=
  (receipts.filter fun r => r.call.errand.kind = k ∧ r.call.errand.site = site).filterMap
    (·.outcome.toOption)

def insertedIn (summaries : List Summary) : Nat := (summaries.map (·.inserted)).sum

def deletedIn (summaries : List Summary) : Nat := (summaries.map (·.deleted)).sum

theorem reset_ok {k : ResourceKind} {site : SiteId} {summary : Summary}
    (ran : ((reset k site).run w).1 = .ok summary) :
    ∃ n, inSession (Session.deleteAll (RecordOf k) site) w.db =
        (.ok n, ((reset k site).run w).2.db) ∧ summary = { Summary.zero with deleted := n } := by
  rw [reset_run] at ran ⊢
  cases worked : inSession (Session.deleteAll (RecordOf k) site) w.db with
  | mk result db =>
    rw [worked] at ran
    cases result with
    | error e => cases ran
    | ok n =>
      cases ran
      exact ⟨n, rfl, rfl⟩

theorem reset_contents_of_error {k : ResourceKind} {site : SiteId} {f : Failure}
    (failed : ((reset k site).run w).1 = .error f) :
    ((reset k site).run w).2.db.contents = w.db.contents := by
  rw [reset_run] at failed ⊢
  cases worked : inSession (Session.deleteAll (RecordOf k) site) w.db with
  | mk result db =>
    rw [worked] at failed
    cases result with
    | error e =>
      obtain ⟨supply, rfl⟩ := inSession_contents_of_error worked
      rfl
    | ok n => cases failed

theorem call_contents_of_error {c : Call} {f : Failure}
    (failed : ((c.act remote).run w).1 = .error f) :
    ((c.act remote).run w).2.db.contents = w.db.contents := by
  obtain ⟨⟨k, site, work⟩, paging⟩ := c
  cases work with
  | synchronize q mode => exact fetchAndApply_contents_of_error failed
  | reset => exact reset_contents_of_error failed

theorem call_balance (reachable : w.db.Reachable) {c : Call} {summary : Summary}
    (ran : ((c.act remote).run w).1 = .ok summary) :
    (rowsOf c.errand.kind c.errand.site ((c.act remote).run w).2.db.contents).length +
        summary.deleted =
      (rowsOf c.errand.kind c.errand.site w.db.contents).length + summary.inserted := by
  obtain ⟨⟨k, site, work⟩, paging⟩ := c
  cases work with
  | synchronize q mode =>
    obtain ⟨batches, -, worked⟩ := synchronize_ok (Prod.ext ran rfl)
    exact reconciled_balance reachable.kept (reconciles_of_inSession worked)
  | reset =>
    obtain ⟨n, worked, rfl⟩ := reset_ok ran
    exact cleared_balance worked

theorem turn_balance (remote : Service σ) (reachable : w.db.Reachable) (turn : Turn σ)
    (k : ResourceKind) (site : SiteId) :
    (rowsOf k site (w.turn remote turn).db.contents).length +
        deletedIn (summariesOf k site (turn.receipt? remote w).toList) =
      (rowsOf k site w.db.contents).length +
        insertedIn (summariesOf k site (turn.receipt? remote w).toList) := by
  cases turn with
  | remote change => rfl
  | settings migrated isOpen refuses => rfl
  | call c =>
    by_cases called : c.errand.kind = k ∧ c.errand.site = site
    · obtain ⟨rfl, rfl⟩ := called
      cases ran : ((c.act remote).run w).1 with
      | error f =>
        simp [Turn.receipt?, World.turn, summariesOf, ran, call_contents_of_error ran, rowsOf,
          Except.toOption, deletedIn, insertedIn]
      | ok summary =>
        simpa [Turn.receipt?, World.turn, summariesOf, ran, Except.toOption, deletedIn,
          insertedIn] using call_balance reachable ran
    · have inside : SameBut _ _ w.db.contents (w.turn remote (.call c)).db.contents :=
        sameBut_call reachable c
      have same := inside.rowsOf_eq called
      simp [Turn.receipt?, summariesOf, called, same, deletedIn, insertedIn]

theorem after_balance (remote : Service σ) (reachable : w.db.Reachable) (turns : List (Turn σ))
    (k : ResourceKind) (site : SiteId) :
    (rowsOf k site (w.after remote turns).db.contents).length +
        deletedIn (summariesOf k site (w.receipts remote turns)) =
      (rowsOf k site w.db.contents).length +
        insertedIn (summariesOf k site (w.receipts remote turns)) := by
  induction turns generalizing w with
  | nil => rfl
  | cons turn rest ih =>
    have next : (w.turn remote turn).db.Reachable := reachable_turn reachable turn
    have first := turn_balance remote reachable turn k site
    have later := ih next
    simp only [World.receipts, summariesOf, List.filter_append, List.filterMap_append, deletedIn,
      insertedIn, List.map_append, List.sum_append] at first later ⊢
    change (rowsOf k site ((w.turn remote turn).after remote rest).db.contents).length + _ = _
    omega

structure Accounts (remote : Service σ) (w : World σ) (turns : List (Turn σ)) : Prop where
  balanced : ∀ k site, (rowsOf k site (w.after remote turns).db.contents).length +
    deletedIn (summariesOf k site (w.receipts remote turns)) =
      insertedIn (summariesOf k site (w.receipts remote turns))
  counted : ∀ k site, (w.after remote turns).db.count (RecordOf k) site =
    (w.after remote turns).db.answer k (insertedIn (summariesOf k site (w.receipts remote turns)) -
      deletedIn (summariesOf k site (w.receipts remote turns)))
  written : ∀ (earlier later : List (Turn σ)) (c : Call) (q : ListQuery) (mode : ReconcileMode)
    (summary : Summary), turns = earlier ++ .call c :: later →
    c.errand.work = .synchronize q mode →
    ((c.act remote).run (w.after remote earlier)).1 = .ok summary →
    ∃ batches, Collected remote c.errand.kind c.errand.site q (w.after remote earlier).remote
        c.paging batches (w.after remote (earlier ++ [.call c])).remote ∧
      summary.inserted + summary.updated = (fetchedKeys c.errand.site batches.flatten).card

theorem run_accounts (remote : Service σ) (start : σ) (events : List Event)
    (turns : List (Turn σ)) : Accounts remote ⟨start, .new, events⟩ turns := by
  have reachable : (⟨start, .new, events⟩ : World σ).db.Reachable := .new
  have balanced (k : ResourceKind) (site : SiteId) := after_balance remote reachable turns k site
  have empty (k : ResourceKind) (site : SiteId) : rowsOf k site Database.new.contents = [] := by
    cases k <;> rfl
  simp only [empty, List.length_nil, Nat.zero_add] at balanced
  constructor
  case balanced => exact balanced
  case counted =>
    intro k site
    rw [Database.count_eq, storedRecords, List.length_map, ← balanced, Nat.add_sub_cancel]
  case written =>
    intro earlier later c q mode summary split work ran
    obtain ⟨⟨k, site, _⟩, paging⟩ := c
    subst work
    obtain ⟨batches, collected, worked⟩ := synchronize_ok (Prod.ext ran rfl)
    have before : (World.after remote ⟨start, .new, events⟩ earlier).db.Reachable :=
      reachable_after reachable earlier
    refine ⟨batches, ?_, reconciled_written before.kept (reconciles_of_inSession worked)⟩
    rw [after_append]
    exact collected

end

example :
    let turns : List (Turn Remote.Script) :=
      [.call ⟨⟨.coupon, ⟨7⟩, .synchronize .unpaged .merge⟩, .unpaged⟩,
        .remote fun _ => Remote.Script.empty.modify .coupon fun part =>
          part.serve ⟨7⟩ [couponOf ⟨7⟩ 1 "kept"],
        .call ⟨⟨.coupon, ⟨7⟩, .synchronize .unpaged .replace⟩, .unpaged⟩,
        .call ⟨⟨.coupon, ⟨7⟩, .reset⟩, .unpaged⟩]
    summariesOf .coupon ⟨7⟩
        (World.receipts Remote.Script.service ⟨couponScript, .new, []⟩ turns) =
      [⟨3, 0, 0⟩, ⟨0, 1, 2⟩, ⟨0, 0, 1⟩] := rfl

end SiteCache.Sync
