import SiteCache.Proofs.Store.Listing
import SiteCache.Proofs.Sync.Isolation

set_option autoImplicit false

namespace SiteCache.Sync

open Remote (Service)
open Store

inductive Episode (σ : Type) where
  | turn (t : Turn σ)
  | session (calls : List SessionCall) (commits : Bool)

section

variable {σ : Type} {remote : Service σ} {w : World σ}

def World.undergo (remote : Service σ) (w : World σ) : Episode σ → World σ
  | .turn t => w.turn remote t
  | .session calls commits =>
    match w.db.begin with
    | .error _ => w
    | .ok session =>
      let db := if commits then (w.db.commit (session.after calls)).2
        else w.db.rollback (session.after calls)
      { w with db := db }

def World.history (remote : Service σ) (w : World σ) (episodes : List (Episode σ)) : World σ :=
  episodes.foldl (World.undergo remote) w

theorem reachable_undergo (reachable : w.db.Reachable) (episode : Episode σ) :
    (w.undergo remote episode).db.Reachable := by
  cases episode with
  | turn t => exact reachable_turn reachable t
  | session calls commits =>
    unfold World.undergo
    dsimp only
    split
    · exact reachable
    · rename_i session begun
      cases commits with
      | true => exact .commit calls reachable begun
      | false => exact .rollback calls reachable begun

theorem reachable_history (reachable : w.db.Reachable) (episodes : List (Episode σ)) :
    (w.history remote episodes).db.Reachable := by
  induction episodes generalizing w with
  | nil => exact reachable
  | cons episode rest ih => exact ih (reachable_undergo reachable episode)

theorem histories_readAlike {τ : Type} {remote' : Service τ} {w' : World τ} {site : SiteId}
    (start : w.db.Reachable) (start' : w'.db.Reachable) {episodes : List (Episode σ)}
    {episodes' : List (Episode τ)}
    (alike : StoredAlike site (w.history remote episodes).db (w'.history remote' episodes').db) :
    ReadsAlike site (w.history remote episodes).db (w'.history remote' episodes').db :=
  alike.readsAlike (reachable_history start episodes) (reachable_history start' episodes')

end

def emptyWorld : World Remote.Script := ⟨.empty, .new, []⟩

def mirrored : Database :=
  (couponWorld.history Remote.Script.service
    [.turn (.call ⟨⟨.coupon, ⟨7⟩, .synchronize .unpaged .replace⟩, .paged 2 5⟩)]).db

def copied : Database :=
  (emptyWorld.history Remote.Script.service
    [.session [.insert .coupon (couponOf ⟨7⟩ 4 "late"),
        .insert .coupon (couponOf ⟨7⟩ 1 "first")] true,
      .session [.deleteAll .coupon ⟨7⟩] false,
      .session [.insert .coupon (couponOf ⟨7⟩ 2 "new"),
        .update .coupon (.issued 1) (couponOf ⟨7⟩ 1 "last")] true]).db

theorem mirrored_copied_readAlike :
    storedRecords .coupon ⟨7⟩ mirrored.contents =
        [couponOf ⟨7⟩ 1 "last", couponOf ⟨7⟩ 2 "new", couponOf ⟨7⟩ 4 "late"] ∧
      storedRecords .coupon ⟨7⟩ copied.contents =
        [couponOf ⟨7⟩ 4 "late", couponOf ⟨7⟩ 1 "last", couponOf ⟨7⟩ 2 "new"] ∧
      ReadsAlike ⟨7⟩ mirrored copied := by
  have perm : (storedRecords .coupon ⟨7⟩ mirrored.contents).Perm
      (storedRecords .coupon ⟨7⟩ copied.contents) :=
    show ([couponOf ⟨7⟩ 1 "last", couponOf ⟨7⟩ 2 "new"] ++ [couponOf ⟨7⟩ 4 "late"]).Perm
      ([couponOf ⟨7⟩ 4 "late"] ++ [couponOf ⟨7⟩ 1 "last", couponOf ⟨7⟩ 2 "new"])
    from List.perm_append_comm
  have alike : StoredAlike ⟨7⟩ mirrored copied := by
    refine ⟨rfl, rfl, ?_⟩
    intro k r
    cases k with
    | sitePlugin | product => exact Iff.rfl
    | coupon => exact perm.mem_iff
  exact ⟨rfl, rfl, histories_readAlike (show couponWorld.db.Reachable from reachable_couponStore)
    .new alike⟩

-- Two plugins and two coupons that differ in case alone.
def twins : List SessionCall :=
  [.insert .sitePlugin (.new ⟨7⟩ "a/a" "Seo" .active),
    .insert .sitePlugin (.new ⟨7⟩ "b/b" "SEO" .active),
    .insert .coupon (couponOf ⟨7⟩ 1 "save"), .insert .coupon (couponOf ⟨7⟩ 2 "SAVE")]

def oneWay : Database :=
  (emptyWorld.history Remote.Script.service [.session twins true]).db

def otherWay : Database :=
  (emptyWorld.history Remote.Script.service [.session twins.reverse true]).db

theorem twins_readApart :
    StoredAlike ⟨7⟩ oneWay otherWay ∧
      oneWay.list SitePlugin ⟨7⟩ ≠ otherWay.list SitePlugin ⟨7⟩ ∧
      oneWay.findByCode ⟨7⟩ "save" ≠ otherWay.findByCode ⟨7⟩ "save" := by
  have alike : StoredAlike ⟨7⟩ oneWay otherWay := by
    refine ⟨rfl, rfl, ?_⟩
    intro k r
    cases k with
    | product => exact Iff.rfl
    | sitePlugin => exact (List.Perm.swap _ _ []).mem_iff
    | coupon => exact (List.Perm.swap _ _ []).mem_iff
  -- Under the listing order each twin may stand before the other, so rows keep their order.
  have listed : oneWay.list SitePlugin ⟨7⟩ =
      .ok [.new ⟨7⟩ "a/a" "Seo" .active, .new ⟨7⟩ "b/b" "SEO" .active] :=
    Database.list_of_ordered (k := .sitePlugin) (reachable_history .new _).undamaged (by decide)
  have listed' : otherWay.list SitePlugin ⟨7⟩ =
      .ok [.new ⟨7⟩ "b/b" "SEO" .active, .new ⟨7⟩ "a/a" "Seo" .active] :=
    Database.list_of_ordered (k := .sitePlugin) (reachable_history .new _).undamaged (by decide)
  refine ⟨alike, ?_, by decide⟩
  rw [listed, listed']
  decide

end SiteCache.Sync
