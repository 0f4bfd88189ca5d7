import SiteCache.Proofs.Sync.Synchronizing
import SiteCache.Remote.Script

set_option autoImplicit false

namespace SiteCache.Sync

open Remote (Service)
open Store

section

variable {σ : Type} {remote : Service σ} {k : ResourceKind} {paging : Paging} {site : SiteId}
  {q : ListQuery} {w w' : World σ} {summary : Summary}

end

def couponOf (site : SiteId) (key : Int64) (code : String) : Coupon := .new site key code .epoch

def couponStore : Database :=
  (Database.new.commit (Session.after ⟨.empty, 0, true, fun _ => none⟩
    [.insert .coupon (couponOf ⟨7⟩ 1 "old"), .insert .coupon (couponOf ⟨7⟩ 5 "gone"),
      .insert .coupon (couponOf ⟨9⟩ 1 "other")])).2

theorem reachable_couponStore : couponStore.Reachable := .commit _ .new rfl

def couponScript : Remote.Script :=
  Remote.Script.empty.modify .coupon fun part => part.serve ⟨7⟩
    [couponOf ⟨7⟩ 1 "first", couponOf ⟨7⟩ 2 "new", couponOf ⟨7⟩ 1 "last",
      couponOf ⟨9⟩ 5 "foreign", couponOf ⟨7⟩ 4 "late"]

def couponWorld : World Remote.Script := ⟨couponScript, couponStore, []⟩

end SiteCache.Sync
