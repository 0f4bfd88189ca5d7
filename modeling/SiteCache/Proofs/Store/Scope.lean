import SiteCache.Proofs.Store.Frame
import SiteCache.Store.Listing

set_option autoImplicit false

namespace SiteCache.Store

namespace Session

section

variable {k : ResourceKind} {s s' : Session} {r : RecordOf k}

end

variable {s : Session}

theorem discard_ok {α : Type} {act : SessionM α} (ran : ((discard act).run s).1 = .ok ()) :
    ∃ a, act.run s = (.ok a, ((discard act).run s).2) := by
  change ((Function.const α () <$> act).run s).1 = .ok () at ran
  change ∃ a, act.run s = (.ok a, ((Function.const α () <$> act).run s).2)
  rw [run_map] at ran ⊢
  split at ran <;> rename_i result
  · rw [result]
    exact ⟨_, rfl⟩
  · cases ran

def oneCoupon : Session :=
  Session.after ⟨.empty, 0, true, fun _ => none⟩ [.insert .coupon (.new ⟨7⟩ 1 "kept" .epoch)]

theorem oneCoupon_kept : KeptContents oneCoupon.supply oneCoupon.contents := by
  have begun : Database.new.begin = .ok ⟨.empty, 0, true, fun _ => none⟩ := rfl
  exact (kept_after (keptSince_begin begun Database.Reachable.new.kept) _).1

end Session

end SiteCache.Store
