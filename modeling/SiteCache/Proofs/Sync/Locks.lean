import SiteCache.Sync.SiteLocks

set_option autoImplicit false

namespace SiteCache.Sync.SiteLocks

variable (l : SiteLocks) (site : SiteId) (lock : Nat)

@[simp] theorem setEntry_entry (entry : Option Nat) :
    (l.setEntry site entry).entry = fun s => if s = site then entry else l.entry s := rfl

@[simp] theorem setEntry_state (entry : Option Nat) : (l.setEntry site entry).state = l.state := rfl

@[simp] theorem modifyState_entry (f : LockState → LockState) :
    (l.modifyState lock f).entry = l.entry := rfl

@[simp] theorem modifyState_state (f : LockState → LockState) :
    (l.modifyState lock f).state = fun i => if i = lock then f (l.state i) else l.state i := rfl

theorem enter_entry : (l.enter site).2.entry site = some (l.enter site).1 := by
  unfold enter
  split <;> simp_all

theorem enter_held (i : Nat) (held : ((l.enter site).2.state i).held = true) :
    (l.state i).held = true := by
  unfold enter at held
  split at held
  · simp only [modifyState_state] at held
    split at held <;> exact held
  · simp only [modifyState_state] at held
    split at held
    · cases held
    · exact held

-- Nobody holds the lock of a site.
def Free : Prop := ∀ lock, l.entry site = some lock → (l.state lock).held = false

theorem enter_free (free : l.Free site) :
    ((l.enter site).2.state (l.enter site).1).held = false := by
  unfold enter
  split <;> rename_i entry
  · simpa using free _ entry
  · simp

theorem acquire?_free (free : (l.state lock).held = false) :
    l.acquire? lock = some (l.modifyState lock fun s => { s with held := true }) := by
  simp [acquire?, free]

theorem sweep_state : (l.sweep site).state = l.state := by
  unfold sweep
  split
  · split <;> rfl
  · rfl

theorem entry_of_sweep {i : Nat} (entry : (l.sweep site).entry site = some i) :
    l.entry site = some i := by
  unfold sweep at entry
  split at entry
  · split at entry
    · simp at entry
    · exact entry
  · exact entry

-- Letting go of a lock, and of the interest in it.
def leave : SiteLocks := ((l.release lock).dropHandle lock).sweep site

theorem leave_held (i : Nat) :
    ((l.leave site lock).state i).held = if i = lock then false else (l.state i).held := by
  unfold leave
  rw [sweep_state]
  simp only [dropHandle, release, modifyState_state]
  split <;> rfl

theorem entry_of_leave {i : Nat} (entry : (l.leave site lock).entry site = some i) :
    l.entry site = some i :=
  entry_of_sweep ((l.release lock).dropHandle lock) site entry

def take : SiteLocks :=
  (l.enter site).2.modifyState (l.enter site).1 fun state => { state with held := true }

def visited : SiteLocks := (l.take site).leave site (l.enter site).1

theorem visited_held (i : Nat) (held : ((l.visited site).state i).held = true) :
    i ≠ (l.enter site).1 ∧ (l.state i).held = true := by
  simp only [visited, leave_held, take, modifyState_state] at held
  split at held <;> rename_i other
  · cases held
  · exact ⟨other, enter_held l site i held⟩

theorem visited_free : (l.visited site).Free site := by
  intro i entry
  have same := entry_of_leave _ site _ entry
  rw [take, modifyState_entry, enter_entry] at same
  cases same
  rw [visited, leave_held, if_pos rfl]

end SiteCache.Sync.SiteLocks
