import Mathlib.Data.List.Basic
import SiteCache.Proofs.Sync.Locks
import SiteCache.Proofs.Sync.Steps

set_option autoImplicit false

namespace SiteCache.Sync

open Remote (Service)

theorem toNat_le_countP {α : Type} {p : α → Bool} {xs : List α} {i : Nat} {a : α}
    (found : xs[i]? = some a) : (p a).toNat ≤ xs.countP p := by
  cases holds : p a with
  | false => simp
  | true => exact List.countP_pos_iff.mpr ⟨a, List.mem_of_getElem? found, holds⟩

theorem countP_set_add {α : Type} {p : α → Bool} {xs : List α} {i : Nat} {a : α}
    (found : xs[i]? = some a) (b : α) :
    (xs.set i b).countP p + (p a).toNat = xs.countP p + (p b).toNat := by
  have counted : (p a).toNat ≤ xs.countP p := toNat_le_countP found
  obtain ⟨inside, rfl⟩ := List.getElem?_eq_some_iff.mp found
  have asNumber (c : Bool) : (if c = true then 1 else 0) = c.toNat := by cases c <;> rfl
  rw [List.countP_set inside, asNumber, asNumber]
  omega

theorem eq_of_countP_le_one {α : Type} {p : α → Bool} {xs : List α} (few : xs.countP p ≤ 1)
    {i j : Nat} {a b : α} (first : xs[i]? = some a) (second : xs[j]? = some b) (holds : p a = true)
    (holds' : p b = true) : i = j := by
  by_contra apart
  -- Blanking one of the two leaves the other to be counted.
  have blanked := countP_set_add (p := fun x : Option α => x.any p)
    (show (xs.map some)[i]? = some (some a) by rw [List.getElem?_map, first]; rfl) none
  have left : ((xs.map some).set i none)[j]? = some (some b) := by
    rw [List.getElem?_set_ne apart, List.getElem?_map, second]
    rfl
  have counted := toNat_le_countP (p := fun x : Option α => x.any p) left
  have whole : (xs.map some).countP (fun x => x.any p) = xs.countP p := by
    rw [List.countP_map]
    rfl
  simp only [Option.any_some, Option.any_none, holds, holds', Bool.toNat_true,
    Bool.toNat_false] at blanked counted
  omega

namespace Phase

variable {k : ResourceKind} {p : Phase k} {lock : Nat}

theorem handle_of_held (held : p.held? = some lock) : p.handle? = some lock := by
  cases p <;> first | exact held | cases held

theorem engaged_of_handle (handle : p.handle? = some lock) : p.engaged = true := by
  cases p <;> first | rfl | cases handle

theorem engaged_of_held (held : p.held? = some lock) : p.engaged = true :=
  engaged_of_handle (handle_of_held held)

end Phase

namespace Task

-- Has a handle on a lock of a kind.
def uses (k : ResourceKind) (n : Nat) (t : Task) : Bool :=
  t.kind = k && t.phase.handle? = some n

def holds (k : ResourceKind) (n : Nat) (t : Task) : Bool :=
  t.kind = k && t.phase.held? = some n

-- Has to do with the lock of a site, or is about to look whether others have.
def near (k : ResourceKind) (site : SiteId) (t : Task) : Bool :=
  t.kind = k && t.site = site && t.phase.engaged

end Task

structure Guarded (k : ResourceKind) (tasks : List Task) (l : SiteLocks) : Prop where
  known : ∀ t ∈ tasks, t.kind = k → ∀ n, t.phase.handle? = some n → l.entry t.site = some n
  counted : ∀ n, tasks.countP (·.uses k n) = (l.state n).handles
  held : ∀ n, tasks.countP (·.holds k n) = (l.state n).held.toNat
  bounded : ∀ site n, l.entry site = some n → n < l.next
  distinct : ∀ site site' n, l.entry site = some n → l.entry site' = some n → site = site'
  wanted : ∀ site n, l.entry site = some n → 0 < tasks.countP (·.near k site)

namespace Guarded

variable {k : ResourceKind} {tasks : List Task} {l l' : SiteLocks} {i : Nat} {t t' : Task}

theorem empty (idle : ∀ t ∈ tasks, t.phase = .idle) : Guarded k tasks .empty where
  known t member _ n handle := by
    rw [idle t member] at handle
    cases handle
  counted n := by
    rw [List.countP_eq_zero.mpr]
    · rfl
    · intro t member
      simp [Task.uses, idle t member, Phase.handle?]
  held n := by
    rw [List.countP_eq_zero.mpr]
    · rfl
    · intro t member
      simp [Task.holds, idle t member, Phase.held?]
  bounded _ _ entry := nomatch entry
  distinct _ _ _ entry := nomatch entry
  wanted _ _ entry := nomatch entry

theorem uses_of_holds {n : Nat} (holds : t.holds k n = true) : t.uses k n = true := by
  simp only [Task.holds, Task.uses, Bool.and_eq_true, decide_eq_true_eq] at holds ⊢
  exact ⟨holds.1, Phase.handle_of_held holds.2⟩

theorem state_of_unknown (guarded : Guarded k tasks l) {n : Nat}
    (unknown : ∀ site, l.entry site ≠ some n) :
    (l.state n).handles = 0 ∧ (l.state n).held = false := by
  have unused : ∀ t ∈ tasks, ¬ t.uses k n = true := by
    intro t member uses
    simp only [Task.uses, Bool.and_eq_true, decide_eq_true_eq] at uses
    exact unknown t.site (guarded.known t member uses.1 n uses.2)
  constructor
  · rw [← guarded.counted, List.countP_eq_zero]
    exact unused
  · have noneHold : tasks.countP (·.holds k n) = 0 :=
      List.countP_eq_zero.mpr fun t member holds => unused t member (uses_of_holds holds)
    rw [guarded.held] at noneHold
    simpa using noneHold

-- What has to be shown when one task takes a step.
theorem replace (guarded : Guarded k tasks l) (found : tasks[i]? = some t)
    (known : t'.kind = k → ∀ n, t'.phase.handle? = some n → l'.entry t'.site = some n)
    (rest : ∀ u ∈ tasks, u.kind = k → ∀ n, u.phase.handle? = some n → l'.entry u.site = some n)
    (counted : ∀ n, (l'.state n).handles + (t.uses k n).toNat =
      (l.state n).handles + (t'.uses k n).toNat)
    (held : ∀ n, (l'.state n).held.toNat + (t.holds k n).toNat =
      (l.state n).held.toNat + (t'.holds k n).toNat)
    (bounded : ∀ site n, l'.entry site = some n → n < l'.next)
    (distinct : ∀ site site' n, l'.entry site = some n → l'.entry site' = some n → site = site')
    (wanted : ∀ site n, l'.entry site = some n →
      t'.near k site = true ∨ (t.near k site).toNat < tasks.countP (·.near k site)) :
    Guarded k (tasks.set i t') l' where
  known u member := by
    rcases List.mem_or_eq_of_mem_set member with old | rfl
    · exact rest u old
    · exact known
  counted n := by
    have sum := countP_set_add (p := (·.uses k n)) found t'
    have := guarded.counted n
    have := counted n
    omega
  held n := by
    have sum := countP_set_add (p := (·.holds k n)) found t'
    have := guarded.held n
    have := held n
    omega
  bounded := bounded
  distinct := distinct
  wanted site n entry := by
    have sum := countP_set_add (p := (·.near k site)) found t'
    rcases wanted site n entry with near | others
    · rw [near] at sum
      simp only [Bool.toNat_true] at sum
      have : (t.near k site).toNat ≤ tasks.countP (·.near k site) := toNat_le_countP found
      omega
    · omega

variable {site : SiteId} {work : Work} {paging : Paging} {p p' : Phase k} {lock : Nat}
  {result : Outcome Summary}

theorem near_or_others (guarded : Guarded k tasks l) (engaged : p'.engaged = true) {site' : SiteId}
    {n : Nat} (wanted : l.entry site' = some n) :
    (⟨k, site, work, paging, p'⟩ : Task).near k site' = true ∨
      ((⟨k, site, work, paging, p⟩ : Task).near k site').toNat <
        tasks.countP (·.near k site') := by
  by_cases same : site = site'
  · exact .inl (by simp [Task.near, same, engaged])
  · have := guarded.wanted site' n wanted
    exact .inr (by simpa [Task.near, same] using this)

theorem enter_known (guarded : Guarded k tasks l)
    (found : tasks[i]? = some ⟨k, site, work, paging, .idle⟩) {n : Nat}
    (entry : l.entry site = some n) :
    Guarded k (tasks.set i ⟨k, site, work, paging, .waiting n⟩)
      (l.modifyState n fun s => { s with handles := s.handles + 1 }) := by
  apply guarded.replace found
  · rintro - m ⟨⟩
    exact entry
  · exact guarded.known
  · intro m
    by_cases same : m = n
    · subst same
      simp [Task.uses, Phase.handle?]
    · simp [Task.uses, Phase.handle?, same, Ne.symm same]
  · intro m
    by_cases same : m = n <;> simp [Task.holds, Phase.held?, same]
  · exact guarded.bounded
  · exact guarded.distinct
  · intro site' m wanted
    have := guarded.wanted site' m wanted
    exact .inr (by simpa [Task.near, Phase.engaged] using this)

theorem enter_new (guarded : Guarded k tasks l)
    (found : tasks[i]? = some ⟨k, site, work, paging, .idle⟩) (entry : l.entry site = none) :
    Guarded k (tasks.set i ⟨k, site, work, paging, .waiting l.next⟩)
      ((({ l with next := l.next + 1 } : SiteLocks).setEntry site (some l.next)).modifyState l.next
        fun _ => ⟨1, false⟩) := by
  -- No site has a lock with this number, so nobody has ever used it.
  have new : ∀ site', l.entry site' ≠ some l.next := fun site' old =>
    Nat.lt_irrefl _ (guarded.bounded site' _ old)
  obtain ⟨unused, unheld⟩ := guarded.state_of_unknown new
  apply guarded.replace found
  · rintro - m ⟨⟩
    simp
  · intro u member ofKind m handle
    have old := guarded.known u member ofKind m handle
    have elsewhere : u.site ≠ site := by
      intro same
      rw [same, entry] at old
      cases old
    simpa [elsewhere] using old
  · intro m
    by_cases same : m = l.next
    · subst same
      simp [Task.uses, Phase.handle?, unused]
    · simp [Task.uses, Phase.handle?, same, Ne.symm same]
  · intro m
    by_cases same : m = l.next
    · subst same
      simp [Task.holds, Phase.held?, unheld]
    · simp [Task.holds, Phase.held?, same]
  · intro site' m wanted
    simp only [SiteLocks.modifyState_entry, SiteLocks.setEntry_entry] at wanted
    change m < l.next + 1
    split at wanted
    · cases wanted
      omega
    · have := guarded.bounded site' m wanted
      omega
  · intro site₁ site₂ m first second
    simp only [SiteLocks.modifyState_entry, SiteLocks.setEntry_entry] at first second
    split at first <;> split at second
    · subst_vars
      rfl
    · cases first
      exact absurd second (new site₂)
    · cases second
      exact absurd first (new site₁)
    · exact guarded.distinct site₁ site₂ m first second
  · intro site' m wanted
    simp only [SiteLocks.modifyState_entry, SiteLocks.setEntry_entry] at wanted
    split at wanted <;> rename_i same
    · subst same
      exact .inl (by simp [Task.near, Phase.engaged])
    · have := guarded.wanted site' m wanted
      exact .inr (by simpa [Task.near, Phase.engaged] using this)

theorem enter (guarded : Guarded k tasks l)
    (found : tasks[i]? = some ⟨k, site, work, paging, .idle⟩) :
    Guarded k (tasks.set i ⟨k, site, work, paging, .waiting (l.enter site).1⟩)
      (l.enter site).2 := by
  cases entry : l.entry site with
  | some n =>
    rw [SiteLocks.enter, entry]
    exact guarded.enter_known found entry
  | none =>
    rw [SiteLocks.enter, entry]
    exact guarded.enter_new found entry

theorem acquire (guarded : Guarded k tasks l)
    (found : tasks[i]? = some ⟨k, site, work, paging, .waiting lock⟩)
    (free : (l.state lock).held = false) (held : p.held? = some lock) :
    Guarded k (tasks.set i ⟨k, site, work, paging, p⟩)
      (l.modifyState lock fun s => { s with held := true }) := by
  have handle := Phase.handle_of_held held
  have waits : (Phase.waiting lock : Phase k).handle? = some lock := rfl
  have holdsNone : (Phase.waiting lock : Phase k).held? = none := rfl
  apply guarded.replace found
  · intro _ m same
    exact guarded.known _ (List.mem_of_getElem? found) rfl m (handle.symm.trans same)
  · exact guarded.known
  · intro m
    by_cases same : m = lock <;> simp [Task.uses, waits, handle, same]
  · intro m
    by_cases same : m = lock
    · subst same
      simp [Task.holds, holdsNone, held, free]
    · simp [Task.holds, holdsNone, held, same, Ne.symm same]
  · exact guarded.bounded
  · exact guarded.distinct
  · exact fun _ _ wanted => guarded.near_or_others (Phase.engaged_of_held held) wanted

-- A step that leaves a task with the lock that it has.
theorem keep (guarded : Guarded k tasks l) (found : tasks[i]? = some ⟨k, site, work, paging, p⟩)
    (before : p.held? = some lock) (after : p'.held? = some lock) :
    Guarded k (tasks.set i ⟨k, site, work, paging, p'⟩) l := by
  apply guarded.replace found
  · intro _ m same
    have handle := Phase.handle_of_held before
    rw [Phase.handle_of_held after] at same
    cases same
    exact guarded.known _ (List.mem_of_getElem? found) rfl lock handle
  · exact guarded.known
  · intro m
    simp [Task.uses, Phase.handle_of_held before, Phase.handle_of_held after]
  · intro m
    simp [Task.holds, before, after]
  · exact guarded.bounded
  · exact guarded.distinct
  · exact fun _ _ wanted => guarded.near_or_others (Phase.engaged_of_held after) wanted

theorem release (guarded : Guarded k tasks l)
    (found : tasks[i]? = some ⟨k, site, work, paging, .told lock result⟩) :
    Guarded k (tasks.set i ⟨k, site, work, paging, .unlocked lock result⟩) (l.release lock) := by
  have holder : (l.state lock).held = true := by
    have counted := toNat_le_countP (p := (·.holds k lock)) found
    rw [guarded.held] at counted
    cases held : (l.state lock).held with
    | true => rfl
    | false => simp [Task.holds, Phase.held?, held] at counted
  apply guarded.replace found
  · intro _ m same
    exact guarded.known _ (List.mem_of_getElem? found) rfl m same
  · exact guarded.known
  · intro m
    by_cases same : m = lock <;> simp [Task.uses, Phase.handle?, SiteLocks.release, same]
  · intro m
    by_cases same : m = lock
    · subst same
      simp [Task.holds, Phase.held?, SiteLocks.release, holder]
    · simp [Task.holds, Phase.held?, SiteLocks.release, same, Ne.symm same]
  · exact guarded.bounded
  · exact guarded.distinct
  · exact fun _ _ wanted => guarded.near_or_others rfl wanted

theorem drop (guarded : Guarded k tasks l)
    (found : tasks[i]? = some ⟨k, site, work, paging, .unlocked lock result⟩) :
    Guarded k (tasks.set i ⟨k, site, work, paging, .unhandled result⟩) (l.dropHandle lock) := by
  have counted : 1 ≤ (l.state lock).handles := by
    have counted := toNat_le_countP (p := (·.uses k lock)) found
    rw [guarded.counted] at counted
    simpa [Task.uses, Phase.handle?] using counted
  apply guarded.replace found
  · rintro _ m ⟨⟩
  · exact guarded.known
  · intro m
    by_cases same : m = lock
    · subst same
      simp only [SiteLocks.dropHandle, SiteLocks.modifyState_state, if_true]
      simp [Task.uses, Phase.handle?]
      omega
    · simp [Task.uses, Phase.handle?, SiteLocks.dropHandle, same, Ne.symm same]
  · intro m
    by_cases same : m = lock <;> simp [Task.holds, Phase.held?, SiteLocks.dropHandle, same]
  · exact guarded.bounded
  · exact guarded.distinct
  · exact fun _ _ wanted => guarded.near_or_others rfl wanted

theorem entry_of_swept {site' : SiteId} {n : Nat}
    (entry : (l.sweep site).entry site' = some n) :
    l.entry site' = some n ∧ (site' = site → (l.state n).handles ≠ 0) := by
  unfold SiteLocks.sweep at entry
  split at entry <;> rename_i own
  · split at entry <;> rename_i handles
    · simp only [SiteLocks.setEntry_entry] at entry
      split at entry <;> rename_i same
      · cases entry
      · exact ⟨entry, fun here => absurd here same⟩
    · refine ⟨entry, ?_⟩
      rintro rfl
      cases own.symm.trans entry
      exact handles
  · refine ⟨entry, ?_⟩
    rintro rfl
    cases own.symm.trans entry

theorem swept_of_used (guarded : Guarded k tasks l) {u : Task} (member : u ∈ tasks)
    (ofKind : u.kind = k) {n : Nat} (handle : u.phase.handle? = some n) :
    (l.sweep site).entry u.site = some n := by
  have entry := guarded.known u member ofKind n handle
  have used : 0 < tasks.countP (·.uses k n) :=
    List.countP_pos_iff.mpr ⟨u, member, by simp [Task.uses, ofKind, handle]⟩
  rw [guarded.counted] at used
  unfold SiteLocks.sweep
  split <;> rename_i own
  · split <;> rename_i handles
    · have elsewhere : u.site ≠ site := by
        intro same
        rw [same] at entry
        cases own.symm.trans entry
        omega
      simpa [elsewhere] using entry
    · exact entry
  · exact entry

-- A lock that the map keeps for a site is still used, so some other task is near the site.
theorem others_near (guarded : Guarded k tasks l)
    (found : tasks[i]? = some ⟨k, site, work, paging, .unhandled result⟩) {n : Nat}
    (entry : l.entry site = some n) (used : (l.state n).handles ≠ 0) :
    ((⟨k, site, work, paging, .unhandled result⟩ : Task).near k site).toNat <
      tasks.countP (·.near k site) := by
  have users : 0 < tasks.countP (·.uses k n) := by
    rw [guarded.counted]
    omega
  obtain ⟨u, member, uses⟩ := List.countP_pos_iff.mp users
  simp only [Task.uses, Bool.and_eq_true, decide_eq_true_eq] at uses
  have here : u.site = site :=
    guarded.distinct _ _ _ (guarded.known u member uses.1 n uses.2) entry
  obtain ⟨j, found'⟩ := List.getElem?_of_mem member
  have apart : i ≠ j := by
    rintro rfl
    cases found.symm.trans found'
    cases uses.2
  -- Once this task is done with the site, the other one is still counted.
  have stays : (tasks.set i ⟨k, site, work, paging, .finished result⟩)[j]? = some u := by
    rw [List.getElem?_set_ne apart, found']
  have counted := toNat_le_countP (p := (·.near k site)) stays
  have sum := countP_set_add (p := (·.near k site)) found
    ⟨k, site, work, paging, .finished result⟩
  have near : u.near k site = true := by
    simp [Task.near, uses.1, here, Phase.engaged_of_handle uses.2]
  have far : (⟨k, site, work, paging, .finished result⟩ : Task).near k site = false := by
    simp [Task.near, Phase.engaged]
  simp only [near, far, Bool.toNat_true, Bool.toNat_false] at counted sum
  omega

theorem sweep (guarded : Guarded k tasks l)
    (found : tasks[i]? = some ⟨k, site, work, paging, .unhandled result⟩) :
    Guarded k (tasks.set i ⟨k, site, work, paging, .finished result⟩) (l.sweep site) := by
  have state := l.sweep_state site
  apply guarded.replace found
  · rintro - m ⟨⟩
  · exact fun u member ofKind n handle => guarded.swept_of_used member ofKind handle
  · intro m
    simp [Task.uses, Phase.handle?, state]
  · intro m
    simp [Task.holds, Phase.held?, state]
  · intro site' m entry
    have bounded := guarded.bounded site' m (entry_of_swept entry).1
    have next : (l.sweep site).next = l.next := by
      unfold SiteLocks.sweep
      split <;> try split
      all_goals rfl
    omega
  · intro site₁ site₂ m first second
    exact guarded.distinct site₁ site₂ m (entry_of_swept first).1 (entry_of_swept second).1
  · intro site' m entry
    obtain ⟨old, used⟩ := entry_of_swept entry
    by_cases same : site' = site
    · subst same
      exact .inr (guarded.others_near found old (used rfl))
    · have := guarded.wanted site' m old
      exact .inr (by simpa [Task.near, Ne.symm same] using this)

theorem other (guarded : Guarded k tasks l) (found : tasks[i]? = some t) (kind : t.kind ≠ k)
    (kind' : t'.kind ≠ k) : Guarded k (tasks.set i t') l := by
  apply guarded.replace found
  · exact fun ofKind => absurd ofKind kind'
  · exact guarded.known
  · intro n
    simp [Task.uses, kind, kind']
  · intro n
    simp [Task.holds, kind, kind']
  · exact guarded.bounded
  · exact guarded.distinct
  · intro site n wanted
    have := guarded.wanted site n wanted
    exact .inr (by simpa [Task.near, kind] using this)

end Guarded

section

variable {σ : Type} {remote : Service σ} {k : ResourceKind} {site : SiteId} {work : Work}
  {paging : Paging} {s s' : Shared σ} {lock : Nat} {p p' : Phase k} {act : Option Act}

theorem Inside.locks (inside : Inside remote k site work paging s lock p act s' p') :
    s'.locks = s.locks := by
  cases inside <;> rfl

theorem Inside.held (inside : Inside remote k site work paging s lock p act s' p') :
    p.held? = some lock ∧ p'.held? = some lock := by
  cases inside with
  | @listed w q mode reply next work left asked =>
    refine ⟨rfl, ?_⟩
    cases w.take reply with
    | more w' => rfl
    | done result => cases result <;> rfl
  | worked held held' => exact ⟨held, held'⟩
  | closed held => exact ⟨held, rfl⟩
  | _ => exact ⟨rfl, rfl⟩

theorem Task.begun_held (t : Task) (lock : Nat) : (t.begun lock).held? = some lock := by
  unfold Task.begun
  split <;> rfl

theorem guarded_step {tasks : List Task} {i : Nat}
    (guarded : ∀ j, Guarded j tasks (s.locks j))
    (found : tasks[i]? = some ⟨k, site, work, paging, p⟩)
    (taken : Taken remote k site work paging s p act s' p') (j : ResourceKind) :
    Guarded j (tasks.set i ⟨k, site, work, paging, p'⟩) (s'.locks j) := by
  by_cases same : j = k
  · subst same
    cases taken with
    | enter =>
      rw [Shared.modifyLocks_locks]
      exact (guarded j).enter found
    | acquire free =>
      rw [Shared.modifyLocks_locks]
      exact (guarded j).acquire found free (Task.begun_held _ _)
    | inside inside =>
      rw [inside.locks]
      exact (guarded j).keep found inside.held.1 inside.held.2
    | release =>
      rw [Shared.modifyLocks_locks]
      exact (guarded j).release found
    | drop =>
      rw [Shared.modifyLocks_locks]
      exact (guarded j).drop found
    | sweep =>
      rw [Shared.modifyLocks_locks]
      exact (guarded j).sweep found
  · -- The locks of other kinds are another map.
    have untouched : s'.locks j = s.locks j := by
      cases taken with
      | inside inside => rw [inside.locks]
      | _ => exact if_neg same
    rw [untouched]
    exact (guarded j).other found (Ne.symm same) (Ne.symm same)

theorem Guarded.exclusive {tasks : List Task} {l : SiteLocks} (guarded : Guarded k tasks l)
    {i j m n : Nat} {t u : Task} (first : tasks[i]? = some t) (second : tasks[j]? = some u)
    (kind : t.kind = k) (kind' : u.kind = k) (same : t.site = u.site)
    (held : t.phase.held? = some m) (held' : u.phase.held? = some n) : i = j := by
  have entry := guarded.known t (List.mem_of_getElem? first) kind m (Phase.handle_of_held held)
  have entry' := guarded.known u (List.mem_of_getElem? second) kind' n (Phase.handle_of_held held')
  rw [same, entry'] at entry
  cases entry
  -- The map has one lock for the site, and a lock counts one holder at most.
  have few : tasks.countP (·.holds k m) ≤ 1 := by
    rw [guarded.held]
    exact Bool.toNat_le _
  exact eq_of_countP_le_one few first second (by simp [Task.holds, kind, held])
    (by simp [Task.holds, kind', held'])

end

end SiteCache.Sync
