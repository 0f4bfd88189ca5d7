import SiteCache.Proofs.Sync.Exclusion

set_option autoImplicit false

namespace SiteCache.Sync

open Remote (Service)
open Store

def Task.writes (t : Task) : Bool := (t.phase.pending? t.site).isSome

section

variable {σ : Type} {remote : Service σ} {k : ResourceKind} {site : SiteId} {work : Work}
  {paging : Paging} {s s' : Shared σ} {p p' : Phase k} {seen : Option Act}

theorem fetched_unopened (mode : ReconcileMode) (lock : Nat) (next : Walk.Next (RecordOf k)) :
    (fetched k site mode lock next).pending? site = none := by
  cases next with
  | more w => rfl
  | done result => cases result <;> rfl

theorem begun_unopened (t : Task) (lock : Nat) : (t.begun lock).pending? site = none := by
  unfold Task.begun
  split <;> rfl

theorem Taken.writing (taken : Taken remote k site work paging s p seen s' p')
    (flagged : (p.pending? site).isSome = true → s.writing = true) :
    s'.writing.toNat + (p.pending? site).isSome.toNat =
      s.writing.toNat + (p'.pending? site).isSome.toNat := by
  cases taken with
  | acquire =>
    rw [begun_unopened]
    rfl
  | inside inside =>
    cases inside with
    | listed => rw [fetched_unopened]; rfl
    | opened unflagged =>
      rw [unflagged]
      rfl
    | worked _ _ pending pending' => rw [pending, pending']; rfl
    | closed _ pending =>
      rw [flagged (by rw [pending]; rfl), pending]
      rfl
    | _ => rfl
  | _ => rfl

end

/-- Each lock that is held, and the session if one is open, belongs to one of the tasks. -/
structure Owned (tasks : List Task) {σ : Type} (s : Shared σ) : Prop where
  guarded : ∀ k, Guarded k tasks (s.locks k)
  writing : tasks.countP Task.writes = s.writing.toNat

namespace Owned

variable {σ : Type} {remote : Service σ} {k : ResourceKind} {site : SiteId} {work : Work}
  {paging : Paging} {s s' : Shared σ} {p p' : Phase k} {seen : Option Act} {tasks : List Task}
  {i j : Nat} {t u : Task}

theorem idle (idle : ∀ t ∈ tasks, t.phase = .idle) (unlocked : ∀ k, s.locks k = .empty)
    (unopened : s.writing = false) : Owned tasks s where
  guarded k := by
    rw [unlocked k]
    exact .empty idle
  writing := by
    rw [unopened, List.countP_eq_zero.mpr]
    · rfl
    · intro t member
      simp [Task.writes, idle t member, Phase.pending?]

theorem join (owned : Owned tasks s) (idle : t.phase = .idle) : Owned (tasks ++ [t]) s := by
  constructor
  · intro k
    have guarded := owned.guarded k
    constructor
    · intro u member ofKind n handle
      rcases List.mem_append.mp member with old | new
      · exact guarded.known u old ofKind n handle
      · rw [List.mem_singleton.mp new, idle] at handle
        cases handle
    · intro n
      simpa [List.countP_append, Task.uses, idle, Phase.handle?] using guarded.counted n
    · intro n
      simpa [List.countP_append, Task.holds, idle, Phase.held?] using guarded.held n
    · exact guarded.bounded
    · exact guarded.distinct
    · intro site n entry
      rw [List.countP_append]
      exact Nat.add_pos_left (guarded.wanted site n entry) _
  · simpa [List.countP_append, Task.writes, idle, Phase.pending?] using owned.writing

variable (owned : Owned tasks s)

include owned

theorem writing_of_writes (found : tasks[i]? = some t) (writes : t.writes = true) :
    s.writing = true := by
  have counted := toNat_le_countP (p := Task.writes) found
  rw [owned.writing, writes] at counted
  cases flag : s.writing with
  | true => rfl
  | false => simp [flag] at counted

theorem eq_of_writes (found : tasks[i]? = some t) (found' : tasks[j]? = some u)
    (writes : t.writes = true) (writes' : u.writes = true) : i = j := by
  have few : tasks.countP Task.writes ≤ 1 := by
    rw [owned.writing]
    exact Bool.toNat_le _
  exact eq_of_countP_le_one few found found' writes writes'

theorem step (found : tasks[i]? = some ⟨k, site, work, paging, p⟩)
    (taken : Taken remote k site work paging s p seen s' p') :
    Owned (tasks.set i ⟨k, site, work, paging, p'⟩) s' where
  guarded := guarded_step owned.guarded found taken
  writing := by
    have sum := countP_set_add (p := Task.writes) found ⟨k, site, work, paging, p'⟩
    have flags := taken.writing fun pending => owned.writing_of_writes found pending
    have before := owned.writing
    simp only [Task.writes] at sum before ⊢
    omega

theorem writer (opened : s.writing = true) : ∃ (j : Nat) (u : Task), tasks[j]? = some u ∧
    u.writes = true := by
  have writers : 0 < tasks.countP Task.writes := by
    rw [owned.writing, opened]
    decide
  obtain ⟨u, member, writes⟩ := List.countP_pos_iff.mp writers
  obtain ⟨j, found⟩ := List.getElem?_of_mem member
  exact ⟨j, u, found, writes⟩

theorem holder {n : Nat} (held : ((s.locks k).state n).held = true) :
    ∃ (j : Nat) (u : Task), tasks[j]? = some u ∧ u.kind = k ∧ u.phase.held? = some n ∧
      (s.locks k).entry u.site = some n := by
  have holders : 0 < tasks.countP (·.holds k n) := by
    rw [(owned.guarded k).held, held]
    decide
  obtain ⟨u, member, holds⟩ := List.countP_pos_iff.mp holders
  obtain ⟨j, found⟩ := List.getElem?_of_mem member
  simp only [Task.holds, Bool.and_eq_true, decide_eq_true_eq] at holds
  have entry := (owned.guarded k).known u member holds.1 n (Phase.handle_of_held holds.2)
  exact ⟨j, u, found, holds.1, holds.2, entry⟩

end Owned

end SiteCache.Sync
