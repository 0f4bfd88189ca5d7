import SiteCache.Sync.Dispatcher

set_option autoImplicit false

namespace SiteCache.Sync

namespace Dispatcher

variable {P C σ : Type}

inductive Step (P C : Type) where
  | register (kind : ResourceKind) (p : P)
  | unregister (kind : ResourceKind)
  | isRegistered (kind : ResourceKind)
  | dispatch (a : Action) (completion : C)

inductive Answer (P : Type) where
  | registered (result : Except SyncError Unit)
  | unregistered (p : Option P)
  | told (registered : Bool)
  | dispatched (result : Outcome Unit)

/-- What processors do with what they are handed. The world is everything that they, and the
completions that they run, act on. Whatever a processor asks of the dispatcher in its turn is a step
of its own. -/
abbrev Work (P C σ : Type) := P → Action → C → StateM σ (Outcome Unit)

def dispatch (d : Dispatcher P) (work : Work P C σ) (a : Action) (completion : C) :
    StateM σ (Outcome Unit) :=
  match d.route a with
  | .ok p => work p a completion
  | .error f => pure (.error f)

def next (d : Dispatcher P) : Step P C → Dispatcher P
  | .register kind p => (d.register kind p).2
  | .unregister kind => (d.unregister kind).2
  | .isRegistered _ | .dispatch .. => d

-- What a step hands over, and to whom.
def handing? (d : Dispatcher P) : Step P C → Option (P × Action × C)
  | .dispatch a completion => (d.held a.kind).map (·, a, completion)
  | _ => none

def handed (d : Dispatcher P) : List (Step P C) → List (P × Action × C)
  | [] => []
  | s :: rest => (d.handing? s).toList ++ (d.next s).handed rest

def unrouted (a : Action) : Answer P :=
  .dispatched (crash ("no processor registered for " ++ a.kind.name ++ " actions"))

structure Office (P σ : Type) where
  dispatcher : Dispatcher P
  world : σ

abbrev Entry (P C : Type) := Step P C × Answer P

namespace Office

-- At first nothing is registered.
def opening (world : σ) : Office P σ := ⟨.empty, world⟩

def step (work : Work P C σ) (o : Office P σ) : Step P C → Answer P × Office P σ
  | .register kind p =>
    let r := o.dispatcher.register kind p
    (.registered r.1, { o with dispatcher := r.2 })
  | .unregister kind =>
    let r := o.dispatcher.unregister kind
    (.unregistered r.1, { o with dispatcher := r.2 })
  | .isRegistered kind => (.told (o.dispatcher.isRegistered kind), o)
  | .dispatch a completion =>
    let r := o.dispatcher.dispatch work a completion o.world
    (.dispatched r.1, { o with world := r.2 })

def after (work : Work P C σ) (o : Office P σ) (steps : List (Step P C)) : Office P σ :=
  steps.foldl (fun o s => (o.step work s).2) o

def history (work : Work P C σ) : Office P σ → List (Step P C) → List (Entry P C)
  | _, [] => []
  | o, s :: rest => (s, (o.step work s).1) :: history work (o.step work s).2 rest

def handOver (work : Work P C σ) (world : σ) (handing : P × Action × C) : σ :=
  (work handing.1 handing.2.1 handing.2.2 world).2

end Office

-- The entries that settle anew who holds a kind.
def Settles (k : ResourceKind) : Entry P C → Prop
  | (.register kind _, .registered (.ok ())) => kind = k
  | (.unregister kind, _) => kind = k
  | _ => False

-- The last that a history says of a kind is that this processor was registered for it.
def Standing (k : ResourceKind) (p : P) (h : List (Entry P C)) : Prop :=
  ∃ earlier later, h = earlier ++ (.register k p, .registered (.ok ())) :: later ∧
    ∀ e ∈ later, ¬ Settles k e

theorem standing_cons {k : ResourceKind} {p : P} {e : Entry P C} {h : List (Entry P C)} :
    Standing k p (e :: h) ↔ Standing k p h ∨
      (e = (.register k p, .registered (.ok ())) ∧ ∀ e' ∈ h, ¬ Settles k e') := by
  simp only [Standing, List.cons_eq_append_iff]
  constructor
  · rintro ⟨earlier, later, ⟨rfl, same⟩ | ⟨first, rfl, rfl⟩, quiet⟩
    · obtain ⟨rfl, rfl⟩ := List.cons.inj same
      exact .inr ⟨rfl, quiet⟩
    · exact .inl ⟨first, later, rfl, quiet⟩
  · rintro (⟨earlier, later, rfl, quiet⟩ | ⟨rfl, quiet⟩)
    · exact ⟨e :: earlier, later, .inr ⟨earlier, rfl, rfl⟩, quiet⟩
    · exact ⟨[], h, .inl ⟨rfl, rfl⟩, quiet⟩

namespace Office

variable {work : Work P C σ} {o : Office P σ} {k : ResourceKind} {p : P}

theorem step_dispatcher (s : Step P C) : (o.step work s).2.dispatcher = o.dispatcher.next s := by
  cases s <;> rfl

theorem step_world (s : Step P C) :
    (o.step work s).2.world = (o.dispatcher.handing? s).toList.foldl (handOver work) o.world := by
  cases s with
  | dispatch a completion =>
    cases held : o.dispatcher.held a.kind with
    | none =>
      simp only [step, dispatch, route, handing?, held]
      rfl
    | some processor => simp [step, dispatch, route, handing?, handOver, held]
  | register | unregister | isRegistered => rfl

theorem held_step (s : Step P C) :
    (o.step work s).2.dispatcher.held k = some p ↔
      (s, (o.step work s).1) = (.register k p, .registered (.ok ())) ∨
        (o.dispatcher.held k = some p ∧ ¬ Settles k (s, (o.step work s).1)) := by
  cases s with
  | register kind q =>
    cases held : o.dispatcher.held kind with
    | some other => simp [step, register, held, Settles]
    | none =>
      by_cases same : kind = k
      · subst same
        simp [step, register, held, put, Settles]
      · simp [step, register, held, put, Settles, same, Ne.symm same]
  | unregister kind =>
    by_cases same : kind = k
    · simp [step, unregister, put, Settles, same]
    · simp [step, unregister, put, Settles, same, Ne.symm same]
  | isRegistered kind => simp [step, Settles]
  | dispatch a completion => simp [step, Settles]

theorem held_after (steps : List (Step P C)) :
    (o.after work steps).dispatcher.held k = some p ↔
      Standing k p (o.history work steps) ∨
        (o.dispatcher.held k = some p ∧ ∀ e ∈ o.history work steps, ¬ Settles k e) := by
  induction steps generalizing o with
  | nil => simp [after, history, Standing]
  | cons s rest ih =>
    have later := ih (o := (o.step work s).2)
    rw [held_step] at later
    rw [history, standing_cons, List.forall_mem_cons]
    refine later.trans ?_
    rw [or_and_right, or_assoc, and_assoc]

theorem world_after (steps : List (Step P C)) :
    (o.after work steps).world = (o.dispatcher.handed steps).foldl (handOver work) o.world := by
  induction steps generalizing o with
  | nil => rfl
  | cons s rest ih =>
    have later := ih (o := (o.step work s).2)
    rw [step_dispatcher, step_world] at later
    simpa [after, handed] using later

theorem after_append (earlier later : List (Step P C)) :
    o.after work (earlier ++ later) = (o.after work earlier).after work later :=
  List.foldl_append

theorem after_cons (s : Step P C) (rest : List (Step P C)) :
    o.after work (s :: rest) = (o.step work s).2.after work rest := rfl

theorem history_append (earlier later : List (Step P C)) :
    o.history work (earlier ++ later) =
      o.history work earlier ++ (o.after work earlier).history work later := by
  induction earlier generalizing o with
  | nil => rfl
  | cons s rest ih => simpa [history, after] using ih

theorem handed_concat (steps : List (Step P C)) (s : Step P C) :
    o.dispatcher.handed (steps ++ [s]) =
      o.dispatcher.handed steps ++ ((o.after work steps).dispatcher.handing? s).toList := by
  induction steps generalizing o with
  | nil => simp [handed, after]
  | cons s' rest ih =>
    have later := ih (o := (o.step work s').2)
    rw [step_dispatcher] at later
    simpa [handed, after] using later

theorem step_register (kind : ResourceKind) (q : P) :
    o.step work (.register kind q) =
      if o.dispatcher.isRegistered kind then
        (.registered (.error (.duplicateProcessor kind)), o)
      else (.registered (.ok ()), { o with dispatcher := o.dispatcher.put kind (some q) }) := by
  cases held : o.dispatcher.held kind <;> simp [step, register, isRegistered, held]

theorem step_dispatch_held {a : Action} (held : o.dispatcher.held a.kind = some p)
    (completion : C) :
    o.step work (.dispatch a completion) =
      (.dispatched (work p a completion o.world).1,
        { o with world := (work p a completion o.world).2 }) := by
  simp [step, dispatch, route, held]

theorem step_dispatch_free {a : Action} (free : o.dispatcher.held a.kind = none)
    (completion : C) :
    o.step work (.dispatch a completion) = (unrouted a, o) := by
  simp only [step, dispatch, route, free]
  rfl

end Office

/-- What has become of an office after these steps, with this history, and what its next step is. -/
structure Routed (work : Work P C σ) (world : σ) (steps : List (Step P C)) (o : Office P σ)
    (h : List (Entry P C)) : Prop where
  held : ∀ k p, o.dispatcher.held k = some p ↔ Standing k p h
  single : ∀ k p q, Standing k p h → Standing k q h → p = q
  refuses : ∀ k p, (∃ q, Standing k q h) →
    o.step work (.register k p) = (.registered (.error (.duplicateProcessor k)), o)
  registers : ∀ k p, (∀ q, ¬ Standing k q h) →
    o.step work (.register k p) =
      (.registered (.ok ()), { o with dispatcher := o.dispatcher.put k (some p) })
  unregisters : ∀ k, o.step work (.unregister k) =
    (.unregistered (o.dispatcher.held k), { o with dispatcher := o.dispatcher.put k none })
  tells : ∀ k, ∃ registered, o.step work (.isRegistered k) = (.told registered, o) ∧
    (registered ↔ ∃ p, Standing k p h)
  hands : ∀ a completion p, Standing a.kind p h →
    o.step work (.dispatch a completion) =
        (.dispatched (work p a completion o.world).1,
          { o with world := (work p a completion o.world).2 }) ∧
      empty.handed (steps ++ [.dispatch a completion]) =
        empty.handed steps ++ [(p, a, completion)]
  panics : ∀ a completion, (∀ p, ¬ Standing a.kind p h) →
    o.step work (.dispatch a completion) = (unrouted a, o) ∧
      empty.handed (steps ++ [.dispatch a completion]) = empty.handed steps
  unheeded : ∀ a completion later, (∀ p, ¬ Standing a.kind p h) →
    (Office.opening world).after work (steps ++ .dispatch a completion :: later) =
        (Office.opening world).after work (steps ++ later) ∧
      ∃ rest, (Office.opening world).history work (steps ++ later) = h ++ rest ∧
        (Office.opening world).history work (steps ++ .dispatch a completion :: later) =
          h ++ (.dispatch a completion, unrouted a) :: rest
  world_eq : o.world = (empty.handed steps).foldl (Office.handOver work) world

/-- Every step finds at most one processor for each kind, the last that was registered and has not
been unregistered. An action goes to the processor of its kind alone, and to nobody where there is
none. -/
theorem after_routed (work : Work P C σ) (world : σ) (steps : List (Step P C)) :
    Routed work world steps ((Office.opening world).after work steps)
      ((Office.opening world).history work steps) := by
  have held (k : ResourceKind) (p : P) :
      ((Office.opening world).after work steps).dispatcher.held k = some p ↔
        Standing k p ((Office.opening world).history work steps) := by
    simp [Office.held_after, Office.opening, empty]
  have free (k : ResourceKind) :
      ((Office.opening world).after work steps).dispatcher.held k = none ↔
        ∀ p, ¬ Standing k p ((Office.opening world).history work steps) := by
    simp [← held, Option.eq_none_iff_forall_ne_some]
  have registered (k : ResourceKind) :
      ((Office.opening world).after work steps).dispatcher.isRegistered k ↔
        ∃ p, Standing k p ((Office.opening world).history work steps) := by
    simp [← held, isRegistered, Option.isSome_iff_exists]
  have handed (s : Step P C) : empty.handed (steps ++ [s]) = empty.handed steps ++
      (((Office.opening world).after work steps).dispatcher.handing? s).toList :=
    Office.handed_concat (o := Office.opening world) steps s
  constructor
  case held => exact held
  case single =>
    intro k p q first second
    rw [← held] at first second
    exact Option.some.inj (first.symm.trans second)
  case refuses =>
    intro k p taken
    rw [Office.step_register, if_pos ((registered k).mpr taken)]
  case registers =>
    intro k p untaken
    rw [Office.step_register, if_neg (mt (registered k).mp (not_exists.mpr untaken))]
  case unregisters => exact fun k => rfl
  case tells => exact fun k => ⟨_, rfl, registered k⟩
  case hands =>
    intro a completion p standing
    have holder := (held a.kind p).mpr standing
    exact ⟨Office.step_dispatch_held holder completion, by simp [handed, handing?, holder]⟩
  case panics =>
    intro a completion nobody
    have unheld := (free a.kind).mpr nobody
    exact ⟨Office.step_dispatch_free unheld completion, by simp [handed, handing?, unheld]⟩
  case unheeded =>
    intro a completion later nobody
    have passed : ((Office.opening world).after work steps).step work (.dispatch a completion) =
        (unrouted a, (Office.opening world).after work steps) :=
      Office.step_dispatch_free ((free a.kind).mpr nobody) completion
    refine ⟨?_, _, Office.history_append steps later, ?_⟩
    · rw [Office.after_append, Office.after_append, Office.after_cons, passed]
    · rw [Office.history_append, Office.history, passed]
  case world_eq => exact Office.world_after (o := Office.opening world) steps

-- A processor that is refused sees nothing, and neither does one that has been removed.
example :
    let work : Work String String (List (String × String)) := fun p _ completion seen =>
      (.ok (), seen ++ [(p, completion)])
    ((Office.opening []).after work
      [.register .coupon "first", .register .coupon "second",
        .dispatch (.synchronizeCoupons ⟨7⟩) "a", .dispatch (.resetStoredProducts ⟨7⟩) "b",
        .unregister .coupon, .dispatch (.synchronizeCoupons ⟨7⟩) "c", .register .coupon "second",
        .dispatch (.synchronizeCoupons ⟨7⟩) "d"]).world =
      [("first", "a"), ("second", "d")] := by
  rfl

end Dispatcher

end SiteCache.Sync
