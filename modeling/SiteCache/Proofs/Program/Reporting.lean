import SiteCache.Program.Run
import SiteCache.Proofs.Sync.Watching

set_option autoImplicit false

namespace SiteCache.Program

open Store (Database)
open Sync (Action Advance Job Outcome Stores SyncResult Watch told?)

section

variable {σ α β : Type} {m m' : Machine σ}

theorem run_bind (x : CommandM σ α) (f : α → CommandM σ β) (m : Machine σ) :
    (x >>= f).run m =
      match x.run m with
      | (.ok a, m') => (f a).run m'
      | (.error e, m') => (.error e, m') := by
  change (ExceptT.bindCont f (x.run m).1).run (x.run m).2 = _
  rcases x.run m with ⟨r, m'⟩
  cases r <;> rfl

theorem run_bind_ok {x : CommandM σ α} {a : α} (ran : x.run m = (.ok a, m'))
    (f : α → CommandM σ β) : (x >>= f).run m = (f a).run m' := by
  rw [run_bind, ran]

theorem run_get (m : Machine σ) : (get : CommandM σ (Machine σ)).run m = (.ok m, m) := rfl

theorem run_report (expected : Nat) (told : List Told) (m : Machine σ) :
    (report expected told).run m =
      ((complaint? expected told).elim (.ok ()) fun message => .error ⟨message, none⟩,
        { m with output := m.output ++ told.map Told.line }) := by
  unfold report
  rw [run_bind]
  cases complaint? expected told <;> rfl

theorem output_openDatabase (path : String) (m : Machine σ) :
    ((openDatabase path).run m).2.output = m.output := by
  have kept (files : Files Store.FileContent) : ((do
      set { m with files := files }
      let db ← orComplain (fun e => ⟨"opening " ++ path, some e.message⟩)
        (Database.openFile files path)
      set { m with files := Database.closeFile files path db }
      pure db : CommandM σ Database).run m).2.output = m.output := by
    cases Database.openFile files path <;> rfl
  unfold openDatabase
  rw [run_bind_ok (run_get m)]
  dsimp only
  split
  · exact kept m.files
  · rw [run_bind]
    cases m.files.createDirectories _ with
    | error e => rfl
    | ok files => exact kept files

end

def operationsOf (sites : List SiteId) (kinds : List ResourceKind) : List (SiteId × ResourceKind) :=
  sites.flatMap fun site => kinds.map (site, ·)

theorem length_operationsOf (sites : List SiteId) (kinds : List ResourceKind) :
    (operationsOf sites kinds).length = sites.length * kinds.length := by
  simp [operationsOf, List.length_flatMap]

theorem actionsFor_operations (sites : List SiteId) (kinds : List ResourceKind)
    (filter : ProductFilter) (order : ProductSortOrder) :
    (actionsFor sites kinds filter order).map (fun a => (a.site, a.kind)) =
      operationsOf sites kinds := by
  have asked (site : SiteId) (kind : ResourceKind) :
      ((actionFor filter order site kind).site, (actionFor filter order site kind).kind) =
        (site, kind) := by
    cases kind <;> rfl
  simp [actionsFor, operationsOf, List.map_flatMap, Function.comp_def, asked]

section

variable {σ : Type}

theorem foldl_spawn (actions : List Action) (s : Stores σ Action) :
    actions.foldl (fun s a => s.spawn a a) s = { s with
      queue.handles := s.queue.handles + actions.length
      spawned := s.spawned ++ actions.map fun a => ⟨a, s.taskOf a, true⟩ } := by
  induction actions generalizing s with
  | nil => simp
  | cons a rest ih =>
    rw [List.foldl_cons, ih]
    simp [Stores.spawn, Sync.CallbackQueue.clone, Stores.taskOf, Stores.pagingOf, Nat.add_comm,
      Nat.add_left_comm]

variable (paging : Sync.Paging) (remote : σ) (db : Database) (actions : List Action)

theorem started_eq : started paging remote db actions =
    ⟨paging, ⟨⟨remote, db, []⟩, false, fun _ => .empty, false⟩,
      { Sync.CallbackQueue.queued with handles := actions.length },
      actions.map fun a => ⟨a, (started paging remote db []).taskOf a, true⟩⟩ := by
  rw [started, foldl_spawn]
  simp [Sync.CallbackQueue.queued, Sync.CallbackQueue.dropHandles, started, Stores.taskOf,
    Stores.pagingOf]

theorem started_rested : (started paging remote db actions).shared.Rested := by
  rw [started_eq]
  exact ⟨rfl, fun _ _ => rfl⟩

theorem started_fresh : ∀ w ∈ (started paging remote db actions).spawned, w.pending = true ∧
    ∃ (s : Stores σ Action) (a : Action), w.task = s.taskOf a := by
  rw [started_eq]
  simp only [List.mem_map]
  rintro w ⟨a, -, rfl⟩
  exact ⟨rfl, _, a, rfl⟩

theorem calls_started :
    (actions.map fun a => (a, (started paging remote db actions).callOf a)).map Prod.fst =
      actions := by
  rw [List.map_map]
  exact List.map_id actions

theorem started_kept : Watch.Kept
    (actions.map fun a => (a, (started paging remote db actions).callOf a))
    ⟨started paging remote db actions, []⟩ := by
  have calls : (started paging remote db actions).spawned.map
      (fun w => (w.completion, w.task.call)) =
        actions.map fun a => (a, (started paging remote db actions).callOf a) := by
    rw [started_eq, List.map_map]
    rfl
  rw [← calls, started_eq]
  exact .opening (by simp) (by simp) rfl rfl

theorem settle_watched (service : Remote.Service σ) : ∃ advances,
    let d := Watch.after service ⟨started paging remote db actions, []⟩ advances
    d.stores.queue.handles = 0 ∧
      (Stores.settle service (started paging remote db actions)).queue = d.stores.queue := by
  let start : Watch σ Action := ⟨started paging remote db actions, []⟩
  obtain ⟨advances, queue, settled⟩ := start.exists_settle service [] start.stores.spawned rfl
    (by simp) (started_fresh _ _ _ _) (started_rested _ _ _ _)
  have kept : (start.after service advances).Kept _ :=
    (started_kept paging remote db actions).after advances
  exact ⟨advances, kept.released_iff.mpr settled, queue.symm⟩

end

section

variable {σ : Type} {calls : List (Action × Sync.Call)} {d : Watch σ Action}

theorem toldBy_eq (kept : d.Kept calls) : toldBy d.stores.queue =
    d.given.map fun g => ⟨g.2.completion.kind, g.2.completion.site, g.2.result⟩ := by
  change (d.stores.queue.ran ++ d.stores.queue.waiting).map _ = _
  rw [kept.ordered, List.map_map]
  rfl

end

def died : Outcome Summary → Bool
  | .error (.crash _) => true
  | _ => false

def failed : Outcome Summary → Bool
  | .error (.error _) => true
  | _ => false

def shortText (count expected : Nat) (what : String) : String :=
  Text.natText count ++ " of " ++ Text.natText expected ++ " operations " ++ what

structure Truthful (sites : List SiteId) (kinds : List ResourceKind) (ends : List (Outcome Summary))
    (told : List (Nat × SyncResult)) (printed : List String) (result : Except Complaint Unit) :
    Prop where
  complete : ends.length = sites.length * kinds.length
  once : (told.map Prod.fst).Nodup
  told_iff : ∀ i r, (i, r) ∈ told ↔ ends[i]? = some (r.mapError .error)
  lines : List.Forall₂ (fun (i, r) line => ∃ site kind,
    (operationsOf sites kinds)[i]? = some (site, kind) ∧ line = Told.line ⟨kind, site, r⟩)
    told printed
  succeeds : (Ending.of printed result).status = 0 ↔ ∀ e ∈ ends, ∃ summary, e = .ok summary
  missing : 0 < ends.countP died → result = .error ⟨shortText (ends.countP died)
    (sites.length * kinds.length) "ended without reporting a result", none⟩
  failing : ends.countP died = 0 → 0 < ends.countP failed → result = .error ⟨shortText
    (ends.countP failed) (sites.length * kinds.length) "failed", none⟩

theorem complaint?_eq (expected : Nat) (told : List Told) : complaint? expected told =
    if 0 < expected - told.length then
      some (shortText (expected - told.length) expected "ended without reporting a result")
    else if 0 < told.countP Told.hasFailed then
      some (shortText (told.countP Told.hasFailed) expected "failed")
    else none := by
  rw [List.countP_eq_length_filter]
  rfl

theorem died_eq : died = fun e => !(told? e).isSome := by
  funext e
  cases e with
  | ok summary => rfl
  | error f => cases f <;> rfl

theorem failed_eq : failed = fun e => (told? e).any fun r => !r.toBool := by
  funext e
  cases e with
  | ok summary => rfl
  | error f => cases f <;> rfl

theorem all_ok_iff (ends : List (Outcome Summary)) :
    (∀ e ∈ ends, ∃ summary, e = .ok summary) ↔ ends.countP died = 0 ∧ ends.countP failed = 0 := by
  rw [List.countP_eq_zero, List.countP_eq_zero, ← forall₂_and]
  refine forall₂_congr fun e _ => ?_
  cases e with
  | ok summary => simp [died, failed]
  | error f => cases f <;> simp [died, failed]

theorem length_told_add (ends : List (Outcome Summary)) :
    (ends.countP fun e => (told? e).isSome) + ends.countP died = ends.length := by
  rw [List.length_eq_countP_add_countP fun e => (told? e).isSome]
  congr 1
  refine List.countP_congr fun e _ => ?_
  simp [died_eq]

section

variable {σ : Type} {paging : Sync.Paging} {remote : σ} {db : Database} {sites : List SiteId}
  {kinds : List ResourceKind} {filter : ProductFilter} {order : ProductSortOrder}
  {d : Watch σ Action} {ends : List (Outcome Summary)} {calls : List (Action × Sync.Call)}

theorem operation_of_given (kept : d.Kept calls)
    (asked : calls.map Prod.fst = actionsFor sites kinds filter order) {i : Nat} {job : Job Action}
    (delivered : (i, job) ∈ d.given) :
    (operationsOf sites kinds)[i]? = some (job.completion.site, job.completion.kind) := by
  obtain ⟨w, found, -, told⟩ := (kept.tallied.given_iff i job).mp delivered
  have started : calls[i]? = some (w.completion, w.task.call) := by
    rw [← kept.accepted, List.getElem?_map, found]
    rfl
  rw [← actionsFor_operations sites kinds filter order, ← asked, List.getElem?_map,
    List.getElem?_map, started, ((w.job?_iff job).mp told).1]
  rfl

theorem length_ends (kept : d.Kept calls)
    (asked : calls.map Prod.fst = actionsFor sites kinds filter order)
    (ended : d.stores.spawned.map (·.task.result?) = ends.map some) :
    ends.length = sites.length * kinds.length := by
  have results := congrArg List.length ended
  have accepted := congrArg List.length kept.accepted
  have actions := congrArg List.length asked
  have operations := congrArg List.length (actionsFor_operations sites kinds filter order)
  rw [length_operationsOf] at operations
  simp only [List.length_map] at results accepted actions operations
  omega

section

variable (kept : d.Kept calls) (released : d.stores.queue.handles = 0)
  (ended : d.stores.spawned.map (·.task.result?) = ends.map some)

include kept released ended

theorem length_toldBy_add :
    (toldBy d.stores.queue).length + ends.countP died = ends.length := by
  have counted := kept.countP_given released ended fun _ => true
  rw [← length_told_add, toldBy_eq kept, List.length_map, ← List.countP_true, counted]
  simp

theorem countP_toldBy : (toldBy d.stores.queue).countP Told.hasFailed = ends.countP failed := by
  have counted := kept.countP_given released ended fun r => !r.toBool
  rw [toldBy_eq kept, List.countP_map, failed_eq]
  exact counted

theorem truthful_of_released
    (asked : calls.map Prod.fst = actionsFor sites kinds filter order) :
    Truthful sites kinds ends (d.given.map fun g => (g.1, g.2.result))
      ((toldBy d.stores.queue).map Told.line)
      ((complaint? (sites.length * kinds.length) (toldBy d.stores.queue)).elim (.ok ())
        fun message => .error ⟨message, none⟩) := by
  have complete := length_ends kept asked ended
  have missing : sites.length * kinds.length - (toldBy d.stores.queue).length =
      ends.countP died := by
    have whole := length_toldBy_add kept released ended
    omega
  rw [complaint?_eq, missing, countP_toldBy kept released ended]
  constructor
  case complete => exact complete
  case once =>
    rw [List.map_map]
    exact kept.tallied.once
  case told_iff => exact kept.given_iff released ended
  case lines =>
    rw [toldBy_eq kept, List.map_map, List.forall₂_map_left_iff, List.forall₂_map_right_iff,
      List.forall₂_same]
    rintro ⟨i, job⟩ delivered
    exact ⟨_, _, operation_of_given kept asked delivered, rfl⟩
  case succeeds =>
    rw [all_ok_iff]
    rcases Nat.eq_zero_or_pos (ends.countP died) with none_died | some_died
    · rcases Nat.eq_zero_or_pos (ends.countP failed) with none_failed | some_failed
      · exact iff_of_true (by simp [none_died, none_failed, Ending.of]) ⟨none_died, none_failed⟩
      · exact iff_of_false (by simp [none_died, some_failed, Ending.of]) (by omega)
    · exact iff_of_false (by simp [some_died, Ending.of]) (by omega)
  case missing =>
    intro some_died
    rw [if_pos some_died]
    rfl
  case failing =>
    intro none_died some_failed
    rw [if_neg (by omega), if_pos some_failed]
    rfl

end

end

section

variable {σ : Type} {drive : Drive σ} {vars : Variables} {transport : Remote.Transport σ}
  {c : Config} {m opened : Machine σ} {db : Database} {base : Url}

theorem run_runActions (opens : (openDatabase (c.databaseFile vars)).run m = (.ok db, opened))
    (connects : Sync.connect c.baseUrl c.userAgent = .ok base) (actions : List Action)
    {told : List Told} (tells : toldBy (drive (Remote.httpService base transport)
      (started c.paging opened.remote db actions)).queue = told) :
    ((runActions drive vars transport c actions).run m).1 =
        (complaint? actions.length told).elim (.ok ()) (fun message => .error ⟨message, none⟩) ∧
      ((runActions drive vars transport c actions).run m).2.output =
        m.output ++ told.map Told.line := by
  have output := output_openDatabase (c.databaseFile vars) m
  have connected : (orComplain complaintOf (Sync.connect c.baseUrl c.userAgent)).run opened =
      (.ok base, opened) := by
    rw [connects]
    rfl
  rw [opens] at output
  subst tells
  unfold runActions
  rw [run_bind_ok opens, run_bind_ok connected, ← output]
  exact ⟨congrArg Prod.fst (run_report _ _ _),
    congrArg (fun r : Except Complaint Unit × Machine σ => r.2.output) (run_report _ _ _)⟩

theorem syncSites_eq {named : List SiteId} (some_site : chosenSites c named ≠ [])
    (resource : Option ResourceKind) (filter : ProductFilter) (order : ProductSortOrder) :
    syncSites drive vars transport c named resource filter order =
      runActions drive vars transport c
        (actionsFor (chosenSites c named) (chosenKinds resource) filter order) := by
  have chosen : (chosenSites c named).isEmpty = false := by simpa using some_site
  simp [syncSites, chosen]

theorem runActions_truthful {sites : List SiteId} {kinds : List ResourceKind}
    {filter : ProductFilter} {order : ProductSortOrder} {d : Watch σ Action}
    {calls : List (Action × Sync.Call)} {ends : List (Outcome Summary)}
    (opens : (openDatabase (c.databaseFile vars)).run m = (.ok db, opened))
    (connects : Sync.connect c.baseUrl c.userAgent = .ok base) (kept : d.Kept calls)
    (asked : calls.map Prod.fst = actionsFor sites kinds filter order)
    (released : d.stores.queue.handles = 0)
    (ended : d.stores.spawned.map (·.task.result?) = ends.map some)
    (driven : (drive (Remote.httpService base transport) (started c.paging opened.remote db
      (actionsFor sites kinds filter order))).queue = d.stores.queue) :
    ∃ printed,
      ((runActions drive vars transport c (actionsFor sites kinds filter order)).run m).2.output =
        m.output ++ printed ∧
      Truthful sites kinds ends (d.given.map fun g => (g.1, g.2.result)) printed
        ((runActions drive vars transport c (actionsFor sites kinds filter order)).run m).1 := by
  have count : (actionsFor sites kinds filter order).length = sites.length * kinds.length := by
    rw [← length_operationsOf, ← actionsFor_operations _ _ filter order, List.length_map]
  obtain ⟨result, output⟩ := run_runActions opens connects _ (congrArg toldBy driven)
  rw [result, count]
  exact ⟨_, output, truthful_of_released kept released ended asked⟩

/-- Whatever order the operations of a synchronization come to their ends in, and whichever of them
die, the runner stops when all of them have ended, and the report is then about all of them. The
command takes one of these orders. -/
theorem syncSites_truthful {named : List SiteId} {resource : Option ResourceKind}
    {filter : ProductFilter} {order : ProductSortOrder} (some_site : chosenSites c named ≠ [])
    (opens : (openDatabase (c.databaseFile vars)).run m = (.ok db, opened))
    (connects : Sync.connect c.baseUrl c.userAgent = .ok base) :
    let service := Remote.httpService base transport
    let start := started c.paging opened.remote db
      (actionsFor (chosenSites c named) (chosenKinds resource) filter order)
    (∀ advances, let d := Watch.after service ⟨start, []⟩ advances
      d.stores.spawned.map (fun w => (w.task.site, w.task.kind)) =
          operationsOf (chosenSites c named) (chosenKinds resource) ∧
        (d.stores.queue.runNext.1 = some false ↔
          (∀ w ∈ d.stores.spawned, w.pending = false) ∧
            d.stores.queue.ran = d.given.map Prod.snd) ∧
        (d.stores.queue.handles = 0 → ∀ drive : Drive σ,
          (drive service start).queue = d.stores.queue → ∃ ends printed,
            d.stores.spawned.map (·.task.result?) = ends.map some ∧
            ((syncSites drive vars transport c named resource filter order).run m).2.output =
              m.output ++ printed ∧
            Truthful (chosenSites c named) (chosenKinds resource) ends
              (d.given.map fun g => (g.1, g.2.result)) printed
              ((syncSites drive vars transport c named resource filter order).run m).1)) ∧
      ∃ advances, let d := Watch.after service ⟨start, []⟩ advances
        d.stores.queue.handles = 0 ∧ (Stores.settle service start).queue = d.stores.queue := by
  intro service start
  refine ⟨fun advances => ?_, settle_watched _ _ _ _ service⟩
  intro d
  have kept : d.Kept _ := (started_kept c.paging opened.remote db _).after advances
  have asked := congrArg (List.map fun call => (call.2.errand.site, call.2.errand.kind))
    kept.accepted
  rw [List.map_map, List.map_map] at asked
  refine ⟨asked.trans (actionsFor_operations _ _ filter order), kept.stops_iff, ?_⟩
  intro released drive driven
  obtain ⟨ends, ended⟩ := kept.exists_ends released
  obtain ⟨printed, output, truthful⟩ := runActions_truthful opens connects kept
    (calls_started _ _ _ _) released ended driven
  rw [← syncSites_eq some_site] at output truthful
  exact ⟨ends, printed, ended, output, truthful⟩

end

def lateRemote : Remote.Transport Nat where
  get _ asked := (if asked = 0 then .error .timedOut else .ok ⟨200, [0x5B, 0x5D]⟩, asked + 1)

def lateConfig : Config := { baseUrl := "http://h", databasePath := some "late.db" }

def lateBase : Url := ⟨"http", some ⟨"", .name "h", none⟩, .segments [""], none, none⟩

def lateSites : List SiteId := [⟨7⟩, ⟨7⟩, ⟨9⟩]

def lateAdvances : List (Advance Nat) :=
  List.replicate 9 (.work 2) ++ [.next] ++ List.replicate 12 (.work 0) ++
    List.replicate 2 (.work 1) ++ [.die 1 "out of memory", .work 1, .next]

def lateDrive : Drive Nat :=
  fun service stores => (Watch.after service ⟨stores, []⟩ lateAdvances).stores

def lateStart : Stores Nat Action :=
  started lateConfig.paging 0 .new (actionsFor (chosenSites lateConfig lateSites)
    (chosenKinds (some .coupon)) .none .dateDescending)

def lateEnd : Watch Nat Action :=
  Watch.after (Remote.httpService lateBase lateRemote) ⟨lateStart, []⟩ lateAdvances

def lateRun : Except Complaint Unit × Machine Nat :=
  (syncSites lateDrive (fun _ => none) lateRemote lateConfig lateSites (some .coupon) .none
    .dateDescending).run ⟨⟨[]⟩, 0, []⟩

theorem lateRun_truthful :
    lateEnd.given.map Prod.fst = [2, 0] ∧
      lateRun.1 = .error ⟨"1 of 3 operations ended without reporting a result", none⟩ ∧
      lateRun.2.output =
        ["site 9        coupon       FAILED: Remote error: Request timed out (retryable)",
          "site 7        coupon       0 inserted, 0 updated, 0 deleted"] ∧
      ∃ ends printed,
        lateEnd.stores.spawned.map (fun w => (w.task.site, w.task.kind)) =
          operationsOf lateSites [.coupon] ∧
        lateEnd.stores.spawned.map (·.task.result?) = ends.map some ∧
        lateRun.2.output = [] ++ printed ∧
        Truthful lateSites [.coupon] ends (lateEnd.given.map fun g => (g.1, g.2.result)) printed
          lateRun.1 := by
  have opens : (openDatabase (lateConfig.databaseFile fun _ => none)).run ⟨⟨[]⟩, 0, []⟩ =
      (.ok .new, ⟨⟨[(["late.db"], .file (.database .new))]⟩, (0 : Nat), []⟩) := rfl
  have connects : Sync.connect lateConfig.baseUrl lateConfig.userAgent = .ok lateBase := rfl
  have some_site : chosenSites lateConfig lateSites ≠ [] := by decide
  have released : lateEnd.stores.queue.handles = 0 := by decide +kernel
  have driven : (lateDrive (Remote.httpService lateBase lateRemote) lateStart).queue =
      lateEnd.stores.queue := rfl
  refine ⟨by decide +kernel, by decide +kernel, by decide +kernel, ?_⟩
  obtain ⟨asked, -, report⟩ := (syncSites_truthful some_site opens connects).1 lateAdvances
  obtain ⟨ends, printed, ended, output, truthful⟩ := report released lateDrive driven
  unfold lateRun
  exact ⟨ends, printed, asked, ended, output, truthful⟩

end SiteCache.Program
