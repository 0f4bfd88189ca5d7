import SiteCache.Proofs.Sync.Course
import SiteCache.Proofs.Sync.Isolation
import SiteCache.Remote.Script

set_option autoImplicit false

namespace SiteCache.Sync

open Remote (Service Reply)
open Store

section

variable {σ τ : Type} {remote : Service σ} {other : Service τ} {k : ResourceKind} {site : SiteId}
  {q : ListQuery} {paging : Paging} {replies : List (Reply (List (RecordOf k)))}

-- What is left of a fetch.
def goOn (other : Service τ) (site : SiteId) (q : ListQuery) (paging : Paging) (now : τ) :
    Walk.Next (RecordOf k) → Outcome (List (RecordOf k)) × τ
  | .more w => (walk other k site q (limitError k site paging) (w.left + 1) w).run now
  | .done r => (r, now)

theorem goOn_more {w : Walk (RecordOf k)} (left : w.left ≠ 0) (now : τ) :
    goOn other site q paging now (.more w) =
      goOn other site q paging ((other.list k site (w.request q)).run now).2
        (w.take ((other.list k site (w.request q)).run now).1) := by
  rw [goOn, walk_succ, if_neg left]
  obtain ⟨reply, next⟩ := (other.list k site (w.request q)).run now
  dsimp only
  cases took : w.take reply with
  | more w' =>
    have fewer := Task.left_of_take took
    have enough : w'.left + 1 = w.left := by omega
    rw [goOn, enough]
  | done r => rfl

/-- A remote `other` gives replies anew: to each request the next one of them, as long as they are
replies of `remote` to it. -/
def Replays (remote : Service σ) (other : Service τ) (k : ResourceKind) (site : SiteId)
    (holds : List (Reply (List (RecordOf k))) → τ → Prop) : Prop :=
  ∀ (q : ListQuery) (before : σ) (rest : List (Reply (List (RecordOf k)))) (now : τ),
    holds (((remote.list k site q).run before).1 :: rest) now →
      ((other.list k site q).run now).1 = ((remote.list k site q).run before).1 ∧
        holds rest ((other.list k site q).run now).2

variable {holds : List (Reply (List (RecordOf k))) → τ → Prop}

theorem Walked.again (replays : Replays remote other k site holds)
    {next : Walk.Next (RecordOf k)} (walked : Walked remote k site q paging replies next)
    (rest : List (Reply (List (RecordOf k)))) (start : τ) (begun : holds (replies ++ rest) start) :
    ∃ now, holds rest now ∧
      (fetchAll other k paging site q).run start = goOn other site q paging now next := by
  induction walked generalizing rest with
  | start => exact ⟨start, begun, rfl⟩
  | @heard replies w before walked left ih =>
    rw [List.append_assoc, List.singleton_append] at begun
    obtain ⟨now, ready, same⟩ := ih _ begun
    obtain ⟨replied, later⟩ := replays _ before rest now ready
    exact ⟨_, later, by rw [same, goOn_more left, replied]⟩

theorem Fetches.again (replays : Replays remote other k site holds)
    {r : Outcome (List (RecordOf k))} (fetches : Fetches remote k site q paging replies r)
    (start : τ) (begun : holds replies start) :
    ((fetchAll other k paging site q).run start).1 = r := by
  rw [← List.append_nil replies] at begun
  cases fetches with
  | done walked =>
    obtain ⟨now, -, same⟩ := walked.again replays [] start begun
    rw [same]
    rfl
  | overrun walked noneLeft =>
    obtain ⟨now, -, same⟩ := walked.again replays [] start begun
    rw [same, goOn, walk_succ, if_pos noneLeft]

-- A remote that has some replies to give.
def replying (k : ResourceKind) (site : SiteId) (replies : List (Reply (List (RecordOf k)))) :
    Remote.Script :=
  Remote.Script.empty.modify k (·.script site replies)

theorem replying_holds (k : ResourceKind) (site : SiteId)
    (replies : List (Reply (List (RecordOf k)))) :
    (((replying k site replies).parts k).replies.lookup site).getD [] = replies := by
  simp [replying, Remote.Script.modify, Remote.Part.script, Remote.assign]

theorem script_replays : Replays remote Remote.Script.service k site fun replies script =>
    ((script.parts k).replies.lookup site).getD [] = replies := by
  intro q before rest now waiting
  have reply : (now.parts k).reply site q =
      (((remote.list k site q).run before).1, (now.parts k).script site rest) := by
    rw [Remote.Part.reply, waiting]
  have answer : (Remote.Script.service.list k site q).run now =
      (((now.parts k).reply site q).1, ({ now with
        requests := now.requests ++ [⟨k, site, q.toPairs⟩] } : Remote.Script).modify k
          fun _ => ((now.parts k).reply site q).2) := rfl
  rw [answer, reply]
  refine ⟨rfl, ?_⟩
  simp [Remote.Script.modify, Remote.Part.script, Remote.assign]

-- A remote that always gives the same answer to a request for a kind and a site.
def Fixed (remote : Service σ) (k : ResourceKind) (site : SiteId) : Prop :=
  ∀ (q : ListQuery) (now now' : σ),
    ((remote.list k site q).run now).1 = ((remote.list k site q).run now').1

theorem Fixed.replays (fixed : Fixed remote k site) :
    Replays remote remote k site fun _ _ => True :=
  fun q before _ now _ => ⟨fixed q now before, trivial⟩

end

section

variable {σ τ : Type} {remote : Service σ} {other : Service τ} {known : Database → Prop}
  {k : ResourceKind} {site : SiteId} {work : Work} {paging : Paging} {acts : List Act}
  {db : Database} {holds : List (Reply (List (RecordOf k))) → τ → Prop} {now : τ}
  {events : List Event}

def Task.call (t : Task) : Call := ⟨t.errand, t.paging⟩

theorem act_of_gathered (replays : Replays remote other k site holds)
    (begun : holds (heard k acts) now) (gathered : Gathered remote k site work paging acts) :
    ((Call.act other ⟨⟨k, site, work⟩, paging⟩).run ⟨now, db, events⟩).1 =
        ((inSession (Errand.pass ⟨k, site, work⟩ acts) db).1.mapError
          fun e => .error (.storage e)) ∧
      ((Call.act other ⟨⟨k, site, work⟩, paging⟩).run ⟨now, db, events⟩).2.db =
        (inSession (Errand.pass ⟨k, site, work⟩ acts) db).2 := by
  cases work with
  | reset =>
    change ((reset k site).run _).1 = _ ∧ ((reset k site).run _).2.db = _
    rw [reset_run, Errand.pass, inSession_map]
    refine ⟨?_, rfl⟩
    cases (inSession (Session.deleteAll (RecordOf k) site) db).1 <;> rfl
  | synchronize q mode =>
    have fetched := (gathered q mode rfl).again replays now begun
    change ((synchronize other k paging site q mode).run _).1 = _ ∧
      ((synchronize other k paging site q mode).run _).2.db = _
    rw [synchronize_run, fetchAndApply_run]
    cases all : (fetchAll other k paging site q).run now with
    | mk result next =>
      rw [all] at fetched
      subst fetched
      exact ⟨rfl, rfl⟩

theorem act_of_unfetched {q : ListQuery} {mode : ReconcileMode} {f : Failure}
    (replays : Replays remote other k site holds) (begun : holds (heard k acts) now)
    (fetches : Fetches remote k site q paging (heard k acts) (.error f)) :
    ((Call.act other ⟨⟨k, site, .synchronize q mode⟩, paging⟩).run ⟨now, db, events⟩).1 =
        .error f ∧
      ((Call.act other ⟨⟨k, site, .synchronize q mode⟩, paging⟩).run ⟨now, db, events⟩).2.db =
        db := by
  have fetched := fetches.again replays now begun
  change ((synchronize other k paging site q mode).run _).1 = _ ∧
    ((synchronize other k paging site q mode).run _).2.db = _
  rw [synchronize_run, fetchAndApply_run]
  cases all : (fetchAll other k paging site q).run now with
  | mk result next =>
    rw [all] at fetched
    subst fetched
    exact ⟨rfl, rfl⟩

theorem Returned.again {result : Outcome Summary} (replays : Replays remote other k site holds)
    (begun : holds (heard k acts) now) (current : known db)
    (returned : Returned remote known k site work paging acts result) :
    ∃ db, known db ∧
      ((Call.act other ⟨⟨k, site, work⟩, paging⟩).run ⟨now, db, events⟩).1 = result := by
  cases returned with
  | unfetched same fetches =>
    subst same
    exact ⟨db, current, (act_of_unfetched replays begun fetches).1⟩
  | @refused db e before refuses gathered =>
    refine ⟨db, before, ?_⟩
    rw [(act_of_gathered replays begun gathered).1, inSession, refuses]
    rfl
  | @closed db result before ran gathered =>
    exact ⟨db, before, ran ▸ (act_of_gathered replays begun gathered).1⟩

end

end SiteCache.Sync
