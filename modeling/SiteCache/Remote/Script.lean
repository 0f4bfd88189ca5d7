import SiteCache.Remote.Service

set_option autoImplicit false

namespace SiteCache.Remote

structure Part (R : Type) where
  served : List (SiteId × List R)
  replies : List (SiteId × List (Reply (List R)))
  failure : Option RemoteError

def Part.empty {R : Type} : Part R := ⟨[], [], none⟩

structure Request where
  kind : ResourceKind
  site : SiteId
  pairs : Pairs
  deriving DecidableEq, Repr

structure Script where
  parts : (k : ResourceKind) → Part (RecordOf k)
  requests : List Request

def Script.empty : Script := ⟨fun _ => .empty, []⟩

def Script.modify (s : Script) (k : ResourceKind) (f : Part (RecordOf k) → Part (RecordOf k)) :
    Script :=
  { s with parts := fun j => if h : j = k then h ▸ f (s.parts k) else s.parts j }

def assign {α β : Type} [DecidableEq α] (entries : List (α × β)) (a : α) (b : β) : List (α × β) :=
  (a, b) :: entries.filter (·.1 ≠ a)

def Part.serve {R : Type} (p : Part R) (site : SiteId) (records : List R) : Part R :=
  { p with served := assign p.served site records }

def Part.script {R : Type} (p : Part R) (site : SiteId) (replies : List (Reply (List R))) :
    Part R :=
  { p with replies := assign p.replies site replies }

def pageOf {R : Type} (records : List R) (page : Page) : List R :=
  (records.drop ((page.number.toNat - 1) * page.size.toNat)).take page.size.toNat

def Part.reply {R : Type} (p : Part R) (site : SiteId) (q : ListQuery) :
    Reply (List R) × Part R :=
  match (p.replies.lookup site).getD [] with
  | reply :: rest => (reply, p.script site rest)
  | [] =>
    match p.failure with
    | some e => (.failed e, p)
    | none =>
      let records := (p.served.lookup site).getD []
      (.records (match q.page with
        | none => records
        | some page => pageOf records page), p)

def Script.service : Service Script where
  list k site q := do
    let s ← get
    let (reply, part) := (s.parts k).reply site q
    let noted : Script := { s with requests := s.requests ++ [⟨k, site, q.toPairs⟩] }
    set (noted.modify k fun _ => part)
    pure reply

end SiteCache.Remote
