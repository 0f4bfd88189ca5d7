import Mathlib.Data.List.Nodup
import SiteCache.Store.Table

set_option autoImplicit false

namespace SiteCache.Store

variable {R K : Type} [DecidableEq K] [NaturalKey K] [Cached R K]

def Row.identity (row : Row R) : SiteId × K := (Resource.site row.record, Resource.key row.record)

structure Kept (supply : Nat) (rows : List (Row R)) : Prop where
  identities : (rows.map Row.identity).Nodup
  ids : (rows.map (·.id)).Nodup
  issued : ∀ row ∈ rows, ∃ n < supply, row.id = .issued n

theorem isOf_iff (site : SiteId) (row : Row R) :
    row.isOf site ↔ Resource.site row.record = site := by
  simp [Row.isOf]

theorem isAt_iff (site : SiteId) (key : K) (row : Row R) :
    row.isAt site key ↔ row.identity = (site, key) := by
  simp [Row.isAt, Row.isOf, Row.identity]

@[simp] theorem overwrite_id (row : Row R) (r : R) : (row.overwrite r).id = row.id := rfl

@[simp] theorem overwrite_identity (row : Row R) (r : R) :
    (row.overwrite r).identity = row.identity := by
  simp [Row.identity, Row.overwrite, Resource.site_rekey, Resource.key_rekey]

@[simp] theorem overwrite_overwrite (row : Row R) (r r' : R) :
    (row.overwrite r).overwrite r' = row.overwrite r' := by
  simp [Row.overwrite, Resource.site_rekey, Resource.key_rekey]

theorem overwrite_of_identity {row : Row R} {r : R}
    (same : row.identity = (Resource.site r, Resource.key r)) :
    row.overwrite r = ⟨row.id, r, []⟩ := by
  simp only [Row.identity, Prod.mk.injEq] at same
  rw [Row.overwrite, same.1, same.2, Resource.rekey_self]

theorem isOf_of_identity {a b : Row R} (same : a.identity = b.identity) (site : SiteId) :
    a.isOf site = b.isOf site := by
  simp only [Row.identity, Prod.mk.injEq] at same
  simp [Row.isOf, same.1]

def overwriteAt (id : RowId) (r : R) (rows : List (Row R)) : List (Row R) :=
  rows.map fun row => if row.id = id then row.overwrite r else row

def freshRow (supply : Nat) (r : R) : Row R := ⟨.issued supply, r, []⟩

-- Whether a row of a site is deleted with the keys that `stale` picks.
def doomed (site : SiteId) (stale : K → Bool) (row : Row R) : Bool :=
  row.isOf site && stale (Resource.key row.record)

theorem overwriteAt_identity (id : RowId) (r : R) (row : Row R) :
    (if row.id = id then row.overwrite r else row).identity = row.identity := by
  split <;> simp

theorem overwriteAt_id (id : RowId) (r : R) (row : Row R) :
    (if row.id = id then row.overwrite r else row).id = row.id := by
  split <;> simp

namespace Kept

variable {supply : Nat} {rows : List (Row R)}

theorem eq_of_identity (kept : Kept supply rows) {a b : Row R} (first : a ∈ rows)
    (second : b ∈ rows) (same : a.identity = b.identity) : a = b :=
  List.inj_on_of_nodup_map kept.identities first second same

theorem eq_of_id (kept : Kept supply rows) {a b : Row R} (first : a ∈ rows)
    (second : b ∈ rows) (same : a.id = b.id) : a = b :=
  List.inj_on_of_nodup_map kept.ids first second same

theorem id_ne_issued (kept : Kept supply rows) {row : Row R} (member : row ∈ rows) {n : Nat}
    (later : supply ≤ n) : row.id ≠ .issued n := by
  obtain ⟨m, below, id⟩ := kept.issued row member
  rw [id]
  intro same
  cases same
  omega

theorem empty (supply : Nat) : Kept supply ([] : List (Row R)) :=
  ⟨List.nodup_nil, List.nodup_nil, by simp⟩

theorem mono (kept : Kept supply rows) {later : Nat} (le : supply ≤ later) : Kept later rows := by
  refine ⟨kept.identities, kept.ids, ?_⟩
  intro row member
  obtain ⟨n, below, id⟩ := kept.issued row member
  exact ⟨n, by omega, id⟩

theorem map (kept : Kept supply rows) (change : Row R → Row R)
    (id : ∀ row, (change row).id = row.id)
    (identity : ∀ row, (change row).identity = row.identity) : Kept supply (rows.map change) := by
  constructor
  · simpa [Function.comp_def, identity] using kept.identities
  · simpa [Function.comp_def, id] using kept.ids
  · intro row member
    obtain ⟨old, present, rfl⟩ := List.mem_map.mp member
    simpa [id] using kept.issued old present

theorem overwriteAt (kept : Kept supply rows) (id : RowId) (r : R) :
    Kept supply (overwriteAt id r rows) :=
  kept.map _ (overwriteAt_id id r) (overwriteAt_identity id r)

theorem append (kept : Kept supply rows) (r : R)
    (absent : rows.any (·.isAt (Resource.site r) (Resource.key r)) = false) :
    Kept (supply + 1) (rows ++ [freshRow supply r]) := by
  constructor
  · rw [List.map_append, List.nodup_append]
    refine ⟨kept.identities, by simp, ?_⟩
    intro a old b new
    obtain ⟨row, member, rfl⟩ := List.mem_map.mp old
    simp only [List.map_cons, List.map_nil, List.mem_singleton] at new
    rw [List.any_eq_false] at absent
    intro same
    exact absent row member ((isAt_iff _ _ _).mpr (same.trans new))
  · rw [List.map_append, List.nodup_append]
    refine ⟨kept.ids, by simp, ?_⟩
    intro a old b new
    obtain ⟨row, member, rfl⟩ := List.mem_map.mp old
    simp only [List.map_cons, List.map_nil, List.mem_singleton] at new
    rw [new]
    exact kept.id_ne_issued member (Nat.le_refl supply)
  · intro row member
    rcases List.mem_append.mp member with old | new
    · exact (kept.mono (Nat.le_succ supply)).issued row old
    · rw [List.mem_singleton.mp new]
      exact ⟨supply, by omega, rfl⟩

theorem filter (kept : Kept supply rows) (keep : Row R → Bool) : Kept supply (rows.filter keep) :=
  ⟨kept.identities.sublist (List.filter_sublist.map _),
    kept.ids.sublist (List.filter_sublist.map _),
    fun row member => kept.issued row (List.mem_filter.mp member).1⟩

theorem find?_isAt (kept : Kept supply rows) (site : SiteId) (key : K) (row : Row R) :
    rows.find? (·.isAt site key) = some row ↔ row ∈ rows ∧ row.identity = (site, key) := by
  constructor
  · intro found
    exact ⟨List.mem_of_find?_eq_some found, (isAt_iff _ _ _).mp (List.find?_some found)⟩
  · rintro ⟨member, identity⟩
    cases found : rows.find? (·.isAt site key) with
    | none =>
      rw [List.find?_eq_none] at found
      exact absurd ((isAt_iff _ _ _).mpr identity) (found row member)
    | some other =>
      have atKey := (isAt_iff _ _ _).mp (List.find?_some found)
      rw [kept.eq_of_identity (List.mem_of_find?_eq_some found) member
        (atKey.trans identity.symm)]

end Kept

end SiteCache.Store
