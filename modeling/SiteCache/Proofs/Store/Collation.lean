import Mathlib.Data.List.Lex
import Mathlib.Data.Prod.Lex
import SiteCache.Store.Family

set_option autoImplicit false

namespace SiteCache.Store

-- Behind a NUL a text counts by its length only.
def collationKey : List UInt8 → List Nat
  | [] => []
  | a :: rest =>
    (foldOctet a).toNat :: if a = 0 then [rest.length] else collationKey rest

theorem foldOctet_eq_zero (a : UInt8) : foldOctet a = 0 ↔ a = 0 := by
  unfold foldOctet
  split <;> rename_i letter
  · simp only [UInt8.le_iff_toNat_le] at letter
    simp only [← UInt8.toNat_inj, UInt8.toNat_add]
    have low : (65 : UInt8).toNat = 65 := rfl
    have high : (90 : UInt8).toNat = 90 := rfl
    have step : (32 : UInt8).toNat = 32 := rfl
    have zero : (0 : UInt8).toNat = 0 := rfl
    omega
  · rfl

theorem compareFolded_iff (as bs : List UInt8) :
    (compareFolded as bs = .lt ↔ collationKey as < collationKey bs) ∧
      (compareFolded as bs = .eq ↔ collationKey as = collationKey bs) := by
  induction as generalizing bs with
  | nil => cases bs <;> simp [compareFolded, collationKey]
  | cons a as ih => cases bs with
    | nil => simp [compareFolded, collationKey]
    | cons b bs =>
      simp only [compareFolded, collationKey, List.cons_lt_cons_iff, List.cons.injEq,
        UInt8.lt_iff_toNat_lt]
      rcases Nat.lt_trichotomy (foldOctet a).toNat (foldOctet b).toNat with below | same | above
      · simp [below, below.ne]
      · have nul : a = 0 ↔ b = 0 := by
          rw [← foldOctet_eq_zero, ← foldOctet_eq_zero b, UInt8.toNat_inj.mp same]
        by_cases zero : b = 0
        · simp [nul.mpr zero, zero, compare_lt_iff_lt, List.cons_lt_cons_iff]
        · simp [same, mt nul.mp zero, zero, ih bs]
      · simp [above, above.not_gt, above.ne']

theorem compareNoCase_iff (a b : String) :
    (compareNoCase a b = .lt ↔ collationKey (Text.octets a) < collationKey (Text.octets b)) ∧
      (compareNoCase a b = .eq ↔ collationKey (Text.octets a) = collationKey (Text.octets b)) :=
  compareFolded_iff _ _

-- What the place of a record in a listing depends on.
def listingKey : (k : ResourceKind) → RecordOf k → List Nat ×ₗ Int
  | .sitePlugin, p => toLex (collationKey (Text.octets p.name), 0)
  | .product, p => toLex (collationKey (Text.octets p.name), p.productId.toInt)
  | .coupon, c => toLex (collationKey (Text.octets c.code), c.couponId.toInt)

theorem beforeByText_iff (a b : String) (i j : Int64) :
    beforeByText a b i j ↔
      toLex (collationKey (Text.octets a), i.toInt) ≤
        toLex (collationKey (Text.octets b), j.toInt) := by
  obtain ⟨less, same⟩ := compareNoCase_iff a b
  rw [Prod.Lex.toLex_le_toLex, ← less, ← same]
  unfold beforeByText
  cases compareNoCase a b <;> simp [Int64.le_iff_toInt_le]

theorem listedBefore_iff (k : ResourceKind) (r r' : RecordOf k) :
    Cached.listedBefore r r' ↔ listingKey k r ≤ listingKey k r' := by
  cases k with
  | sitePlugin =>
    obtain ⟨less, same⟩ := compareNoCase_iff r.name r'.name
    change (compareNoCase r.name r'.name != .gt) = true ↔ _
    rw [listingKey, listingKey, Prod.Lex.toLex_le_toLex, ← less, ← same]
    cases compareNoCase r.name r'.name <;> simp
  | product => exact beforeByText_iff r.name r'.name r.productId r'.productId
  | coupon => exact beforeByText_iff r.code r'.code r.couponId r'.couponId

section

variable {k : ResourceKind} {records records' : List (RecordOf k)}

theorem mergeSort_sorted (records : List (RecordOf k)) :
    (records.mergeSort Cached.listedBefore).Pairwise fun r r' =>
      listingKey k r ≤ listingKey k r' := by
  have trans (a b c : RecordOf k) (first : Cached.listedBefore a b)
      (second : Cached.listedBefore b c) : Cached.listedBefore a c := by
    simp only [listedBefore_iff] at *
    exact le_trans first second
  have total (a b : RecordOf k) : Cached.listedBefore a b || Cached.listedBefore b a := by
    simp only [Bool.or_eq_true, listedBefore_iff]
    exact le_total _ _
  have sorted := List.pairwise_mergeSort trans total records
  exact sorted.imp fun before => (listedBefore_iff k _ _).mp before

theorem mergeSort_congr (same : records.Perm records')
    (apart : ∀ r ∈ records, ∀ r' ∈ records, listingKey k r = listingKey k r' → r = r') :
    records.mergeSort Cached.listedBefore = records'.mergeSort Cached.listedBefore := by
  apply List.Perm.eq_of_pairwise _ (mergeSort_sorted records) (mergeSort_sorted records')
  · exact ((List.mergeSort_perm _ _).trans same).trans (List.mergeSort_perm _ _).symm
  · intro r r' member member' before after
    have present := List.mem_mergeSort.mp member
    have present' := same.mem_iff.mpr (List.mem_mergeSort.mp member')
    exact apart r present r' present' (le_antisymm before after)

end

end SiteCache.Store
