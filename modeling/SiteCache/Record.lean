import SiteCache.Site
import SiteCache.Text.Utf8

set_option autoImplicit false

namespace SiteCache

inductive KeyValue where
  | text (s : String)
  | integer (n : Int64)
  deriving DecidableEq, Repr

class NaturalKey (K : Type) [DecidableEq K] where
  le : K → K → Bool
  value : K → KeyValue
  le_total : ∀ a b, le a b || le b a
  le_trans : ∀ a b c, le a b → le b c → le a c
  le_antisymm : ∀ a b, le a b → le b a → a = b

def octetsLe : List UInt8 → List UInt8 → Bool
  | [], _ => true
  | _ :: _, [] => false
  | a :: as, b :: bs => a < b || (a == b && octetsLe as bs)

theorem octetsLe_total (as bs : List UInt8) : octetsLe as bs || octetsLe bs as := by
  induction as generalizing bs with
  | nil => simp [octetsLe]
  | cons a as ih =>
    cases bs with
    | nil => simp [octetsLe]
    | cons b bs =>
      have tails := ih bs
      rcases Nat.lt_trichotomy a.toNat b.toNat with below | same | above
      · simp [octetsLe, UInt8.lt_iff_toNat_lt.mpr below]
      · obtain rfl := UInt8.toNat_inj.mp same
        simpa [octetsLe] using tails
      · simp [octetsLe, UInt8.lt_iff_toNat_lt.mpr above]

theorem octetsLe_trans (as bs cs : List UInt8) (first : octetsLe as bs) (second : octetsLe bs cs) :
    octetsLe as cs := by
  induction as generalizing bs cs with
  | nil => simp [octetsLe]
  | cons a as ih =>
    cases bs with
    | nil => simp [octetsLe] at first
    | cons b bs =>
      cases cs with
      | nil => simp [octetsLe] at second
      | cons c cs =>
        simp only [octetsLe, Bool.or_eq_true, decide_eq_true_eq, Bool.and_eq_true,
          beq_iff_eq] at first second ⊢
        rcases first with below | ⟨same, tails⟩
        · rcases second with below' | ⟨same', -⟩
          · exact .inl (UInt8.lt_trans below below')
          · exact .inl (same' ▸ below)
        · rcases second with below' | ⟨same', tails'⟩
          · exact .inl (same ▸ below')
          · exact .inr ⟨same.trans same', ih bs cs tails tails'⟩

theorem octetsLe_antisymm (as bs : List UInt8) (first : octetsLe as bs)
    (second : octetsLe bs as) : as = bs := by
  induction as generalizing bs with
  | nil =>
    cases bs with
    | nil => rfl
    | cons b bs => simp [octetsLe] at second
  | cons a as ih =>
    cases bs with
    | nil => simp [octetsLe] at first
    | cons b bs =>
      simp only [octetsLe, Bool.or_eq_true, decide_eq_true_eq, Bool.and_eq_true,
        beq_iff_eq] at first second
      rcases first with below | ⟨same, tails⟩
      · rcases second with above | ⟨same', -⟩
        · exact absurd (UInt8.lt_trans below above) (UInt8.lt_irrefl a)
        · exact absurd (same' ▸ below) (UInt8.lt_irrefl _)
      · rcases second with above | ⟨-, tails'⟩
        · exact absurd (same ▸ above) (UInt8.lt_irrefl _)
        · rw [same, ih bs tails tails']

theorem octets_injective {a b : String} (same : Text.octets a = Text.octets b) : a = b := by
  apply String.toByteArray_inj.mp
  apply ByteArray.ext
  exact Array.toList_inj.mp same

instance : NaturalKey String where
  le a b := octetsLe (Text.octets a) (Text.octets b)
  value := .text
  le_total _ _ := octetsLe_total _ _
  le_trans _ _ _ := octetsLe_trans _ _ _
  le_antisymm _ _ first second := octets_injective (octetsLe_antisymm _ _ first second)

instance : NaturalKey Int64 where
  le a b := decide (a ≤ b)
  value := .integer
  le_total a b := by
    simp only [Int64.le_iff_toInt_le, Bool.or_eq_true, decide_eq_true_eq]
    omega
  le_trans a b c := by
    simp only [Int64.le_iff_toInt_le, decide_eq_true_eq]
    omega
  le_antisymm a b first second := by
    simp only [Int64.le_iff_toInt_le, decide_eq_true_eq] at first second
    exact Int64.toInt_inj.mp (Int.le_antisymm first second)

/-- A kind of record with keys of type `K`. `rekey` gives a record another identity and keeps the
rest of it. -/
class Resource (R : Type) (K : outParam Type) [DecidableEq K] [NaturalKey K] where
  kind : ResourceKind
  site : R → SiteId
  key : R → K
  rekey : R → SiteId → K → R
  site_rekey : ∀ r s k, site (rekey r s k) = s
  key_rekey : ∀ r s k, key (rekey r s k) = k
  rekey_self : ∀ r, rekey r (site r) (key r) = r
  rekey_rekey : ∀ r s k s' k', rekey (rekey r s k) s' k' = rekey r s' k'

end SiteCache
