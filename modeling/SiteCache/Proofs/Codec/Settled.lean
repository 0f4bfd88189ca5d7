import SiteCache.Proofs.Codec.Stored
import SiteCache.Proofs.Json.Thorough

set_option autoImplicit false

namespace SiteCache.Codec

open Json Shape
open Time (Instant)

theorem settled_of_zonedTime (node : Node) (t : Instant) (done : zonedTime node = .ok t) :
    t.Settled := by
  obtain ⟨s, read⟩ := exists_parse_of_parsed done
  exact Time.settled_of_zoned read

theorem settled_of_bareTime (node : Node) (t : Instant) (done : Wire.bareTime node = .ok t) :
    t.Settled := by
  obtain ⟨s, read⟩ := exists_parse_of_parsed done
  exact Time.settled_of_bare read

theorem requiredTime_yields (name : String) : (required name zonedTime).Yields Instant.Settled :=
  .field settled_of_zonedTime fun _ missing => by cases missing

theorem nullableTime_yields (name : String) :
    (nullable name zonedTime).Yields fun found => ∀ t ∈ found, t.Settled := by
  refine .field (fun node found done t among => ?_) ?_
  · exact settled_of_zonedTime node t (decoded_of_nullable done t among)
  · rintro _ ⟨⟩ t among
    cases among

theorem optionalTime_yields (name : String) :
    (Wire.optional name Wire.bareTime).Yields fun found => ∀ t ∈ found, t.Settled := by
  refine .field (fun node found done t among => ?_) ?_
  · exact settled_of_bareTime node t (decoded_of_nullable done t among)
  · rintro _ ⟨⟩ t among
    cases among

theorem settled_getD {found : Option Instant} {t : Instant} (settled : ∀ a ∈ found, a.Settled)
    (otherwise : t.Settled) : (found.getD t).Settled := by
  cases found with
  | none => exact otherwise
  | some a => exact settled a rfl

theorem settled_epoch : Instant.epoch.Settled := by decide

/-- No time of a record is in a leap second within a minute. -/
def SettledTimes (k : ResourceKind) (r : RecordOf k) : Prop := ∀ t ∈ timesOf k r, t.Settled

theorem settledTimes_sitePlugin (p : SitePlugin) : SettledTimes .sitePlugin p :=
  List.forall_mem_nil _

theorem settledTimes_product {p : Product} :
    SettledTimes .product p ↔ p.dateCreated.Settled ∧ p.dateModified.Settled := by
  simp [SettledTimes, timesOf]

theorem settledTimes_coupon {c : Coupon} :
    SettledTimes .coupon c ↔ (∀ t ∈ c.dateExpires, t.Settled) ∧ c.dateModified.Settled := by
  rw [SettledTimes, timesOf, List.forall_mem_append, List.forall_mem_singleton]
  simp only [Option.mem_toList, Option.mem_def]

-- The fields are peeled off from the last one on, and only those with times say anything.
theorem productShape_yields : productShape.Yields (SettledTimes .product) := by
  unfold productShape
  refine .also_of (requiredTime_yields _) (.also_of (requiredTime_yields _) ?_)
  iterate 14 refine .also ?_
  refine .constant ?_
  intros
  exact settledTimes_product.mpr ⟨‹_›, ‹_›⟩

theorem couponShape_yields : couponShape.Yields (SettledTimes .coupon) := by
  unfold couponShape
  refine .also_of (requiredTime_yields _) ?_
  iterate 4 refine .also ?_
  refine .also_of (nullableTime_yields _) ?_
  iterate 6 refine .also ?_
  refine .constant ?_
  intros
  exact settledTimes_coupon.mpr ⟨‹_›, ‹_›⟩

theorem wireProductShape_yields (site : SiteId) :
    (Wire.productShape site).Yields (SettledTimes .product) := by
  unfold Wire.productShape
  refine .also_of (optionalTime_yields _) (.also_of (optionalTime_yields _) ?_)
  iterate 13 refine .also ?_
  refine .constant ?_
  intros
  rename_i created createdSettled modified modifiedSettled
  have createdSettled := settled_getD createdSettled settled_epoch
  exact settledTimes_product.mpr ⟨createdSettled, settled_getD modifiedSettled createdSettled⟩

theorem wireCouponShape_yields (site : SiteId) :
    (Wire.couponShape site).Yields (SettledTimes .coupon) := by
  unfold Wire.couponShape
  refine .also_of (optionalTime_yields _) ?_
  iterate 4 refine .also ?_
  refine .also_of (optionalTime_yields _) ?_
  iterate 5 refine .also ?_
  refine .constant ?_
  intros
  rename_i expires expiresSettled _ _ _ _ modified modifiedSettled
  exact settledTimes_coupon.mpr ⟨expiresSettled, settled_getD modifiedSettled settled_epoch⟩

theorem settledTimes_of_core {k : ResourceKind} {node : Node} {r : RecordOf k}
    (decoded : (formOf k).core node = .ok r) : SettledTimes k r := by
  cases k with
  | sitePlugin => exact settledTimes_sitePlugin r
  | product => exact productShape_yields.decoder decoded
  | coupon => exact couponShape_yields.decoder decoded

theorem settledTimes_of_wire {k : ResourceKind} {site : SiteId} {node : Node} {r : RecordOf k}
    (decoded : (formOf k).wire site node = .ok r) : SettledTimes k r := by
  cases k with
  | sitePlugin => exact settledTimes_sitePlugin r
  | product => exact (wireProductShape_yields site).decoder decoded
  | coupon => exact (wireCouponShape_yields site).decoder decoded

/-- What a remote has sent, or what has been read before, is written and read back as it is. -/
theorem reread_of_decoded {k : ResourceKind} {node : Node} {r : RecordOf k}
    (decoded : (formOf k).core node = .ok r ∨ ∃ site, (formOf k).wire site node = .ok r) :
    decodeText (formOf k).core ((formOf k).value r).render = .ok r := by
  have settled : SettledTimes k r := by
    rcases decoded with decoded | ⟨site, decoded⟩
    · exact settledTimes_of_core decoded
    · exact settledTimes_of_wire decoded
  rw [decodeText_core, settle_eq_self_iff.mpr settled]

end SiteCache.Codec
