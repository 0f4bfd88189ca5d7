import SiteCache.Proofs.Config.BaseUrl
import SiteCache.Proofs.Fallible

set_option autoImplicit false

namespace SiteCache

theorem validatePageSize_eq_ok {size : UInt32} :
    validatePageSize size = .ok () ↔ 1 ≤ size ∧ size ≤ 100 := by
  have refused : size = 0 ∨ maxPageSize < size ↔ ¬ (1 ≤ size ∧ size ≤ 100) := by
    have one : (1 : UInt32).toNat = 1 := rfl
    have largest : maxPageSize.toNat = 100 := rfl
    have hundred : (100 : UInt32).toNat = 100 := rfl
    have zero : (0 : UInt32).toNat = 0 := rfl
    rw [← UInt32.toNat_inj, UInt32.lt_iff_toNat_lt, UInt32.le_iff_toNat_le, UInt32.le_iff_toNat_le]
    omega
  unfold validatePageSize
  split <;> rename_i outside
  · exact iff_of_false nofun (refused.mp outside)
  · exact iff_of_true rfl (not_not.mp (mt refused.mpr outside))

theorem validateMaxPages_eq_ok {maxPages : UInt32} :
    validateMaxPages maxPages = .ok () ↔ 0 < maxPages := by
  rw [validateMaxPages, UInt32.pos_iff_ne_zero]
  by_cases zero : maxPages = 0 <;> simp [zero]

theorem validateSiteId_eq_ok {site : Int64} : validateSiteId site = .ok () ↔ 0 < site := by
  rw [validateSiteId, ← Int64.not_le]
  by_cases low : site ≤ 0 <;> simp [low]

namespace Config

structure WithinLimits (c : Config) : Prop where
  timeout : 0 < c.timeoutSecs
  pageSize : 1 ≤ c.pageSize ∧ c.pageSize ≤ 100
  maxPages : 0 < c.maxPages
  sites : ∀ site ∈ c.siteIds, 0 < site

theorem checkNumbers_eq_ok {c : Config} : c.checkNumbers = .ok () ↔ c.WithinLimits := by
  unfold checkNumbers
  split <;> rename_i timeout
  · refine iff_of_false nofun fun within => ?_
    have positive := within.timeout
    rw [timeout] at positive
    exact absurd positive (by decide)
  · have positive := UInt64.pos_iff_ne_zero.mpr timeout
    simp only [check_bind_eq_ok, mapError_eq_ok, validatePageSize_eq_ok, validateMaxPages_eq_ok,
      forM_eq_ok, validateSiteId_eq_ok]
    exact ⟨fun ⟨size, pages, sites⟩ => ⟨positive, size, pages, sites⟩,
      fun within => ⟨within.pageSize, within.maxPages, within.sites⟩⟩

def normalUrl (url : String) : String := (validateApiUrl url).toOption.getD url

theorem validate_snd (c : Config) : c.validate.2 = { c with baseUrl := normalUrl c.baseUrl } := by
  rw [validate, normalUrl]
  cases validateApiUrl c.baseUrl <;> rfl

theorem validate_fst_eq_ok {c : Config} :
    c.validate.1 = .ok () ↔ (∃ url, validateApiUrl c.baseUrl = .ok url) ∧ c.WithinLimits := by
  rw [← checkNumbers_eq_ok, validate]
  cases validateApiUrl c.baseUrl <;> simp

/-- A configuration is accepted if its base URL is and its numbers are within their limits. Whether
it is accepted or not, nothing but the base URL changes, and that to its normal form: so a refused
configuration is as it was unless its URL is accepted and not in that form yet. -/
theorem validate_outcome (c : Config) :
    (c.validate.1 = .ok () ↔ (∃ url, validateApiUrl c.baseUrl = .ok url) ∧ c.WithinLimits) ∧
      (∀ c', c.validate = (.ok (), c') →
        ∃ url, validateApiUrl c.baseUrl = .ok url ∧ c' = { c with baseUrl := url }) ∧
      ∀ e c', c.validate = (.error e, c') → c' = { c with baseUrl := normalUrl c.baseUrl } ∧
        (c' = c ↔ ∀ url, validateApiUrl c.baseUrl = .ok url → url = c.baseUrl) := by
  refine ⟨validate_fst_eq_ok, fun c' accepted => (validate_eq_ok.mp accepted).2, ?_⟩
  intro e c' refused
  have left : c' = { c with baseUrl := normalUrl c.baseUrl } := by rw [← validate_snd, refused]
  refine ⟨left, ?_⟩
  rw [left, normalUrl]
  cases validateApiUrl c.baseUrl with
  | error e => exact iff_of_true rfl nofun
  | ok url =>
    constructor
    · rintro same _ ⟨⟩
      exact (Config.mk.inj same).1
    · intro normal
      rw [Except.toOption, Option.getD_some, normal url rfl]

def lateFault : Config := { slashedConfig with siteIds := [7, 12, 0] }

theorem slashedConfig_outcome :
    slashedConfig.validate = (.ok (), normalConfig) ∧
      slashedConfig.WithinLimits ∧
      (∃ url, validateApiUrl slashedConfig.baseUrl = .ok url ∧
        normalConfig = { slashedConfig with baseUrl := url }) ∧
      lateFault.validate = (.error (.invalidConfig "site_id must be positive"),
        { normalConfig with siteIds := [7, 12, 0] }) ∧
      ¬ lateFault.WithinLimits := by
  have accepted : slashedConfig.validate = (.ok (), normalConfig) := by decide
  have refused : lateFault.validate = (.error (.invalidConfig "site_id must be positive"),
      { normalConfig with siteIds := [7, 12, 0] }) := by decide
  have outcome := validate_outcome slashedConfig
  have within := (outcome.1.mp (congrArg Prod.fst accepted)).2
  refine ⟨accepted, within, outcome.2.1 _ accepted, refused, fun limits => ?_⟩
  exact absurd (limits.sites 0 (by decide)) (by decide)

theorem refusedTimeout_normalized :
    ({ baseUrl := "https://a.example/", timeoutSecs := 0 } : Config).validate =
        (.error (.invalidConfig "timeout_secs must be greater than 0"),
          { baseUrl := "https://a.example", timeoutSecs := 0 }) ∧
      ({ baseUrl := "https://a.example", timeoutSecs := 0 } : Config) ≠
        { baseUrl := "https://a.example/", timeoutSecs := 0 } := by
  decide

end Config

end SiteCache
