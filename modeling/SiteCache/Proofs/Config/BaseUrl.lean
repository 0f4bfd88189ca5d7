import SiteCache.Config.Basic
import SiteCache.Proofs.Text.Blank

set_option autoImplicit false

namespace SiteCache

open Text (Bare isBlank dropEndWhile trim)

def schemes : List (List Char) := ["https://".toList, "http://".toList]

theorem afterScheme?_eq_some {url rest : List Char} :
    afterScheme? url = some rest ↔ ∃ scheme ∈ schemes, url = scheme ++ rest := by
  have secure : "https://".toList = ['h', 't', 't', 'p', 's', ':', '/', '/'] := rfl
  have plain : "http://".toList = ['h', 't', 't', 'p', ':', '/', '/'] := rfl
  constructor
  · intro found
    unfold afterScheme? at found
    split at found <;> rename_i front
    · obtain ⟨tail, rfl⟩ := List.isPrefixOf_iff_prefix.mp front
      cases found
      exact ⟨_, List.mem_cons_self, rfl⟩
    · split at found <;> rename_i front'
      · obtain ⟨tail, rfl⟩ := List.isPrefixOf_iff_prefix.mp front'
        cases found
        exact ⟨_, List.mem_cons_of_mem _ List.mem_cons_self, rfl⟩
      · cases found
  · rintro ⟨scheme, member, rfl⟩
    rw [schemes, secure, plain, List.mem_pair] at member
    rcases member with rfl | rfl <;> rfl

theorem head_of_scheme {scheme : List Char} (member : scheme ∈ schemes) (body : List Char) :
    (scheme ++ body).head? = some 'h' := by
  rw [schemes, List.mem_pair] at member
  rcases member with rfl | rfl <;> rfl

theorem dropSlashes {body slashes : List Char} (front : List Char) (nonempty : body ≠ [])
    (last : ∀ c ∈ body.getLast?, isSlash c = false) (cut : ∀ c ∈ slashes, isSlash c) :
    dropEndWhile isSlash (front ++ body ++ slashes) = front ++ body := by
  refine Text.dropEndWhile_eq_iff.mpr ⟨?_, slashes, rfl, cut⟩
  rwa [List.getLast?_append_of_ne_nil _ nonempty]

-- What an accepted URL consists of: blanks and the slashes at its end are cut off.
theorem validateApiUrl_eq_ok {u v : String} :
    validateApiUrl u = .ok v ↔ ∃ scheme ∈ schemes, ∃ body slashes,
      trim u.toList = scheme ++ body ++ slashes ∧ v = .ofList (scheme ++ body) ∧ body ≠ [] ∧
        (∀ c ∈ body.getLast?, isSlash c = false) ∧ ∀ c ∈ slashes, isSlash c := by
  constructor
  · intro accepted
    simp only [validateApiUrl] at accepted
    split at accepted
    · cases accepted
    · split at accepted <;> rename_i found
      · cases accepted
      · rename_i rest
        split at accepted <;> rename_i host
        · cases accepted
        · obtain rfl := Except.ok.inj accepted
          obtain ⟨scheme, member, text⟩ := afterScheme?_eq_some.mp found
          obtain ⟨last, slashes, split, cut⟩ :=
            Text.dropEndWhile_eq_iff.mp (rfl : dropEndWhile isSlash rest = _)
          have nonempty : dropEndWhile isSlash rest ≠ [] := by
            intro empty
            rw [empty, List.nil_append] at split
            exact host (List.all_eq_true.mpr (split ▸ cut))
          have whole : trim u.toList = scheme ++ dropEndWhile isSlash rest ++ slashes := by
            rw [text, List.append_assoc, ← split]
          refine ⟨scheme, member, _, slashes, whole, ?_, nonempty, last, cut⟩
          rw [whole, dropSlashes scheme nonempty last cut]
  · rintro ⟨scheme, member, body, slashes, text, rfl, nonempty, last, cut⟩
    have found : afterScheme? (scheme ++ body ++ slashes) = some (body ++ slashes) :=
      afterScheme?_eq_some.mpr ⟨scheme, member, List.append_assoc _ _ _⟩
    have host : (body ++ slashes).all isSlash = false := by
      rw [List.all_append, Bool.and_eq_false_iff]
      left
      rw [List.all_eq_false]
      have stays := last _ (List.getLast?_eq_some_getLast nonempty)
      exact ⟨_, List.getLast_mem nonempty, by simp [stays]⟩
    have normal := dropSlashes scheme nonempty last cut
    have some_text : (scheme ++ body ++ slashes).isEmpty = false := by simp [nonempty]
    simp only [validateApiUrl, text, some_text, found, host, normal, Bool.false_eq_true, if_false]

-- A blank stands right in front of the slashes that the text ends with, other blanks aside.
def Gapped (u : String) : Prop :=
  ∃ front blank slashes tail, u.toList = front ++ [blank] ++ slashes ++ tail ∧ isBlank blank ∧
    slashes ≠ [] ∧ (∀ c ∈ slashes, isSlash c) ∧ ∀ c ∈ tail, isBlank c

theorem not_slash_of_blank {c : Char} (blank : isBlank c) : isSlash c = false := by
  rw [isSlash, decide_eq_false_iff_not]
  rintro rfl
  cases blank

theorem not_blank_of_slash {c : Char} (slash : isSlash c) : isBlank c = false := by
  rw [← Bool.not_eq_true]
  intro blank
  rw [not_slash_of_blank blank] at slash
  cases slash

theorem gapped_iff {u : String} {front body slashes : List Char}
    (text : trim u.toList = front ++ body ++ slashes) (nonempty : body ≠ [])
    (last : ∀ c ∈ body.getLast?, isSlash c = false) (cut : ∀ c ∈ slashes, isSlash c) :
    Gapped u ↔ ∃ c ∈ body.getLast?, isBlank c := by
  obtain ⟨⟨-, bare⟩, before, after, whole, -, blanks⟩ := Text.trim_eq_iff.mp text
  constructor
  · rintro ⟨front', blank, slashes', tail, whole', isBlank, some_slash, cut', blanks'⟩
    -- The text is cut in the same two ways, whichever way it is put together.
    have trimmed : dropEndWhile Text.isBlank u.toList = before ++ (front ++ body ++ slashes) := by
      refine Text.dropEndWhile_eq_iff.mpr ⟨?_, after, whole, blanks⟩
      rwa [List.getLast?_append_of_ne_nil _ (by simp [nonempty])]
    have trimmed' : dropEndWhile Text.isBlank u.toList = front' ++ [blank] ++ slashes' := by
      refine Text.dropEndWhile_eq_iff.mpr ⟨?_, tail, whole', blanks'⟩
      rw [List.getLast?_append_of_ne_nil _ some_slash]
      exact fun c slash => not_blank_of_slash (cut' c (List.mem_of_getLast? slash))
    have same : front' ++ [blank] = before ++ (front ++ body) := by
      have unslashed := dropSlashes front' (List.cons_ne_nil blank [])
        (by simp [not_slash_of_blank isBlank]) cut'
      have unslashed' := dropSlashes (before ++ front) nonempty last cut
      rw [← unslashed, ← trimmed', trimmed, ← List.append_assoc, ← List.append_assoc, unslashed',
        List.append_assoc]
    have ends := congrArg List.getLast? same
    rw [← List.append_assoc, List.getLast?_append_of_ne_nil _ nonempty,
      List.getLast?_concat] at ends
    exact ⟨blank, ends.symm, isBlank⟩
  · rintro ⟨blank, ends, isBlank⟩
    obtain ⟨inner, rfl⟩ := List.getLast?_eq_some_iff.mp ends
    refine ⟨before ++ front ++ inner, blank, slashes, after, by simp [whole], isBlank, ?_, cut,
      blanks⟩
    rintro rfl
    have clash := bare blank (by simp)
    rw [isBlank] at clash
    cases clash

-- What comes of a URL that is accepted.
structure Settled (u v : String) : Prop where
  scheme : ∃ scheme ∈ schemes, ∃ body, v.toList = scheme ++ body ∧ ∃ c ∈ body, isSlash c = false
  unslashed : ∀ c ∈ v.toList.getLast?, isSlash c = false
  bare : Bare v.toList ↔ ¬ Gapped u
  again : validateApiUrl v = .ok v ↔ ¬ Gapped u

theorem bare_of_again {v : String} (again : validateApiUrl v = .ok v) : Bare v.toList := by
  obtain ⟨scheme, -, body, slashes, text, same, -⟩ := validateApiUrl_eq_ok.mp again
  have short := Text.length_trim_le v.toList
  rw [text, same, String.toList_ofList, List.length_append] at short
  obtain rfl : slashes = [] := List.length_eq_zero_iff.mp (by omega)
  refine Text.trim_eq_self_iff.mp ?_
  rw [text, same, String.toList_ofList, List.append_nil]

theorem settled_of_accepted {u v : String} (accepted : validateApiUrl u = .ok v) :
    Settled u v := by
  obtain ⟨scheme, member, body, slashes, text, rfl, nonempty, last, cut⟩ :=
    validateApiUrl_eq_ok.mp accepted
  have bare : Bare (scheme ++ body) ↔ ¬ Gapped u := by
    rw [gapped_iff text nonempty last cut, Bare, List.getLast?_append_of_ne_nil _ nonempty,
      head_of_scheme member]
    refine Iff.trans (and_iff_right ?_) (by simp)
    rintro c ⟨⟩
    rfl
  refine ⟨⟨scheme, member, body, String.toList_ofList, ?_⟩, ?_, by rwa [String.toList_ofList], ?_⟩
  · exact ⟨_, List.getLast_mem nonempty, last _ (List.getLast?_eq_some_getLast nonempty)⟩
  · rwa [String.toList_ofList, List.getLast?_append_of_ne_nil _ nonempty]
  · rw [← bare]
    constructor
    · intro again
      simpa using bare_of_again again
    · intro bare
      refine validateApiUrl_eq_ok.mpr ⟨scheme, member, body, [], ?_, rfl, nonempty, last, by simp⟩
      rw [String.toList_ofList, List.append_nil]
      exact Text.trim_eq_self_iff.mpr bare

theorem validate_eq_ok {c c' : Config} :
    c.validate = (.ok (), c') ↔ c.checkNumbers = .ok () ∧
      ∃ url, validateApiUrl c.baseUrl = .ok url ∧ c' = { c with baseUrl := url } := by
  unfold Config.validate
  cases validateApiUrl c.baseUrl with
  | error e => simp
  | ok url => simp [eq_comm]

/-- A URL that is accepted is in its normal form and stays as it is from then on, and so is a
configuration that is accepted, unless a blank stood in front of the slashes at the end. -/
theorem accepted_settled (u : String) (c : Config) :
    (∀ v, validateApiUrl u = .ok v → Settled u v) ∧
      ∀ c', c.validate = (.ok (), c') →
        (c'.validate = (.ok (), c') ↔ ¬ Gapped c.baseUrl) := by
  refine ⟨fun v => settled_of_accepted, ?_⟩
  intro c' valid
  obtain ⟨numbers, url, accepted, rfl⟩ := validate_eq_ok.mp valid
  rw [← (settled_of_accepted accepted).again, validate_eq_ok]
  constructor
  · rintro ⟨-, again, accepted', same⟩
    rw [accepted', (Config.mk.inj same).1]
  · intro again
    exact ⟨numbers, url, again, rfl⟩

def slashedConfig : Config :=
  { baseUrl := "\t https://api.example.com/v1// ", siteIds := [7, 12] }

def normalConfig : Config := { slashedConfig with baseUrl := "https://api.example.com/v1" }

theorem slashedConfig_settled :
    slashedConfig.validate = (.ok (), normalConfig) ∧
      Settled slashedConfig.baseUrl normalConfig.baseUrl ∧
      validateApiUrl normalConfig.baseUrl = .ok normalConfig.baseUrl ∧
      normalConfig.validate = (.ok (), normalConfig) := by
  have valid : slashedConfig.validate = (.ok (), normalConfig) := by decide
  have accepted : validateApiUrl slashedConfig.baseUrl = .ok normalConfig.baseUrl := by decide
  have again : validateApiUrl normalConfig.baseUrl = .ok normalConfig.baseUrl := by decide
  have both := accepted_settled slashedConfig.baseUrl slashedConfig
  have settled := both.1 _ accepted
  exact ⟨valid, settled, again, (both.2 _ valid).mpr (settled.again.mp again)⟩

-- The blank behind the host is left at the end, and is cut the second time. Where there is no host,
-- the second time finds that.
theorem gapped_unsettled :
    validateApiUrl "https://a /" = .ok "https://a " ∧ ¬ Bare "https://a ".toList ∧
      validateApiUrl "https://a " = .ok "https://a" ∧
      ({ baseUrl := "https:// /" } : Config).validate = (.ok (), { baseUrl := "https:// " }) ∧
      ({ baseUrl := "https:// " } : Config).validate.1 =
        .error (.invalidUrl "api.base_url has invalid format: missing host") := by
  refine ⟨by decide, ?_, by decide, by decide, by decide⟩
  intro bare
  exact absurd (bare.2 ' ' rfl) (by decide)

end SiteCache
