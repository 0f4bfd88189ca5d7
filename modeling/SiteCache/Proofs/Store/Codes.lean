import SiteCache.Proofs.Store.Listing
import SiteCache.Proofs.Text.Lowered

set_option autoImplicit false

namespace SiteCache.Store

open Text (Bare CaseVariant charOctets octets)

theorem compareFolded_eq_iff (as bs : List UInt8) :
    compareFolded as bs = .eq ↔
      (as.takeWhile (· ≠ 0)).map foldOctet = (bs.takeWhile (· ≠ 0)).map foldOctet ∧
        as.length = bs.length := by
  induction as generalizing bs with
  | nil => cases bs <;> simp [compareFolded]
  | cons a as ih =>
    cases bs with
    | nil => simp [compareFolded]
    | cons b bs =>
      by_cases same : foldOctet a = foldOctet b
      · have nul : a = 0 ↔ b = 0 := by rw [← foldOctet_eq_zero, ← foldOctet_eq_zero b, same]
        by_cases zero : b = 0
        · simp [compareFolded, nul.mpr zero, zero]
        · simp [compareFolded, same, mt nul.mp zero, zero, ih bs]
      · have differ : compareFolded (a :: as) (b :: bs) ≠ .eq := by
          rcases UInt8.lt_or_lt_of_ne same with below | above
          · simp [compareFolded, below]
          · simp [compareFolded, above, UInt8.lt_asymm above]
        refine iff_of_false differ ?_
        rintro ⟨fronts, -⟩
        apply same
        by_cases zero : a = 0 <;> by_cases zero' : b = 0 <;> simp [zero, zero'] at fronts
        · rw [zero, zero']
        · exact fronts.1

theorem charOctets_toLower (c : Char) : (charOctets c).map foldOctet = charOctets c.toLower := by
  by_cases ascii : c.toNat < 0x80
  · have each : ∀ n < 0x80, (charOctets (Char.ofNat n)).map foldOctet =
        charOctets (Char.ofNat n).toLower := by decide +kernel
    have here := each c.toNat ascii
    rwa [Char.ofNat_toNat] at here
  · obtain ⟨-, high, -⟩ | ⟨-, same⟩ := Text.toLower_cases c
    · omega
    · have kept : ∀ b ∈ charOctets c, foldOctet b = id b := by
        intro b member
        have beyond := Text.charOctets_beyond (Nat.not_lt.mp ascii) b member
        have last : (90 : UInt8).toNat = 90 := rfl
        rw [foldOctet, if_neg, id]
        rintro ⟨-, letter⟩
        rw [UInt8.le_iff_toNat_le] at letter
        omega
      rw [same, List.map_congr_left kept, List.map_id]

theorem takeWhile_octets (s : List Char) :
    (s.flatMap charOctets).takeWhile (· ≠ 0) =
      (s.takeWhile (· ≠ '\x00')).flatMap charOctets := by
  induction s with
  | nil => rfl
  | cons c s ih =>
    by_cases nul : c = '\x00'
    · subst nul
      rfl
    · have apart : ∀ b ∈ charOctets c, b ≠ 0 := by
        rintro _ member rfl
        by_cases ascii : c.toNat < 0x80
        · rw [Text.charOctets_ascii ascii, List.mem_singleton] at member
          have zero := congrArg UInt8.toNat member
          rw [UInt8.toNat_ofNat', UInt8.toNat_zero, Nat.mod_eq_of_lt (by omega)] at zero
          exact nul (Char.toNat_inj.mp zero.symm)
        · exact absurd (Text.charOctets_beyond (Nat.not_lt.mp ascii) 0 member) (by decide)
      rw [List.flatMap_cons, List.takeWhile_append_of_pos (by simpa using apart), ih]
      simp [nul]

theorem octets_lowered (s : List Char) :
    (s.flatMap charOctets).map foldOctet = octets (.ofList (s.map Char.toLower)) := by
  rw [Text.octets_ofList, List.map_flatMap, List.flatMap_map]
  exact List.flatMap_congr fun c _ => charOctets_toLower c

theorem lowered_inj {s t : List Char} :
    (s.flatMap charOctets).map foldOctet = (t.flatMap charOctets).map foldOctet ↔
      s.map Char.toLower = t.map Char.toLower := by
  rw [octets_lowered, octets_lowered]
  refine ⟨fun same => ?_, fun same => by rw [same]⟩
  exact String.ofList_inj.mp (octets_injective same)

def beforeNul (s : String) : String := .ofList (s.toList.takeWhile (· ≠ '\x00'))

def SameCode (a b : String) : Prop :=
  CaseVariant (beforeNul a) (beforeNul b) ∧ (octets a).length = (octets b).length

theorem eqNoCase_iff (a b : String) : eqNoCase a b ↔ SameCode a b := by
  rw [eqNoCase, compareNoCase, beq_iff_eq, compareFolded_eq_iff]
  simp only [SameCode, CaseVariant, beforeNul, String.toList_ofList]
  rw [Text.octets_eq a, Text.octets_eq b, takeWhile_octets, takeWhile_octets, lowered_inj]

theorem beforeNul_of_plain {s : String} (plain : '\x00' ∉ s.toList) : beforeNul s = s := by
  have whole : s.toList.takeWhile (· ≠ '\x00') = s.toList := by
    refine List.takeWhile_eq_self_iff.mpr fun c member => ?_
    rw [decide_eq_true_eq]
    rintro rfl
    exact plain member
  rw [beforeNul, whole, String.ofList_toList]

theorem length_octets_of_variant {a b : String} (variant : CaseVariant a b) :
    (octets a).length = (octets b).length := by
  have same := congrArg List.length (lowered_inj.mpr variant)
  rwa [List.length_map, List.length_map, ← Text.octets_eq, ← Text.octets_eq] at same

theorem sameCode_iff_of_plain {a b : String} (plain : '\x00' ∉ b.toList) :
    SameCode a b ↔ CaseVariant a b := by
  rw [SameCode, beforeNul_of_plain plain]
  constructor
  · rintro ⟨variant, length⟩
    -- What a NUL in `a` hides would be octets that `b` does not have.
    have front := length_octets_of_variant variant
    have split : octets a = octets (beforeNul a) ++
        (a.toList.dropWhile (· ≠ '\x00')).flatMap charOctets := by
      rw [beforeNul, Text.octets_ofList, ← List.flatMap_append, List.takeWhile_append_dropWhile,
        ← Text.octets_eq]
    rw [split, List.length_append, front] at length
    have none : (a.toList.dropWhile (· ≠ '\x00')).flatMap charOctets = [] :=
      List.length_eq_zero_iff.mp (by omega)
    rw [none, List.append_nil] at split
    rwa [octets_injective split]
  · intro variant
    have plain' : '\x00' ∉ a.toList := mt variant.nul_mem_iff.mp plain
    rw [beforeNul_of_plain plain']
    exact ⟨variant, length_octets_of_variant variant⟩

structure FindsCodes (db : Database) (site : SiteId) : Prop where
  answered : ∀ wanted, ∃ found, db.findByCode site wanted = .ok found ∧
    (found = none ↔
      ∀ c ∈ storedRecords .coupon site db.contents, ¬ SameCode c.code (Text.trimmed wanted)) ∧
    ∀ c, found = some c →
      c ∈ storedRecords .coupon site db.contents ∧ SameCode c.code (Text.trimmed wanted)
  own : ∀ c ∈ storedRecords .coupon site db.contents, '\x00' ∉ c.code.toList →
    ∀ wanted, CaseVariant wanted c.code →
      ((∃ d, db.findByCode site wanted = .ok (some d) ∧ d.site = site ∧ CaseVariant d.code c.code) ↔
        Bare c.code.toList)
  missing : ∀ wanted, '\x00' ∉ wanted.toList →
    (db.findByCode site wanted = .ok none ↔
      ∀ c ∈ storedRecords .coupon site db.contents,
        CaseVariant (Text.trimmed c.code) (Text.trimmed wanted) → ¬ Bare c.code.toList)

section

variable {db : Database} {site : SiteId}

theorem answer_of_readable (isOpen : db.isOpen) (migrated : db.migrated) (k : ResourceKind)
    {α : Type} (a : α) : db.answer k a = .ok a := by
  simp [Database.answer, Database.rows, isOpen, migrated, Except.map]

theorem variant_trimmed_iff {code wanted : String} :
    CaseVariant code (Text.trimmed wanted) ↔
      Bare code.toList ∧ CaseVariant (Text.trimmed code) (Text.trimmed wanted) := by
  constructor
  · intro variant
    have bare := variant.bare_iff.mpr (Text.bare_trimmed wanted)
    exact ⟨bare, by rwa [Text.trimmed_of_bare bare]⟩
  · rintro ⟨bare, variant⟩
    rwa [Text.trimmed_of_bare bare] at variant

/-- A search finds a coupon of the site with the wanted code up to case and the blanks around what
is wanted. Of the codes without a NUL those are found that neither begin nor end with a blank. -/
theorem findByCode_finds (reachable : db.Reachable) (isOpen : db.isOpen) (migrated : db.migrated)
    (site : SiteId) : FindsCodes db site := by
  have searched (wanted : String) : db.findByCode site wanted =
      .ok ((storedRecords .coupon site db.contents).find?
        (eqNoCase ·.code (Text.trimmed wanted))) := by
    rw [Database.findByCode_eq reachable.undamaged, answer_of_readable isOpen migrated]
  have plain_trimmed {wanted : String} (plain : '\x00' ∉ wanted.toList) :
      '\x00' ∉ (Text.trimmed wanted).toList := mt Text.mem_of_mem_trimmed plain
  have found_iff (wanted : String) :
      (storedRecords .coupon site db.contents).find?
          (eqNoCase ·.code (Text.trimmed wanted)) = none ↔
        ∀ c ∈ storedRecords .coupon site db.contents, ¬ SameCode c.code (Text.trimmed wanted) := by
    simp only [List.find?_eq_none, eqNoCase_iff]
  have answered (wanted : String) (c : Coupon)
      (found : (storedRecords .coupon site db.contents).find?
        (eqNoCase ·.code (Text.trimmed wanted)) = some c) :
      c ∈ storedRecords .coupon site db.contents ∧ SameCode c.code (Text.trimmed wanted) := by
    have holds : eqNoCase c.code (Text.trimmed wanted) := by simpa using List.find?_some found
    exact ⟨List.mem_of_find?_eq_some found, (eqNoCase_iff _ _).mp holds⟩
  constructor
  case answered => exact fun wanted => ⟨_, searched wanted, found_iff wanted, answered wanted⟩
  case missing =>
    intro wanted plain
    rw [searched, Except.ok.injEq, found_iff]
    refine forall₂_congr fun c _ => ?_
    rw [sameCode_iff_of_plain (plain_trimmed plain), variant_trimmed_iff, not_and']
  case own =>
    intro c stored plain wanted variant
    have plain' : '\x00' ∉ wanted.toList := mt variant.nul_mem_iff.mp plain
    constructor
    · rintro ⟨d, found, -, variant'⟩
      rw [searched, Except.ok.injEq] at found
      have alike := (sameCode_iff_of_plain (plain_trimmed plain')).mp (answered wanted d found).2
      exact variant'.bare_iff.mp (alike.bare_iff.mpr (Text.bare_trimmed wanted))
    · intro bare
      have trimmed := Text.trimmed_of_bare (variant.bare_iff.mpr bare)
      cases found : (storedRecords .coupon site db.contents).find?
          (eqNoCase ·.code (Text.trimmed wanted)) with
      | none =>
        have absent := (found_iff wanted).mp found c stored
        rw [trimmed, sameCode_iff_of_plain plain'] at absent
        exact absurd variant.symm absent
      | some d =>
        obtain ⟨member, alike⟩ := answered wanted d found
        rw [trimmed, sameCode_iff_of_plain plain'] at alike
        exact ⟨d, by rw [searched, found], site_of_stored member, alike.trans variant⟩

end

-- Codes of another case, with letters that no case folding of the store reaches, with a blank at
-- the end and with a NUL.
def oddlyCoded : Database :=
  (Database.new.commit (Session.after ⟨.empty, 0, true, fun _ => none⟩
    [.insert .coupon (.new ⟨7⟩ 1 "Été10" .epoch), .insert .coupon (.new ⟨7⟩ 2 "save " .epoch),
      .insert .coupon (.new ⟨7⟩ 3 "a\x00b" .epoch)])).2

theorem oddlyCoded_finds : oddlyCoded.Reachable ∧ oddlyCoded.isOpen ∧ oddlyCoded.migrated ∧
    FindsCodes oddlyCoded ⟨7⟩ ∧
    oddlyCoded.findByCode ⟨7⟩ "\u2003ÉTé10" = .ok (some (.new ⟨7⟩ 1 "Été10" .epoch)) ∧
    oddlyCoded.findByCode ⟨7⟩ "été10" = .ok none := by
  have reachable : oddlyCoded.Reachable := .commit _ .new rfl
  refine ⟨reachable, rfl, rfl, findByCode_finds reachable rfl rfl ⟨7⟩, ?_, ?_⟩
  · decide
  · decide

theorem oddlyCoded_missed :
    (.new ⟨7⟩ 2 "save " .epoch : Coupon) ∈ storedRecords .coupon ⟨7⟩ oddlyCoded.contents ∧
      oddlyCoded.findByCode ⟨7⟩ "save " = .ok none ∧
      oddlyCoded.findByCode ⟨7⟩ "a\x00c" = .ok (some (.new ⟨7⟩ 3 "a\x00b" .epoch)) ∧
      ¬ CaseVariant "a\x00b" "a\x00c" := by
  refine ⟨?_, ?_, ?_, ?_⟩
  · decide
  · decide
  · decide
  · unfold CaseVariant
    decide

end SiteCache.Store
