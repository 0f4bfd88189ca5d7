set_option autoImplicit false

namespace SiteCache

section

variable {ε ε' α β : Type}

theorem mapError_eq_ok {f : ε → ε'} {result : Except ε α} {a : α} :
    result.mapError f = .ok a ↔ result = .ok a := by
  cases result with
  | ok b => exact iff_of_eq ((Except.ok.injEq b a).trans (Except.ok.injEq b a).symm)
  | error _ => exact iff_of_false nofun nofun

theorem map_eq_ok {f : α → β} {result : Except ε α} {b : β} :
    result.map f = .ok b ↔ ∃ a, result = .ok a ∧ f a = b := by
  cases result <;> simp [Except.map]

theorem bind_eq_ok {result : Except ε α} {next : α → Except ε β} {b : β} :
    result >>= next = .ok b ↔ ∃ a, result = .ok a ∧ next a = .ok b := by
  cases result <;> simp [bind, Except.bind]

theorem check_bind_eq_ok {check : Except ε Unit} {next : Unit → Except ε β} {b : β} :
    check >>= next = .ok b ↔ check = .ok () ∧ next () = .ok b :=
  bind_eq_ok.trans ⟨fun ⟨(), ran⟩ => ran, fun ran => ⟨(), ran⟩⟩

theorem forM_eq_ok {check : α → Except ε Unit} {as : List α} :
    as.forM check = .ok () ↔ ∀ a ∈ as, check a = .ok () := by
  induction as with
  | nil => exact iff_of_true rfl nofun
  | cons a rest ih =>
    rw [List.forall_mem_cons, ← ih]
    exact check_bind_eq_ok

/-- Computations that both fail or both succeed, with results that are related. -/
inductive Agree (Q : α → β → Prop) : Except ε α → Except ε' β → Prop
  | failed (e : ε) (e' : ε') : Agree Q (.error e) (.error e')
  | done {a : α} {b : β} (related : Q a b) : Agree Q (.ok a) (.ok b)

theorem agree_iff {x y : Except ε α} : Agree Eq x y ↔ ∀ a, x = .ok a ↔ y = .ok a := by
  constructor
  · rintro (_ | rfl)
    · exact fun a => iff_of_false nofun nofun
    · exact fun a => Iff.rfl
  · intro same
    cases x with
    | ok a => rw [(same a).mp rfl]; exact .done rfl
    | error e =>
      cases y with
      | ok a => cases (same a).mpr rfl
      | error e' => exact .failed e e'

namespace Agree

variable {Q : α → β → Prop} {α' β' : Type} {Q' : α' → β' → Prop}

theorem refl {Q : α → α → Prop} (reflexive : ∀ a, Q a a) (x : Except ε α) : Agree Q x x := by
  cases x with
  | ok a => exact .done (reflexive a)
  | error e => exact .failed e e

theorem trans {x y z : Except ε α} (first : Agree Eq x y) (second : Agree Eq y z) :
    Agree Eq x z :=
  agree_iff.mpr fun a => (agree_iff.mp first a).trans (agree_iff.mp second a)

theorem of_failing {x : Except ε α} {y : Except ε' β} (fails : ∀ a, x ≠ .ok a)
    (fails' : ∀ b, y ≠ .ok b) : Agree Q x y := by
  cases x with
  | ok a => exact absurd rfl (fails a)
  | error e =>
    cases y with
    | ok b => exact absurd rfl (fails' b)
    | error e' => exact .failed e e'

theorem of_succeeds_iff {x y : Except ε Unit} (same : x = .ok () ↔ y = .ok ()) :
    Agree (fun _ _ => True) x y := by
  cases x with
  | ok => rw [same.mp rfl]; exact .done trivial
  | error e =>
    cases y with
    | ok => cases same.mpr rfl
    | error e' => exact .failed e e'

theorem congr {x x' : Except ε α} {y y' : Except ε β} (left : ∀ a, x' = .ok a ↔ x = .ok a)
    (right : ∀ b, y' = .ok b ↔ y = .ok b) (agree : Agree Q x y) : Agree Q x' y' := by
  cases agree with
  | failed e e' =>
    refine of_failing (fun a => ?_) (fun b => ?_)
    · rw [ne_eq, left]
      exact nofun
    · rw [ne_eq, right]
      exact nofun
  | done related => rw [(left _).mpr rfl, (right _).mpr rfl]; exact .done related

theorem bind {x : Except ε α} {y : Except ε β} {f : α → Except ε α'} {g : β → Except ε β'}
    (agree : Agree Q x y) (next : ∀ a b, Q a b → Agree Q' (f a) (g b)) :
    Agree Q' (x >>= f) (y >>= g) := by
  cases agree with
  | failed e e' => exact .failed e e'
  | done related => exact next _ _ related

theorem mapError {f : ε → ε'} {x : Except ε α} {y : Except ε β} (agree : Agree Q x y) :
    Agree Q (x.mapError f) (y.mapError f) := by
  cases agree with
  | failed e e' => exact .failed _ _
  | done related => exact .done related

theorem succeeds_iff {x : Except ε α} {y : Except ε' β} (agree : Agree Q x y) :
    x.map (fun _ => ()) = .ok () ↔ y.map (fun _ => ()) = .ok () := by
  cases agree with
  | failed e e' => exact iff_of_false nofun nofun
  | done related => exact iff_of_true rfl rfl

end Agree

end

end SiteCache
