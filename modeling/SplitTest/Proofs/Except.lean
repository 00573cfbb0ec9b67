import Mathlib.Data.List.Forall2

/-! Computations that may end in a fault, taken apart: when a sequence of them has a result, and
which. -/

namespace SplitTest.Except

variable {ε α β : Type}

theorem bind_eq_ok {x : Except ε α} {f : α → Except ε β} {b : β} :
    x >>= f = .ok b ↔ ∃ a, x = .ok a ∧ f a = .ok b := by
  cases x with
  | error e => simp [bind, Except.bind]
  | ok a => simp [bind, Except.bind]

theorem bind_eq_error {x : Except ε α} {f : α → Except ε β} {e : ε} :
    x >>= f = .error e ↔ x = .error e ∨ ∃ a, x = .ok a ∧ f a = .error e := by
  cases x with
  | error e' => simp [bind, Except.bind]
  | ok a => simp [bind, Except.bind]

theorem map_eq_ok {x : Except ε α} {f : α → β} {b : β} :
    x.map f = .ok b ↔ ∃ a, x = .ok a ∧ f a = b := by
  cases x with
  | error e => simp [Except.map]
  | ok a => simp [Except.map]

theorem pure_eq_ok {a b : α} : (pure a : Except ε α) = .ok b ↔ a = b := by
  simp [pure, Except.pure]

theorem exists_eq_ok {x : Except ε α} (h : x.isOk = true) : ∃ a, x = .ok a := by
  cases x with
  | error e => exact absurd h Bool.false_ne_true
  | ok a => exact ⟨a, rfl⟩

/-- A function has results on a whole list if it has one on each element. -/
theorem mapM_eq_ok {f : α → Except ε β} {xs : List α} {ys : List β} :
    xs.mapM f = .ok ys ↔ List.Forall₂ (fun x y => f x = .ok y) xs ys := by
  induction xs generalizing ys with
  | nil => simp [pure, Except.pure, eq_comm]
  | cons x rest ih =>
    rw [List.mapM_cons, bind_eq_ok, List.forall₂_cons_left_iff]
    simp only [bind_eq_ok, pure_eq_ok, ih, exists_and_left, @eq_comm _ ys]

theorem mapM_eq_ok_map {f : α → Except ε β} {p : α → Prop} {g : α → β}
    (h : ∀ x y, f x = .ok y ↔ p x ∧ g x = y) {xs : List α} {ys : List β} :
    xs.mapM f = .ok ys ↔ (∀ x ∈ xs, p x) ∧ xs.map g = ys := by
  simp only [mapM_eq_ok, h]
  rw [List.forall₂_and_left, ← List.forall₂_map_left_iff, List.forall₂_eq_eq_eq]

theorem exists_of_forall₂ {R : α → β → Prop} {xs : List α} {ys : List β}
    (h : List.Forall₂ R xs ys) : ∀ x ∈ xs, ∃ y ∈ ys, R x y := by
  induction h with
  | nil => exact List.forall_mem_nil _
  | @cons x y xs ys hxy _ ih =>
    refine List.forall_mem_cons.mpr ⟨⟨y, List.mem_cons_self, hxy⟩, fun z hz => ?_⟩
    obtain ⟨w, hw, hzw⟩ := ih z hz
    exact ⟨w, List.mem_cons_of_mem _ hw, hzw⟩

theorem exists_mapM_iff {f : α → Except ε β} {xs : List α} :
    (∃ ys, xs.mapM f = .ok ys) ↔ ∀ x ∈ xs, ∃ y, f x = .ok y := by
  simp only [mapM_eq_ok]
  induction xs with
  | nil => simp
  | cons x rest ih =>
    rw [List.forall_mem_cons, ← ih]
    constructor
    · rintro ⟨_, _ | ⟨hx, hrest⟩⟩
      exact ⟨⟨_, hx⟩, _, hrest⟩
    · rintro ⟨⟨y, hx⟩, ys, hrest⟩
      exact ⟨y :: ys, .cons hx hrest⟩

/-- Results on the elements that are each related to their element make up a result on the list. -/
theorem exists_mapM_forall₂ {f : α → Except ε β} {p : α → β → Prop} {xs : List α}
    (h : ∀ x ∈ xs, ∃ y, f x = .ok y ∧ p x y) :
    ∃ ys, xs.mapM f = .ok ys ∧ List.Forall₂ p xs ys := by
  induction xs with
  | nil => exact ⟨[], rfl, .nil⟩
  | cons x rest ih =>
    obtain ⟨⟨y, hy, hp⟩, hrest⟩ := List.forall_mem_cons.mp h
    obtain ⟨ys, hys, hps⟩ := ih hrest
    exact ⟨y :: ys, mapM_eq_ok.mpr (.cons hy (mapM_eq_ok.mp hys)), .cons hp hps⟩

/-- A function fails on a list as it does on the first element on which it fails. -/
theorem mapM_eq_error {f : α → Except ε β} {xs : List α} {e : ε} :
    xs.mapM f = .error e ↔ ∃ before x after, xs = before ++ x :: after ∧
      (∀ y ∈ before, ∃ b, f y = .ok b) ∧ f x = .error e := by
  induction xs with
  | nil => simp [pure, Except.pure]
  | cons x rest ih =>
    rw [List.mapM_cons, bind_eq_error]
    constructor
    · rintro (hx | ⟨y, hy, h⟩)
      · exact ⟨[], x, rest, rfl, List.forall_mem_nil _, hx⟩
      · rcases bind_eq_error.mp h with hrest | ⟨ys, -, hpure⟩
        · obtain ⟨before, x', after, rfl, hbefore, hx'⟩ := ih.mp hrest
          exact ⟨x :: before, x', after, rfl, List.forall_mem_cons.mpr ⟨⟨y, hy⟩, hbefore⟩, hx'⟩
        · simp [pure, Except.pure] at hpure
    · rintro ⟨before, x', after, hsplit, hbefore, hx'⟩
      cases before with
      | nil =>
        obtain ⟨rfl, rfl⟩ := List.cons.inj hsplit
        exact .inl hx'
      | cons y before =>
        obtain ⟨rfl, hrest⟩ := List.cons.inj hsplit
        obtain ⟨⟨b, hb⟩, hbefore⟩ := List.forall_mem_cons.mp hbefore
        exact .inr ⟨b, hb, bind_eq_error.mpr (.inl (ih.mpr
          ⟨before, x', after, hrest, hbefore, hx'⟩))⟩

/-- A function fails on a list only where it fails on an element. -/
theorem exists_of_mapM_eq_error {f : α → Except ε β} {xs : List α} {e : ε}
    (h : xs.mapM f = .error e) : ∃ x ∈ xs, f x = .error e := by
  obtain ⟨before, x, after, rfl, -, hx⟩ := mapM_eq_error.mp h
  exact ⟨x, by simp, hx⟩

/-- Two computations that end with the same fault, or with results that are related by `r`. -/
def Related (r : α → β → Prop) : Except ε α → Except ε β → Prop
  | .ok a, .ok b => r a b
  | .error e, .error e' => e = e'
  | _, _ => False

namespace Related

variable {α' β' : Type} {r : α → α' → Prop} {r' : β → β' → Prop}

theorem refl {r : α → α → Prop} (hr : ∀ a, r a a) (x : Except ε α) : Related r x x := by
  cases x with
  | error e => rfl
  | ok a => exact hr a

theorem imp {r₁ r₂ : α → α' → Prop} {x : Except ε α} {x' : Except ε α'} (hx : Related r₁ x x')
    (h : ∀ a a', x = .ok a → x' = .ok a' → r₁ a a' → r₂ a a') : Related r₂ x x' := by
  cases x with
  | error e =>
    cases x' with
    | error e' => exact hx
    | ok a' => exact hx.elim
  | ok a =>
    cases x' with
    | error e' => exact hx.elim
    | ok a' => exact h a a' rfl rfl hx

theorem bind {x : Except ε α} {x' : Except ε α'} {f : α → Except ε β} {f' : α' → Except ε β'}
    (hx : Related r x x') (hf : ∀ a a', r a a' → Related r' (f a) (f' a')) :
    Related r' (x >>= f) (x' >>= f') := by
  cases x with
  | error e =>
    cases x' with
    | error e' => exact hx
    | ok a' => exact hx.elim
  | ok a =>
    cases x' with
    | error e' => exact hx.elim
    | ok a' => exact hf a a' hx

/-- The same computation may stand in front of related ones. -/
theorem bind_same (x : Except ε α) {f : α → Except ε β} {f' : α → Except ε β'}
    (hf : ∀ a, Related r' (f a) (f' a)) : Related r' (x >>= f) (x >>= f') :=
  bind (refl Eq.refl x) fun a _ heq => heq ▸ hf a

theorem map {x : Except ε α} {x' : Except ε α'} {f : α → β} {f' : α' → β'} (hx : Related r x x')
    (hf : ∀ a a', r a a' → r' (f a) (f' a')) : Related r' (x.map f) (x'.map f') := by
  cases x with
  | error e =>
    cases x' with
    | error e' => exact hx
    | ok a' => exact hx.elim
  | ok a =>
    cases x' with
    | error e' => exact hx.elim
    | ok a' => exact hf a a' hx

end Related

/-- Two computations that have the same result where both have one. -/
def Agree (x y : Except ε α) : Prop := ∀ a b, x = .ok a → y = .ok b → a = b

namespace Agree

theorem refl (x : Except ε α) : Agree x x := fun _ _ ha hb => Except.ok.inj (ha.symm.trans hb)

theorem bind {x y : Except ε α} {f g : α → Except ε β} (hx : Agree x y)
    (hf : ∀ a, Agree (f a) (g a)) : Agree (x >>= f) (y >>= g) := by
  intro b b' hb hb'
  obtain ⟨a, ha, hfa⟩ := bind_eq_ok.mp hb
  obtain ⟨a', ha', hga⟩ := bind_eq_ok.mp hb'
  obtain rfl := hx a a' ha ha'
  exact hf a b b' hfa hga

theorem map {x y : Except ε α} (f : α → β) (hx : Agree x y) : Agree (x.map f) (y.map f) := by
  intro b b' hb hb'
  obtain ⟨a, ha, rfl⟩ := map_eq_ok.mp hb
  obtain ⟨a', ha', rfl⟩ := map_eq_ok.mp hb'
  rw [hx a a' ha ha']

end Agree
end SplitTest.Except
