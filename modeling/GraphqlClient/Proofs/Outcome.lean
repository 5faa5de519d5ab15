import Mathlib.Data.List.Forall2

/-!
# Outcomes of computations in sequence

When a computation that may fail has an outcome, taken apart into the outcomes of its parts.
-/

namespace GraphqlClient

variable {ε α β σ : Type}

/-- A computation has an outcome if its first part has one and what is done with that. -/
lemma bind_eq_ok_iff {x : Except ε α} {f : α → Except ε β} {b : β} :
    x >>= f = .ok b ↔ ∃ a, x = .ok a ∧ f a = .ok b := by
  cases x with
  | error e => exact ⟨nofun, nofun⟩
  | ok a =>
    constructor
    · exact fun h => ⟨a, rfl, h⟩
    · rintro ⟨a', ha, h⟩
      cases ha
      exact h

/-- What is made of an outcome succeeds exactly if there is one. -/
lemma bind_pure_eq_ok_iff {x : Except ε α} {f : α → β} {b : β} :
    (x >>= fun a => pure (f a)) = .ok b ↔ ∃ a, x = .ok a ∧ b = f a := by
  rw [bind_eq_ok_iff]
  refine exists_congr fun a => and_congr_right fun _ => ?_
  exact ⟨fun h => (Except.ok.inj h).symm, fun h => by rw [h]; rfl⟩

/-- It fails if its first part does or, after that, what is done with the outcome. -/
lemma bind_eq_error_iff {x : Except ε α} {f : α → Except ε β} {e : ε} :
    x >>= f = .error e ↔ x = .error e ∨ ∃ a, x = .ok a ∧ f a = .error e := by
  cases x with
  | error e' =>
    constructor
    · intro h
      exact .inl (congrArg Except.error (Except.error.inj h))
    · rintro (h | ⟨a, ha, -⟩)
      · exact congrArg Except.error (Except.error.inj h)
      · cases ha
  | ok a =>
    constructor
    · exact fun h => .inr ⟨a, rfl, h⟩
    · rintro (h | ⟨a', ha, h⟩)
      · cases h
      · cases ha
        exact h

/-- A computation is known to succeed exactly if it has an outcome. -/
lemma isOk_iff {x : Except ε α} : x.isOk = true ↔ ∃ a, x = .ok a := by
  cases x with
  | error e => exact ⟨nofun, nofun⟩
  | ok a => exact ⟨fun _ => ⟨a, rfl⟩, fun _ => rfl⟩

/-- The outcome is kept when the error is forgotten. -/
lemma toOption_eq_some_iff {x : Except ε α} {a : α} : x.toOption = some a ↔ x = .ok a := by
  cases x with
  | error e => exact ⟨nofun, nofun⟩
  | ok b =>
    exact ⟨fun h => congrArg Except.ok (Option.some.inj h),
      fun h => congrArg some (Except.ok.inj h)⟩

/-- An outcome is mapped exactly if there is one. -/
lemma map_eq_ok_iff {x : Except ε α} {f : α → β} {b : β} :
    x.map f = .ok b ↔ ∃ a, x = .ok a ∧ f a = b := by
  cases x with
  | error e => exact ⟨nofun, nofun⟩
  | ok a =>
    constructor
    · exact fun h => ⟨a, rfl, Except.ok.inj h⟩
    · rintro ⟨a', ha, rfl⟩
      cases ha
      rfl

/-- Changing errors keeps the outcomes. -/
lemma mapError_eq_ok_iff {ε' : Type} {x : Except ε α} {f : ε → ε'} {a : α} :
    x.mapError f = .ok a ↔ x = .ok a := by
  cases x with
  | error e => exact ⟨nofun, nofun⟩
  | ok b =>
    constructor
    · intro h
      cases h
      rfl
    · intro h
      cases h
      rfl

/-- Two computations have outcomes that stand in a relation, if evaluating them says so. -/
lemma exists_of_any_any {x : Option α} {y : Option β} {r : α → β → Prop} [∀ a b, Decidable (r a b)]
    (h : (x.any fun a => y.any fun b => decide (r a b)) = true) :
    ∃ a b, x = some a ∧ y = some b ∧ r a b := by
  obtain ⟨a, ha, hy⟩ := (Option.any_eq_true _ _).mp h
  obtain ⟨b, hb, hr⟩ := (Option.any_eq_true _ _).mp hy
  exact ⟨a, b, ha, hb, of_decide_eq_true hr⟩

/-! ### Computations that may fail more often -/

/-- Every outcome is as it should be, and there is one if a condition holds. -/
structure Yields (x : Except ε α) (condition : Prop) (p : α → Prop) : Prop where
  sound : ∀ a, x = .ok a → p a
  total : condition → ∃ a, x = .ok a

namespace Yields

variable {x : Except ε α} {f : α → Except ε β} {condition condition' : Prop} {p : α → Prop}
    {q : β → Prop}

/-- A computation with an outcome of the right kind yields it on any condition. -/
lemma of_ok {a : α} (h : x = .ok a) (ha : p a) : Yields x condition p where
  sound := by
    intro b hb
    cases h.symm.trans hb
    exact ha
  total := fun _ => ⟨a, h⟩

/-- If one outcome is right, it is the outcome. -/
lemma eq_ok {a : α} (h : Yields x condition (· = a)) (hcondition : condition) : x = .ok a := by
  obtain ⟨b, hb⟩ := h.total hcondition
  rw [hb, h.sound b hb]

/-- A stronger condition will do. -/
lemma of_imp (h : Yields x condition p) (hcondition : condition' → condition) :
    Yields x condition' p :=
  ⟨h.sound, fun hc => h.total (hcondition hc)⟩

/-- Computations in turn yield what the last one does. -/
lemma bind (h : Yields x condition p) (hf : ∀ a, p a → Yields (f a) condition q) :
    Yields (x >>= f) condition q where
  sound := by
    intro b hb
    obtain ⟨a, ha, hfa⟩ := bind_eq_ok_iff.mp hb
    exact (hf a (h.sound a ha)).sound b hfa
  total := by
    intro hc
    obtain ⟨a, ha⟩ := h.total hc
    obtain ⟨b, hb⟩ := (hf a (h.sound a ha)).total hc
    exact ⟨b, bind_eq_ok_iff.mpr ⟨a, ha, hb⟩⟩

/-- What is made of an outcome is yielded if the outcome is. -/
lemma map {f : α → β} (h : Yields x condition p) (hf : ∀ a, p a → q (f a)) :
    Yields (x >>= fun a => pure (f a)) condition q :=
  h.bind fun a ha => of_ok rfl (hf a ha)

end Yields

/-! ### Lists -/

/-- What is done with each item of a list has the outcomes in their order. -/
lemma mapM_eq_ok_iff {f : α → Except ε β} {xs : List α} {ys : List β} :
    xs.mapM f = .ok ys ↔ List.Forall₂ (fun x y => f x = .ok y) xs ys := by
  induction xs generalizing ys with
  | nil =>
    rw [List.mapM_nil, List.forall₂_nil_left_iff]
    exact ⟨fun h => (Except.ok.inj h).symm, fun h => by rw [h]; rfl⟩
  | cons x xs ih =>
    rw [List.mapM_cons, bind_eq_ok_iff, List.forall₂_cons_left_iff]
    constructor
    · rintro ⟨y, hy, h⟩
      obtain ⟨ys', hys, h⟩ := bind_eq_ok_iff.mp h
      cases h
      exact ⟨y, ys', hy, ih.mp hys, rfl⟩
    · rintro ⟨y, ys', hy, hys, rfl⟩
      exact ⟨y, hy, bind_eq_ok_iff.mpr ⟨ys', ih.mpr hys, rfl⟩⟩

/-- The first item with which something fails decides how all of it fails. -/
lemma mapM_eq_error_iff {f : α → Except ε β} {xs : List α} {e : ε} :
    xs.mapM f = .error e ↔
      ∃ before x after, xs = before ++ x :: after ∧ (∀ y ∈ before, ∃ b, f y = .ok b) ∧
        f x = .error e := by
  induction xs with
  | nil =>
    constructor
    · exact nofun
    · rintro ⟨before, x, after, hsplit, -⟩
      exact absurd hsplit.symm (by simp)
  | cons x xs ih =>
    rw [List.mapM_cons, bind_eq_error_iff]
    constructor
    · rintro (hx | ⟨b, hb, hrest⟩)
      · exact ⟨[], x, xs, rfl, nofun, hx⟩
      · rcases bind_eq_error_iff.mp hrest with hxs | ⟨_, -, hpure⟩
        · obtain ⟨before, y, after, rfl, hbefore, hy⟩ := ih.mp hxs
          exact ⟨x :: before, y, after, rfl, List.forall_mem_cons.mpr ⟨⟨b, hb⟩, hbefore⟩, hy⟩
        · cases hpure
    · rintro ⟨before, y, after, hsplit, hbefore, hy⟩
      cases before with
      | nil =>
        obtain ⟨rfl, rfl⟩ := List.cons.inj hsplit
        exact .inl hy
      | cons first before =>
        obtain ⟨rfl, rfl⟩ := List.cons.inj hsplit
        obtain ⟨⟨b, hb⟩, hbefore⟩ := List.forall_mem_cons.mp hbefore
        exact .inr ⟨b, hb,
          bind_eq_error_iff.mpr (.inl (ih.mpr ⟨before, y, after, rfl, hbefore, hy⟩))⟩

/-- What is done with the items counts only where there is an item. -/
lemma mapM_congr {f g : α → Except ε β} {xs : List α} (h : ∀ x ∈ xs, f x = g x) :
    xs.mapM f = xs.mapM g := by
  induction xs with
  | nil => rfl
  | cons x xs ih =>
    obtain ⟨hx, hxs⟩ := List.forall_mem_cons.mp h
    rw [List.mapM_cons, List.mapM_cons, hx, ih hxs]

/-- Each of the outcomes is that of an item. -/
lemma exists_of_mem_mapM {f : α → Except ε β} {xs : List α} {ys : List β} {y : β}
    (h : xs.mapM f = .ok ys) (hy : y ∈ ys) : ∃ x ∈ xs, f x = .ok y := by
  induction mapM_eq_ok_iff.mp h with
  | nil => cases hy
  | @cons x y' xs ys hx hxs ih =>
    rcases List.mem_cons.mp hy with rfl | hmem
    · exact ⟨x, List.mem_cons_self, hx⟩
    · obtain ⟨x', hx', hf⟩ := ih (mapM_eq_ok_iff.mpr hxs) hmem
      exact ⟨x', List.mem_cons_of_mem x hx', hf⟩

/-- A list can be mapped exactly if each of its items can. -/
lemma exists_mapM_eq_ok_iff {f : α → Except ε β} {xs : List α} :
    (∃ ys, xs.mapM f = .ok ys) ↔ ∀ x ∈ xs, ∃ y, f x = .ok y := by
  induction xs with
  | nil => exact ⟨fun _ => nofun, fun _ => ⟨[], rfl⟩⟩
  | cons x xs ih =>
    rw [List.forall_mem_cons, ← ih]
    simp only [mapM_eq_ok_iff, List.forall₂_cons_left_iff]
    constructor
    · rintro ⟨-, y, ys, hy, hys, rfl⟩
      exact ⟨⟨y, hy⟩, ys, hys⟩
    · rintro ⟨⟨y, hy⟩, ys, hys⟩
      exact ⟨_, y, ys, hy, hys, rfl⟩

end GraphqlClient
