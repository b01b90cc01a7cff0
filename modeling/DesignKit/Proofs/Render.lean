import DesignKit.Render

/-! # Laws of renderings

Renderings compose like computations with a fault and a log. What a rendering ensures is a property of its
result, whatever happened on the way; a rendering that ends in a fault ensures everything. -/

namespace DesignKit

/-- Two steps come to a result when the first does and the second does from there. -/
theorem except_bind_eq_ok {ε α β : Type} {x : Except ε α} {f : α → Except ε β} {b : β} :
    x >>= f = .ok b ↔ ∃ a, x = .ok a ∧ f a = .ok b := by
  cases x with
  | error e =>
    constructor
    · intro h
      cases h
    · rintro ⟨a, ha, -⟩
      cases ha
  | ok a =>
    constructor
    · exact fun h => ⟨a, rfl, h⟩
    · rintro ⟨a', ha, hf⟩
      cases ha
      exact hf

/-- Two steps fail when the first does, or when the second does from where the first comes to. -/
theorem except_bind_eq_error {ε α β : Type} {x : Except ε α} {f : α → Except ε β} {e : ε} :
    x >>= f = .error e ↔ x = .error e ∨ ∃ a, x = .ok a ∧ f a = .error e := by
  cases x with
  | error e' =>
    constructor
    · intro h
      cases h
      exact .inl rfl
    · rintro (h | ⟨a, ha, -⟩)
      · cases h
        rfl
      · cases ha
  | ok a =>
    constructor
    · exact fun h => .inr ⟨a, rfl, h⟩
    · rintro (h | ⟨a', ha, hf⟩)
      · cases h
      · cases ha
        exact hf

/-- What follows counts only where there is something to follow. -/
theorem except_bind_congr {ε α β : Type} {x : Except ε α} {f g : α → Except ε β} (h : ∀ a, x = .ok a → f a = g a) :
    x >>= f = x >>= g := by
  cases x with
  | error e => rfl
  | ok a => exact h a rfl

theorem except_eq_ok_of_toOption {ε α : Type} {x : Except ε α} {a : α} (h : x.toOption = some a) : x = .ok a := by
  cases x with
  | error e => cases h
  | ok b => exact congrArg Except.ok (Option.some.inj h)

/-- A step for each item fails as the first one does that fails. -/
theorem except_mapM_eq_error {ε α β : Type} {f : α → Except ε β} {l : List α} {e : ε} :
    l.mapM f = .error e ↔
      ∃ before a after, l = before ++ a :: after ∧ (∀ b ∈ before, ∃ c, f b = .ok c) ∧ f a = .error e := by
  induction l with
  | nil =>
    constructor
    · intro h
      cases h
    · rintro ⟨before, a, after, hl, -⟩
      exact absurd hl.symm (List.append_ne_nil_of_right_ne_nil _ (List.cons_ne_nil _ _))
  | cons x rest ih =>
    rw [List.mapM_cons, except_bind_eq_error]
    constructor
    · rintro (h | ⟨y, hy, h⟩)
      · exact ⟨[], x, rest, rfl, nofun, h⟩
      · rcases except_bind_eq_error.mp h with h | ⟨ys, -, h⟩
        · obtain ⟨before, a, after, rfl, hbefore, ha⟩ := ih.mp h
          exact ⟨x :: before, a, after, rfl, List.forall_mem_cons.mpr ⟨⟨y, hy⟩, hbefore⟩, ha⟩
        · cases h
    · rintro ⟨before, a, after, hl, hbefore, ha⟩
      rcases List.cons_eq_append_iff.mp hl with ⟨rfl, hhead⟩ | ⟨before', rfl, hrest⟩
      · cases hhead
        exact .inl ha
      · obtain ⟨⟨y, hy⟩, hbefore⟩ := List.forall_mem_cons.mp hbefore
        refine .inr ⟨y, hy, except_bind_eq_error.mpr (.inl ?_)⟩
        exact ih.mpr ⟨before', a, after, hrest, hbefore, ha⟩

/-- A step for each item comes to results when all of them do. -/
theorem except_mapM_eq_ok {ε α β : Type} {f : α → Except ε β} {l : List α} {bs : List β} :
    l.mapM f = .ok bs ↔ l.map f = bs.map .ok := by
  induction l generalizing bs with
  | nil =>
    constructor
    · intro h
      cases h
      rfl
    · intro h
      rw [List.map_eq_nil_iff.mp h.symm]
      rfl
  | cons x rest ih =>
    rw [List.mapM_cons, except_bind_eq_ok]
    constructor
    · rintro ⟨y, hy, h⟩
      obtain ⟨ys, hys, h⟩ := except_bind_eq_ok.mp h
      cases h
      rw [List.map_cons, List.map_cons, hy, ih.mp hys]
    · intro h
      cases bs with
      | nil => cases h
      | cons y ys =>
        obtain ⟨hy, hys⟩ := List.cons.inj h
        exact ⟨y, hy, except_bind_eq_ok.mpr ⟨ys, ih.mpr hys, rfl⟩⟩

theorem except_mapM_congr {ε α β : Type} {f g : α → Except ε β} {l : List α} (h : ∀ a ∈ l, f a = g a) :
    l.mapM f = l.mapM g := by
  induction l with
  | nil => rfl
  | cons x rest ih =>
    obtain ⟨hx, hrest⟩ := List.forall_mem_cons.mp h
    rw [List.mapM_cons, List.mapM_cons, hx, ih hrest]

theorem exists_ok {ε α : Type} {x : Except ε α} {P : α → Prop} (h : x.isOk = true) (hP : ∀ a, x = .ok a → P a) :
    ∃ a, x = .ok a ∧ P a := by
  cases x with
  | error e => cases h
  | ok a => exact ⟨a, rfl, hP a rfl⟩

namespace Render
variable {α β : Type}

theorem bind_of_ok {x : Render α} {a : α} (h : x.result = .ok a) (f : α → Render β) :
    x >>= f = ⟨(f a).result, x.trace ++ (f a).trace⟩ := by
  show Render.bind x f = _
  simp only [Render.bind, h]

theorem bind_of_error {x : Render α} {fault : Fault} (h : x.result = .error fault) (f : α → Render β) :
    x >>= f = ⟨.error fault, x.trace⟩ := by
  show Render.bind x f = _
  simp only [Render.bind, h]

theorem bind_eq_ok {x : Render α} {f : α → Render β} {b : β} :
    (x >>= f).result = .ok b ↔ ∃ a, x.result = .ok a ∧ (f a).result = .ok b := by
  cases hr : x.result with
  | error fault => simp [bind_of_error hr]
  | ok a => simp [bind_of_ok hr]

/-- What is lifted into a rendering is a result without events. -/
@[simp] theorem monadLift_eq (x : Except Fault α) : (monadLift x : Render α) = lift x := rfl

@[simp] theorem lift_ok (a : α) : lift (.ok a) = Pure.pure a := rfl

theorem bind_pure (x : Render α) : Render.bind x Render.pure = x := by
  cases x with
  | mk result trace => cases result <;> simp [Render.bind, Render.pure]

theorem bind_assoc {γ : Type} (x : Render α) (f : α → Render β) (g : β → Render γ) :
    Render.bind (Render.bind x f) g = Render.bind x fun a => Render.bind (f a) g := by
  cases x with
  | mk result trace =>
    cases result with
    | error fault => rfl
    | ok a => cases hr : (f a).result <;> simp [Render.bind, hr]

instance : LawfulMonad Render :=
  LawfulMonad.mk' Render bind_pure (fun a f => by simp [Pure.pure, Bind.bind, Render.pure, Render.bind]) bind_assoc

/-- A rendering that comes to a result comes to one with the property. -/
def Ensures (x : Render α) (P : α → Prop) : Prop :=
  ∀ a, x.result = .ok a → P a

namespace Ensures
variable {P Q : α → Prop} {R : β → Prop}

theorem pure {a : α} (h : P a) : Ensures (Pure.pure a) P := by
  intro b hb
  cases hb
  exact h

theorem fail {fault : Fault} : Ensures (Render.fail fault) P := by
  intro a ha
  cases ha

theorem bind {x : Render α} {f : α → Render β} (hx : Ensures x P) (hf : ∀ a, P a → Ensures (f a) R) :
    Ensures (x >>= f) R := by
  intro b hb
  cases hr : x.result with
  | error fault =>
    rw [bind_of_error hr] at hb
    cases hb
  | ok a =>
    rw [bind_of_ok hr] at hb
    exact hf a (hx a hr) b hb

/-- Two renderings that go on alike from what the first step ensures are the same. -/
theorem bind_congr {x : Render α} (hx : Ensures x P) {f g : α → Render β} (h : ∀ a, P a → f a = g a) :
    x >>= f = x >>= g := by
  cases hr : x.result with
  | error fault => rw [bind_of_error hr, bind_of_error hr]
  | ok a => rw [bind_of_ok hr, bind_of_ok hr, h a (hx a hr)]

/-- What comes to a result may be used with the fact that it did. -/
theorem bind_result {x : Render α} {f : α → Render β} (hf : ∀ a, x.result = .ok a → Ensures (f a) R) :
    Ensures (x >>= f) R :=
  bind (fun _ ha => ha) hf

end Ensures

/-- Two renderings that go on alike from what the first step comes to are the same. -/
theorem bind_congr_of_ok {x : Render α} {f g : α → Render β} (h : ∀ a, x.result = .ok a → f a = g a) :
    x >>= f = x >>= g :=
  Ensures.bind_congr (fun _ ha => ha) h

end Render
end DesignKit
