import DesignKit.Fault

/-! # Strains

A step of a compilation fails with a problem of the document, or because arithmetic cannot carry it out. A
fault of the second kind is a strain. The strains of a step are a set of faults: the step fails with a
problem of the document or with one of them, and comes to a result only when there are none. The strains of
steps taken one after the other are those of all of them. -/

namespace DesignKit

/-- No strain at all. -/
def NoStrain : Fault → Prop := fun _ => False

/-- A set of faults holds the strains of a step. -/
def HasStrains {α : Type} (strains : Fault → Prop) : Except Fault α → Prop
  | .ok _ => ∀ fault, ¬strains fault
  | .error fault => (∃ problem, fault = .tokenDocument none problem) ∨ strains fault

namespace HasStrains
variable {α β : Type} {S T : Fault → Prop}

theorem ok {a : α} (h : ∀ fault, ¬S fault) : HasStrains S (.ok a : Except Fault α) :=
  h

theorem pure {a : α} : HasStrains NoStrain (.ok a : Except Fault α) :=
  ok fun _ => id

theorem problem {problem : TokenProblem} : HasStrains S (.error (.tokenDocument none problem) : Except Fault α) :=
  .inl ⟨problem, rfl⟩

/-- Any step has the fault that it ends in, if it ends in one, for its strain. -/
theorem self (x : Except Fault α) : HasStrains (fun fault => x = .error fault) x := by
  cases x with
  | ok a => exact fun fault h => by cases h
  | error fault => exact .inr rfl

theorem congr {x : Except Fault α} (h : ∀ fault, S fault ↔ T fault) (hx : HasStrains S x) : HasStrains T x := by
  rwa [show T = S from funext fun fault => propext (h fault).symm]

/-- The second step may use what the first came to. -/
theorem bind {x : Except Fault α} {f : α → Except Fault β} (hx : HasStrains S x)
    (hf : ∀ a, x = .ok a → HasStrains T (f a)) : HasStrains (fun fault => S fault ∨ T fault) (x >>= f) := by
  cases x with
  | error fault => exact hx.imp id .inl
  | ok a =>
    have h := hf a rfl
    show HasStrains _ (f a)
    cases hr : f a with
    | error fault =>
      rw [hr] at h
      exact h.imp id .inr
    | ok b =>
      rw [hr] at h
      exact fun fault hfault => hfault.elim (hx fault) (h fault)

/-- The strains of the second step may depend on what the first came to. -/
theorem bind_exists {x : Except Fault α} {f : α → Except Fault β} {T : α → Fault → Prop} (hx : HasStrains S x)
    (hf : ∀ a, HasStrains (T a) (f a)) :
    HasStrains (fun fault => S fault ∨ ∃ a, x = .ok a ∧ T a fault) (x >>= f) :=
  hx.bind fun a ha => (hf a).congr fun fault => by simp [ha]

/-- A first step without strains leaves those of the second. -/
theorem bind_right {x : Except Fault α} {f : α → Except Fault β} (hx : HasStrains NoStrain x)
    (hf : ∀ a, x = .ok a → HasStrains T (f a)) : HasStrains T (x >>= f) :=
  (hx.bind hf).congr fun fault => by simp [NoStrain]

/-- A second step without strains leaves those of the first. -/
theorem bind_left {x : Except Fault α} {f : α → Except Fault β} (hx : HasStrains S x)
    (hf : ∀ a, HasStrains NoStrain (f a)) : HasStrains S (x >>= f) :=
  (hx.bind fun a _ => hf a).congr fun fault => by simp [NoStrain]

theorem map {x : Except Fault α} (f : α → β) (hx : HasStrains S x) : HasStrains S (f <$> x) := by
  cases x with
  | ok a => exact hx
  | error fault => exact hx

/-- A step for each item has the strains of the items. -/
theorem mapM {f : α → Except Fault β} {S : α → Fault → Prop} (hf : ∀ a, HasStrains (S a) (f a)) (l : List α) :
    HasStrains (fun fault => ∃ a ∈ l, S a fault) (l.mapM f) := by
  induction l with
  | nil => exact ok fun fault => by simp
  | cons a rest ih =>
    rw [List.mapM_cons]
    exact ((hf a).bind fun _ _ => ih.bind_left fun _ => pure).congr fun fault => by simp

end HasStrains
end DesignKit
