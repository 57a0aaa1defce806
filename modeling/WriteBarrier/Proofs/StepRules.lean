import Mathlib.Tactic.Lemma
import WriteBarrier.Log

/-!
# Rules about steps

Two ways to say what a step does, with a rule for each way in which steps are put together: which
properties of the state it keeps, and what it gives at one state.
-/

namespace WriteBarrier.Step

variable {σ α β : Type} {P : σ → Prop}

/-- The step leaves a state with the property in such a state, whether or not it stops. -/
def Keeps (x : Step σ α) (P : σ → Prop) : Prop := ∀ s, P s → P (x s).state

/-- The result and the state that the step gives at `s`. -/
def Yields (x : Step σ α) (s : σ) (result : Except Fault α) (s' : σ) : Prop :=
  (x s).result = result ∧ (x s).state = s'

namespace Yields

variable {x : Step σ α} {f : α → Step σ β} {s s' s'' : σ} {a : α} {result : Except Fault β}

lemma pure (a : α) (s : σ) : Yields (Pure.pure a) s (.ok a) s := ⟨rfl, rfl⟩

lemma read (s : σ) : Yields Step.read s (.ok s) s := ⟨rfl, rfl⟩

lemma modify (f : σ → σ) (s : σ) : Yields (Step.modify f) s (.ok ()) (f s) := ⟨rfl, rfl⟩

lemma ofExcept (x : Except Fault α) (s : σ) : Yields (Step.ofExcept x) s x s := ⟨rfl, rfl⟩

lemma ofExcept_eq {x r : Except Fault α} (h : x = r) (s : σ) : Yields (Step.ofExcept x) s r s := by
  rw [h]
  exact ofExcept r s

lemma stop (fault : Fault) (s : σ) : Yields (Step.stop fault : Step σ α) s (.error fault) s :=
  ⟨rfl, rfl⟩

lemma bind_ok (hx : Yields x s (.ok a) s') (hf : Yields (f a) s' result s'') :
    Yields (x >>= f) s result s'' := by
  have hsplit : x s = ⟨.ok a, s', (x s).lines⟩ := by rw [← hx.1, ← hx.2]
  unfold Yields
  rw [bind_apply_ok hsplit]
  exact hf

lemma bind_error {fault : Fault} (hx : Yields x s (.error fault) s') :
    Yields (x >>= f) s (.error fault) s' := by
  have hsplit : x s = ⟨.error fault, s', (x s).lines⟩ := by rw [← hx.1, ← hx.2]
  unfold Yields
  rw [bind_apply_error hsplit]
  exact ⟨rfl, rfl⟩

lemma ite {c : Prop} [Decidable c] {x y : Step σ α} {r r' : Except Fault α} (hx : Yields x s r s')
    (hy : Yields y s r' s') : Yields (if c then x else y) s (if c then r else r') s' := by
  by_cases hc : c
  · rw [if_pos hc, if_pos hc]
    exact hx
  · rw [if_neg hc, if_neg hc]
    exact hy

lemma of_not {c : Prop} [Decidable c] {x : Step σ Unit} {f : Unit → Step σ β} (hc : ¬c)
    (hf : Yields (f ()) s result s') : Yields (if c then x >>= f else f ()) s result s' := by
  rw [if_neg hc]
  exact hf

/-- A check that is made only under a condition, and what follows it unless it fails. -/
lemma check {c : Prop} [Decidable c] {x : Step σ Unit} {f : Unit → Step σ β}
    {checked : Except Fault Unit} (hx : Yields x s checked s) (hf : Yields (f ()) s result s) :
    Yields (if c then x >>= f else f ()) s
      ((if c then checked else .ok ()) >>= fun _ => result) s := by
  by_cases hc : c
  · rw [if_pos hc, if_pos hc]
    cases checked with
    | error fault => exact bind_error hx
    | ok => exact bind_ok hx hf
  · rw [if_neg hc, if_neg hc]
    exact hf

lemma of_check_ok {c : Prop} [Decidable c] {x : Step σ Unit} {f : Unit → Step σ β}
    (hx : c → Yields x s (.ok ()) s) (hf : Yields (f ()) s result s') :
    Yields (if c then x >>= f else f ()) s result s' := by
  by_cases hc : c
  · rw [if_pos hc]
    exact bind_ok (hx hc) hf
  · exact of_not hc hf

lemma of_check_error {c : Prop} [Decidable c] {x : Step σ Unit} {f : Unit → Step σ β}
    {fault : Fault} (hc : c) (hx : Yields x s (.error fault) s') :
    Yields (if c then x >>= f else f ()) s (.error fault) s' := by
  rw [if_pos hc]
  exact bind_error hx

end Yields

namespace Keeps

lemma of_state {x : Step σ α} (h : ∀ s, (x s).state = s) : x.Keeps P := by
  intro s hs
  rw [h]
  exact hs

lemma pure (a : α) : (Pure.pure a : Step σ α).Keeps P := of_state fun _ => rfl

lemma read : (Step.read : Step σ σ).Keeps P := of_state fun _ => rfl

lemma ofExcept (a : Except Fault α) : (Step.ofExcept a : Step σ α).Keeps P := of_state fun _ => rfl

lemma stop (fault : Fault) : (Step.stop fault : Step σ α).Keeps P := of_state fun _ => rfl

lemma modify {f : σ → σ} (h : ∀ s, P s → P (f s)) : (Step.modify f).Keeps P := h

lemma bind {x : Step σ α} {f : α → Step σ β} (hx : x.Keeps P) (hf : ∀ a, (f a).Keeps P) :
    (x >>= f).Keeps P := by
  intro s hs
  cases hresult : (x s).result with
  | error fault =>
    have hyields : Yields x s (.error fault) (x s).state := ⟨hresult, rfl⟩
    rw [(Yields.bind_error hyields).2]
    exact hx s hs
  | ok a =>
    have hyields : Yields x s (.ok a) (x s).state := ⟨hresult, rfl⟩
    rw [(Yields.bind_ok hyields ⟨rfl, rfl⟩).2]
    exact hf a _ (hx s hs)

lemma ite {c : Prop} [Decidable c] {x y : Step σ α} (hx : x.Keeps P) (hy : y.Keeps P) :
    (if c then x else y).Keeps P := by
  by_cases h : c
  · rw [if_pos h]
    exact hx
  · rw [if_neg h]
    exact hy

lemma when {c : Prop} [Decidable c] {x : Step σ Unit} {f : Unit → Step σ β} (hx : x.Keeps P)
    (hf : ∀ a, (f a).Keeps P) : (if c then x >>= f else f ()).Keeps P :=
  .ite (.bind hx hf) (hf ())

end Keeps

end WriteBarrier.Step
