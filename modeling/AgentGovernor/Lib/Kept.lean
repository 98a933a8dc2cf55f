import AgentGovernor.Lib.Transaction
import Mathlib.Order.Defs.Unbundled

namespace Transaction

variable {S E A B : Type} {R : S → S → Prop}

/-- A statement that leads to a related state, whether it succeeds or not. -/
def Keeps (R : S → S → Prop) (x : Tx S E A) : Prop :=
  ∀ s, R s (x s).2

theorem ReadOnly.keeps [Std.Refl R] {x : Tx S E A} (h : ReadOnly x) : Keeps R x := by
  intro s
  rw [h s]
  exact Std.Refl.refl s

theorem keeps_bind [IsTrans S R] {x : Tx S E A} {f : A → Tx S E B} (hx : Keeps R x) (hf : ∀ a, Keeps R (f a)) :
    Keeps R (x >>= f) := by
  intro s
  have hs := hx s
  simp only [bind]
  split
  · next a t hxs =>
    rw [hxs] at hs
    exact IsTrans.trans s t _ hs (hf a t)
  · next hxs =>
    rw [hxs] at hs
    exact hs

theorem keeps_transaction [Std.Refl R] {x : Tx S E A} (hx : Keeps R x) : Keeps R (transaction x) := by
  intro s
  have hs := hx s
  unfold transaction
  split
  · next hxs =>
    rw [hxs] at hs
    exact hs
  · exact Std.Refl.refl s

theorem keeps_update [Std.Refl R] {f : S → Except E (A × S)} (hf : ∀ s a s', f s = .ok (a, s') → R s s') :
    Keeps R (update f) := by
  intro s
  unfold update
  split
  · next a s' hs => exact hf s a s' hs
  · exact Std.Refl.refl s

end Transaction
