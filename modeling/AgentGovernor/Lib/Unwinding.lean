import AgentGovernor.Lib.Transaction

namespace Transaction

variable {S E A B : Type} {R : S → S → Prop}

/-- A statement that cannot tell related states apart: it has the same result on them and
leaves related states. -/
def Indifferent (R : S → S → Prop) (x : Tx S E A) : Prop :=
  ∀ s t, R s t → (x s).1 = (x t).1 ∧ R (x s).2 (x t).2

theorem indifferent_pure (a : A) : Indifferent R (pure a : Tx S E A) :=
  fun _ _ h => ⟨rfl, h⟩

theorem indifferent_lift (result : Except E A) : Indifferent R (lift result : Tx S E A) :=
  fun _ _ h => ⟨rfl, h⟩

/-- A query is indifferent when it reads nothing that differs. -/
theorem indifferent_query {f : S → Except E A} (hf : ∀ s t, R s t → f s = f t) : Indifferent R (query f) :=
  fun s t h => ⟨hf s t h, h⟩

theorem indifferent_bind {x : Tx S E A} {f : A → Tx S E B} (hx : Indifferent R x)
    (hf : ∀ a, Indifferent R (f a)) : Indifferent R (x >>= f) := by
  intro s t h
  obtain ⟨hresult, hrelated⟩ := hx s t h
  simp only [bind]
  rcases hs : x s with ⟨result, s'⟩
  rcases ht : x t with ⟨result', t'⟩
  rw [hs, ht] at hresult hrelated
  obtain rfl : result = result' := hresult
  cases result with
  | ok a => exact hf a s' t' hrelated
  | error e => exact ⟨rfl, hrelated⟩

theorem indifferent_transaction {body : Tx S E A} (h : Indifferent R body) : Indifferent R (transaction body) := by
  intro s t hst
  obtain ⟨hresult, hrelated⟩ := h s t hst
  simp only [transaction]
  rcases hs : body s with ⟨result, s'⟩
  rcases ht : body t with ⟨result', t'⟩
  rw [hs, ht] at hresult hrelated
  obtain rfl : result = result' := hresult
  cases result with
  | ok a => exact ⟨rfl, hrelated⟩
  | error e => exact ⟨rfl, hst⟩

end Transaction
