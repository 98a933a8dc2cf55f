import AgentGovernor.Lib.Checked

namespace Transaction

/-- A statement of a transaction: it may fail, and whatever it wrote before the
failure is still there when it does. -/
def Tx (S E A : Type) : Type :=
  S → Except E A × S

variable {S E A B : Type}

instance : Monad (Tx S E) where
  pure a s := (.ok a, s)
  bind x f s :=
    match x s with
    | (.ok a, s') => f a s'
    | (.error e, s') => (.error e, s')

theorem bind_assoc_tx {C : Type} (x : Tx S E A) (f : A → Tx S E B) (g : B → Tx S E C) :
    x >>= f >>= g = x >>= fun a => f a >>= g := by
  funext s
  simp only [bind]
  cases x s with
  | mk result t => cases result <;> rfl

/-- A computation that does not touch the state. -/
def lift (result : Except E A) : Tx S E A :=
  fun s => (result, s)

/-- A query: the state is read and left as it is. -/
def query (f : S → Except E A) : Tx S E A :=
  fun s => (f s, s)

/-- A statement that writes: its result and the new state, or a failure with
nothing written. -/
def update (f : S → Except E (A × S)) : Tx S E A :=
  fun s =>
    match f s with
    | .ok (a, s') => (.ok a, s')
    | .error e => (.error e, s)

/-- Runs the statements as one transaction: a failure rolls back everything. -/
def transaction (body : Tx S E A) : Tx S E A :=
  fun s =>
    match body s with
    | (.ok a, s') => (.ok a, s')
    | (.error e, _) => (.error e, s)

/-- The statement succeeds from `s` with the given value and leaves `s'`. -/
def Returns (x : Tx S E A) (s : S) (a : A) (s' : S) : Prop :=
  x s = (.ok a, s')

variable {s s' : S} {a : A} {b : B}

theorem returns_pure_iff {value : A} : Returns (pure a : Tx S E A) s value s' ↔ a = value ∧ s = s' := by
  simp [Returns, pure]

variable {result : Except E A} {x : Tx S E A}

theorem returns_bind_iff {f : A → Tx S E B} :
    Returns (x >>= f) s b s' ↔ ∃ a t, Returns x s a t ∧ Returns (f a) t b s' := by
  simp only [Returns, bind]
  constructor
  · intro h
    split at h
    · next a t hx => exact ⟨a, t, hx, h⟩
    · cases h
  · rintro ⟨a, t, hx, hf⟩
    rw [hx]
    exact hf

theorem returns_bind_pure_iff {f : A → B} :
    Returns (x >>= fun a => pure (f a)) s b s' ↔ ∃ a, Returns x s a s' ∧ f a = b := by
  simp [returns_bind_iff, returns_pure_iff, and_comm]

theorem returns_lift_iff :
    Returns (lift result : Tx S E A) s a s' ↔ result = .ok a ∧ s = s' := by
  simp [Returns, lift]

theorem returns_query_iff {f : S → Except E A} :
    Returns (query f) s a s' ↔ f s = .ok a ∧ s = s' := by
  simp [Returns, query]

/-- What does not write hands on the state it was given. -/
theorem returns_lift_bind_iff {f : A → Tx S E B} :
    Returns (lift result >>= f) s b s' ↔ ∃ a, result = .ok a ∧ Returns (f a) s b s' := by
  rw [returns_bind_iff]
  constructor
  · rintro ⟨a, _, hlift, hf⟩
    obtain ⟨hresult, rfl⟩ := returns_lift_iff.mp hlift
    exact ⟨a, hresult, hf⟩
  · rintro ⟨a, hresult, hf⟩
    exact ⟨a, s, returns_lift_iff.mpr ⟨hresult, rfl⟩, hf⟩

theorem returns_query_bind_iff {f : S → Except E A} {g : A → Tx S E B} :
    Returns (query f >>= g) s b s' ↔ ∃ a, f s = .ok a ∧ Returns (g a) s b s' :=
  show Returns (lift (f s) >>= g) s b s' ↔ _ from returns_lift_bind_iff

/-- A statement that begins with a result that failed fails with it. -/
theorem lift_bind_of_error {f : A → Tx S E B} {e : E} (h : result = .error e) :
    ((lift result : Tx S E A) >>= f) s = (.error e, s) := by
  rw [h]
  rfl

theorem lift_bind_of_ok {f : A → Tx S E B} (h : result = .ok a) :
    ((lift result : Tx S E A) >>= f) s = f a s := by
  rw [h]
  rfl

theorem query_bind_of_ok {f : S → Except E A} {g : A → Tx S E B} (h : f s = .ok a) :
    (query f >>= g) s = g a s :=
  show ((lift (f s) : Tx S E A) >>= g) s = _ from lift_bind_of_ok h

theorem returns_update_iff {f : S → Except E (A × S)} :
    Returns (update f) s a s' ↔ f s = .ok (a, s') := by
  unfold Returns update
  cases f s <;> simp [Prod.ext_iff]

theorem returns_transaction_iff {body : Tx S E A} :
    Returns (transaction body) s a s' ↔ Returns body s a s' := by
  unfold Returns transaction
  split
  · next hbody => simp [hbody]
  · next hbody => simp [hbody]

/-- A statement that only reads. -/
def ReadOnly (x : Tx S E A) : Prop :=
  ∀ s, (x s).2 = s

/-- A statement that leaves the state as it found it when it fails. -/
def Atomic (x : Tx S E A) : Prop :=
  ∀ s e, (x s).1 = .error e → (x s).2 = s

theorem ReadOnly.atomic (h : ReadOnly x) : Atomic x :=
  fun s _ _ => h s

/-- An atomic statement that returns nothing fails and changes nothing. -/
theorem Atomic.refuses (hx : Atomic x) (h : ∀ a s', ¬ Returns x s a s') :
    ∃ e, x s = (.error e, s) := by
  cases hs : x s with
  | mk result t =>
    cases result with
    | ok a => exact absurd hs (h a t)
    | error e =>
      have hsame := hx s e (by rw [hs])
      rw [hs] at hsame
      exact ⟨e, by rw [← hsame]⟩

/-- The state behind an atomic statement is the one it started from or the one it returned. -/
theorem Atomic.cases (hx : Atomic x) (s : S) : (x s).2 = s ∨ ∃ a, Returns x s a (x s).2 := by
  cases hs : (x s).1 with
  | ok a => exact .inr ⟨a, Prod.ext hs rfl⟩
  | error e => exact .inl (hx s e hs)

theorem readOnly_pure (a : A) : ReadOnly (pure a : Tx S E A) :=
  fun _ => rfl

theorem readOnly_lift (result : Except E A) : ReadOnly (lift result : Tx S E A) :=
  fun _ => rfl

theorem readOnly_query (f : S → Except E A) : ReadOnly (query f) :=
  fun _ => rfl

theorem readOnly_bind {f : A → Tx S E B} (hx : ReadOnly x) (hf : ∀ a, ReadOnly (f a)) :
    ReadOnly (x >>= f) := by
  intro s
  have hs := hx s
  simp only [bind]
  split
  · next a t hxs =>
    rw [hxs] at hs
    rw [hf a t]
    exact hs
  · next hxs =>
    rw [hxs] at hs
    exact hs

/-- A transaction rolls back when it fails. -/
theorem atomic_transaction (body : Tx S E A) : Atomic (transaction body) := by
  intro s e h
  unfold transaction at h ⊢
  split
  · next hbody =>
    rw [hbody] at h
    cases h
  · rfl

/-- Reads before an atomic statement do not spoil it. -/
theorem atomic_bind {f : A → Tx S E B} (hx : ReadOnly x) (hf : ∀ a, Atomic (f a)) :
    Atomic (x >>= f) := by
  intro s e h
  have hs := hx s
  simp only [bind] at h ⊢
  split
  · next a t hxs =>
    rw [hxs] at hs h
    rw [hf a t e h]
    exact hs
  · next hxs =>
    rw [hxs] at hs
    exact hs

/-- Neither does a result computed after it. -/
theorem atomic_bind_pure (f : A → B) (hx : Atomic x) :
    Atomic (x >>= fun a => pure (f a)) := by
  intro s e h
  simp only [bind] at h ⊢
  split
  · next hxs =>
    rw [hxs] at h
    cases h
  · next e' t hxs =>
    have hs := hx s e' (by rw [hxs])
    rw [hxs] at hs
    exact hs

end Transaction
