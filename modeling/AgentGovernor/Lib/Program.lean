import Mathlib.Data.List.Basic

namespace Effects

/-- A program that may fail and that talks to the world through operations. The
world decides what an operation is answered with. -/
inductive Program (Op : Type) (Answer : Op → Type) (E A : Type) where
  | done (result : Except E A)
  | perform (op : Op) (next : Answer op → Program Op Answer E A)

/-- One operation that was performed, between the state it was performed in and the
state it left. -/
structure Event (S Op : Type) where
  before : S
  op : Op
  after : S

section Monad

variable {Op : Type} {Answer : Op → Type} {E A B : Type}

/-- A failure ends the whole program. -/
def Program.bind (program : Program Op Answer E A) (f : A → Program Op Answer E B) :
    Program Op Answer E B :=
  match program with
  | .done (.ok value) => f value
  | .done (.error error) => .done (.error error)
  | .perform op next => .perform op fun answer => (next answer).bind f

instance : Monad (Program Op Answer E) where
  pure value := .done (.ok value)
  bind := Program.bind

theorem Program.bind_assoc {C : Type} (program : Program Op Answer E A) (f : A → Program Op Answer E B)
    (g : B → Program Op Answer E C) : program >>= f >>= g = program >>= fun value => f value >>= g := by
  change (program.bind f).bind g = program.bind fun value => (f value).bind g
  induction program with
  | done result => cases result <;> rfl
  | perform op next ih => exact congrArg (Program.perform op) (funext ih)

/-- One operation on its own. -/
def ask (op : Op) : Program Op Answer E (Answer op) :=
  .perform op fun answer => .done (.ok answer)

/-- A computation that needs nothing of the world. -/
def lift (result : Except E A) : Program Op Answer E A :=
  .done result

end Monad

section Execution

variable {S Op : Type} {Answer : Op → Type} {E A B : Type}

/-- What a program can do from a state: the operations it performs, what it ends
with and the state it leaves. It can be interrupted before every operation and at
its end, and then there is no result. -/
inductive Executes (serves : (op : Op) → S → Answer op → S → Prop) :
    S → Program Op Answer E A → List (Event S Op) → Option (Except E A) → S → Prop where
  | interrupted {s : S} {program : Program Op Answer E A} : Executes serves s program [] none s
  | finished {s : S} {result : Except E A} : Executes serves s (.done result) [] (some result) s
  | performed {s t u : S} {op : Op} {next : Answer op → Program Op Answer E A} {answer : Answer op}
    {events : List (Event S Op)} {outcome : Option (Except E A)} (hserves : serves op s answer t)
    (hrest : Executes serves t (next answer) events outcome u) :
    Executes serves s (.perform op next) (⟨s, op, t⟩ :: events) outcome u

/-- Every operation the program performs is of the given kind, whatever it is answered. -/
def Program.Performs (P : Op → Prop) : Program Op Answer E A → Prop
  | .done _ => True
  | .perform op next => P op ∧ ∀ answer, (next answer).Performs P

/-- From this state on, every operation the program performs is allowed in the state
it is performed in, and the result it ends with satisfies `post`. -/
def Program.Keeps (serves : (op : Op) → S → Answer op → S → Prop) (allowed : S → Op → Prop)
    (post : Except E A → S → Prop) : Program Op Answer E A → S → Prop
  | .done result, s => post result s
  | .perform op next, s => allowed s op ∧ ∀ answer t, serves op s answer t →
    (next answer).Keeps serves allowed post t

variable {serves : (op : Op) → S → Answer op → S → Prop} {allowed : S → Op → Prop} {events rest : List (Event S Op)}
  {program : Program Op Answer E A} {f : A → Program Op Answer E B} {outcome : Option (Except E A)}
  {ended : Option (Except E B)} {s t u : S}

section Invariants

variable (h : Executes serves s program events outcome u)

include h

/-- What a program keeps holds of each of its executions, also of those that are
interrupted. -/
theorem Executes.of_keeps {post : Except E A → S → Prop} (hkeeps : program.Keeps serves allowed post s) :
    (∀ event ∈ events, allowed event.before event.op) ∧ ∀ result ∈ outcome, post result u := by
  induction h with
  | interrupted => exact ⟨by simp, by simp⟩
  | finished =>
    refine ⟨by simp, ?_⟩
    rintro result ⟨⟩
    exact hkeeps
  | performed hserves _ ih =>
    obtain ⟨hfirst, hnext⟩ := hkeeps
    obtain ⟨hevents, houtcome⟩ := ih (hnext _ _ hserves)
    exact ⟨List.forall_mem_cons.mpr ⟨hfirst, hevents⟩, houtcome⟩

/-- The states of an execution are linked by its events. -/
theorem Executes.invariant (hallowed : ∀ event ∈ events, allowed event.before event.op)
    (holds : List (Event S Op) → S → Prop) {past : List (Event S Op)} (hstart : holds past s)
    (hstep : ∀ past s op answer t, holds past s → allowed s op → serves op s answer t →
      holds (past ++ [⟨s, op, t⟩]) t) : holds (past ++ events) u := by
  induction h generalizing past with
  | interrupted => simpa using hstart
  | finished => simpa using hstart
  | performed hserves _ ih =>
    obtain ⟨hfirst, hevents⟩ := List.forall_mem_cons.mp hallowed
    have hnext := hstep past _ _ _ _ hstart hfirst hserves
    simpa using ih hevents hnext

/-- What every allowed operation keeps of the state, an execution keeps. -/
theorem Executes.preserves (hallowed : ∀ event ∈ events, allowed event.before event.op) (holds : S → Prop)
    (hstart : holds s)
    (hstep : ∀ s op answer t, holds s → allowed s op → serves op s answer t → holds t) : holds u := by
  induction h with
  | interrupted | finished => exact hstart
  | performed hserves _ ih =>
    obtain ⟨hfirst, hevents⟩ := List.forall_mem_cons.mp hallowed
    exact ih hevents (hstep _ _ _ _ hstart hfirst hserves)

theorem Executes.of_performs {P : Op → Prop} (hperforms : program.Performs P) : ∀ event ∈ events, P event.op := by
  induction h with
  | interrupted | finished => simp
  | performed _ _ ih => exact List.forall_mem_cons.mpr ⟨hperforms.1, ih (hperforms.2 _)⟩

end Invariants

/-- An execution that ends with a value goes on with the program that takes it. -/
theorem Executes.bind {value : A} (h : Executes serves s program events (some (.ok value)) t)
    (hrest : Executes serves t (f value) rest ended u) :
    Executes serves s (program >>= f) (events ++ rest) ended u := by
  change Executes serves s (program.bind f) (events ++ rest) ended u
  generalize hvalue : some (Except.ok value) = outcome at h
  induction h with
  | interrupted => cases hvalue
  | finished =>
    cases hvalue
    exact hrest
  | performed hserves _ ih => exact .performed hserves (ih hrest hvalue)

theorem executes_ask_bind {op : Op} {answer : Answer op} {f : Answer op → Program Op Answer E B}
    (hserves : serves op s answer t) (hrest : Executes serves t (f answer) rest ended u) :
    Executes serves s (ask op >>= f) (⟨s, op, t⟩ :: rest) ended u :=
  .performed hserves hrest

theorem executes_lift_bind {result : Except E A} {value : A} (hresult : result = .ok value)
    (hrest : Executes serves s (f value) rest ended u) : Executes serves s (lift result >>= f) rest ended u := by
  subst hresult
  exact hrest

end Execution

section Rules

variable {S Op : Type} {Answer : Op → Type} {E A B : Type}
  {serves : (op : Op) → S → Answer op → S → Prop} {allowed : S → Op → Prop} {s : S}
  {program : Program Op Answer E A} {f : A → Program Op Answer E B} {post : Except E B → S → Prop}

theorem Program.Keeps.imp {post post' : Except E A → S → Prop}
    (himp : ∀ result t, post result t → post' result t) (h : program.Keeps serves allowed post s) :
    program.Keeps serves allowed post' s := by
  induction program generalizing s with
  | done result => exact himp result s h
  | perform op next ih => exact ⟨h.1, fun answer t hserves => ih answer (h.2 answer t hserves)⟩

/-- What is allowed by one rule is allowed by a more generous one. -/
theorem Program.Keeps.mono {allowed' : S → Op → Prop} {post : Except E A → S → Prop}
    (hmono : ∀ t op, allowed t op → allowed' t op)
    (h : program.Keeps serves allowed post s) : program.Keeps serves allowed' post s := by
  induction program generalizing s with
  | done result => exact h
  | perform op next ih => exact ⟨hmono s op h.1, fun answer t hserves => ih answer (h.2 answer t hserves)⟩

/-- The rule of sequencing: the second program starts where the first one ended. -/
theorem keeps_bind (h : program.Keeps serves allowed (fun result t =>
      (∀ value, result = .ok value → (f value).Keeps serves allowed post t) ∧
      ∀ error, result = .error error → post (.error error) t) s) :
    (program >>= f).Keeps serves allowed post s := by
  change (program.bind f).Keeps serves allowed post s
  induction program generalizing s with
  | done result =>
    cases result with
    | ok value => exact h.1 value rfl
    | error error => exact h.2 error rfl
  | perform op next ih => exact ⟨h.1, fun answer t hserves => ih answer (h.2 answer t hserves)⟩

theorem keeps_ask_bind {op : Op} {f : Answer op → Program Op Answer E B} (hallowed : allowed s op)
    (h : ∀ answer t, serves op s answer t → (f answer).Keeps serves allowed post t) :
    (ask op >>= f).Keeps serves allowed post s :=
  ⟨hallowed, h⟩

/-- A computation that fails ends the program, and one that succeeds hands on its
value. -/
theorem keeps_lift_bind {result : Except E A}
    (hok : ∀ value, result = .ok value → (f value).Keeps serves allowed post s)
    (herror : ∀ error, result = .error error → post (.error error) s) :
    (lift result >>= f).Keeps serves allowed post s :=
  keeps_bind ⟨hok, herror⟩

end Rules

section Performs

variable {Op : Type} {Answer : Op → Type} {E A B : Type} {P : Op → Prop} {program : Program Op Answer E A}
  {f : A → Program Op Answer E B} {result : Except E A}

theorem performs_bind (h : program.Performs P) (hrest : ∀ value, (f value).Performs P) :
    (program >>= f).Performs P := by
  change (program.bind f).Performs P
  induction program with
  | done result =>
    cases result with
    | ok value => exact hrest value
    | error => trivial
  | perform op next ih => exact ⟨h.1, fun answer => ih answer (h.2 answer)⟩

theorem performs_ask_bind {op : Op} {f : Answer op → Program Op Answer E B} (h : P op)
    (hrest : ∀ answer, (f answer).Performs P) : (ask op >>= f).Performs P :=
  ⟨h, hrest⟩

theorem performs_lift_bind (hrest : ∀ value, result = .ok value → (f value).Performs P) :
    (lift result >>= f).Performs P := by
  cases result with
  | ok value => exact hrest value rfl
  | error => trivial

theorem performs_lift : (lift result : Program Op Answer E A).Performs P :=
  trivial

theorem performs_pure {value : A} : (pure value : Program Op Answer E A).Performs P :=
  trivial

end Performs

end Effects
