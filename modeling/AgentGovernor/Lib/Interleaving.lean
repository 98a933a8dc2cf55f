import AgentGovernor.Lib.Path
import AgentGovernor.Lib.Program
import Mathlib.Logic.Function.Basic

/-- A run that has a first label begins with its step. -/
theorem RunPath.uncons {S E : Type} {step : S → E → S → Prop} {start finish : S} {label : E} {rest : List E}
    (hpath : RunPath step start (label :: rest) finish) :
    ∃ after, step start label after ∧ RunPath step after rest finish := by
  rw [← List.nil_append (label :: rest)] at hpath
  obtain ⟨before, after, hnone, hstep, hrest⟩ := hpath.split
  generalize hlabels : ([] : List E) = labels at hnone
  cases hnone with
  | nil => exact ⟨after, hstep, hrest⟩
  | snoc => simp at hlabels

namespace Effects

/-- A call that is being carried out: what it still has to do, and the operations it has
performed so far. -/
structure Process (S Call Op : Type) (Answer : Op → Type) (E A : Type) where
  call : Call
  program : Program Op Answer E A
  events : List (Event S Op)

/-- A shared state and the processes that work on it. -/
structure System (S Call Op : Type) (Answer : Op → Type) (E A : Type) where
  shared : S
  process : Nat → Option (Process S Call Op Answer E A)

/-- What can happen next: a process begins a call, and abandons the one it was at, or it
performs its next operation. -/
inductive Action (Call : Type) where
  | begins (pid : Nat) (call : Call)
  | performs (pid : Nat)

section Interleaving

variable {S Call Op : Type} {Answer : Op → Type} {E A : Type}

/-- A state that no process has worked on. -/
def System.initial (s : S) : System S Call Op Answer E A :=
  { shared := s, process := fun _ => none }

/-- One step of an interleaving. Every operation is atomic. -/
inductive System.Step (body : Call → Program Op Answer E A) (serves : (op : Op) → S → Answer op → S → Prop) :
    System S Call Op Answer E A → Action Call → System S Call Op Answer E A → Prop where
  | begins {system : System S Call Op Answer E A} (pid : Nat) (call : Call) :
    Step body serves system (.begins pid call)
      { system with process := Function.update system.process pid (some ⟨call, body call, []⟩) }
  | performs {system : System S Call Op Answer E A} {pid : Nat} {call : Call} {op : Op}
    {next : Answer op → Program Op Answer E A} {events : List (Event S Op)} {answer : Answer op} {t : S}
    (hprocess : system.process pid = some ⟨call, .perform op next, events⟩)
    (hserves : serves op system.shared answer t) :
    Step body serves system (.performs pid)
      { shared := t
        process := Function.update system.process pid
          (some ⟨call, next answer, events ++ [⟨system.shared, op, t⟩]⟩) }

/-- Every run of any number of processes. -/
abbrev System.Run (body : Call → Program Op Answer E A) (serves : (op : Op) → S → Answer op → S → Prop)
    (start : System S Call Op Answer E A) (actions : List (Action Call)) (finish : System S Call Op Answer E A) :
    Prop :=
  RunPath (System.Step body serves) start actions finish

/-- Whatever the other processes do within `rely`, every operation of the program stays
within `rely` too, and what it ends with satisfies `post` of the operations it performed
and of every state from then on. -/
def Program.Assures (serves : (op : Op) → S → Answer op → S → Prop) (rely : S → S → Prop)
    (post : List (Event S Op) → Except E A → S → Prop) : Program Op Answer E A → List (Event S Op) → S → Prop
  | .done result, events, s => ∀ s', rely s s' → post events result s'
  | .perform op next, events, s => ∀ s', rely s s' → ∀ answer t, serves op s' answer t →
    rely s' t ∧ (next answer).Assures serves rely post (events ++ [⟨s', op, t⟩]) t

variable {body : Call → Program Op Answer E A} {serves : (op : Op) → S → Answer op → S → Prop}
  {rely : S → S → Prop} {system next start finish : System S Call Op Answer E A} {action : Action Call}
  {actions : List (Action Call)}

variable {events : List (Event S Op)} {pid : Nat} {program : Program Op Answer E A} {s : S}

theorem Program.Assures.stable {t : S}
    {post : List (Event S Op) → Except E A → S → Prop} (htrans : ∀ r s t, rely r s → rely s t → rely r t)
    (h : program.Assures serves rely post events s) (hrely : rely s t) :
    program.Assures serves rely post events t := by
  cases program with
  | done => exact fun s' hs' => h s' (htrans _ _ _ hrely hs')
  | perform op next => exact fun s' hs' => h s' (htrans _ _ _ hrely hs')

/-- What an assurance promises holds from then on, so it can be weakened to anything that
follows from its promise in every later state. -/
theorem Program.Assures.imp {post post' : List (Event S Op) → Except E A → S → Prop}
    (htrans : ∀ r s t, rely r s → rely s t → rely r t)
    (h : program.Assures serves rely post events s)
    (himp : ∀ events result s, (∀ s', rely s s' → post events result s') → post' events result s) :
    program.Assures serves rely post' events s := by
  induction program generalizing events s with
  | done result => exact fun s' hs' => himp events result s' fun s'' hs'' => h s'' (htrans _ _ _ hs' hs'')
  | perform op next ih =>
    intro s' hs' answer t hserved
    obtain ⟨hrely, hnext⟩ := h s' hs' answer t hserved
    exact ⟨hrely, ih answer hnext⟩

/-- A program is assured of what follows each of its results. -/
theorem Program.Assures.bind {B : Type} {f : A → Program Op Answer E B}
    {post : List (Event S Op) → Except E B → S → Prop}
    (hrefl : ∀ s, rely s s) (h : program.Assures serves rely (fun events result s =>
      match result with
      | .ok value => (f value).Assures serves rely post events s
      | .error error => post events (.error error) s) events s) :
    (program >>= f).Assures serves rely post events s := by
  induction program generalizing events s with
  | done result =>
    cases result with
    | ok value => exact h s (hrefl s)
    | error error => exact h
  | perform op next ih =>
    intro s' hs' answer t hserved
    obtain ⟨hrely, hnext⟩ := h s' hs' answer t hserved
    exact ⟨hrely, ih answer hnext⟩

/-- Every process of the system is assured of what its call promises. -/
def System.Assured (serves : (op : Op) → S → Answer op → S → Prop) (rely : S → S → Prop)
    (post : Call → List (Event S Op) → Except E A → S → Prop) (system : System S Call Op Answer E A) : Prop :=
  ∀ pid process, system.process pid = some process →
    process.program.Assures serves rely (post process.call) process.events system.shared

theorem updated_cases {P : Type} {f : Nat → Option P} {other : Nat} {new found : P}
    (h : Function.update f pid (some new) other = some found) : other = pid ∧ new = found ∨ f other = some found := by
  by_cases hpid : other = pid
  · rw [hpid, Function.update_self, Option.some.injEq] at h
    exact .inl ⟨hpid, h⟩
  · rw [Function.update_of_ne hpid] at h
    exact .inr h

/-- The rely-guarantee rule for one step: where every call is assured when it begins, a
step stays within `rely` and leaves every process assured. -/
theorem System.Step.assured (hstep : System.Step body serves system action next)
    {post : Call → List (Event S Op) → Except E A → S → Prop} (hrefl : ∀ s, rely s s)
    (htrans : ∀ r s t, rely r s → rely s t → rely r t)
    (hbody : ∀ call, (body call).Assures serves rely (post call) [] system.shared)
    (h : system.Assured serves rely post) : rely system.shared next.shared ∧ next.Assured serves rely post := by
  cases hstep with
  | begins pid call =>
    refine ⟨hrefl _, fun other process hprocess => ?_⟩
    rcases updated_cases hprocess with ⟨_, rfl⟩ | hprocess
    · exact hbody call
    · exact h other process hprocess
  | performs hacting hserved =>
    obtain ⟨hrely, hnext⟩ := h _ _ hacting _ (hrefl _) _ _ hserved
    refine ⟨hrely, fun other process hprocess => ?_⟩
    rcases updated_cases hprocess with ⟨_, rfl⟩ | hprocess
    · exact hnext
    · exact (h other process hprocess).stable htrans hrely

section Run

variable (h : System.Run body serves start actions finish) {post : Call → List (Event S Op) → Except E A → S → Prop}
  {good : S → Prop} (hrefl : ∀ s, rely s s) (htrans : ∀ r s t, rely r s → rely s t → rely r t)
  (hgood : ∀ s t, good s → rely s t → good t)
  (hbody : ∀ call s, good s → (body call).Assures serves rely (post call) [] s) (hstart : good start.shared)
  (hassured : start.Assured serves rely post)

include h hrefl htrans hgood hbody hstart hassured

/-- The rely-guarantee rule: in every interleaving of calls that are assured from every
good state, the shared state stays good and within `rely`, and every process is assured. -/
theorem System.Run.assured :
    good finish.shared ∧ rely start.shared finish.shared ∧ finish.Assured serves rely post := by
  induction h with
  | nil => exact ⟨hstart, hrefl _, hassured⟩
  | snoc _ hstep ih =>
    obtain ⟨hmiddle, hrely, hprocesses⟩ := ih
    obtain ⟨hlast, hnext⟩ := hstep.assured hrefl htrans (fun call => hbody call _ hmiddle) hprocesses
    exact ⟨hgood _ _ hmiddle hlast, htrans _ _ _ hrely hlast, hnext⟩

/-- A process that is assured of more than its call promises stays so until it begins
another call. -/
theorem System.Run.assured_process {own : List (Event S Op) → Except E A → S → Prop}
    {process : Process S Call Op Answer E A} (hprocess : start.process pid = some process)
    (hown : process.program.Assures serves rely own process.events start.shared)
    (hbusy : ∀ call, .begins pid call ∉ actions) :
    ∃ later, finish.process pid = some later ∧
      later.program.Assures serves rely own later.events finish.shared := by
  induction h with
  | nil => exact ⟨process, hprocess, hown⟩
  | snoc hpath hstep ih =>
    obtain ⟨hmiddle, _, hprocesses⟩ := System.Run.assured hpath hrefl htrans hgood hbody hstart hassured
    obtain ⟨hrely, _⟩ := hstep.assured hrefl htrans (fun call => hbody call _ hmiddle) hprocesses
    obtain ⟨later, hlater, hassures⟩ := ih fun call hmem => hbusy call (List.mem_append_left _ hmem)
    cases hstep with
    | begins other call =>
      have hother : pid ≠ other := fun hpid => hbusy call (by simp [hpid])
      exact ⟨later, by simpa [Function.update_of_ne hother] using hlater, hassures⟩
    | @performs other _ _ _ _ _ _ hacting hserved =>
      by_cases hpid : pid = other
      · rw [hpid] at hlater ⊢
        obtain rfl := Option.some.inj (hlater.symm.trans hacting)
        exact ⟨_, Function.update_self _ _ _, (hassures _ (hrefl _) _ _ hserved).2⟩
      · exact ⟨later, by simpa [Function.update_of_ne hpid] using hlater, hassures.stable htrans hrely⟩

end Run

/-- A process that is left alone carries its program out to the end. -/
theorem System.Run.of_executes {u : S} {result : Except E A}
    (h : Executes serves s program events (some result) u) {call : Call}
    {past : List (Event S Op)} {process : Nat → Option (Process S Call Op Answer E A)}
    (hprocess : process pid = some ⟨call, program, past⟩) :
    System.Run body serves ⟨s, process⟩ (List.replicate events.length (.performs pid))
      ⟨u, Function.update process pid (some ⟨call, .done result, past ++ events⟩)⟩ := by
  generalize hended : some result = ended at h
  induction h generalizing past process with
  | interrupted => cases hended
  | finished =>
    cases hended
    rw [List.append_nil, ← hprocess, Function.update_eq_self]
    exact .nil
  | @performed s t _ op next answer _ _ hserves _ ih =>
    have hrest := ih (Function.update_self pid (some ⟨call, next answer, past ++ [⟨s, op, t⟩]⟩) process) hended
    rw [Function.update_idem, List.append_assoc] at hrest
    exact (RunPath.single (System.Step.performs hprocess hserves)).append hrest

end Interleaving

end Effects
