import AgentGovernor.Lib.Path
import AgentGovernor.Store.Write

open Checked
open ag_primitives (Digest)
open ag_store (saturating_add_u64)

namespace ag_app.rpc_auth

section Keys

def RPC_NONCE_LEN : Nat := 32

def key_id_admits (character : Char) : Bool :=
  character.isAlphanum || character ∈ ['-', '_', '.', ':']

/-- Identifier of one enrolled key, bounded and ASCII. -/
structure RpcKeyIdV1 where
  as_str : String
  canonical : as_str ≠ "" ∧ as_str.utf8ByteSize ≤ 128 ∧ as_str.toList.all key_id_admits = true
  deriving DecidableEq

/-- A 256-bit nonce. -/
structure RpcNonceV1 where
  bytes : List UInt8
  exact_length : bytes.length = RPC_NONCE_LEN
  deriving DecidableEq

inductive RpcDirectionV1 where
  | ServerChallenge | Request | Response
  deriving DecidableEq, Repr

structure ReplayKeyV1 where
  signer : Digest
  key_id : RpcKeyIdV1
  direction : RpcDirectionV1
  nonce : RpcNonceV1
  deriving DecidableEq

/-- What one authenticated message shows the guard. -/
structure ReplayObservationV1 where
  signer : Digest
  key_id : RpcKeyIdV1
  direction : RpcDirectionV1
  nonce : RpcNonceV1
  issued_at_unix_ms : UInt64
  maximum_clock_skew_ms : UInt64

namespace ReplayObservationV1

def key (observation : ReplayObservationV1) : ReplayKeyV1 :=
  ⟨observation.signer, observation.key_id, observation.direction, observation.nonce⟩

/-- The last moment at which the message is fresh, and until which it is remembered. -/
def expires_at (observation : ReplayObservationV1) : UInt64 :=
  saturating_add_u64 observation.issued_at_unix_ms observation.maximum_clock_skew_ms

/-- The entry under which the message is remembered. -/
def candidate (observation : ReplayObservationV1) : ReplayKeyV1 × UInt64 :=
  (observation.key, observation.expires_at)

end ReplayObservationV1

end Keys

section Guard

/-- The failures of the replay guard. -/
inductive RpcAuthError where
  | InvalidReplayCapacity
  | TimestampOutsideWindow
  | Replay
  | ReplayCapacityExhausted
  deriving DecidableEq, Repr

def validate_time (issued now skew : UInt64) : Except RpcAuthError Unit :=
  reject (skew = 0 ∨ issued > saturating_add_u64 now skew ∨ saturating_add_u64 issued skew < now)
    .TimestampOutsideWindow

/-- `RpcReplayGuardV1`: the remembered messages with their expiry. The map is its
list of entries, whose keys differ. -/
structure RpcReplayGuardV1 where
  capacity : Nat
  entries : List (ReplayKeyV1 × UInt64)
  distinct : (entries.map Prod.fst).Nodup
  deriving DecidableEq

namespace RpcReplayGuardV1

def new (capacity : Nat) : Except RpcAuthError RpcReplayGuardV1 :=
  if capacity = 0 then .error .InvalidReplayCapacity else .ok ⟨capacity, [], .nil⟩

/-- `HashMap::retain` of the entries that have not expired. -/
def retain (guard : RpcReplayGuardV1) (now_unix_ms : UInt64) : RpcReplayGuardV1 where
  capacity := guard.capacity
  entries := guard.entries.filter fun entry => entry.2 ≥ now_unix_ms
  distinct := guard.distinct.sublist (List.filter_sublist.map Prod.fst)

/-- Some candidate is remembered already, or two candidates have one key. -/
def Replays (guard : RpcReplayGuardV1) (candidates : List (ReplayKeyV1 × UInt64)) : Prop :=
  (∃ candidate ∈ candidates, candidate.1 ∈ guard.entries.map Prod.fst) ∨ ¬ (candidates.map Prod.fst).Nodup

instance (guard : RpcReplayGuardV1) (candidates : List (ReplayKeyV1 × UInt64)) :
    Decidable (guard.Replays candidates) :=
  inferInstanceAs (Decidable (_ ∨ _))

theorem distinct_append {guard : RpcReplayGuardV1} {candidates : List (ReplayKeyV1 × UInt64)}
    (hfresh : ¬ guard.Replays candidates) : ((guard.entries ++ candidates).map Prod.fst).Nodup := by
  obtain ⟨hunknown, hnodup⟩ := not_or.mp hfresh
  rw [List.map_append]
  refine List.nodup_append.mpr ⟨guard.distinct, not_not.mp hnodup, ?_⟩
  rintro key hknown _ hkey rfl
  obtain ⟨candidate, hcandidate, rfl⟩ := List.mem_map.mp hkey
  exact hunknown ⟨candidate, hcandidate, hknown⟩

/-- The state a call leaves stands beside its result: the entries that expired are
dropped even where the call is then refused. -/
def check_and_record_all (guard : RpcReplayGuardV1) (observations : List ReplayObservationV1)
    (now_unix_ms : UInt64) : Except RpcAuthError Unit × RpcReplayGuardV1 :=
  let timely := observations.forM fun observation =>
    validate_time observation.issued_at_unix_ms now_unix_ms observation.maximum_clock_skew_ms
  if timely = .ok () then
    let kept := guard.retain now_unix_ms
    let candidates := observations.map ReplayObservationV1.candidate
    if hfresh : kept.Replays candidates then (.error .Replay, kept)
    -- `usize` lengths of collections in memory do not reach the saturation of the source's sum.
    else if kept.entries.length + candidates.length > kept.capacity then
      (.error .ReplayCapacityExhausted, kept)
    else (.ok (), ⟨kept.capacity, kept.entries ++ candidates, distinct_append hfresh⟩)
  else (timely, guard)

def check_and_record (guard : RpcReplayGuardV1) (observation : ReplayObservationV1) (now_unix_ms : UInt64) :
    Except RpcAuthError Unit × RpcReplayGuardV1 :=
  guard.check_and_record_all [observation] now_unix_ms

end RpcReplayGuardV1

end Guard

section Calls

/-- The uses effectd makes of its guard. Local RPC and external proofs are checked
at the system clock, a forwarded worker candidate at the time its message carries. -/
inductive GuardCall where
  | local_rpc (observation : ReplayObservationV1) (now_unix_ms : UInt64)
  | external_signed (challenge request : ReplayObservationV1) (now_unix_ms : UInt64)
  | worker_candidate (challenge request : ReplayObservationV1) (accepted_at_unix_ms : UInt64)

namespace GuardCall

def observations : GuardCall → List ReplayObservationV1
  | local_rpc observation _ => [observation]
  | external_signed challenge request _ => [challenge, request]
  | worker_candidate challenge request _ => [challenge, request]

def time : GuardCall → UInt64
  | local_rpc _ now_unix_ms => now_unix_ms
  | external_signed _ _ now_unix_ms => now_unix_ms
  | worker_candidate _ _ accepted_at_unix_ms => accepted_at_unix_ms

/-- The reading of the system clock the call was made with. -/
def system_clock : GuardCall → Option UInt64
  | local_rpc _ now_unix_ms => some now_unix_ms
  | external_signed _ _ now_unix_ms => some now_unix_ms
  | worker_candidate _ _ _ => none

def run (guard : RpcReplayGuardV1) : GuardCall → Except RpcAuthError Unit × RpcReplayGuardV1
  | local_rpc observation now_unix_ms => guard.check_and_record observation now_unix_ms
  | external_signed challenge request now_unix_ms =>
    guard.check_and_record_all [challenge, request] now_unix_ms
  | worker_candidate challenge request accepted_at_unix_ms =>
    guard.check_and_record_all [challenge, request] accepted_at_unix_ms

theorem run_eq (guard : RpcReplayGuardV1) (call : GuardCall) :
    call.run guard = guard.check_and_record_all call.observations call.time := by
  cases call <;> rfl

end GuardCall

/-- One call on the guard, labelled with its result. -/
def GuardStep (guard : RpcReplayGuardV1) (label : GuardCall × Except RpcAuthError Unit)
    (next : RpcReplayGuardV1) : Prop :=
  label.1.run guard = (label.2, next)

instance (guard next : RpcReplayGuardV1) (label : GuardCall × Except RpcAuthError Unit) :
    Decidable (GuardStep guard label next) :=
  inferInstanceAs (Decidable (_ = _))

end Calls

section Steps

variable {guard next final : RpcReplayGuardV1} {call : GuardCall} {error : RpcAuthError}
  {result : Except RpcAuthError Unit}

theorem refused_cases (hstep : GuardStep guard (call, .error error) next) :
    next = guard ∨ next = guard.retain call.time := by
  rw [GuardStep, GuardCall.run_eq, RpcReplayGuardV1.check_and_record_all] at hstep
  dsimp only at hstep
  split_ifs at hstep
  · exact .inr (Prod.mk.inj hstep).2.symm
  · exact .inr (Prod.mk.inj hstep).2.symm
  · cases (Prod.mk.inj hstep).1
  · exact .inl (Prod.mk.inj hstep).2.symm

variable (hstep : GuardStep guard (call, .ok ()) next)

include hstep

/-- An accepted call adds its candidates to the entries that have not expired. -/
theorem accepted_spec :
    ¬ (guard.retain call.time).Replays (call.observations.map ReplayObservationV1.candidate) ∧
      next.capacity = guard.capacity ∧ next.entries.length ≤ guard.capacity ∧
      next.entries = (guard.retain call.time).entries ++
        call.observations.map ReplayObservationV1.candidate := by
  rw [GuardStep, GuardCall.run_eq, RpcReplayGuardV1.check_and_record_all] at hstep
  dsimp only at hstep
  split_ifs at hstep with htimely hreplays hfull
  · cases (Prod.mk.inj hstep).1
  · cases (Prod.mk.inj hstep).1
  · obtain rfl := (Prod.mk.inj hstep).2
    refine ⟨hreplays, rfl, ?_, rfl⟩
    rw [List.length_append]
    exact Nat.le_of_not_gt hfull
  · exact absurd (Prod.mk.inj hstep).1 htimely

omit hstep in
theorem mem_retain_iff {entry : ReplayKeyV1 × UInt64} {now_unix_ms : UInt64} :
    entry ∈ (guard.retain now_unix_ms).entries ↔ entry ∈ guard.entries ∧ now_unix_ms ≤ entry.2 := by
  simp [RpcReplayGuardV1.retain, List.mem_filter]

omit hstep in
theorem refused_adds_nothing (hstep : GuardStep guard (call, .error error) next) :
    ∀ entry ∈ next.entries, entry ∈ guard.entries := by
  obtain rfl | rfl := refused_cases hstep
  · exact fun _ hentry => hentry
  · exact fun _ hentry => (mem_retain_iff.mp hentry).1

omit hstep in
theorem step_bounded (hstep : GuardStep guard (call, result) next)
    (hbound : guard.entries.length ≤ guard.capacity) :
    next.capacity = guard.capacity ∧ next.entries.length ≤ guard.capacity := by
  cases result with
  | ok =>
    obtain ⟨-, hcapacity, hroom, -⟩ := accepted_spec hstep
    exact ⟨hcapacity, hroom⟩
  | error =>
    obtain rfl | rfl := refused_cases hstep
    · exact ⟨rfl, hbound⟩
    · exact ⟨rfl, (List.length_filter_le _ _).trans hbound⟩

omit hstep in
/-- An entry outlives every call that is made before it expires. -/
theorem step_keeps {entry : ReplayKeyV1 × UInt64} (hstep : GuardStep guard (call, result) next)
    (hentry : entry ∈ guard.entries) (htime : call.time ≤ entry.2) : entry ∈ next.entries := by
  have hretained := mem_retain_iff.mpr ⟨hentry, htime⟩
  cases result with
  | ok =>
    obtain ⟨-, -, -, hentries⟩ := accepted_spec hstep
    rw [hentries]
    exact List.mem_append_left _ hretained
  | error =>
    obtain rfl | rfl := refused_cases hstep
    · exact hentry
    · exact hretained

theorem accepted_nodup : (call.observations.map ReplayObservationV1.key).Nodup := by
  have hnodup := not_not.mp (not_or.mp (accepted_spec hstep).1).2
  rwa [List.map_map] at hnodup

theorem accepted_recorded {observation : ReplayObservationV1}
    (hmem : observation ∈ call.observations) : observation.candidate ∈ next.entries := by
  obtain ⟨-, -, -, hentries⟩ := accepted_spec hstep
  rw [hentries]
  exact List.mem_append_right _ (List.mem_map_of_mem hmem)

/-- A remembered key is accepted again only at a time past its expiry. -/
theorem expired_of_accepted {observation : ReplayObservationV1} {expiry : UInt64}
    (hmem : observation ∈ call.observations) (hentry : (observation.key, expiry) ∈ guard.entries) :
    expiry < call.time := by
  by_contra hfuture
  have hretained := mem_retain_iff.mpr ⟨hentry, UInt64.not_lt.mp hfuture⟩
  exact (accepted_spec hstep).1
    (.inl ⟨observation.candidate, List.mem_map_of_mem hmem, List.mem_map.mpr ⟨_, hretained, rfl⟩⟩)

end Steps

section Runs

variable {capacity : Nat} {start guard final : RpcReplayGuardV1}
  {history : List (GuardCall × Except RpcAuthError Unit)}

theorem run_bounded (hnew : RpcReplayGuardV1.new capacity = .ok start)
    (hrun : RunPath GuardStep start history final) :
    final.capacity = capacity ∧ final.entries.length ≤ final.capacity := by
  rw [RpcReplayGuardV1.new] at hnew
  split at hnew
  · cases hnew
  · obtain rfl := Except.ok.inj hnew
    refine hrun.invariant (fun _ guard => guard.capacity = capacity ∧ guard.entries.length ≤ guard.capacity)
      ⟨rfl, Nat.zero_le _⟩ fun _ _ _ _ _ hbound hstep => ?_
    obtain ⟨hcapacity, hroom⟩ := step_bounded hstep hbound.2
    exact ⟨hcapacity.trans hbound.1, hcapacity.symm ▸ hroom⟩

/-- Along a run whose calls all come before the expiry of an entry, it is kept. -/
theorem run_keeps {entry : ReplayKeyV1 × UInt64} (hrun : RunPath GuardStep guard history final)
    (hentry : entry ∈ guard.entries) (htimes : ∀ label ∈ history, label.1.time ≤ entry.2) :
    entry ∈ final.entries := by
  induction hrun with
  | nil => exact hentry
  | snoc _ hlast ih =>
    have hkept := ih fun label hlabel => htimes label (List.mem_append_left _ hlabel)
    exact step_keeps hlast hkept (htimes _ (by simp))

/-- In every sequence of calls effectd makes on one guard the table stays within its
capacity, a refused call records nothing, one call never accepts a key twice, and a
key that is accepted again was preceded by a call, or is presented by one, whose time
lies after the expiry of the first acceptance. -/
theorem replay_guard_exact_until_expiry (hnew : RpcReplayGuardV1.new capacity = .ok start)
    (hrun : RunPath GuardStep start history final) :
    final.entries.length ≤ capacity ∧
      (∀ call error next, GuardStep final (call, .error error) next →
        ∀ entry ∈ next.entries, entry ∈ final.entries) ∧
      ∀ second next, GuardStep final (second, .ok ()) next →
        (second.observations.map ReplayObservationV1.key).Nodup ∧
        ∀ front first between, history = front ++ (first, .ok ()) :: between →
          ∀ observation ∈ first.observations, ∀ again ∈ second.observations, again.key = observation.key →
            ∃ call ∈ between.map Prod.fst ++ [second], observation.expires_at < call.time := by
  obtain ⟨hcapacity, hbound⟩ := run_bounded hnew hrun
  refine ⟨hcapacity ▸ hbound, fun _ _ _ hstep => refused_adds_nothing hstep, ?_⟩
  intro second next hstep
  refine ⟨accepted_nodup hstep, ?_⟩
  intro front first between hhistory observation hobserved again hagain hkey
  subst hhistory
  obtain ⟨_, after, -, hfirst, hbetween⟩ := hrun.split
  by_contra hnone
  have hearly : ∀ call ∈ between.map Prod.fst ++ [second], call.time ≤ observation.expires_at :=
    fun call hcall => UInt64.not_lt.mp fun hlate => hnone ⟨call, hcall, hlate⟩
  -- No call came after the expiry, so the entry of the first acceptance is still there.
  have hkept := run_keeps hbetween (accepted_recorded hfirst hobserved) fun label hlabel =>
    hearly label.1 (List.mem_append_left _ (List.mem_map_of_mem hlabel))
  rw [ReplayObservationV1.candidate, ← hkey] at hkept
  exact UInt64.not_lt.mpr (hearly second (by simp)) (expired_of_accepted hstep hagain hkept)

def sample_observation (direction : RpcDirectionV1) (nonce : UInt8) (issued_at_unix_ms : UInt64) :
    ReplayObservationV1 where
  signer := ⟨[]⟩
  key_id := ⟨"worker-session.v1", by decide⟩
  direction := direction
  nonce := ⟨List.replicate 32 nonce, List.length_replicate⟩
  issued_at_unix_ms := issued_at_unix_ms
  maximum_clock_skew_ms := 30000

def sample_request : ReplayObservationV1 := sample_observation .Request 0 1000

def sample_candidate : GuardCall :=
  .worker_candidate (sample_observation .ServerChallenge 0 1000) sample_request 1000

/-- A local request of ten minutes later. -/
def sample_local : GuardCall := .local_rpc (sample_observation .Request 1 601000) 601000

/-- The guard after `calls`, all accepted. -/
def sample_guard (calls : List GuardCall) : RpcReplayGuardV1 :=
  calls.foldl (fun guard call => (call.run guard).2) ⟨4, [], .nil⟩

theorem sample_run : RunPath GuardStep (sample_guard []) [(sample_candidate, .ok ()), (sample_local, .ok ())]
    (sample_guard [sample_candidate, sample_local]) :=
  have hfirst : GuardStep (sample_guard []) (sample_candidate, .ok ()) (sample_guard [sample_candidate]) := by
    decide +kernel
  (RunPath.single hfirst).append (.single (by decide +kernel))

theorem sample_repeated : GuardStep (sample_guard [sample_candidate, sample_local]) (sample_candidate, .ok ())
    (sample_guard [sample_candidate, sample_local, sample_candidate]) := by
  decide +kernel

theorem replay_guard_exact_until_expiry_sample :
    ∃ call ∈ [sample_local, sample_candidate], sample_request.expires_at < call.time :=
  have hnew : RpcReplayGuardV1.new 4 = .ok (sample_guard []) := rfl
  ((replay_guard_exact_until_expiry hnew sample_run).2.2 _ _ sample_repeated).2 [] sample_candidate _ rfl
    sample_request (by simp [sample_candidate, GuardCall.observations]) sample_request
    (by simp [sample_candidate, GuardCall.observations]) rfl

/-- A local call at the system clock drops the entries of a worker candidate that
was checked at its own, earlier time, and the same candidate is accepted again. -/
theorem worker_candidate_accepted_twice :
    ∃ start final, RpcReplayGuardV1.new 4 = .ok start ∧
      RunPath GuardStep start [(sample_candidate, .ok ()), (sample_local, .ok ()), (sample_candidate, .ok ())]
        final ∧
      ([sample_candidate, sample_local, sample_candidate].filterMap GuardCall.system_clock).Pairwise (· ≤ ·) ∧
      sample_request ∈ sample_candidate.observations :=
  ⟨sample_guard [], _, rfl, sample_run.append (.single sample_repeated), List.pairwise_singleton _ _,
    by simp [sample_candidate, GuardCall.observations]⟩

end Runs

end ag_app.rpc_auth
