import AgentGovernor.Governed.Identity

open ag_primitives Checked

namespace ag_campaign.governed

/-- `u32::saturating_add`. -/
def saturating_add (left right : UInt32) : UInt32 :=
  if left.toNat + right.toNat < 2 ^ 32 then left + right else UInt32.ofNat (2 ^ 32 - 1)

/-- Durable bounded retry, probe and escalation accounting. -/
@[ext]
structure LoopBudgetV1 where
  retry_limit : UInt32
  retries_used : UInt32
  probe_limit : UInt32
  probes_used : UInt32
  escalation_limit : UInt32
  escalations_used : UInt32
  deriving DecidableEq, Repr

@[simp] def LoopBudgetV1.serialize (value : LoopBudgetV1) : Jcs :=
  .obj [("escalation_limit", to_jcs value.escalation_limit),
    ("escalations_used", to_jcs value.escalations_used), ("probe_limit", to_jcs value.probe_limit),
    ("probes_used", to_jcs value.probes_used), ("retries_used", to_jcs value.retries_used),
    ("retry_limit", to_jcs value.retry_limit)]

instance : Serialize LoopBudgetV1 := ⟨LoopBudgetV1.serialize⟩

instance : InjectiveSerialize LoopBudgetV1 := .of_serialize

namespace LoopBudgetV1

/-- Whether one more retry may be classified, without granting it. -/
def retry_available (budget : LoopBudgetV1) : Bool :=
  budget.retries_used < budget.retry_limit

/-- Whether one more probe may be recorded, without performing it. -/
def probe_available (budget : LoopBudgetV1) : Bool :=
  budget.probes_used < budget.probe_limit

/-- Whether one more escalation may be recorded, without authority. -/
def escalation_available (budget : LoopBudgetV1) : Bool :=
  budget.escalations_used < budget.escalation_limit

def validate (budget : LoopBudgetV1) : Except KernelErrorV1 Unit :=
  reject (budget.retries_used > budget.retry_limit ∨ budget.probes_used > budget.probe_limit ∨
    budget.escalations_used > budget.escalation_limit) .InvalidBudget

theorem validate_eq_ok_iff {budget : LoopBudgetV1} :
    budget.validate = .ok () ↔ budget.retries_used ≤ budget.retry_limit ∧
      budget.probes_used ≤ budget.probe_limit ∧ budget.escalations_used ≤ budget.escalation_limit := by
  simp [validate, ok_rules]

end LoopBudgetV1

/-- Below a limit no counter saturates. -/
theorem saturating_add_one_of_lt {used limit : UInt32} (h : used < limit) :
    (saturating_add used 1).toNat = used.toNat + 1 := by
  have hlt : used.toNat < limit.toNat := UInt32.lt_iff_toNat_lt.mp h
  have hlimit : limit.toNat < 2 ^ 32 := limit.toNat_lt
  have hsum : used.toNat + (1 : UInt32).toNat < 2 ^ 32 := by
    simp only [UInt32.toNat_one]
    omega
  rw [saturating_add, if_pos hsum, UInt32.toNat_add, Nat.mod_eq_of_lt hsum, UInt32.toNat_one]

/-- A counter that still fits its limit after a saturating increment either had
room before it or was already stuck at the machine maximum. -/
theorem lt_of_saturating_add_le {used limit : UInt32} (h : saturating_add used 1 ≤ limit)
    (hmax : used.toNat ≠ 2 ^ 32 - 1) : used < limit := by
  have hused : used.toNat < 2 ^ 32 := used.toNat_lt
  have hsum : used.toNat + (1 : UInt32).toNat < 2 ^ 32 := by
    simp only [UInt32.toNat_one]
    omega
  have hle := UInt32.le_iff_toNat_le.mp h
  rw [saturating_add, if_pos hsum, UInt32.toNat_add, Nat.mod_eq_of_lt hsum, UInt32.toNat_one] at hle
  exact UInt32.lt_iff_toNat_lt.mpr (by omega)

end ag_campaign.governed
