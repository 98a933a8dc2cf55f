import AgentGovernor.Governed.Residual

open ag_primitives Checked

namespace ag_campaign.governed

def HUMAN_DISPOSITION_SCHEMA_V1 : String := "ag.governed-loop.human-disposition/v1"

/-- Closed external human disposition vocabulary. -/
inductive HumanDispositionKindV1 where
  | ReturnToObservation
  | ReplaceProgram (program : ProgramBasisRefV1)
  | ExactResidualDisposition (discharge : ExactResidualDischargeV1)
  | Terminate (observation : ObservationRefV1) (subject : Digest) (terminal_witness : TerminalWitnessRefV1)
  deriving DecidableEq, Repr

@[simp] def HumanDispositionKindV1.serialize : HumanDispositionKindV1 → Jcs
  | .ReturnToObservation => .str "return_to_observation"
  | .ReplaceProgram program => .obj [("replace_program", to_jcs program)]
  | .ExactResidualDisposition discharge => .obj [("exact_residual_disposition", to_jcs discharge)]
  | .Terminate observation subject terminal_witness =>
    .obj [("terminate", .obj [("observation", to_jcs observation), ("subject", to_jcs subject),
      ("terminal_witness", to_jcs terminal_witness)])]

instance : Serialize HumanDispositionKindV1 := ⟨HumanDispositionKindV1.serialize⟩

instance : InjectiveSerialize HumanDispositionKindV1 := .of_serialize

/-- Authority-safe human disposition artifact. -/
structure HumanDispositionV1 where
  schema : String
  campaign : CampaignId
  occurrence : OccurrenceId
  halted_state_digest : Digest
  disposition : HumanDispositionKindV1
  decision : HumanDecisionIdV1
  principal : HumanPrincipalRefV1
  mandate : MandateRefV1
  nonce : HumanNonceRefV1
  expires_at_unix_ms : UInt64
  deriving DecidableEq, Repr

@[simp] def HumanDispositionV1.serialize (value : HumanDispositionV1) : Jcs :=
  .obj [("campaign", to_jcs value.campaign), ("decision", to_jcs value.decision),
    ("disposition", to_jcs value.disposition), ("expires_at_unix_ms", to_jcs value.expires_at_unix_ms),
    ("halted_state_digest", to_jcs value.halted_state_digest), ("mandate", to_jcs value.mandate),
    ("nonce", to_jcs value.nonce), ("occurrence", to_jcs value.occurrence),
    ("principal", to_jcs value.principal), ("schema", to_jcs value.schema)]

instance : Serialize HumanDispositionV1 := ⟨HumanDispositionV1.serialize⟩

instance : InjectiveSerialize HumanDispositionV1 := .of_serialize

/-- Root-owned expected human authority scope for one halted boundary. -/
structure HumanAuthorityScopeV1 where
  principal : HumanPrincipalRefV1
  mandate : MandateRefV1
  deriving DecidableEq, Repr

/-- Request to the external human-disposition verifier. -/
structure HumanDispositionVerificationRequestV1 where
  artifact : HumanDispositionV1
  expected_scope : HumanAuthorityScopeV1
  now_unix_ms : UInt64

/-- External signature/mandate/current-authority verifier. -/
structure HumanDispositionVerifierV1 where
  verify_human_disposition : HumanDispositionVerificationRequestV1 →
    Except ExternalBoundaryErrorV1 HumanVerificationRefV1

end ag_campaign.governed
