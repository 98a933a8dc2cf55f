import AgentGovernor.Ingress.Undisturbed
import AgentGovernor.Primitives.Written

open ag_primitives Checked ag_campaign ag_campaign.governed Relational Transaction

namespace ag_app.intervention_ingress

/-- The receipts of a submission: a chain that starts with custody, with at most one
governed result and nothing but custody refusals after it. -/
structure LedgerDb.SettlesOnce (submission : Digest) (db : LedgerDb) : Prop where
  received : ∀ first ∈ (db.naming submission).head?, first.result.is_received = true
  chained : Chained (db.naming submission)
  one_result : ∀ receipt ∈ db.naming submission, ∀ other ∈ db.naming submission,
    receipt.result.is_terminal = true → other.result.is_terminal = true → receipt.result = other.result
  closed : (db.naming submission).Pairwise fun earlier later =>
    earlier.result.is_terminal = true → later.result.is_custody_refused = true

open LedgerCall (execute run)

/-- The receipt as `decode_receipt_row` reads it from the canonical bytes of its row. The
rows here keep the receipts themselves, so a time that has no double of its own is where
the two differ. -/
def InterventionSubmissionReceiptV1.decoded (receipt : InterventionSubmissionReceiptV1) :
    InterventionSubmissionReceiptV1 :=
  { receipt with recorded_at_unix_ms := .ofNat (f64 receipt.recorded_at_unix_ms.toNat) }

theorem decoded_of_le {receipt : InterventionSubmissionReceiptV1}
    (h : receipt.recorded_at_unix_ms.toNat ≤ EXACT_MAX) : receipt.decoded = receipt := by
  rw [InterventionSubmissionReceiptV1.decoded, f64_of_le h, UInt64.ofNat_toNat]

/-- A status is recorded or refused without an append, or it follows a receipt that is no
custody refusal and its time has a double of its own. -/
def LedgerDb.Continues (db : LedgerDb) (submission : Digest) (result : InterventionSubmissionStatusV1)
    (recorded_at_unix_ms : UInt64) : Prop :=
  (∃ receipt ∈ db.naming submission, receipt.result = result ∨ receipt.result.is_terminal = true) ∨
    (∀ last ∈ (db.naming submission).getLast?, last.result.is_custody_refused = false) ∧
      recorded_at_unix_ms.toNat ≤ EXACT_MAX

/-- A call that may be made about a submission: a result only after custody was received
and not behind a custody refusal, and a custody refusal that claims the submission only
after custody was received and behind a refusal of the same presentation that claims it
too. -/
def LedgerCall.Orderly (sha : Sha256) (submission : Digest) (db : LedgerDb) (call : LedgerCall) : Prop :=
  call.names = some submission → match call with
    | .record_received verified time => db.Continues submission (.Received verified.custody_verification) time
    | .record_result _ result time => db.naming submission ≠ [] ∧ db.Continues submission result time
    | .record_custody_refusal _ _ _ _ _ => db.naming submission ≠ [] ∧
      ∀ last ∈ (db.receipts.rows.filter (call.selects sha)).getLast?,
        last.result.is_custody_refused = true ∧ last.submission = some submission

/-- Every call of a sequence is orderly, in the ledger it is made on. -/
def LedgerCall.InOrder (sha : Sha256) (ledger : InterventionSubmissionLedgerV1) (submission : Digest) :
    LedgerDb → List LedgerCall → Prop
  | _, [] => True
  | db, call :: calls => call.Orderly sha submission db ∧
    InOrder sha ledger submission (call.execute sha ledger db).2 calls

section Run

open InterventionSubmissionLedgerV1

variable {sha : Sha256} {ledger : InterventionSubmissionLedgerV1} {db db' : LedgerDb}
  {verified : VerifiedInterventionSubmissionV1} {result : InterventionSubmissionStatusV1}
  {recorded_at_unix_ms : UInt64} {receipt : InterventionSubmissionReceiptV1}

/-- A status that is recorded is returned again, and nothing is written. -/
theorem append_for_verified_again (hvalid : ∀ present ∈ db.receipts.rows, validate_receipt sha present = .ok ())
    (hchained : Chained (db.naming verified.envelope.body.submission)) (hpresented : db.PresentedAs verified)
    (hrecorded : db.recorded verified.envelope.body.submission result = some receipt) :
    Returns (ledger.append_for_verified sha verified result recorded_at_unix_ms) db receipt db := by
  have hhistory : ledger.history sha (some verified.envelope.body.submission) db = .ok _ := history_eq_ok_iff.mpr
    ⟨⟨fun present hpresent => hvalid present (List.mem_filter.mp hpresent).1, hchained⟩, rfl⟩
  refine returns_query_bind_iff.mpr ⟨_, hhistory, returns_lift_bind_iff.mpr ⟨(), ?_, ?_⟩⟩
  · rw [reject_eq_ok_iff]
    rintro ⟨first, hfirst, hother⟩
    exact hother (hpresented first hfirst)
  · rw [LedgerDb.recorded] at hrecorded
    simp only [hrecorded]
    exact returns_pure_iff.mpr ⟨rfl, rfl⟩

theorem serialize_injective_of_not_refused {left right : InterventionSubmissionStatusV1}
    (h : left.serialize = right.serialize) (hleft : left.is_custody_refused = false) : left = right := by
  cases left <;> cases right <;>
    simp_all [InterventionSubmissionStatusV1.serialize, InterventionSubmissionStatusV1.is_custody_refused,
      InjectiveSerialize.injective.eq_iff]

/-- A new status is never ignored as a duplicate. -/
theorem LedgerDb.Records.rows (hsha : sha.CollisionFree) (h : db.Records sha verified result receipt)
    (hvalid : ∀ present ∈ db.receipts.rows, validate_receipt sha present = .ok ())
    (hresult : result.is_custody_refused = false) :
    ((db.receipts.insert receipt).getD db.receipts).rows = db.receipts.rows ++ [receipt] := by
  rw [insert_or_ignore_rows, if_neg]
  rintro ⟨present, hpresent, hconflict⟩
  -- the identity of a receipt that names a verified submission fixes its status
  have hsame : receipt.result = present.result := serialize_injective_of_not_refused
    (derived_receipt_fields hsha h.valid (hvalid present hpresent) hconflict.symm).2 (h.result ▸ hresult)
  have hnamed := (derived_receipt_fields hsha (hvalid present hpresent) h.valid hconflict).1.trans h.submission
  exact h.fresh present (List.mem_filter.mpr ⟨hpresent, decide_eq_true hnamed⟩) (hsame.symm.trans h.result)

variable {call : LedgerCall} {submission : Digest}

/-- A receipt that names the submission extends its chain when the last receipt that its
call selects is of the same kind and names the submission too. -/
theorem LedgerCall.Appends.chained_naming (h : call.Appends sha db db' receipt)
    (hnames : call.names = some submission)
    (hlast : ∀ last ∈ (db.receipts.rows.filter (call.selects sha)).getLast?,
      last.result.is_custody_refused = call.refuses ∧ last.submission = some submission)
    (hchained : Chained (db.naming submission)) : Chained (db'.naming submission) := by
  have hchain : ((db.naming submission).filter fun other => other.chain_key = receipt.chain_key) =
      db.receipts.rows.filter fun other => call.selects sha other &&
        decide (other.result.is_custody_refused = call.refuses ∧ other.submission = some submission) := by
    rw [LedgerDb.naming, List.filter_filter]
    refine List.filter_congr fun other _ => ?_
    by_cases hother : other.submission = some submission
    · simp [h.chain_key_eq_iff fun _ => by rw [hother]; rfl, hother]
    · simp [hother]
  rw [Chained, naming_append h.rows (h.names.trans hnames), chainedFrom_concat_iff, hchain, h.previous,
    getLast?_filter_and fun last hmem => decide_eq_true (hlast last hmem)]
  exact ⟨hchained, rfl⟩

/-- A status that an orderly call appends follows no custody refusal, and its time is read
back as it was given. -/
theorem LedgerCall.Orderly.continues (h : call.Orderly sha submission db) (hnames : call.names = some submission)
    (hstatus : call.status = some (verified, result)) (hrecords : db.Records sha verified result receipt) :
    (∀ last ∈ (db.naming submission).getLast?, last.result.is_custody_refused = false) ∧
      call.recorded_at_unix_ms.toNat ≤ EXACT_MAX := by
  have hcontinues : verified.envelope.body.submission = submission ∧
      db.Continues submission result call.recorded_at_unix_ms := by
    have hallowed := h hnames
    cases call <;> cases hstatus <;> cases hnames
    · exact ⟨rfl, hallowed⟩
    · exact ⟨rfl, hallowed.2⟩
  obtain ⟨rfl, hcontinues⟩ := hcontinues
  refine hcontinues.resolve_left ?_
  rintro ⟨present, hpresent, hresult | hterminal⟩
  · exact hrecords.fresh present hpresent hresult
  · simp [hrecords.unsettled present hpresent] at hterminal

theorem LedgerCall.exists_status (call : LedgerCall) (h : call.refuses = false) :
    ∃ status, call.status = some status := by
  cases call with
  | record_received | record_result => exact ⟨_, rfl⟩
  | record_custody_refusal => cases h

/-- What an orderly call may be chained to. -/
theorem LedgerCall.Orderly.joins (h : call.Orderly sha submission db) (hnames : call.names = some submission)
    (hrecords : ∀ verified result, call.status = some (verified, result) → db.Records sha verified result receipt) :
    ∀ last ∈ (db.receipts.rows.filter (call.selects sha)).getLast?,
      last.result.is_custody_refused = call.refuses ∧ last.submission = some submission := by
  have hnamed : ∀ last ∈ (db.naming submission).getLast?, last.submission = some submission := fun last hmem =>
    of_decide_eq_true (List.mem_filter.mp (List.mem_of_getLast? hmem)).2
  cases call with
  | record_received | record_result =>
    have hlast := (h.continues hnames rfl (hrecords _ _ rfl)).1
    cases hnames
    exact fun last hmem => ⟨hlast last hmem, hnamed last hmem⟩
  | record_custody_refusal => exact (h hnames).2

/-- Only the receipt of custody comes first. -/
theorem LedgerCall.Orderly.first (h : call.Orderly sha submission db) (hnames : call.names = some submission)
    (hempty : db.naming submission = [])
    (hrecords : ∀ verified result, call.status = some (verified, result) → db.Records sha verified result receipt) :
    receipt.result.is_received = true := by
  have hallowed := h hnames
  cases call with
  | record_received verified _ =>
    rw [(hrecords _ _ rfl).result]
    rfl
  | record_result => exact absurd hempty hallowed.1
  | record_custody_refusal => exact absurd hempty hallowed.1

theorem one_result_of_closed {receipts : List InterventionSubmissionReceiptV1}
    (h : receipts.Pairwise fun earlier later =>
      earlier.result.is_terminal = true → later.result.is_custody_refused = true) :
    ∀ receipt ∈ receipts, ∀ other ∈ receipts, receipt.result.is_terminal = true →
      other.result.is_terminal = true → receipt.result = other.result := by
  have hexclusive : ∀ status : InterventionSubmissionStatusV1, status.is_terminal = true →
      status.is_custody_refused = true → False := by
    intro status
    cases status <;> simp [InterventionSubmissionStatusV1.is_terminal,
      InterventionSubmissionStatusV1.is_custody_refused]
  have hsame : receipts.Pairwise fun left right : InterventionSubmissionReceiptV1 =>
      left.result.is_terminal = true → right.result.is_terminal = true → left.result = right.result :=
    h.imp fun hlater hearlier hterminal => (hexclusive _ hterminal (hlater hearlier)).elim
  have : Std.Symm fun left right : InterventionSubmissionReceiptV1 =>
      left.result.is_terminal = true → right.result.is_terminal = true → left.result = right.result :=
    ⟨fun _ _ hsame hright hleft => (hsame hleft hright).symm⟩
  intro receipt hreceipt other hother
  exact List.Pairwise.forall_of_forall (fun _ _ _ _ => rfl) hsame hreceipt hother

theorem LedgerCall.execute_closed (h : (db.naming submission).Pairwise fun earlier later =>
      earlier.result.is_terminal = true → later.result.is_custody_refused = true) :
    ((call.execute sha ledger db).2.naming submission).Pairwise fun earlier later =>
      earlier.result.is_terminal = true → later.result.is_custody_refused = true := by
  rcases call.naming_cases sha ledger db submission with hsame | ⟨added, hnames, happends, hrecords, hnaming⟩
  · rwa [hsame]
  · rw [hnaming, List.pairwise_append]
    refine ⟨h, List.pairwise_singleton _ _, fun earlier hearlier later hlater hterminal => ?_⟩
    rw [List.mem_singleton.mp hlater, happends.kind]
    cases hstatus : call.status with
    | none => cases call <;> first | rfl | cases hstatus
    | some status =>
      have hrecord := hrecords status.1 status.2 hstatus
      have hverified : status.1.envelope.body.submission = submission := by
        cases call <;> cases hstatus <;> cases hnames <;> rfl
      rw [hverified.symm] at hearlier
      exact absurd hterminal (by simp [hrecord.unsettled earlier hearlier])

/-- An orderly call keeps what is promised of the receipts of a submission. -/
theorem LedgerCall.Orderly.settles (horderly : call.Orderly sha submission db) (h : db.SettlesOnce submission) :
    (call.execute sha ledger db).2.SettlesOnce submission := by
  have hclosed : ((call.execute sha ledger db).2.naming submission).Pairwise _ := LedgerCall.execute_closed h.closed
  rcases call.naming_cases sha ledger db submission with hsame | ⟨added, hnames, happends, hrecords, hnaming⟩
  · exact ⟨by rw [hsame]; exact h.received, by rw [hsame]; exact h.chained, one_result_of_closed hclosed, hclosed⟩
  · refine ⟨?_, happends.chained_naming hnames (horderly.joins hnames hrecords) h.chained,
      one_result_of_closed hclosed, hclosed⟩
    rw [hnaming, List.head?_append]
    cases hempty : (db.naming submission) with
    | nil => simpa using horderly.first hnames hempty hrecords
    | cons first rest => simpa [hempty] using h.received

theorem LedgerCall.InOrder.settles {calls : List LedgerCall}
    (horder : LedgerCall.InOrder sha ledger submission db calls) (h : db.SettlesOnce submission) :
    (run sha ledger db calls).SettlesOnce submission := by
  induction calls generalizing db with
  | nil => exact h
  | cons call calls ih => exact ih horder.2 (horder.1.settles h)

/-- Every status of the submission is read back as it was returned. -/
def LedgerDb.ReadsBack (submission : Digest) (db : LedgerDb) : Prop :=
  ∀ receipt ∈ db.naming submission, receipt.result.is_custody_refused = false → receipt.decoded = receipt

theorem LedgerCall.Orderly.reads_back (horderly : call.Orderly sha submission db) (h : db.ReadsBack submission) :
    (call.execute sha ledger db).2.ReadsBack submission := by
  rcases call.naming_cases sha ledger db submission with hsame | ⟨added, hnames, happends, hrecords, hnaming⟩
  · rwa [LedgerDb.ReadsBack, hsame]
  · rw [LedgerDb.ReadsBack, hnaming]
    intro receipt hmem hrefused
    rcases List.mem_append.mp hmem with hpresent | hadded
    · exact h receipt hpresent hrefused
    · cases List.mem_singleton.mp hadded
      rw [happends.kind] at hrefused
      obtain ⟨⟨verified, result⟩, hstatus⟩ := call.exists_status hrefused
      refine decoded_of_le ?_
      rw [happends.recorded_at_unix_ms]
      exact (horderly.continues hnames hstatus (hrecords _ _ hstatus)).2

theorem LedgerCall.InOrder.reads_back {calls : List LedgerCall}
    (horder : LedgerCall.InOrder sha ledger submission db calls) (h : db.ReadsBack submission) :
    (run sha ledger db calls).ReadsBack submission := by
  induction calls generalizing db with
  | nil => exact h
  | cons call calls ih => exact ih horder.2 (horder.1.reads_back h)

theorem LedgerCall.run_valid {calls : List LedgerCall}
    (hvalid : ∀ present ∈ db.receipts.rows, validate_receipt sha present = .ok ()) :
    ∀ present ∈ (run sha ledger db calls).receipts.rows, validate_receipt sha present = .ok () := by
  induction calls generalizing db with
  | nil => exact hvalid
  | cons call calls ih => exact ih (LedgerCall.execute_valid hvalid)

/-- A status that was recorded for a presentation, with the receipt that is returned for it. -/
structure LedgerDb.Holds (verified : VerifiedInterventionSubmissionV1) (result : InterventionSubmissionStatusV1)
    (receipt : InterventionSubmissionReceiptV1) (db : LedgerDb) : Prop where
  presented : db.PresentedAs verified
  recorded : db.recorded verified.envelope.body.submission result = some receipt

/-- A status is held once its call has succeeded. -/
theorem LedgerCall.holds (hsha : sha.CollisionFree)
    (hvalid : ∀ present ∈ db.receipts.rows, validate_receipt sha present = .ok ())
    (hstatus : call.status = some (verified, result)) (h : Returns (call.execute sha ledger) db receipt db') :
    db'.Holds verified result receipt := by
  obtain ⟨hstored, hrefused, _⟩ := LedgerCall.returns_status hstatus h
  obtain ⟨hpresented, ⟨hrecorded, rfl⟩ | ⟨hrecords, _, rfl⟩⟩ := returns_append_for_verified_cases hstored
  · exact ⟨hpresented, hrecorded⟩
  · have hnaming : LedgerDb.naming { db with receipts := (db.receipts.insert receipt).getD db.receipts }
        verified.envelope.body.submission = db.naming verified.envelope.body.submission ++ [receipt] :=
      naming_append (hrecords.rows hsha hvalid hrefused) hrecords.submission
    constructor
    · intro first hfirst
      rw [hnaming, List.head?_append] at hfirst
      cases hhead : (db.naming verified.envelope.body.submission).head? with
      | none =>
        rw [hhead] at hfirst
        obtain rfl : receipt = first := by simpa using hfirst
        exact hrecords.presentation
      | some present =>
        rw [hhead] at hfirst
        obtain rfl : present = first := by simpa using hfirst
        exact hpresented present hhead
    · have hnone : (db.naming verified.envelope.body.submission).find? (fun receipt => receipt.result = result) =
          none := List.find?_eq_none.mpr (by simpa using hrecords.fresh)
      rw [LedgerDb.recorded, hnaming, List.find?_append, hnone]
      simp [hrecords.result]

/-- Later calls do not change what is held. -/
theorem LedgerDb.Holds.run {calls : List LedgerCall} (h : db.Holds verified result receipt) :
    (run sha ledger db calls).Holds verified result receipt := by
  induction calls generalizing db with
  | nil => exact h
  | cons call calls ih =>
    refine ih ?_
    rcases call.naming_cases sha ledger db verified.envelope.body.submission with hsame | ⟨added, _, _, _, hnaming⟩
    · exact ⟨by rw [PresentedAs, hsame]; exact h.presented,
        by rw [LedgerDb.recorded, hsame]; exact h.recorded⟩
    · have hrecorded := h.recorded
      rw [LedgerDb.recorded] at hrecorded
      constructor
      · intro first hfirst
        obtain ⟨present, rest, hpresent⟩ : ∃ present rest,
            db.naming verified.envelope.body.submission = present :: rest :=
          List.exists_cons_of_ne_nil (List.ne_nil_of_mem (List.mem_of_find?_eq_some hrecorded))
        rw [hnaming, hpresent] at hfirst
        exact h.presented first (by rw [hpresent]; exact hfirst)
      · rw [LedgerDb.recorded, hnaming, List.find?_append, hrecorded]
        rfl

end Run

/-- One governed result per submission: as long as every call about it is orderly, its
receipts form a chain that starts with custody, hold one governed result with nothing but
custody refusals after it, and a repeated status returns the original receipt, which its
row gives back unchanged, and appends nothing. -/
theorem submission_settles_once {sha : Sha256} (hsha : sha.CollisionFree) {ledger : InterventionSubmissionLedgerV1}
    (submission : Digest) {before after : List LedgerCall} {call : LedgerCall}
    (horder : LedgerCall.InOrder sha ledger submission (.created ledger.target_runtime_profile)
      (before ++ call :: after)) :
    let final := LedgerCall.run sha ledger (.created ledger.target_runtime_profile) (before ++ call :: after)
    final.SettlesOnce submission ∧
    ∀ receipt, call.names = some submission → call.refuses = false →
      (call.execute sha ledger (LedgerCall.run sha ledger (.created ledger.target_runtime_profile) before)).1 =
        .ok receipt →
      receipt.decoded = receipt ∧ ∀ recorded_at_unix_ms,
        (call.retimed recorded_at_unix_ms).execute sha ledger final = (.ok receipt, final) := by
  intro final
  have hcreated : (LedgerDb.created ledger.target_runtime_profile).SettlesOnce submission :=
    ⟨by simp [LedgerDb.created, LedgerDb.naming], trivial, by simp [LedgerDb.created, LedgerDb.naming], .nil⟩
  have hsettles : final.SettlesOnce submission := horder.settles hcreated
  have hreads_back : final.ReadsBack submission := horder.reads_back (by simp [LedgerDb.ReadsBack, LedgerDb.created,
    LedgerDb.naming])
  refine ⟨hsettles, fun receipt hnames hcall hreturned => ?_⟩
  obtain ⟨⟨verified, result⟩, hstatus⟩ := call.exists_status hcall
  have hverified : verified.envelope.body.submission = submission := by
    cases call <;> cases hstatus <;> cases hnames <;> rfl
  have hreturns : Returns (call.execute sha ledger)
      (run sha ledger (.created ledger.target_runtime_profile) before) receipt _ :=
    Prod.ext hreturned rfl
  have hvalid : ∀ calls, ∀ present ∈
      (run sha ledger (.created ledger.target_runtime_profile) calls).receipts.rows,
      validate_receipt sha present = .ok () := fun calls => LedgerCall.run_valid (by simp [LedgerDb.created])
  have hholds : final.Holds verified result receipt := by
    change (run sha ledger _ (before ++ call :: after)).Holds verified result receipt
    have hafter : (run sha ledger _ after).Holds verified result receipt :=
      (LedgerCall.holds hsha (hvalid before) hstatus hreturns).run
    rw [run, List.foldl_append]
    exact hafter
  obtain ⟨_, hrefused, hagain⟩ := LedgerCall.returns_status hstatus hreturns
  rw [← hverified] at hsettles hreads_back
  refine ⟨hreads_back receipt (List.mem_of_find?_eq_some hholds.recorded) ?_, fun now => ?_⟩
  · rwa [of_decide_eq_true (List.find?_some hholds.recorded :)]
  exact hagain final now (append_for_verified_again (hvalid _) hsettles.chained hholds.presented hholds.recorded)

section Sample

variable {sha : Sha256}

/-- A result can be recorded for a submission whose custody was not. -/
theorem sample_unreceived_result (code : String) :
    ¬ (run sha ⟨⟨[]⟩⟩ (.created ⟨[]⟩)
      [.record_result (sample_verified sha) (.OutcomeUnknown code) 0]).SettlesOnce (sample_body sha).submission := by
  intro hsettles
  obtain ⟨receipt, db, hstored, hrows, hrecords⟩ : ∃ receipt db', Returns
      (InterventionSubmissionLedgerV1.append_for_verified sha ⟨⟨[]⟩⟩ (sample_verified sha) (.OutcomeUnknown code) 0)
      (.created ⟨[]⟩) receipt db' ∧ _ := append_for_verified_ok _ rfl
  have hreturns : Returns (execute sha ⟨⟨[]⟩⟩ (.record_result (sample_verified sha) (.OutcomeUnknown code) 0))
      (.created ⟨[]⟩) receipt db :=
    returns_lift_bind_iff.mpr ⟨(), reject_of_not (by
      simp [InterventionSubmissionStatusV1.is_received, InterventionSubmissionStatusV1.is_custody_refused]), hstored⟩
  have hafter : run sha ⟨⟨[]⟩⟩ (.created ⟨[]⟩) [.record_result (sample_verified sha) (.OutcomeUnknown code) 0] = db :=
    congrArg Prod.snd hreturns
  have hnaming : db.naming (sample_body sha).submission = LedgerDb.naming (.created ⟨[]⟩) _ ++ [receipt] :=
    naming_append hrows hrecords.submission
  have hreceived := hsettles.received receipt (by
    rw [hafter, hnaming]
    rfl)
  rw [hrecords.result] at hreceived
  cases hreceived

/-- A refused presentation becomes the first receipt of the submission that it claims. -/
theorem unreceived_refusal (hsha : sha.CollisionFree) (submission : Digest) (presentation : String)
    (claimed_request : Option GovernedInterventionRequestIdV1) (code : InterventionCustodyRefusalCodeV1) :
    let ledger : InterventionSubmissionLedgerV1 := ⟨⟨[]⟩⟩
    ¬ (run sha ledger (.created ledger.target_runtime_profile)
      [.record_custody_refusal presentation (some submission) claimed_request code 0]).SettlesOnce submission := by
  intro ledger hsettles
  obtain ⟨refused, happends⟩ : ∃ refused, LedgerCall.Appends sha (.record_custody_refusal presentation
      (some submission) claimed_request code 0) _
      (run sha ledger (.created ledger.target_runtime_profile) [.record_custody_refusal ..]) refused :=
    record_custody_refusal_appends hsha (by simp [LedgerDb.created]) (by simp [LedgerDb.created]) _ _ _ _
      (by decide : (0 : UInt64) ≤ ag_store.I64_MAX)
  have hreceived := hsettles.received refused (by
    rw [naming_append happends.rows happends.names]
    rfl)
  have hkind : refused.result.is_custody_refused = true := happends.kind
  cases hresult : refused.result <;>
    simp_all [InterventionSubmissionStatusV1.is_received, InterventionSubmissionStatusV1.is_custody_refused]

theorem sample_in_order :
    LedgerCall.InOrder sha ⟨⟨[]⟩⟩ (sample_body sha).submission (.created ⟨[]⟩)
      ([] ++ .record_received (sample_verified sha) 0 :: []) :=
  ⟨fun _ => .inr ⟨by simp [LedgerDb.created, LedgerDb.naming], by decide⟩, trivial⟩

theorem sample_names : LedgerCall.names (.record_received (sample_verified sha) 0) =
    some (sample_body sha).submission := rfl

end Sample

/-- Custody of the sample is received, and received again later. -/
theorem submission_settles_once_received :
    (LedgerCall.run ideal_sha ⟨⟨[]⟩⟩ (.created ⟨[]⟩)
      ([] ++ .record_received (sample_verified ideal_sha) 0 :: [])).SettlesOnce (sample_body ideal_sha).submission ∧
    ∃ receipt, receipt.decoded = receipt ∧ LedgerCall.execute ideal_sha ⟨⟨[]⟩⟩
        (.retimed 1 (.record_received (sample_verified ideal_sha) 0))
        (LedgerCall.run ideal_sha ⟨⟨[]⟩⟩ (.created ⟨[]⟩)
          ([] ++ .record_received (sample_verified ideal_sha) 0 :: [])) =
      (.ok receipt, LedgerCall.run ideal_sha ⟨⟨[]⟩⟩ (.created ⟨[]⟩)
        ([] ++ .record_received (sample_verified ideal_sha) 0 :: [])) := by
  have hsettles := submission_settles_once ideal_sha_collision_free _ sample_in_order
  obtain ⟨receipt, hreceived⟩ := sample_received
  have hrepeated := hsettles.2 receipt sample_names rfl hreceived
  exact ⟨hsettles.1, receipt, hrepeated.1, hrepeated.2 1⟩

/-- The sample submission verifies. A result is recorded for it before its custody, and a
forged presentation that claims it becomes its first receipt. -/
theorem submission_unsettled :
    verify_submission_bytes ideal_sha (sample_codec ideal_sha) "signed" sample_ingress ⟨[]⟩ 0 =
      .ok (sample_verified ideal_sha) ∧
    ¬ (LedgerCall.run ideal_sha ⟨⟨[]⟩⟩ (.created ⟨[]⟩)
      [.record_result (sample_verified ideal_sha) (.OutcomeUnknown "interrupted") 0]).SettlesOnce
        (sample_body ideal_sha).submission ∧
    ¬ (LedgerCall.run ideal_sha ⟨⟨[]⟩⟩ (.created ⟨[]⟩)
      [.record_custody_refusal "forged" (some (sample_body ideal_sha).submission)
        (some (sample_body ideal_sha).request) .AuthenticationFailed 0]).SettlesOnce
        (sample_body ideal_sha).submission :=
  ⟨sample_submission_verified _, sample_unreceived_result _, unreceived_refusal ideal_sha_collision_free _ _ _ _⟩

end ag_app.intervention_ingress
