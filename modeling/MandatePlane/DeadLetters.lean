import MandatePlane.WebhookStatements

/-!
# Failed deliveries of one event

Deliveries that share an event id share its record.  A delivery whose handler raises
counts an attempt and leaves the ledger alone; the record becomes FAILED, and DEAD_LETTER
once the attempts have reached its limit.  After the first delivery that is processed the
later ones are ignored.
-/

namespace MandatePlane.DeadLetters

open DomainModel KeyedTable JsonValue HostEnvironment LabelledRun HandlerPostings WebhookRoutes
open WebhookReplay WebhookStatements

/-! ### The machine -/

/-- Deliveries one after the other; one that is not answered has rolled its session back. -/
def webhookSession (env : Platform) (settings : Settings) :
    Machine Store WebhookDelivery WebhookAnswer where
  next s delivery :=
    match deliverInSession env settings delivery s with
    | .ok (_, s') => s'
    | .error _ => s
  log s delivery :=
    match deliverInSession env settings delivery s with
    | .ok (answer, _) => [answer]
    | .error _ => []

/-- **A signed delivery of the event**: its body decodes to an object with this event id. -/
def Shares (env : Platform) (settings : Settings) (eventId : String) (delivery : WebhookDelivery) :
    Prop :=
  ∃ fields, Signed env settings delivery.rawBody delivery.xRazorpaySignature fields ∧
    givenId fields = .str eventId ∧ eventId ≠ ""

/-- `processing_attempts` of the event's record; none yet without a record. -/
def attemptsOf (eventId : String) (s : Store) : ℤ :=
  match s.webhookEvents.find? eventId with
  | none => 0
  | some record => record.processingAttempts

/-- The ledger is the same: operations, transactions, mandates and audit events. -/
structure SameLedger (s s' : Store) : Prop where
  operations : s'.operations = s.operations
  transactions : s'.transactions = s.transactions
  mandates : s'.mandates = s.mandates
  auditEvents : s'.auditEvents = s.auditEvents

/-- The event has been processed. -/
def Done (eventId : String) (s : Store) : Prop :=
  ∃ record, s.webhookEvents.find? eventId = some record ∧ record.status = "PROCESSED"

/-! ### One delivery -/

/-- **What a delivery of the event does.** -/
inductive Delivered (eventId : String) (s : Store) : List WebhookAnswer → Store → Prop
  | unanswered : Delivered eventId s [] s
  | ignored (hdone : Done eventId s) :
      Delivered eventId s [⟨"DUPLICATE_IGNORED", eventId, none⟩] s
  | processed {s' : Store} {record : WebhookEvent} (hnew : ¬ Done eventId s)
      (hattempts : record.processingAttempts = attemptsOf eventId s + 1)
      (hrecord : s'.webhookEvents.find? eventId = some (Record.succeeded record)) :
      Delivered eventId s [⟨"PROCESSED", eventId, none⟩] s'
  | faulted {text : String} {record : WebhookEvent} {records : Table WebhookEvent}
      (hnew : ¬ Done eventId s)
      (hattempts : record.processingAttempts = attemptsOf eventId s + 1)
      (hrecord : records.find? eventId = some (Record.faulted text record)) :
      Delivered eventId s [⟨(Record.faulted text record).status, eventId, some text⟩]
        { s with webhookEvents := records }

section Deliveries

variable {env : Platform} {settings : Settings} {eventId : String} {s : Store}
  {delivery : WebhookDelivery}

/-- The record of an attempt counts it. -/
theorem recordDelivery_attempts {eventType eventData : Json} {recorded : WebhookEvent × Store}
    (h : recordDelivery env delivery eventId eventType eventData s = .ok recorded) :
    recorded.1.processingAttempts = attemptsOf eventId s + 1 := by
  unfold recordDelivery at h
  unfold attemptsOf
  cases hfind : s.webhookEvents.find? eventId with
  | some existing =>
    rw [hfind] at h
    cases h
    rfl
  | none =>
    rw [hfind] at h
    obtain ⟨text, -, h⟩ := bind_eq_ok.mp h
    obtain ⟨records, -, h⟩ := bind_eq_ok.mp h
    cases h
    rfl

/-- A delivery of the event is ignored, or recorded under the event's id and settled. -/
theorem deliverInSession_of_shares (h : Shares env settings eventId delivery) (s : Store) :
    ∃ fields, deliverInSession env settings delivery s =
      if (s.webhookEvents.find? eventId).any (fun existing => existing.status = "PROCESSED") then
        .ok (⟨"DUPLICATE_IGNORED", eventId, none⟩, s)
      else
        recordDelivery env delivery eventId (givenType fields) (.obj fields) s >>= fun recorded =>
          settleInSession env (givenType fields) (.obj fields) recorded.1 recorded.2 := by
  obtain ⟨fields, hsigned, hgiven, hnonempty⟩ := h
  have hverify : verifyDelivery env settings delivery = .ok () := hsigned.signed
  have hbody : bodyAttribute (.obj fields) "event_id" .null = .ok (givenId fields) := rfl
  have htype : bodyAttribute (.obj fields) "event" (.str "unknown") = .ok (givenType fields) := rfl
  have htruthy : (givenId fields).truthy = true := by
    rw [hgiven]
    show (!eventId.isEmpty) = true
    rw [Bool.not_eq_true', ← Bool.not_eq_true]
    exact fun hempty => hnonempty (String.isEmpty_iff.mp hempty)
  have hid : (givenId fields).orElse (.str delivery.freshEventId) = .str eventId := by
    rw [Json.orElse, if_pos htruthy, hgiven]
  refine ⟨fields, ?_⟩
  unfold deliverInSession
  simp only [hverify, hsigned.body, hbody, htype, hid, bind, Except.bind, orRefuse, bodyText,
    bindText_str, Except.mapError]
  rfl

/-- **What a recorded attempt is answered with.** -/
theorem settleInSession_delivered {eventType eventData : Json} {record : WebhookEvent}
    {records : Table WebhookEvent} {answer : WebhookAnswer} {s' : Store}
    (hnew : ¬ Done record.eventId s)
    (hattempts : record.processingAttempts = attemptsOf record.eventId s + 1)
    (hfind : records.find? record.eventId = some record)
    (h : settleInSession env eventType eventData record (withRecords s records) =
      .ok (answer, s')) : Delivered record.eventId s [answer] s' := by
  have hkept : ∀ done, processDomainWebhookEvent env eventType eventData (withRecords s records) =
      .ok done → done.1.webhookEvents = records :=
    fun done h => processed_records (processDomainWebhookEvent_spec h)
  have hfollows := @processStatements_follows env (withRecords s records) eventType eventData
  unfold settleInSession at h
  generalize processStatements env eventType eventData (withRecords s records) = x at hfollows h
  generalize processDomainWebhookEvent env eventType eventData (withRecords s records) = y
    at hfollows hkept
  cases hfollows with
  | returned a done =>
    cases h
    refine .processed hnew hattempts ?_
    show (done.1.webhookEvents.modify record.eventId Record.succeeded).find? record.eventId = _
    rw [hkept done rfl, Table.find?_modify_self, hfind]
    rfl
  | @raised fault hcaught =>
    cases fault with
    | aborted => exact absurd rfl hcaught
    | raised text =>
      cases h
      refine .faulted hnew hattempts ?_
      show (records.modify record.eventId (Record.faulted text)).find? record.eventId = _
      rw [Table.find?_modify_self, hfind]
      rfl
  | @lost fault hnot s' =>
    cases fault with
    | aborted => cases h
    | raised text => exact absurd (show Caught (.raised text) from nofun) hnot

/-- **Every delivery of the event is one of these.** -/
theorem delivered_step (h : Shares env settings eventId delivery) (s : Store) :
    Delivered eventId s ((webhookSession env settings).log s delivery)
      ((webhookSession env settings).next s delivery) := by
  obtain ⟨fields, hrun⟩ := deliverInSession_of_shares h s
  unfold webhookSession
  dsimp only
  rw [hrun]
  by_cases hprocessed : Done eventId s
  · rw [if_pos (any_processed_iff.mpr hprocessed)]
    exact .ignored hprocessed
  · rw [if_neg fun hany => hprocessed (any_processed_iff.mp hany)]
    cases hrecord : recordDelivery env delivery eventId (givenType fields) (.obj fields) s with
    | error refusal => exact .unanswered
    | ok recorded =>
      have hattempts := recordDelivery_attempts hrecord
      obtain ⟨records, hstore, hkey, hfind, -⟩ := recordDelivery_record hrecord
      obtain ⟨record, s₁⟩ := recorded
      dsimp only [bind, Except.bind] at hattempts hstore hkey hfind ⊢
      subst hstore hkey
      cases hsettled : settleInSession env (givenType fields) (.obj fields) record
          (withRecords s records) with
      | error refusal => exact .unanswered
      | ok settled =>
        exact settleInSession_delivered hprocessed hattempts hfind hsettled

/-- FAILED and DEAD_LETTER are the two ends of a delivery that raised. -/
theorem faulted_status (text : String) (record : WebhookEvent) :
    (Record.faulted text record).status = "DEAD_LETTER" ∧
        record.maxRetries ≤ record.processingAttempts ∨
      (Record.faulted text record).status = "FAILED" ∧
        record.processingAttempts < record.maxRetries := by
  by_cases h : record.processingAttempts ≥ record.maxRetries
  · exact .inl ⟨if_pos h, h⟩
  · exact .inr ⟨if_neg h, by omega⟩

end Deliveries

/-! ### Runs -/

/-- The answers that count as attempts. -/
def attempted (answers : List WebhookAnswer) : List WebhookAnswer :=
  answers.filter fun answer => answer.status ≠ "DUPLICATE_IGNORED"

/-- **The law of the failed deliveries**, over a run: each that is answered FAILED or DEAD_LETTER
leaves the ledger alone; the attempts are counted; the one or the other follows from the count; and
what comes after a processed delivery is ignored. -/
structure Accounted (env : Platform) (settings : Settings) (eventId : String) (s : Store)
    (deliveries : List WebhookDelivery) : Prop where
  unchanged : (webhookSession env settings).Along (fun s delivery =>
    ∀ answer ∈ (webhookSession env settings).log s delivery,
      answer.status = "FAILED" ∨ answer.status = "DEAD_LETTER" →
        SameLedger s ((webhookSession env settings).next s delivery)) s deliveries
  attempts : ∀ before, before <+: deliveries →
    attemptsOf eventId ((webhookSession env settings).run s before) =
      attemptsOf eventId s +
        (attempted ((webhookSession env settings).trace s before)).length
  verdict : (webhookSession env settings).Along (fun s delivery =>
    ∀ answer ∈ (webhookSession env settings).log s delivery,
      answer.status ≠ "PROCESSED" → answer.status ≠ "DUPLICATE_IGNORED" → ∃ record,
        ((webhookSession env settings).next s delivery).webhookEvents.find? eventId =
            some record ∧ record.status = answer.status ∧
          (answer.status = "DEAD_LETTER" ↔ record.maxRetries ≤ record.processingAttempts) ∧
          (answer.status = "FAILED" ↔ record.processingAttempts < record.maxRetries)) s deliveries
  ignored : ∀ before after, deliveries = before ++ after →
    (∃ answer ∈ (webhookSession env settings).trace s before, answer.status = "PROCESSED") →
      ∀ answer ∈ (webhookSession env settings).trace
        ((webhookSession env settings).run s before) after, answer.status = "DUPLICATE_IGNORED"

section Steps

variable {eventId : String} {s s' : Store} {answers : List WebhookAnswer}

theorem attemptsOf_eq {record : WebhookEvent} (h : s.webhookEvents.find? eventId = some record) :
    attemptsOf eventId s = record.processingAttempts := by
  unfold attemptsOf
  rw [h]

/-- A faulted delivery is neither processed nor ignored. -/
theorem faulted_ne (text : String) (record : WebhookEvent) :
    (Record.faulted text record).status ≠ "PROCESSED" ∧
      (Record.faulted text record).status ≠ "DUPLICATE_IGNORED" := by
  rcases faulted_status text record with ⟨h, -⟩ | ⟨h, -⟩
  · rw [h]
    decide
  · rw [h]
    decide

/-- **One delivery counts one attempt**, unless it is ignored. -/
theorem Delivered.counts (h : Delivered eventId s answers s') :
    attemptsOf eventId s' = attemptsOf eventId s + (attempted answers).length := by
  cases h with
  | unanswered => simp [attempted]
  | ignored => simp [attempted]
  | @processed _ record _ hattempts hrecord =>
    have hone : attempted [⟨"PROCESSED", eventId, none⟩] = [⟨"PROCESSED", eventId, none⟩] := rfl
    rw [attemptsOf_eq hrecord, hone]
    exact hattempts
  | @faulted text record records _ hattempts hrecord =>
    have hone : attempted [⟨(Record.faulted text record).status, eventId, some text⟩] =
        [⟨(Record.faulted text record).status, eventId, some text⟩] :=
      List.filter_cons_of_pos (decide_eq_true (faulted_ne text record).2)
    have hafter : attemptsOf eventId { s with webhookEvents := records } =
        (Record.faulted text record).processingAttempts := attemptsOf_eq hrecord
    rw [hafter, hone]
    exact hattempts

/-- A delivery that is answered FAILED or DEAD_LETTER writes its record only. -/
theorem Delivered.unchanged (h : Delivered eventId s answers s') :
    ∀ answer ∈ answers, answer.status = "FAILED" ∨ answer.status = "DEAD_LETTER" →
      SameLedger s s' := by
  intro answer hanswer hstatus
  cases h with
  | unanswered => exact ⟨rfl, rfl, rfl, rfl⟩
  | ignored => exact ⟨rfl, rfl, rfl, rfl⟩
  | processed =>
    rw [List.mem_singleton.mp hanswer] at hstatus
    simp at hstatus
  | faulted => exact ⟨rfl, rfl, rfl, rfl⟩

/-- What becomes of the record of a delivery that raised. -/
theorem Delivered.verdict (h : Delivered eventId s answers s') :
    ∀ answer ∈ answers, answer.status ≠ "PROCESSED" → answer.status ≠ "DUPLICATE_IGNORED" →
      ∃ record, s'.webhookEvents.find? eventId = some record ∧ record.status = answer.status ∧
        (answer.status = "DEAD_LETTER" ↔ record.maxRetries ≤ record.processingAttempts) ∧
        (answer.status = "FAILED" ↔ record.processingAttempts < record.maxRetries) := by
  intro answer hanswer hprocessed hignored
  cases h with
  | unanswered => cases hanswer
  | ignored =>
    rw [List.mem_singleton.mp hanswer] at hignored
    exact absurd rfl hignored
  | processed =>
    rw [List.mem_singleton.mp hanswer] at hprocessed
    exact absurd rfl hprocessed
  | @faulted text record records _ _ hrecord =>
    rw [List.mem_singleton.mp hanswer]
    refine ⟨Record.faulted text record, hrecord, rfl, ?_⟩
    show ((Record.faulted text record).status = "DEAD_LETTER" ↔
        record.maxRetries ≤ record.processingAttempts) ∧
      ((Record.faulted text record).status = "FAILED" ↔
        record.processingAttempts < record.maxRetries)
    rcases faulted_status text record with ⟨h, hcount⟩ | ⟨h, hcount⟩
    · rw [h]
      exact ⟨iff_of_true rfl hcount, iff_of_false (by decide) (by omega)⟩
    · rw [h]
      exact ⟨iff_of_false (by decide) (by omega), iff_of_true rfl hcount⟩

/-- A processed event stays processed, and its deliveries are ignored. -/
theorem Delivered.done (h : Delivered eventId s answers s') (hdone : Done eventId s) :
    Done eventId s' ∧ ∀ answer ∈ answers, answer.status = "DUPLICATE_IGNORED" := by
  cases h with
  | unanswered => exact ⟨hdone, fun answer hanswer => absurd hanswer List.not_mem_nil⟩
  | ignored =>
    refine ⟨hdone, fun answer hanswer => ?_⟩
    rw [List.mem_singleton.mp hanswer]
  | processed hnew => exact absurd hdone hnew
  | faulted hnew => exact absurd hdone hnew

/-- A delivery that is processed makes its event processed. -/
theorem Delivered.processes (h : Delivered eventId s answers s') {answer : WebhookAnswer}
    (hanswer : answer ∈ answers) (hstatus : answer.status = "PROCESSED") : Done eventId s' := by
  cases h with
  | unanswered => cases hanswer
  | ignored =>
    rw [List.mem_singleton.mp hanswer] at hstatus
    simp at hstatus
  | processed _ _ hrecord => exact ⟨_, hrecord, rfl⟩
  | @faulted text record =>
    rw [List.mem_singleton.mp hanswer] at hstatus
    exact absurd hstatus (faulted_ne text record).1

end Steps

section Runs

variable {env : Platform} {settings : Settings} {eventId : String}

/-- **Attempts are counted over every run.** -/
theorem run_counts (deliveries : List WebhookDelivery) :
    ∀ s, (∀ delivery ∈ deliveries, Shares env settings eventId delivery) →
      attemptsOf eventId ((webhookSession env settings).run s deliveries) =
        attemptsOf eventId s +
          (attempted ((webhookSession env settings).trace s deliveries)).length := by
  induction deliveries with
  | nil =>
    intro s _
    simp [attempted]
  | cons delivery deliveries ih =>
    intro s hshares
    have hstep := (delivered_step (hshares delivery List.mem_cons_self) s).counts
    have hrest := ih ((webhookSession env settings).next s delivery)
      fun d hd => hshares d (List.mem_cons_of_mem _ hd)
    rw [Machine.run_cons, Machine.trace_cons, hrest, hstep]
    unfold attempted
    rw [List.filter_append, List.length_append]
    omega

/-- After a run with a processed delivery the event is processed. -/
theorem run_done (deliveries : List WebhookDelivery) :
    ∀ s, (∀ delivery ∈ deliveries, Shares env settings eventId delivery) →
      (Done eventId s ∨ ∃ answer ∈ (webhookSession env settings).trace s deliveries,
        answer.status = "PROCESSED") →
      Done eventId ((webhookSession env settings).run s deliveries) := by
  induction deliveries with
  | nil =>
    intro s _ h
    rcases h with h | ⟨answer, hanswer, -⟩
    · exact h
    · cases hanswer
  | cons delivery deliveries ih =>
    intro s hshares h
    have hstep := delivered_step (hshares delivery List.mem_cons_self) s
    refine ih _ (fun d hd => hshares d (List.mem_cons_of_mem _ hd)) ?_
    rcases h with h | ⟨answer, hanswer, hstatus⟩
    · exact .inl (hstep.done h).1
    · rcases List.mem_append.mp hanswer with hfirst | hrest
      · exact .inl (hstep.processes hfirst hstatus)
      · exact .inr ⟨answer, hrest, hstatus⟩

/-- **Failed deliveries are accounted for**, in every store and over every list of signed deliveries
of one event. -/
theorem failed_deliveries_accounted (s : Store) (deliveries : List WebhookDelivery)
    (hshares : ∀ delivery ∈ deliveries, Shares env settings eventId delivery) :
    Accounted env settings eventId s deliveries where
  unchanged := Machine.along_of_forall fun delivery hdelivery s =>
    (delivered_step (hshares delivery hdelivery) s).unchanged
  attempts := by
    intro before hbefore
    exact run_counts before s fun delivery hdelivery => hshares delivery (hbefore.subset hdelivery)
  verdict := Machine.along_of_forall fun delivery hdelivery s =>
    (delivered_step (hshares delivery hdelivery) s).verdict
  ignored := by
    intro before after heq hprocessed
    rw [heq] at hshares
    have hdone := run_done before s
      (fun delivery hdelivery => hshares delivery (List.mem_append_left _ hdelivery))
      (.inr hprocessed)
    refine Machine.trace_forall (P := fun _ delivery => Shares env settings eventId delivery)
      (I := Done eventId) (fun s delivery hdone hdelivery => ?_)
      (fun s delivery hdone hdelivery => ?_) hdone (Machine.along_of_forall
        fun delivery hdelivery _ => hshares delivery (List.mem_append_right _ hdelivery))
    · exact ((delivered_step hdelivery s).done hdone).1
    · exact ((delivered_step hdelivery s).done hdone).2

end Runs

namespace Sample

open ControlPlane.Sample

/-- An order that the gateway has created and whose operation has failed since. -/
def failedStore : Store :=
  ((ControlPlane.controlPlane platform settings).run store [requestA]).updateOperation "operation_A"
    (.moveTo .failed)

/-- Its capture, delivered four times. -/
def captures : List WebhookDelivery := List.replicate 4 (delivery capturedA)

end Sample

open Sample ControlPlane.Sample in
/-- A capture that its operation refuses is dead-lettered at the third attempt. -/
theorem failed_deliveries_captures :
    (((webhookSession platform settings).trace failedStore captures).map WebhookAnswer.status =
        ["FAILED", "FAILED", "DEAD_LETTER", "DEAD_LETTER"]) ∧
      Accounted platform settings "evt_1" failedStore captures := by
  have hsigned : verifyDelivery platform settings (delivery capturedA) = .ok () := by
    rw [verifyDelivery, if_neg (by decide +kernel)]
    rw [compareDigest, if_pos (by decide +kernel)]
    refine bind_eq_ok.mpr ⟨_, rfl, ensure_eq_ok.mpr ?_⟩
    decide +kernel
  refine ⟨by decide +kernel, failed_deliveries_accounted failedStore captures
    fun d hd => ?_⟩
  rw [List.eq_of_mem_replicate hd]
  exact ⟨_, ⟨hsigned, rfl⟩, rfl, by decide⟩

end MandatePlane.DeadLetters
