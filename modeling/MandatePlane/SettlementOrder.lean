import MandatePlane.SettlementPosition
import MandatePlane.TransactionLinks

/-!
# Settlement events in any order

Every delivery of a distinct event takes the step it was there to take before any of
them was delivered, so a list of deliveries does what the first settlement of each
operation does.  Any two orders in which every operation meets the same kind of event
first end in the same place.
-/

namespace MandatePlane.SettlementOrder

open DomainModel KeyedTable HoldLedger LabelledRun LedgerView HostEnvironment JsonValue
open HandlerPostings ControlPlane WebhookRoutes WebhookReplay LedgerConsistency FirstDecides
open SettlementPosition TransactionLinks

/-! ### Deliveries -/

/-- An `order.paid`, `payment.captured` or `payment.failed` event. -/
def SettlementEvent (env : Platform) (delivery : WebhookDelivery) : Prop :=
  ∃ fields eventType, env.jsonLoads delivery.rawBody = some (.obj fields) ∧
    givenType fields = .str eventType ∧
    (eventType = "order.paid" ∨ eventType = "payment.captured" ∨ eventType = "payment.failed")

/-- `event_data.get("event_id")`, or the id that was invented. -/
def eventIdOf (env : Platform) (delivery : WebhookDelivery) : Option String := do
  let eventData ← env.jsonLoads delivery.rawBody
  let givenId ← (eventData.get "event_id" .null).toOption
  (env.bindText (givenId.orElse (.str delivery.freshEventId))).toOption

/-- What a delivery is there to settle: it is signed, its event id can be read and has not been
processed, and it names an order with one transaction. -/
def settlementOf (env : Platform) (settings : Settings) (s : Store) (delivery : WebhookDelivery) :
    Option Settlement := do
  let _ ← (verifyDelivery env settings delivery).toOption
  let eventData ← env.jsonLoads delivery.rawBody
  let eventId ← eventIdOf env delivery
  if (s.webhookEvents.find? eventId).any (fun existing => existing.status = "PROCESSED") then none
  else (aimed env eventData).bind (addressed s)

def settlements (env : Platform) (settings : Settings) (s : Store)
    (deliveries : List WebhookDelivery) : List Settlement :=
  deliveries.filterMap (settlementOf env settings s)

section Deliveries

variable {env : Platform} {settings : Settings} {s s' : Store} {credited : String → ℤ}
  {d d' : WebhookDelivery}

/-- The event id of a body that decodes to an object. -/
def recordId (env : Platform) (fields : Dict) (freshEventId : String) : Option String :=
  (env.bindText ((givenId fields).orElse (.str freshEventId))).toOption

theorem eventIdOf_of_body {rawBody signature freshEventId : String} {fields : Dict}
    (hbody : env.jsonLoads rawBody = some (.obj fields)) :
    eventIdOf env ⟨rawBody, signature, freshEventId⟩ = recordId env fields freshEventId := by
  unfold eventIdOf
  rw [hbody]
  rfl

/-- What the body settles under an event id, unless the id has been processed. -/
def settledUnder (env : Platform) (s : Store) (fields : Dict) (eventId : String) :
    Option Settlement :=
  if (s.webhookEvents.find? eventId).any (fun existing => existing.status = "PROCESSED") then none
  else (aimed env (.obj fields)).bind (addressed s)

theorem settlementOf_of_signed {rawBody signature freshEventId : String} {fields : Dict}
    (hsigned : Signed env settings rawBody signature fields) :
    settlementOf env settings s ⟨rawBody, signature, freshEventId⟩ =
      (recordId env fields freshEventId).bind (settledUnder env s fields) := by
  have hverify : verifyDelivery env settings ⟨rawBody, signature, freshEventId⟩ = .ok () :=
    hsigned.signed
  unfold settlementOf
  rw [hverify, hsigned.body, eventIdOf_of_body hsigned.body]
  rfl

/-- An id that has not been processed lets the body through. -/
theorem settledUnder_of_new {fields : Dict} {eventId : String}
    (hnew : ∀ record, s.webhookEvents.find? eventId = some record →
      record.status ≠ "PROCESSED") :
    settledUnder env s fields eventId = (aimed env (.obj fields)).bind (addressed s) := by
  refine if_neg fun hany => ?_
  obtain ⟨record, hfind, hstatus⟩ := any_processed_iff.mp hany
  exact hnew record hfind hstatus

/-- **An attempt settles what the body is there to settle**, and touches no record but its own. -/
theorem attempt_settles {fields : Dict} {eventType freshEventId : String}
    (hb : Balanced credited (ledger s)) (hp : PositiveAmounts s)
    (htype : givenType fields = .str eventType)
    (hsettles : eventType = "order.paid" ∨ eventType = "payment.captured" ∨
      eventType = "payment.failed") (h : Attempt env fields s freshEventId s') :
    position s' = ((recordId env fields freshEventId).bind (settledUnder env s fields)).elim
        (position s) (settle (position s)) ∧
      ∀ eventId, recordId env fields freshEventId ≠ some eventId →
        s'.webhookEvents.find? eventId = s.webhookEvents.find? eventId := by
  have hhandled (records : Table WebhookEvent) :
      position (handled env fields (withRecords s records)) =
        ((aimed env (.obj fields)).bind (addressed s)).elim (position s) (settle (position s)) :=
    @handled_settles env (withRecords s records) credited eventType fields hb hp htype hsettles
  unfold recordId
  cases h with
  | unreadable hid =>
    rw [hid]
    exact ⟨rfl, fun _ _ => rfl⟩
  | duplicate hid hfind hdone =>
    rw [hid]
    refine ⟨?_, fun _ _ => rfl⟩
    show _ = Option.elim (settledUnder env s fields _) _ _
    rw [settledUnder, hfind, Option.any_some, if_pos (decide_eq_true hdone)]
    rfl
  | untyped h => exact absurd htype (h eventType)
  | @processed eventId records records' done hid hnew hdone _ hothers =>
    rw [hid]
    refine ⟨?_, fun id hne => hothers id fun he => hne (congrArg some he.symm)⟩
    show _ = Option.elim (settledUnder env s fields eventId) _ _
    rw [settledUnder_of_new hnew, ← hhandled records, handled_of_ok hdone]
    rfl
  | @failed eventId fault records records' hid hnew hfault hothers =>
    rw [hid]
    refine ⟨?_, fun id hne => hothers id fun he => hne (congrArg some he.symm)⟩
    have hsame : handled env fields (withRecords s records) = withRecords s records := by
      unfold handled
      rw [hfault]
    show _ = Option.elim (settledUnder env s fields eventId) _ _
    rw [settledUnder_of_new hnew, ← hhandled records, hsame]
    rfl

/-- **A delivery settles what it is there to settle**, and touches no record but its own. -/
theorem delivery_settles (hb : Balanced credited (ledger s)) (hp : PositiveAmounts s)
    (hevent : SettlementEvent env d) :
    position ((controlPlane env settings).next s (.webhook d)) =
        (settlementOf env settings s d).elim (position s) (settle (position s)) ∧
      ∀ eventId, eventIdOf env d ≠ some eventId →
        ((controlPlane env settings).next s (.webhook d)).webhookEvents.find? eventId =
          s.webhookEvents.find? eventId := by
  obtain ⟨fields, eventType, hbody, htype, hsettles⟩ := hevent
  obtain ⟨rawBody, signature, freshEventId⟩ := d
  cases hverify : verifyDelivery env settings ⟨rawBody, signature, freshEventId⟩ with
  | error refusal =>
    have hrefused : (controlPlane env settings).next s
        (.webhook ⟨rawBody, signature, freshEventId⟩) = s := by
      show (ControlPlane.outcome s (handleRazorpayWebhook env settings _ s)).1 = s
      unfold handleRazorpayWebhook
      rw [hverify]
      rfl
    have hnothing : settlementOf env settings s ⟨rawBody, signature, freshEventId⟩ = none := by
      unfold settlementOf
      rw [hverify]
      rfl
    rw [hrefused, hnothing]
    exact ⟨rfl, fun _ _ => rfl⟩
  | ok _ =>
    have hsigned : Signed env settings rawBody signature fields := ⟨hverify, hbody⟩
    rw [settlementOf_of_signed hsigned, eventIdOf_of_body hbody]
    exact attempt_settles hb hp htype hsettles (delivery_attempt hsigned s freshEventId)

theorem webhook_links (s : Store) (d : WebhookDelivery) :
    links ((controlPlane env settings).next s (.webhook d)) = links s := by
  rcases (perform_step env settings s (.webhook d)).linked with he | ⟨_, hanswers, -⟩
  · exact he
  · cases hanswers

/-- What a delivery is there to settle stays the same while other events are delivered. -/
theorem settlementOf_kept (hlinks : links s' = links s)
    (hrecord : ∀ eventId, eventIdOf env d = some eventId →
      s'.webhookEvents.find? eventId = s.webhookEvents.find? eventId) :
    settlementOf env settings s' d = settlementOf env settings s d := by
  have haddressed : addressed s' = addressed s := by
    funext aim
    unfold addressed
    rw [hlinks]
  unfold settlementOf
  rw [haddressed]
  cases hid : eventIdOf env d with
  | none => rfl
  | some eventId =>
    simp only [Option.bind_eq_bind, Option.bind_some, hrecord eventId hid]

/-- Events with different ids, those that have one. -/
def DistinctEvents (env : Platform) (deliveries : List WebhookDelivery) : Prop :=
  (deliveries.filterMap (eventIdOf env)).Nodup

instance (deliveries : List WebhookDelivery) : Decidable (DistinctEvents env deliveries) :=
  inferInstanceAs (Decidable (List.Nodup _))

theorem DistinctEvents.tail {deliveries : List WebhookDelivery}
    (h : DistinctEvents env (d :: deliveries)) :
    DistinctEvents env deliveries ∧ ∀ d' ∈ deliveries, ∀ eventId, eventIdOf env d' = some eventId →
      eventIdOf env d ≠ some eventId := by
  unfold DistinctEvents at h ⊢
  cases hid : eventIdOf env d with
  | none =>
    rw [List.filterMap_cons_none hid] at h
    exact ⟨h, fun _ _ _ _ he => by cases he⟩
  | some eventId =>
    rw [List.filterMap_cons_some hid, List.nodup_cons] at h
    refine ⟨h.2, fun d' hd' eventId' hid' he => h.1 ?_⟩
    cases he
    exact List.mem_filterMap.mpr ⟨d', hd', hid'⟩

/-- **Deliveries settle one after the other** what they were there to settle at the start. -/
theorem deliveries_settle {deliveries : List WebhookDelivery} (hb : Balanced credited (ledger s))
    (hp : PositiveAmounts s) (hevents : ∀ d ∈ deliveries, SettlementEvent env d)
    (hdistinct : DistinctEvents env deliveries) :
    position ((controlPlane env settings).run s (deliveries.map .webhook)) =
      (settlements env settings s deliveries).foldl settle (position s) := by
  induction deliveries generalizing s credited with
  | nil => rfl
  | cons d deliveries ih =>
    obtain ⟨hrest, hother⟩ := hdistinct.tail
    obtain ⟨hposition, hrecords⟩ := @delivery_settles env settings s credited d hb hp
      (hevents d List.mem_cons_self)
    have hstep := perform_step env settings s (.webhook d)
    have htail := ih (balanced_step hstep trivial hp hb) (positiveAmounts_step hstep hp)
      (fun d' hd' => hevents d' (List.mem_cons_of_mem _ hd')) hrest
    have hsame : settlements env settings (perform env settings s (.webhook d)).1 deliveries =
        settlements env settings s deliveries := by
      refine List.filterMap_congr fun d' hd' => ?_
      refine settlementOf_kept (webhook_links s d) fun eventId hid => ?_
      exact hrecords eventId (hother d' hd' eventId hid)
    have hposition' : position (perform env settings s (.webhook d)).1 = _ := hposition
    rw [List.map_cons, Machine.run_cons]
    refine htail.trans ?_
    rw [hsame, hposition']
    unfold settlements
    cases hx : settlementOf env settings s d with
    | none =>
      rw [List.filterMap_cons_none hx]
      rfl
    | some x =>
      rw [List.filterMap_cons_some hx]
      rfl

/-- What is settled is linked. -/
theorem link_of_settlement {deliveries : List WebhookDelivery} {x : Settlement}
    (hx : x ∈ settlements env settings s deliveries) : (x.operation, some x.order) ∈ links s := by
  obtain ⟨d, -, hsettlement⟩ := List.mem_filterMap.mp hx
  unfold settlementOf at hsettlement
  obtain ⟨_, -, hsettlement⟩ := Option.bind_eq_some_iff.mp hsettlement
  obtain ⟨eventData, -, hsettlement⟩ := Option.bind_eq_some_iff.mp hsettlement
  obtain ⟨eventId, -, hsettlement⟩ := Option.bind_eq_some_iff.mp hsettlement
  split at hsettlement
  · cases hsettlement
  · obtain ⟨⟨orderId, paid⟩, -, haddressed⟩ := Option.bind_eq_some_iff.mp hsettlement
    obtain ⟨tx, htx, rfl⟩ := addressed_eq_some.mp haddressed
    have hm : tx ∈ s.transactionsByOrder orderId := by
      rw [htx]
      exact List.mem_singleton_self tx
    obtain ⟨hmem, horder⟩ := List.mem_filter.mp hm
    exact List.mem_map.mpr ⟨tx, hmem, congrArg (Prod.mk tx.operationId) (of_decide_eq_true horder)⟩

end Deliveries

/-! ### Any two orders -/

/-- Both a payment and a failure of the operation are to be settled. -/
def Contested (xs : List Settlement) (id : String) : Prop :=
  ∃ x ∈ xs, ∃ y ∈ xs, x.operation = id ∧ y.operation = id ∧ x.paid ≠ y.paid

/-- The same operation statuses, transaction statuses and mandate budgets. -/
structure SameOutcome (s s' : Store) : Prop where
  operations : s'.operations.rows.map (fun op => (op.id, op.status)) =
    s.operations.rows.map fun op => (op.id, op.status)
  transactions : s'.transactions.map (fun tx => (tx.gatewayOrderId, tx.status)) =
    s.transactions.map fun tx => (tx.gatewayOrderId, tx.status)
  budgets : s'.mandates.rows.map (fun m => (m.id, m.currentAggregateSpend, m.reservedSpend)) =
    s.mandates.rows.map fun m => (m.id, m.currentAggregateSpend, m.reservedSpend)

theorem sameOutcome_of_position {s s' : Store} (h : position s' = position s) : SameOutcome s s' := by
  have hholds : s'.operations.rows.map operationHold = s.operations.rows.map operationHold :=
    congrArg (fun p => p.books.holds.rows) h
  have haccounts : s'.mandates.rows.map mandateAccount = s.mandates.rows.map mandateAccount :=
    congrArg (fun p => p.books.accounts.rows) h
  have htransactions : s'.transactions.map (fun tx => (linkOf tx, tx.status)) =
      s.transactions.map fun tx => (linkOf tx, tx.status) := congrArg Position.transactions h
  refine ⟨?_, ?_, ?_⟩
  · have hview := congrArg (List.map fun h : Hold String String OperationStatus ℤ =>
      (h.id, h.phase)) hholds
    rw [List.map_map, List.map_map] at hview
    exact hview
  · have hview := congrArg (List.map fun row : (String × Option String) × TransactionStatus =>
      (row.1.2, row.2)) htransactions
    rw [List.map_map, List.map_map] at hview
    exact hview
  · have hview := congrArg (List.map fun a : Account String ℤ => (a.id, a.spent, a.held)) haccounts
    rw [List.map_map, List.map_map] at hview
    exact hview

/-- Before any request. -/
structure Blank (s : Store) : Prop extends Fresh s where
  transactions : s.transactions = []

theorem Blank.oneLink {s : Store} (h : Blank s) : OneLink s := by
  have hnone : links s = [] := by
    unfold links
    rw [h.transactions, List.map_nil]
  refine ⟨?_, ?_⟩ <;> rw [hnone]
  · exact List.nodup_nil
  · exact fun _ hm => absurd hm List.not_mem_nil

/-- Lists of the same settlements, in which the same kind comes first where an operation is
contested, have the same first settlement of every operation. -/
theorem leading_eq_of_perm {xs ys : List Settlement} (hperm : xs.Perm ys)
    (horder : ∀ x ∈ xs, ∀ y ∈ xs, x.operation = y.operation → x.order = y.order)
    (hfirst : ∀ id, Contested xs id →
      (leading Settlement.operation xs id).map Settlement.paid =
        (leading Settlement.operation ys id).map Settlement.paid) (id : String) :
    leading Settlement.operation xs id = leading Settlement.operation ys id := by
  have hnone {xs ys : List Settlement} (hsub : ∀ x ∈ ys, x ∈ xs)
      (h : leading Settlement.operation xs id = none) :
      leading Settlement.operation ys id = none := by
    have hno := List.find?_eq_none.mp h
    exact List.find?_eq_none.mpr fun x hx => hno x (hsub x hx)
  cases hx : leading Settlement.operation xs id with
  | none => exact (hnone (fun x hx => hperm.mem_iff.mpr hx) hx).symm
  | some x =>
    cases hy : leading Settlement.operation ys id with
    | none =>
      rw [hnone (fun x hx => hperm.mem_iff.mp hx) hy] at hx
      cases hx
    | some y =>
      obtain ⟨hxm, hxid⟩ := leading_mem hx
      obtain ⟨hym, hyid⟩ := leading_mem hy
      have hym' : y ∈ xs := hperm.mem_iff.mpr hym
      have hpaid : x.paid = y.paid := by
        by_contra hne
        have hsame := hfirst id ⟨x, hxm, y, hym', hxid, hyid, hne⟩
        rw [hx, hy] at hsame
        exact hne (Option.some.inj hsame)
      have hsettles : x.order = y.order := horder x hxm y hym' (hxid.trans hyid.symm)
      obtain ⟨xoperation, xorder, xpaid⟩ := x
      obtain ⟨yoperation, yorder, ypaid⟩ := y
      cases hpaid
      cases hsettles
      cases hxid.trans hyid.symm
      rfl

/-- **Settlement events converge.**  In every state that is reached without verifying a payment of
an operation that is not in flight, two deliveries of the same distinct events end in the same
operation statuses, transaction statuses and mandate budgets, if every operation with both a payment
and a failure meets the same of the two first.  An operation in flight ends as its first event says,
and the counters are again the sums over the operations. -/
theorem settlements_converge (env : Platform) (settings : Settings) (s₀ : Store)
    (past : List Action) (first second : List WebhookDelivery) (hblank : Blank s₀)
    (hverify : (controlPlane env settings).Along (VerifiesInFlight env settings) s₀ past)
    (hevents : ∀ d ∈ first, SettlementEvent env d) (hdistinct : DistinctEvents env first)
    (hperm : first.Perm second)
    (hfirst : ∀ id,
      Contested (settlements env settings ((controlPlane env settings).run s₀ past) first) id →
        (leading Settlement.operation
          (settlements env settings ((controlPlane env settings).run s₀ past) first) id).map
            Settlement.paid =
          (leading Settlement.operation
            (settlements env settings ((controlPlane env settings).run s₀ past) second) id).map
              Settlement.paid) :
    SameOutcome ((controlPlane env settings).run s₀ (past ++ first.map .webhook))
        ((controlPlane env settings).run s₀ (past ++ second.map .webhook)) ∧
      (∀ id op x, ((controlPlane env settings).run s₀ past).operations.find? id = some op →
        op.status.inFlight = true →
        leading Settlement.operation
          (settlements env settings ((controlPlane env settings).run s₀ past) first) id = some x →
        ∃ op', ((controlPlane env settings).run s₀ (past ++ first.map .webhook)).operations.find? id =
          some op' ∧ op'.status = if x.paid then .succeeded else .failed) ∧
      Consistent ((controlPlane env settings).trace s₀ (past ++ first.map .webhook))
        ((controlPlane env settings).run s₀ (past ++ first.map .webhook)) := by
  obtain ⟨hb, hp⟩ := balanced_trace hblank.toFresh hverify
  have hone : OneLink ((controlPlane env settings).run s₀ past) :=
    Machine.inv_run (fun s a ho _ => oneLink_step (perform_step env settings s a) ho)
      hblank.oneLink hverify
  have hall : (controlPlane env settings).Along (VerifiesInFlight env settings) s₀
      (past ++ first.map .webhook) := by
    refine Machine.along_append.mpr ⟨hverify, Machine.along_of_forall fun a ha s => ?_⟩
    obtain ⟨d, -, rfl⟩ := List.mem_map.mp ha
    trivial
  obtain ⟨hb', hp'⟩ := balanced_trace hblank.toFresh hall
  have hconsistent := consistent_of_balanced hb' hp'
  refine ⟨?_, ?_, hconsistent⟩
  all_goals simp only [Machine.run_append]
  all_goals generalize (controlPlane env settings).run s₀ past = s at hb hp hone hfirst ⊢
  all_goals have hposition := @deliveries_settle env settings s _ first hb hp hevents hdistinct
  · have hevents' : ∀ d ∈ second, SettlementEvent env d :=
      fun d hd => hevents d (hperm.mem_iff.mpr hd)
    have hdistinct' : DistinctEvents env second :=
      (hperm.filterMap (eventIdOf env)).nodup_iff.mp hdistinct
    have hposition' := @deliveries_settle env settings s _ second hb hp hevents' hdistinct'
    have horder : ∀ x ∈ settlements env settings s first,
        ∀ y ∈ settlements env settings s first, x.operation = y.operation → x.order = y.order := by
      intro x hx y hy he
      have hlink := List.inj_on_of_nodup_map hone.single (link_of_settlement hx)
        (link_of_settlement hy) he
      exact Option.some.inj (congrArg Prod.snd hlink)
    have hsame := leading_eq_of_perm (hperm.filterMap (settlementOf env settings s)) horder hfirst
    refine sameOutcome_of_position ?_
    rw [hposition, hposition']
    exact (foldl_eq_of_leading settle_firstDecides hsame (position s)).symm
  · intro id op x hop hflight hx
    have hhold : (position s).books.holds.find? id = some (operationHold op) := by
      show (ledger s).holds.find? id = _
      rw [holds_find?, hop]
      rfl
    have hend := foldl_settle_leading hhold hflight hx
    rw [← hposition] at hend
    have hend' : (ledger ((controlPlane env settings).run s (first.map .webhook))).holds.find? id =
      _ := hend
    rw [holds_find?] at hend'
    obtain ⟨op', hop', hmoved⟩ := Option.map_eq_some_iff.mp hend'
    exact ⟨op', hop', congrArg Hold.phase hmoved⟩

/-! A payment that fails and is captured on a second attempt. -/

def failedA : String :=
  "\x7b\"event_id\":\"evt_5\",\"event\":\"payment.failed\",\"payload\":\x7b\"payment\":" ++
    "\x7b\"entity\":\x7b\"order_id\":\"order_A\",\"id\":\"pay_A0\"," ++
    "\"error_description\":\"Insufficient funds\"\x7d\x7d\x7d\x7d"

def failedEvent : Json :=
  .obj [("event_id", .str "evt_5"), ("event", .str "payment.failed"),
    ("payload", .obj [("payment", .obj [("entity",
      .obj [("order_id", .str "order_A"), ("id", .str "pay_A0"),
        ("error_description", .str "Insufficient funds")])])])]

/-- The platform of the small world, which knows the failure as well. -/
def platform : Platform :=
  { Sample.platform with
    sha256Hex := fun body => if body = failedA then
        "d340b5d64722ab379fdced45e296173488b0686eaf09a4b591c9f345945e0420"
      else Sample.platform.sha256Hex body
    hmacSha256Hex := fun key message =>
      if key = Sample.settings.razorpayWebhookSecret ∧ message = failedA then
        "4e91e1a9253bfe822b443b6c9f5205da77e98962a0fc10615d09e8c5dcc922a1"
      else Sample.platform.hmacSha256Hex key message
    jsonLoads := fun body => if body = failedA then some failedEvent
      else Sample.platform.jsonLoads body }

def signed (rawBody : String) : WebhookDelivery :=
  ⟨rawBody, platform.hmacSha256Hex Sample.settings.razorpayWebhookSecret rawBody, "evt_fresh"⟩

theorem settlementEvent_failedA : SettlementEvent platform (signed failedA) := by
  have hbody : platform.jsonLoads failedA = some failedEvent := by simp only [platform, if_true]
  exact ⟨_, "payment.failed", hbody, rfl, .inr (.inr rfl)⟩

theorem settlementEvent_captured {body eventId orderId paymentId : String} (hne : body ≠ failedA)
    (hbody : Sample.platform.jsonLoads body =
      some (Sample.capturedEvent eventId orderId paymentId)) :
    SettlementEvent platform (signed body) :=
  ⟨_, "payment.captured", (if_neg hne).trans hbody, rfl, .inr (.inl rfl)⟩

/-- The failure of one order and the capture of another. -/
theorem settlements_converge_failedA_capturedB :
    SameOutcome
      ((controlPlane platform Sample.settings).run Sample.store
        [Sample.requestA, Sample.requestB, .webhook (signed failedA),
          .webhook (signed Sample.capturedB)])
      ((controlPlane platform Sample.settings).run Sample.store
        [Sample.requestA, Sample.requestB, .webhook (signed Sample.capturedB),
          .webhook (signed failedA)]) := by
  refine (settlements_converge platform Sample.settings Sample.store
    [Sample.requestA, Sample.requestB] [signed failedA, signed Sample.capturedB]
    [signed Sample.capturedB, signed failedA] ⟨⟨rfl, by decide⟩, rfl⟩
    ⟨trivial, trivial, trivial⟩ ?_ (by decide +kernel) (List.Perm.swap _ _ _) ?_).1
  · intro d hd
    simp only [List.mem_cons, List.not_mem_nil, or_false] at hd
    rcases hd with rfl | rfl
    · exact settlementEvent_failedA
    · exact settlementEvent_captured (by decide +kernel)
        (show Sample.platform.jsonLoads Sample.capturedB =
          some (Sample.capturedEvent "evt_2" "order_B" "pay_B") by rfl)
  · -- neither operation is contested
    intro id hcontested
    have hsettlements : settlements platform Sample.settings
        ((controlPlane platform Sample.settings).run Sample.store
          [Sample.requestA, Sample.requestB]) [signed failedA, signed Sample.capturedB] =
        [⟨"operation_A", "order_A", false⟩, ⟨"operation_B", "order_B", true⟩] := by
      decide +kernel
    rw [hsettlements] at hcontested
    obtain ⟨x, hx, y, hy, hxid, hyid, hne⟩ := hcontested
    simp only [List.mem_cons, List.not_mem_nil, or_false] at hx hy
    rcases hx with rfl | rfl <;> rcases hy with rfl | rfl
    · exact absurd rfl hne
    · exact absurd (hxid.trans hyid.symm) (by decide)
    · exact absurd (hxid.trans hyid.symm) (by decide)
    · exact absurd rfl hne

/-- The failure and the capture of one order: what comes first stays. -/
theorem not_sameOutcome_failedA_capturedA :
    Blank Sample.store ∧
      (∀ d ∈ [signed failedA, signed Sample.capturedA], SettlementEvent platform d) ∧
      DistinctEvents platform [signed failedA, signed Sample.capturedA] ∧
      ¬ SameOutcome
        ((controlPlane platform Sample.settings).run Sample.store
          [Sample.requestA, .webhook (signed failedA), .webhook (signed Sample.capturedA)])
        ((controlPlane platform Sample.settings).run Sample.store
          [Sample.requestA, .webhook (signed Sample.capturedA), .webhook (signed failedA)]) := by
  refine ⟨⟨⟨rfl, by decide⟩, rfl⟩, ?_, by decide +kernel, fun h => ?_⟩
  · intro d hd
    simp only [List.mem_cons, List.not_mem_nil, or_false] at hd
    rcases hd with rfl | rfl
    · exact settlementEvent_failedA
    · exact settlementEvent_captured (by decide +kernel)
        (show Sample.platform.jsonLoads Sample.capturedA =
          some (Sample.capturedEvent "evt_1" "order_A" "pay_A") by rfl)
  · exact absurd h.operations (by decide +kernel)

end MandatePlane.SettlementOrder
