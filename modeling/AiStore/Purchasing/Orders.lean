import AiStore.Service.Approvals

/-! Orders that become purchase orders: the routing of their lines, the approval, renewal and
submission of each purchase, the supplier's response and the cancellation of the order. -/

set_option autoImplicit false

namespace AiStore.Purchasing

open Library (Timestamp)
open Library.Txn Failure Repository Service

variable (env : Env)

def saveInTurn (row : SupplierPurchaseOrder) : Op Unit := updatePurchaseOrder row (row.version - 1)

/-! ## Routing -/

/-- A supplier's offer for a line: its cost and its name. -/
abbrev Quote := Int × String

def quotesFor (options : Mapping) (sku : String) : Except Failure (List Mapping) := match options.get? sku with
  | none => .ok []
  | some (.list items) => .ok (items.filterMap fun
      | .dict quote => some quote
      | _ => none)
  | some _ => .error (conflictError "supplier quote list required")

/-- A quote that can deliver the quantity. -/
def candidate (quantity : Int) (quote : Mapping) : Except Failure (Option Quote) :=
  match quote.get? "supplier_id" with
  | some (.text supplier) =>
    if opaqueIdentifier supplier then
      match quote.get? "unit_cost_minor", quote.get? "available_quantity" with
      | some (.int cost), some (.int available) =>
        .ok (if 0 ≤ cost ∧ quantity ≤ available then some (cost, supplier) else none)
      | _, _ => .ok none
    else .error (conflictError "invalid supplier_id")
  | _ => .error (conflictError "invalid supplier_id")

def quoteLe (first second : Quote) : Bool :=
  first.1 < second.1 ||
    first.1 = second.1 && Timestamp.codesLe (first.2.toList.map Char.toNat) (second.2.toList.map Char.toNat)

/-- The cheapest candidate of a line, the first by name among equals. -/
def cheapest (options : Mapping) (line : OrderLine) : Except Failure (Option Quote) := do
  let quotes ← quotesFor options line.sku
  let found ← quotes.mapM (candidate line.quantity)
  pure ((found.filterMap id).insertionSort fun first second => quoteLe first second).head?

structure Selection where
  line : OrderLine
  supplier : String
  cost : Int

/-- A supplier for every line, or the article that nobody delivers. -/
def select (options : Mapping) : List OrderLine → Except Failure (Except String (List Selection))
  | [] => .ok (.ok [])
  | line :: rest => do
    match ← cheapest options line with
    | none => .ok (.error line.sku)
    | some (cost, supplier) =>
      match ← select options rest with
      | .error sku => .ok (.error sku)
      | .ok selected => .ok (.ok (⟨line, supplier, cost⟩ :: selected))

def supplierLe (first second : String) : Bool :=
  Timestamp.codesLe (first.toList.map Char.toNat) (second.toList.map Char.toNat)

/-- The suppliers chosen, in their order. -/
def suppliers (selected : List Selection) : List String :=
  ((selected.map (·.supplier)).dedup).insertionSort fun first second => supplierLe first second

def lineMaterial (orderLine : Uuid) (quantity unitCost : Int) : Value := .dict [
  ("order_line_id", .uuid orderLine), ("quantity", .int quantity), ("unit_cost_minor", .int unitCost)]

/-- What a purchase approval is about. -/
def purchasePayload (order : Uuid) (supplier : String) (lines : List Value) : Mapping := [
  ("order_id", .uuid order), ("supplier_id", .text supplier), ("lines", .list lines)]

/-- The version check both transactions of a routing begin with, and the step of the order. -/
def advanceOrder (tenant order : Uuid) (expectedOrderVersion : Int) (status : ChannelOrderState) : Op ChannelOrder := do
  let current ← getChannelOrder tenant order
  ensure (current.version = expectedOrderVersion) (conflictError "order version conflict")
  let advanced := { current with status := status, version := current.version + 1 }
  updateChannelOrder advanced current.version
  pure advanced

def routeLine (tenant : Uuid) (selection : Selection) : Op Unit := do
  let id ← freshUuid
  saveRoutingDecision {
    id := id
    tenantId := tenant
    orderLineId := selection.line.id
    supplierId := selection.supplier
    quantity := selection.line.quantity
    unitCostMinor := selection.cost
    reason := "lowest feasible DEMO quote" }
  updateOrderLine { selection.line with routedStatus := "routed", version := selection.line.version + 1 }
    selection.line.version

def savePurchased (tenant purchase : Uuid) (selection : Selection) : Op Unit := do
  let id ← freshUuid
  savePurchaseLine {
    id := id
    tenantId := tenant
    purchaseOrderId := purchase
    orderLineId := selection.line.id
    quantity := selection.line.quantity
    unitCostMinor := selection.cost }

/-- The purchase order of one supplier, with its approval and its lines. -/
def purchaseFrom (context : TenantContext) (order : Uuid) (targetVersion : Nat) (now : Timestamp)
    (selected : List Selection) (supplier : String) : Op SupplierPurchaseOrder := do
  let routed := selected.filter (·.supplier = supplier)
  let lines := routed.map fun selection => lineMaterial selection.line.id selection.line.quantity selection.cost
  let (command, _) ← requestApproval env context .purchase (.po order supplier) (purchasePayload order supplier lines)
    (.routing order supplier) 1 targetVersion
  let id ← freshUuid
  let (purchase, _) ← savePurchaseOrder {
    id := id
    tenantId := context.tenantId
    channelOrderId := order
    supplierId := supplier
    status := .approvalPending
    idempotencyKey := ⟨order, supplier⟩
    approvalCommandId := some command.id
    createdAt := now }
  each routed (savePurchased context.tenantId purchase.id)
  pure purchase

/-- The order cannot be delivered. -/
def failRouting (context : TenantContext) (order : Uuid) (expectedOrderVersion : Int) (sku : String) :
    Op (List SupplierPurchaseOrder) := transaction do
  let _ ← advanceOrder context.tenantId order expectedOrderVersion .exception
  auditBy env context "order.routing_failed" order "blocked" [("sku", .text sku)]
  pure []

def commitRouting (context : TenantContext) (order : Uuid) (expectedOrderVersion : Int) (selected : List Selection)
    (now : Timestamp) : Op (List SupplierPurchaseOrder) := transaction do
  let current ← advanceOrder context.tenantId order expectedOrderVersion .poPending
  each selected (routeLine context.tenantId)
  let result ← collect (suppliers selected) (purchaseFrom env context order current.version now selected)
  auditBy env context "order.routing_proposed" order "succeeded" [("purchase_order_count", .int result.length)]
  pure result

def routeSelected (context : TenantContext) (order : Uuid) (expectedOrderVersion : Int) :
    Except String (List Selection) → Op (List SupplierPurchaseOrder)
  | .error sku => failRouting env context order expectedOrderVersion sku
  | .ok selected => do
    let now ← now env
    commitRouting env context order expectedOrderVersion selected now

def proposeRouting (context : TenantContext) (order : Uuid) (supplierOptions : Mapping)
    (expectedOrderVersion : Int := 1) : Op (List SupplierPurchaseOrder) := do
  require context .tenantAdmin
  let current ← getChannelOrder context.tenantId order
  ensure (current.version = expectedOrderVersion) (conflictError "order version conflict")
  ensure (current.status = .accepted ∨ current.status = .routing ∨ current.status = .poPending)
    (conflictError "order cannot be routed")
  let existing ← purchaseOrdersFor context.tenantId order
  if existing ≠ [] then pure existing
  else do
    let lines ← orderLinesFor context.tenantId order
    let selected ← ofExcept (select supplierOptions lines)
    routeSelected env context order expectedOrderVersion selected

/-! ## Approval -/

/-- The material of a stored purchase line that its routing decision and its order line still support. -/
def supportedLine (decisions : List RoutingDecision) (orderLines : List OrderLine) (purchase : SupplierPurchaseOrder)
    (line : PurchaseLine) : Except Failure Value := do
  match decisions.find? (·.orderLineId = line.orderLineId) with
  | some decision =>
    if decision.supplierId = purchase.supplierId ∧ decision.quantity = line.quantity ∧
        decision.unitCostMinor = line.unitCostMinor then
      match orderLines.find? (·.id = line.orderLineId) with
      | some orderLine =>
        if orderLine.routedStatus = "routed" then
          .ok (lineMaterial line.orderLineId line.quantity line.unitCostMinor)
        else .error (conflictError "order line routing is no longer valid")
      | none => .error (conflictError "order line routing is no longer valid")
    else .error (conflictError "purchase routing changed; approval must be renewed")
  | none => .error (conflictError "purchase routing changed; approval must be renewed")

/-- `_routed_payload`. -/
def routedPayload (tenant : Uuid) (purchase : SupplierPurchaseOrder) (order : ChannelOrder) : Op Mapping := do
  let lines ← purchaseLinesFor tenant purchase.id
  let decisions ← routingFor tenant order.id
  let orderLines ← orderLinesFor tenant order.id
  let expected ← ofExcept (lines.mapM (supportedLine decisions orderLines purchase))
  pure (purchasePayload order.id purchase.supplierId expected)

/-- `_verify_po`. -/
def verifyPo (tenant purchaseId : Uuid) : Op (SupplierPurchaseOrder × Command) := do
  let purchase ← getPurchaseOrder tenant purchaseId
  ensure (purchase.status = .approvalPending) (conflictError "purchase order is not awaiting approval")
  let commandId ← fetch (conflictError "purchase order is not awaiting approval") purchase.approvalCommandId
  let order ← getChannelOrder tenant purchase.channelOrderId
  ensure (order.status = .poPending) (conflictError "order changed; purchase approval must be renewed")
  let expected ← routedPayload tenant purchase order
  let command ← getCommand tenant commandId
  let approval ← getApprovalForCommand tenant command.id
  ensure (env.digest (.dict command.payload) = env.digest (.dict expected) ∧ command.state = .awaitingApproval ∧
    approval.state = .pending) (conflictError "purchase approval intent no longer matches PO")
  let intent ← fetch (conflictError "purchase approval target version is stale")
    (← getApprovalIntent tenant command.id)
  ensure (intent.targetVersion = order.version) (conflictError "purchase approval target version is stale")
  pure (purchase, command)

def decidedTopic (approve : Bool) : String := if approve then "purchase_order.approved" else "purchase_order.rejected"

def decidedPurchase (purchase : SupplierPurchaseOrder) (approve : Bool) : SupplierPurchaseOrder :=
  { purchase with status := if approve then .approved else .cancelled, version := purchase.version + 1 }

/-- What a decision made in time does to the purchase order. -/
def projectDecision (context : TenantContext) (purchase : SupplierPurchaseOrder) (command : Command) (approve : Bool) :
    Op SupplierPurchaseOrder := do
  let decided := decidedPurchase purchase approve
  saveInTurn decided
  let now ← now env
  auditBy env context (decidedTopic approve) decided.id "succeeded" [("command_id", .uuid command.id)]
  publish context.tenantId (decidedTopic approve) decided.id [("purchase_order_id", .uuid decided.id),
    ("command_id", .uuid command.id), ("state", .text decided.status.value)] (.po decided.id decided.status) now
  pure decided

def approveWithin (context : TenantContext) (purchaseId : Uuid) (approve : Bool) (reason : String) :
    Op (SupplierPurchaseOrder × Bool) := do
  require context .approvePurchase
  let (purchase, command) ← verifyPo env context.tenantId purchaseId
  let (_, expired) ← decideWithin env context command.id approve reason
  if expired then pure (purchase, true)
  else do
    let decided ← projectDecision env context purchase command approve
    pure (decided, false)

def approveDemoPo (context : TenantContext) (purchaseId : Uuid) (approve : Bool) (reason : String) :
    Op SupplierPurchaseOrder := do
  require context .approvePurchase
  ensure (¬ blank reason) (conflictError "approval decision and reason are required")
  let (purchase, expired) ← transaction (approveWithin env context purchaseId approve reason)
  -- the expiry itself is kept
  ensure (expired = false) (conflictError "approval expired")
  pure purchase

/-- The order a purchase command is about. -/
def linkedOrder (command : Command) : Option Value := match command.payload.get? "order_id" with
  | some (.uuid order) => if command.kind = .purchase then some (.uuid order) else none
  | some (.text order) => if command.kind = .purchase then some (.text order) else none
  | _ => none

def linkedPurchases (tenant : Uuid) (command : Command) : Op (List SupplierPurchaseOrder) :=
  match linkedOrder command with
  | some (.uuid order) => do
    let purchases ← purchaseOrdersFor tenant order
    pure (purchases.filter (·.approvalCommandId = some command.id))
  -- no order has an identifier that was not generated
  | some _ => raise (notFoundError "order not found")
  | none => pure []

def decideUnlinked (context : TenantContext) (commandId : Uuid) (approve : Bool) (reason : String) : Op Approval := do
  let (result, expired) ← transaction (decideWithin env context commandId approve reason)
  ensure (expired = false) (conflictError "approval expired")
  pure result

def decideFound (context : TenantContext) (command : Command) (approve : Bool) (reason : String) : Op Approval := do
  match ← linkedPurchases context.tenantId command with
  | [] => decideUnlinked env context command.id approve reason
  | purchase :: _ =>
    let _ ← approveDemoPo env context purchase.id approve reason
    getApprovalForCommand context.tenantId command.id

/-- The audit of a look across tenants, kept although the call raises. -/
def reportBoundary (context : TenantContext) (why : Failure) : Op Unit :=
  if why.kind = .authorization ∨ why.kind = .tenantBoundary then
    transaction (audit env context.tenantId (.uuid context.userId) "command.cross_tenant_access" (.text "redacted")
      "blocked" [])
  else pure ()

def decide (context : TenantContext) (commandId : Uuid) (approve : Bool) (reason : String) : Op Approval := do
  match ← caught (getCommand context.tenantId commandId) with
  | .ok command => decideFound env context command approve reason
  | .error why =>
    reportBoundary env context why
    raise why

/-! ## Renewal -/

/-- `_renewable`: the clock is read only where the answer depends on it. -/
def renewable (purchase : SupplierPurchaseOrder) (approval : Approval) : Op Bool := match purchase.status with
  | .cancelled => pure (approval.state = .rejected ∨ approval.state = .expired)
  | .approvalPending => if approval.state = .expired then pure true else do
      let now ← now env
      pure (approval.expiresAt ≤ now)
  | .approved => do
      let now ← now env
      pure (approval.expiresAt ≤ now)
  | _ => pure false

def regenerateDemoPo (context : TenantContext) (purchaseId : Uuid) (reason : String) (expectedPoVersion : Int) :
    Op SupplierPurchaseOrder := do
  require context .tenantAdmin
  ensure (¬ blank reason) (conflictError "regeneration reason and PO version are required")
  transaction do
    let purchase ← getPurchaseOrder context.tenantId purchaseId
    ensure (purchase.version = expectedPoVersion) (conflictError "purchase order version conflict")
    let order ← getChannelOrder context.tenantId purchase.channelOrderId
    ensure (order.status = .poPending) (conflictError "order is not awaiting purchase; regeneration refused")
    let prior ← fetch (conflictError "purchase order has no approval to renew") purchase.approvalCommandId
    let previous ← getApprovalForCommand context.tenantId prior
    let usable ← renewable env purchase previous
    ensure (usable = true) (conflictError "purchase order approval is still usable or the PO is past approval")
    let payload ← routedPayload context.tenantId purchase order
    let (command, _) ← requestApproval env context .purchase (.po order.id purchase.supplierId) payload
      (.renewal purchase.idempotencyKey.order purchase.idempotencyKey.supplier (purchase.version + 1)) 1 order.version
    let renewed : SupplierPurchaseOrder := { purchase with
      status := .approvalPending
      approvalCommandId := some command.id
      version := purchase.version + 1 }
    updatePurchaseOrder renewed purchase.version
    let now ← now env
    auditBy env context "purchase_order.regenerated" renewed.id "succeeded"
      [("reason", .text reason), ("previous_command_id", .uuid prior), ("command_id", .uuid command.id)]
    publish context.tenantId "purchase_order.regenerated" renewed.id [("purchase_order_id", .uuid renewed.id),
      ("command_id", .uuid command.id), ("previous_command_id", .uuid prior)]
      (.poRegenerated renewed.id renewed.version) now
    pure renewed

/-! ## Submission -/

def submitDemoPo (context : TenantContext) (purchaseId : Uuid) : Op SupplierPurchaseOrder := do
  require context .tenantAdmin
  transaction do
    let purchase ← getPurchaseOrder context.tenantId purchaseId
    ensure (purchase.status = .approved) (conflictError "only an approved PO can be submitted")
    let commandId ← fetch (conflictError "only an approved PO can be submitted") purchase.approvalCommandId
    let order ← getChannelOrder context.tenantId purchase.channelOrderId
    let stopped ← demoStopActive context.tenantId (some order.channelId)
    ensure (stopped = false) (conflictError "DEMO scope stopped")
    let command ← getCommand context.tenantId commandId
    let approval ← getApprovalForCommand context.tenantId command.id
    let intent ← getApprovalIntent context.tenantId command.id
    let now ← now env
    ensure (order.status = .poPending ∧ approval.state = .approved ∧ now < approval.expiresAt)
      (conflictError "approved PO is no longer executable")
    let intent ← fetch (conflictError "approved PO is no longer executable") intent
    let _ ← prepareExecution env context command.id intent.policyVersion order.version
    let submitted := { purchase with status := .submitted, version := purchase.version + 1 }
    saveInTurn submitted
    auditBy env context "purchase_order.submitted_demo" submitted.id "succeeded" [("mode", .text "DEMO")]
    publish context.tenantId "purchase_order.submitted" submitted.id
      [("purchase_order_id", .uuid submitted.id), ("mode", .text "DEMO")] (.po submitted.id .submitted) now
    pure submitted

/-! ## The supplier's response -/

inductive PoResponseStatus where
  | acknowledged
  | rejected
  | unknown
  deriving DecidableEq, Repr

def PoResponseStatus.value : PoResponseStatus → String
  | acknowledged => "ACKNOWLEDGED"
  | rejected => "REJECTED"
  | unknown => "UNKNOWN"

/-- A status that cannot be hashed fails in the set lookup itself. -/
def readPoStatus : Value → Except Failure PoResponseStatus
  | .text status =>
      if status = "ACKNOWLEDGED" then .ok .acknowledged
      else if status = "REJECTED" then .ok .rejected
      else if status = "UNKNOWN" then .ok .unknown
      else .error (conflictError "unsupported DEMO PO response status")
  | .list _ => .error (typeError "unhashable type: 'list'")
  | .dict _ => .error (typeError "unhashable type: 'dict'")
  | _ => .error (conflictError "unsupported DEMO PO response status")

def readPoReference : Option Value → Except Failure (Option String)
  | none | some .none => .ok none
  | some (.text reference) =>
      if opaqueIdentifier reference then .ok (some reference) else .error (conflictError "invalid provider reference")
  | _ => .error (conflictError "invalid provider reference")

/-- A response without a time of its own is observed now. -/
def readPoObserved : Option Value → Op Timestamp
  | none | some .none => now env
  | some (.time observed) => pure observed
  | some _ => raise (conflictError "response observed_at must be timezone aware")

def poResponseMaterial (status : PoResponseStatus) (reference : Option String) (observed : Timestamp) : Value := .dict [
  ("status", .text status.value), ("provider_reference", reference.elim .none .text), ("observed_at", isoformat observed)]

/-- The purchase order behind a response that is not unknown. -/
def respondedPurchase (purchase : SupplierPurchaseOrder) (status : PoResponseStatus) (reference : Option String)
    (digest : String) (observed : Timestamp) : SupplierPurchaseOrder :=
  { purchase with
    status := if status = .acknowledged then .acknowledged else .exception
    providerReference := reference
    lastResponseDigest := some digest
    lastObservedAt := some observed
    version := purchase.version + 1 }

def fileResponse (context : TenantContext) (purchase : SupplierPurchaseOrder) (status : PoResponseStatus)
    (reference : Option String) (digest : String) (observed : Timestamp) : Op SupplierPurchaseOrder := do
  let responded := respondedPurchase purchase status reference digest observed
  saveInTurn responded
  auditBy env context "purchase_order.response_reconciled" responded.id "succeeded"
    [("status", .text status.value), ("response_digest", .text digest)]
  publish context.tenantId "purchase_order.response_reconciled" responded.id [("purchase_order_id", .uuid responded.id),
    ("status", .text status.value), ("response_digest", .text digest)] (.poResponse responded.id digest) observed
  pure responded

def reconcileWithin (context : TenantContext) (purchaseId : Uuid) (status : PoResponseStatus)
    (reference : Option String) (digest : String) (observed : Timestamp) : Op (SupplierPurchaseOrder × Bool) := do
  let purchase ← getPurchaseOrder context.tenantId purchaseId
  ensure (purchase.status = .submitted ∨ purchase.status = .acknowledged ∨ purchase.status = .exception)
    (conflictError "PO response is not applicable")
  if purchase.lastResponseDigest = some digest then pure (purchase, true)
  else do
    ensure (purchase.lastResponseDigest = none) (conflictError "PO response conflicts with recorded evidence")
    if status = .unknown then pure (purchase, false)
    else do
      let responded ← fileResponse env context purchase status reference digest observed
      pure (responded, false)

def reconcileDemoPo (context : TenantContext) (purchaseId : Uuid) (response : Mapping) :
    Op (SupplierPurchaseOrder × Bool) := do
  require context .tenantAdmin
  ensure (∀ entry ∈ response, entry.1 ∈ ["status", "provider_reference", "observed_at"])
    (conflictError "invalid DEMO PO response")
  let given ← fetch (conflictError "invalid DEMO PO response") (response.get? "status")
  let status ← ofExcept (readPoStatus given)
  let reference ← ofExcept (readPoReference (response.get? "provider_reference"))
  let observed ← readPoObserved env (response.get? "observed_at")
  let digest := env.digest (poResponseMaterial status reference observed)
  transaction (reconcileWithin env context purchaseId status reference digest observed)

/-! ## Cancellation -/

/-- What the cancellation of its order does to a purchase order. -/
def cancelPurchase (tenant : Uuid) (reason : String) (now : Timestamp) (purchase : SupplierPurchaseOrder) : Op Unit :=
  if purchase.status = .approvalPending ∨ purchase.status = .approved then
    saveInTurn { purchase with status := .cancelled, version := purchase.version + 1 }
  else if purchase.status = .submitted ∨ purchase.status = .acknowledged then do
    saveInTurn { purchase with status := .cancelRequested, version := purchase.version + 1 }
    publish tenant "purchase_order.cancel_requested" purchase.id [("purchase_order_id", .uuid purchase.id),
      ("reason", .text reason), ("mode", .text "DEMO")] (.poCancelRequested purchase.id) now
  else pure ()

def cancelOpen (context : TenantContext) (order : ChannelOrder) (reason : String) (expectedOrderVersion : Int) :
    Op ChannelOrder := do
  ensure (order.version = expectedOrderVersion ∧ order.status = .poPending)
    (conflictError "order cancellation version/state conflict")
  let purchases ← purchaseOrdersFor context.tenantId order.id
  let cancelled := { order with status := .cancelled, version := order.version + 1 }
  updateChannelOrder cancelled order.version
  let now ← now env
  each purchases (cancelPurchase context.tenantId reason now)
  auditBy env context "order.cancelled" order.id "succeeded" [("reason", .text reason)]
  publish context.tenantId "order.cancelled" order.id [("order_id", .uuid order.id), ("mode", .text "DEMO")]
    (.orderCancelled order.id) now
  pure cancelled

def requestDemoCancel (context : TenantContext) (orderId : Uuid) (reason : String) (expectedOrderVersion : Int) :
    Op (ChannelOrder × Bool) := do
  require context .tenantAdmin
  ensure (¬ blank reason) (conflictError "cancellation reason and version are required")
  transaction do
    let order ← getChannelOrder context.tenantId orderId
    if order.status = .cancelled then pure (order, true)
    else do
      let cancelled ← cancelOpen env context order reason expectedOrderVersion
      pure (cancelled, false)

end AiStore.Purchasing
