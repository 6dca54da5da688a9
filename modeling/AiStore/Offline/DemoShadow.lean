import AiStore.Library.DictEntries
import AiStore.Offline.BoundedGate
import AiStore.Offline.FixtureReplay

/-! The comparison of the operation's lines with a page of the channel. It reads two sides and returns a report. -/

set_option autoImplicit false

namespace AiStore.Offline

open Library

inductive ShadowFailure where
  | blocked (text : String)
  | valueError (text : String)
  | quarantine (why : ContractQuarantine)
  deriving DecidableEq

/-- The classes of a line; the first is spelled `match`. -/
inductive DriftClass where
  | same | statusDrift | quantityDrift | amountDrift | missingInChannel | missingInOperation
  deriving DecidableEq

def DriftClass.code : DriftClass → String
  | .same => "match"
  | .statusDrift => "status_drift"
  | .quantityDrift => "quantity_drift"
  | .amountDrift => "amount_drift"
  | .missingInChannel => "missing_in_channel"
  | .missingInOperation => "missing_in_operation"

inductive ExceptionKind where
  | stalePage
  | line (found : DriftClass)
  deriving DecidableEq

def ExceptionKind.code : ExceptionKind → String
  | .stalePage => "stale_page"
  | .line found => found.code

structure LineComparison where
  provider : String
  lineId : String
  classes : List DriftClass
  verified : Bool
  deriving DecidableEq

structure OperatorException where
  kind : ExceptionKind
  provider : String
  lineId : Option String
  detail : String
  deriving DecidableEq

inductive ShadowDecision where
  | exit | hold | goOn
  deriving DecidableEq

/-- The third one is spelled `continue`. -/
def ShadowDecision.code : ShadowDecision → String
  | .exit => "exit"
  | .hold => "hold"
  | .goOn => "continue"

structure ShadowReport where
  mode : String
  gates : List (String × String)
  provider : String
  pollingWindowSeconds : Int
  ageSeconds : Int
  stale : Bool
  pagesCompared : Int
  operationDigest : String
  channelDigest : String
  lines : List LineComparison
  exceptions : List OperatorException
  decision : ShadowDecision
  rollback : String := "none_required"
  digest : String := ""
  deriving DecidableEq

def LineComparison.asdict (line : LineComparison) : Json :=
  .object [("provider", .text line.provider), ("line_id", .text line.lineId),
    ("classes", .list (line.classes.map fun found => .text found.code)), ("verified", .bool line.verified)]

def OperatorException.asdict (exception : OperatorException) : Json :=
  .object [("kind", .text exception.kind.code), ("provider", .text exception.provider),
    ("line_id", optionalText exception.lineId), ("detail", .text exception.detail)]

/-- `asdict` of a report without its digest. -/
def ShadowReport.body (report : ShadowReport) : Json :=
  .object [("mode", .text report.mode),
    ("gates", .list (report.gates.map fun gate => .list [.text gate.1, .text gate.2])), ("provider", .text report.provider),
    ("polling_window_seconds", .int report.pollingWindowSeconds), ("age_seconds", .int report.ageSeconds),
    ("stale", .bool report.stale), ("pages_compared", .int report.pagesCompared),
    ("operation_digest", .text report.operationDigest), ("channel_digest", .text report.channelDigest),
    ("lines", .list (report.lines.map LineComparison.asdict)),
    ("exceptions", .list (report.exceptions.map OperatorException.asdict)), ("decision", .text report.decision.code),
    ("rollback", .text report.rollback)]

/-! ## One line -/

/-- `_key`. -/
def OfflineOrderSnapshot.key (snapshot : OfflineOrderSnapshot) : String × String := (snapshot.provider, snapshot.lineId)

def OfflineOrderSnapshot.amounts (snapshot : OfflineOrderSnapshot) : Dict String (Option Int) := .ofEntries snapshot.amountsKrw

def OfflineOrderSnapshot.quantities (snapshot : OfflineOrderSnapshot) : Int × Int :=
  (snapshot.initialQuantity, snapshot.remainingQuantity)

/-- The names under which `get` finds different amounts; an amount of `None` is like none. -/
def changedAmounts (operation channel : OfflineOrderSnapshot) : List String :=
  (((operation.amounts.keys ++ channel.amounts.keys).dedup).filter fun name =>
    (operation.amounts.get? name).join ≠ (channel.amounts.get? name).join).insertionSort fun first second => textLe first second

/-- What differs, with its detail. -/
def drifts (operation channel : OfflineOrderSnapshot) : List (DriftClass × String) :=
  (if operation.status ≠ channel.status then
    [(.statusDrift, "status " ++ operation.status ++ "->" ++ channel.status)] else []) ++
  (if operation.quantities ≠ channel.quantities then
    [(.quantityDrift, "quantity " ++ toString operation.initialQuantity ++ "/" ++ toString operation.remainingQuantity ++
      "->" ++ toString channel.initialQuantity ++ "/" ++ toString channel.remainingQuantity)] else []) ++
  if ¬ operation.amounts.Same channel.amounts then
    [(.amountDrift, "amounts " ++ ",".intercalate (changedAmounts operation channel))] else []

def compareLine (operation channel : OfflineOrderSnapshot) : List DriftClass × List OperatorException :=
  let found := drifts operation channel
  (if found = [] then [.same] else found.map Prod.fst,
    found.map fun drift => ⟨.line drift.1, channel.provider, some channel.lineId, drift.2⟩)

/-! ## Two sides -/

def byKey (snapshots : List OfflineOrderSnapshot) : Dict (String × String) OfflineOrderSnapshot :=
  .ofEntries (snapshots.map fun snapshot => (snapshot.key, snapshot))

/-- The order of the keys. -/
def keyLe (first second : String × String) : Bool :=
  if first.1 = second.1 then textLe first.2 second.2 else textLe first.1 second.1

def sortedKeys (operation channel : Dict (String × String) OfflineOrderSnapshot) : List (String × String) :=
  ((operation.keys ++ channel.keys).dedup).insertionSort fun first second => keyLe first second

/-- The line of a key with its exceptions. -/
def shadowLine (operation channel : Dict (String × String) OfflineOrderSnapshot) (stale : Bool) (key : String × String) :
    LineComparison × List OperatorException := match channel.get? key with
  | none => (⟨key.1, key.2, [.missingInChannel], !stale⟩,
      [⟨.line .missingInChannel, key.1, some key.2, "line absent from channel page"⟩])
  | some there => match operation.get? key with
    | none => (⟨key.1, key.2, [.missingInOperation], !stale⟩,
        [⟨.line .missingInOperation, key.1, some key.2, "line absent from existing operation"⟩])
    | some here => (⟨key.1, key.2, (compareLine here there).1, !stale⟩, (compareLine here there).2)

def stalePage (provider : String) (age window : Int) : OperatorException :=
  ⟨.stalePage, provider, none, "age " ++ toString age ++ "s exceeds window " ++ toString window ++ "s"⟩

def LineComparison.missing (line : LineComparison) : Bool :=
  line.classes.contains .missingInChannel || line.classes.contains .missingInOperation

def shadowDecision (stale : Bool) (lines : List LineComparison) (exceptions : List OperatorException) : ShadowDecision :=
  if stale ∨ lines.any LineComparison.missing then .exit
  else if exceptions ≠ [] then .hold
  else .goOn

/-- What the comparison finds, before it is sealed. -/
structure Comparison where
  age : Int
  stale : Bool
  lines : List LineComparison
  exceptions : List OperatorException
  decision : ShadowDecision
  deriving DecidableEq

def comparison (operation channel : Dict (String × String) OfflineOrderSnapshot) (provider : String) (age window : Int) :
    Comparison :=
  let stale : Bool := window < age
  let compared := (sortedKeys operation channel).map (shadowLine operation channel stale)
  let exceptions := (if stale then [stalePage provider age window] else []) ++ compared.flatMap Prod.snd
  ⟨age, stale, compared.map Prod.fst, exceptions, shadowDecision stale (compared.map Prod.fst) exceptions⟩

def compareSides (operation : List OfflineOrderSnapshot) (channel : OfflineOrderPage) (observed now : Timestamp)
    (window : Int) : Except ShadowFailure Comparison :=
  let age := truncated (totalSeconds (now.instant - observed.instant))
  if age < 0 then .error (.valueError "observed_at is in the future")
  else if (byKey operation).entries.length ≠ operation.length ∨
      (byKey channel.snapshots).entries.length ≠ channel.snapshots.length then
    .error (.valueError "duplicate line id on one side")
  else .ok (comparison (byKey operation) (byKey channel.snapshots) channel.provider age window)

def shadowGates : List String := ["G1", "G3", "G5"]

section

variable (hash : String → String) (modes : String → Option String)

/-- The report with the digests of both sides and of itself. -/
def sealReport (gates : List (String × String)) (operation : List OfflineOrderSnapshot) (channel : OfflineOrderPage)
    (window : Int) (found : Comparison) : Checked ShadowReport := do
  let operationDigest ← digestOf hash (.list (operation.map OfflineOrderSnapshot.asdict))
  let report : ShadowReport := {
    mode := "DEMO"
    gates := gates
    provider := channel.provider
    pollingWindowSeconds := window
    ageSeconds := found.age
    stale := found.stale
    pagesCompared := 1
    operationDigest := operationDigest
    channelDigest := channel.sourceDigest
    lines := found.lines
    exceptions := found.exceptions
    decision := found.decision }
  let digest ← digestOf hash report.body
  pure { report with digest := digest }

def runDemoShadow (operation : List OfflineOrderSnapshot) (channel : OfflineOrderPage) (observedAt now : Moment)
    (window : Int) : Except ShadowFailure ShadowReport :=
  match demoGates shadowGates modes with
  | .error text => .error (.blocked text)
  | .ok gates =>
    if 60 ≤ window ∧ window ≤ 24 * 3600 then match observedAt, now with
      | .aware observed, .aware now => do
        let found ← compareSides operation channel observed now window
        match sealReport hash gates operation channel window found with
        | .error why => .error (.quarantine why)
        | .ok report => pure report
      | _, _ => .error (.valueError "observed_at and now must be timezone-aware")
    else .error (.valueError "polling window must be an int between 60 and 86400 seconds")

end

end AiStore.Offline
