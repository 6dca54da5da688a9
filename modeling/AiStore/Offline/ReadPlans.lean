import Std.Data.String.ToInt
import AiStore.Library.Calendar
import AiStore.Library.Urlencode
import AiStore.Offline.FixtureOrders

/-! Plans of channel reads, their query texts and the signatures over them. -/

set_option autoImplicit false

namespace AiStore.Offline

open Library
open Library.Urlencode (urlencode quotePlus)

/-! ## Calendar dates -/

/-- `datetime.date`. -/
@[ext] structure CalendarDate where
  year : Nat
  month : Nat
  day : Nat
  year_bound : 1 ≤ year ∧ year ≤ 9999
  month_bound : 1 ≤ month ∧ month ≤ 12
  day_bound : 1 ≤ day ∧ day ≤ daysInMonth year month
  deriving DecidableEq

namespace CalendarDate

/-- `date.toordinal`: the first day of the year 1 is 1. -/
def toordinal (date : CalendarDate) : Int := dayNumber date.year date.month date.day + 719163

/-- The last `width` decimal digits. -/
def padded (width number : Nat) : Text := (Timestamp.digits width number).map Char.ofNat

/-- `date.isoformat`. -/
def isoformat (date : CalendarDate) : Text :=
  padded 4 date.year ++ '-' :: padded 2 date.month ++ '-' :: padded 2 date.day

theorem length_padded (width number : Nat) : (padded width number).length = width := by
  rw [padded, List.length_map]
  induction width with
  | zero => rfl
  | succ width ih => simp [Timestamp.digits, ih]

theorem digits_small {width number code : Nat} (member : code ∈ Timestamp.digits width number) : code < 256 := by
  induction width with
  | zero => cases member
  | succ width ih =>
    rcases List.mem_cons.mp member with rfl | later
    · have digit : number / 10 ^ width % 10 < 10 := Nat.mod_lt _ (by decide)
      have zero : '0'.toNat = 48 := rfl
      omega
    · exact ih later

theorem padded_inj {width first second : Nat} (left : first < 10 ^ width) (right : second < 10 ^ width)
    (same : padded width first = padded width second) : first = second := by
  have codes : Timestamp.digits width first = Timestamp.digits width second := by
    have read := congrArg (List.map Char.toNat) same
    have back : ∀ number, (padded width number).map Char.toNat = Timestamp.digits width number := by
      intro number
      rw [padded, List.map_map]
      exact (List.map_congr_left fun code member => Urlencode.toNat_ofNat (digits_small member)).trans (List.map_id _)
    rwa [back, back] at read
  have below := (Timestamp.digits_append_le width first second []).mp
  have above := (Timestamp.digits_append_le width second first []).mp
  rw [codes] at below above
  have level : Timestamp.codesLe (Timestamp.digits width second ++ []) (Timestamp.digits width second ++ []) = true :=
    (Timestamp.digits_append_le width second second []).mpr (Nat.le_refl _)
  rw [Nat.mod_eq_of_lt left, Nat.mod_eq_of_lt right] at below above
  exact Nat.le_antisymm (below level) (above level)

theorem day_small (date : CalendarDate) : date.day ≤ 31 := by
  have bound := date.day_bound.2
  unfold daysInMonth at bound
  split at bound
  · split at bound <;> omega
  · split at bound <;> omega

theorem isoformat_inj {first second : CalendarDate} (same : first.isoformat = second.isoformat) : first = second := by
  have widths : ∀ width left right, (padded width left).length = (padded width right).length := by
    intro width left right
    rw [length_padded, length_padded]
  simp only [isoformat, List.append_assoc, List.cons_append] at same
  obtain ⟨years, same⟩ := List.append_inj same (widths 4 _ _)
  obtain ⟨months, same⟩ := List.append_inj (List.cons.inj same).2 (widths 2 _ _)
  have year_small := first.year_bound.2
  have other_year := second.year_bound.2
  have month_small := first.month_bound.2
  have other_month := second.month_bound.2
  have day_small := first.day_small
  have other_day := second.day_small
  exact CalendarDate.ext (padded_inj (by omega) (by omega) years) (padded_inj (by omega) (by omega) months)
    (padded_inj (by omega) (by omega) (List.cons.inj same).2)

example : String.ofList (CalendarDate.isoformat ⟨2024, 2, 29, by decide, by decide, by decide⟩) = "2024-02-29" ∧
    CalendarDate.toordinal ⟨2024, 3, 1, by decide, by decide, by decide⟩ = 738946 := by decide

end CalendarDate

/-! ## Plans -/

/-- `[A-Za-z0-9][A-Za-z0-9_.-]{0,127}`. -/
def localReference (text : String) : Bool := match text.toList with
  | [] => false
  | first :: rest => Service.identifierStart first && rest.all Service.identifierRest && rest.length ≤ 127

def coupangDayPageSource : String :=
  "https://developers.coupang.com/ko/api/shipments/po-list-query-paging-by-day"

/-- What `coupang_day_page_plan` is asked for. -/
structure DayPageRequest where
  tenantRef : String
  connectionRef : String
  vendorId : String
  start : CalendarDate
  finish : CalendarDate
  status : String
  maxPerPage : Int := 50
  nextToken : Option String := none
  deriving DecidableEq

/-- A plan of one read. It is never authorized for LIVE. -/
structure OfflineReadPlan where
  tenantRef : String
  connectionRef : String
  path : String
  query : List (String × String)
  source : String
  method : String := "GET"
  mode : String := "OFFLINE_CONTRACT"
  liveAuthorized : Bool := false
  deriving DecidableEq

/-- Encoded exactly once, without a question mark in front. -/
def OfflineReadPlan.encodedQuery (plan : OfflineReadPlan) : Text := urlencode plan.query

def required (condition : Prop) [Decidable condition] (message : String) : Except Failure Unit :=
  if condition then .ok () else .error (Failure.valueError message)

@[simp] theorem required_eq_ok {condition : Prop} [Decidable condition] {message : String} {u : Unit} :
    required condition message = .ok u ↔ condition := by
  unfold required
  split <;> simp_all

namespace DayPageRequest

variable (printable : String → Bool) (request : DayPageRequest)

def CursorFits : Prop := ∀ token, request.nextToken = some token →
  1 ≤ token.length ∧ token.length ≤ 4096 ∧ printable token = true

instance : Decidable (request.CursorFits printable) := by
  unfold CursorFits
  cases request.nextToken with
  | none => exact isTrue (by simp)
  | some token => exact decidable_of_iff (1 ≤ token.length ∧ token.length ≤ 4096 ∧ printable token = true) (by simp)

def dayText (date : CalendarDate) : String := String.ofList (date.isoformat ++ "+09:00".toList)

def query : List (String × String) :=
  [("createdAtFrom", dayText request.start), ("createdAtTo", dayText request.finish),
    ("maxPerPage", toString request.maxPerPage), ("status", request.status)] ++
    request.nextToken.toList.map fun token => ("nextToken", token)

def vendorsPath : String := "/v2/providers/openapi/apis/api/v5/vendors/"

def sheetsPath : String := "/ordersheets"

def path : String := vendorsPath ++ request.vendorId ++ sheetsPath

def planned : OfflineReadPlan where
  tenantRef := request.tenantRef
  connectionRef := request.connectionRef
  path := request.path
  query := request.query
  source := coupangDayPageSource

end DayPageRequest

/-- `isprintable` is a parameter. -/
def coupangDayPagePlan (printable : String → Bool) (request : DayPageRequest) : Except Failure OfflineReadPlan := do
  required (∀ ref ∈ [request.tenantRef, request.connectionRef, request.vendorId], localReference ref = true)
    "invalid local reference"
  required (0 ≤ request.finish.toordinal - request.start.toordinal ∧
    request.finish.toordinal - request.start.toordinal ≤ 30) "date window must contain 1 to 31 calendar dates"
  required (request.status ∈ coupangStates) "unsupported ordersheet state"
  required (1 ≤ request.maxPerPage ∧ request.maxPerPage ≤ 50) "page size must be 1 to 50"
  required (request.CursorFits printable) "invalid opaque page cursor"
  pure request.planned

/-- What a request has to be for a plan. -/
structure Plannable (printable : String → Bool) (request : DayPageRequest) : Prop where
  references : ∀ ref ∈ [request.tenantRef, request.connectionRef, request.vendorId], localReference ref = true
  window : 0 ≤ request.finish.toordinal - request.start.toordinal ∧
    request.finish.toordinal - request.start.toordinal ≤ 30
  state : request.status ∈ coupangStates
  page : 1 ≤ request.maxPerPage ∧ request.maxPerPage ≤ 50
  cursor : request.CursorFits printable

variable {printable : String → Bool} {request other : DayPageRequest} {plan later : OfflineReadPlan}

theorem coupangDayPagePlan_eq_ok : coupangDayPagePlan printable request = .ok plan ↔
    Plannable printable request ∧ plan = request.planned := by
  simp only [coupangDayPagePlan, except_bind_eq_ok, required_eq_ok]
  constructor
  · rintro ⟨-, references, -, window, -, state, -, page, -, cursor, planned⟩
    exact ⟨⟨references, window, state, page, cursor⟩, (Except.ok.inj planned).symm⟩
  · rintro ⟨fits, rfl⟩
    exact ⟨(), fits.references, (), fits.window, (), fits.state, (), fits.page, (), fits.cursor, rfl⟩

/-! ## Signatures -/

/-- Day of the month of a day, counted as `monthOfDay` counts. -/
def dayOfMonth (day : Int) : Int :=
  let shifted := day + 719468
  let dayOfEra := shifted % 146097
  let yearOfEra := (dayOfEra - dayOfEra / 1460 + dayOfEra / 36524 - dayOfEra / 146096) / 365
  let dayOfYear := dayOfEra - (365 * yearOfEra + yearOfEra / 4 - yearOfEra / 100)
  dayOfYear - (153 * ((5 * dayOfYear + 2) / 153) + 2) / 5 + 1

/-- `strftime("%y%m%dT%H%M%SZ")` of the moment in UTC. -/
def stamp (time : Timestamp) : Text :=
  let second := time.instant / 1000000 % 86400
  let (year, month) := time.utcMonth
  let two (number : Int) : Text := CalendarDate.padded 2 (number % 100).toNat
  two year ++ two month ++ two (dayOfMonth time.utcDay) ++ 'T' :: two (second / 3600) ++ two (second / 60 % 60) ++
    two (second % 60) ++ ['Z']

/-- What the signature of a plan is taken over. -/
def signedMessage (plan : OfflineReadPlan) (time : Timestamp) : Text :=
  stamp time ++ plan.method.toList ++ plan.path.toList ++ plan.encodedQuery

structure FixtureSignature where
  provider : String
  digest : String
  signedAt : Option String
  usableForLiveAuth : Bool := false
  deriving DecidableEq

/-- `mac` is HMAC-SHA256 under the fixture key. -/
def coupangFixtureSignature (mac : Text → String) (plan : OfflineReadPlan) (time : Option Timestamp) :
    Checked FixtureSignature := do
  require (plan.method = "GET" ∧ plan.liveAuthorized = false) "offline_get_plan_required"
  match time with
  | none => .error ⟨"timezone_aware_clock_required"⟩
  | some time => pure {
      provider := "coupang"
      digest := mac (signedMessage plan time)
      signedAt := some (String.ofList (stamp time)) }

example : String.ofList (stamp ⟨1709210096000000, 0⟩) = "240229T123456Z" := by decide

theorem length_stamp (time : Timestamp) : (stamp time).length = 14 := by
  simp only [stamp, List.length_append, List.length_cons, List.length_nil, CalendarDate.length_padded]

/-- The requests differ in nothing that the vendor is told. -/
structure SameRead (request other : DayPageRequest) : Prop where
  vendor : request.vendorId = other.vendorId
  start : request.start = other.start
  finish : request.finish = other.finish
  state : request.status = other.status
  page : request.maxPerPage = other.maxPerPage
  cursor : request.nextToken = other.nextToken

theorem dayText_inj {first second : CalendarDate}
    (same : DayPageRequest.dayText first = DayPageRequest.dayText second) : first = second :=
  CalendarDate.isoformat_inj (List.append_inj_left' (String.ofList_injective same) rfl)

theorem query_inj (same : request.query = other.query) :
    request.start = other.start ∧ request.finish = other.finish ∧ request.status = other.status ∧
      request.maxPerPage = other.maxPerPage ∧ request.nextToken = other.nextToken := by
  simp only [DayPageRequest.query, List.cons_append, List.nil_append, List.cons.injEq, Prod.mk.injEq, true_and] at same
  obtain ⟨starts, finishes, sizes, states, cursors⟩ := same
  refine ⟨dayText_inj starts, dayText_inj finishes, states, Int.repr_injective sizes, ?_⟩
  · cases left : request.nextToken with
    | none =>
      cases right : other.nextToken with
      | none => rfl
      | some token => simp [left, right] at cursors
    | some token =>
      cases right : other.nextToken with
      | none => simp [left, right] at cursors
      | some shown => simpa [left, right] using cursors

theorem not_mem_localReference {text : String} (local_text : localReference text = true) : '/' ∉ text.toList := by
  intro member
  unfold localReference at local_text
  cases spelled : text.toList with
  | nil =>
    rw [spelled] at member
    cases member
  | cons first rest =>
    rw [spelled] at member local_text
    simp only [Bool.and_eq_true, List.all_eq_true] at local_text
    obtain ⟨⟨start, others⟩, -⟩ := local_text
    rcases List.mem_cons.mp member with slash | later
    · rw [← slash] at start
      exact absurd start (by decide)
    · exact absurd (others _ later) (by decide)

/-- The vendor of a path ends at its next slash, and the query begins after a fixed text. -/
theorem message_parts {mark shown method front vendor named back query asked : Text} (lengths : mark.length = shown.length)
    (left : '/' ∉ vendor) (right : '/' ∉ named)
    (same : mark ++ (method ++ (front ++ (vendor ++ '/' :: (back ++ query)))) =
      shown ++ (method ++ (front ++ (named ++ '/' :: (back ++ asked))))) :
    mark = shown ∧ vendor = named ∧ query = asked := by
  obtain ⟨marks, same⟩ := List.append_inj same lengths
  obtain ⟨vendors, queries⟩ := parted_inj left right (List.append_cancel_left (List.append_cancel_left same))
  exact ⟨marks, vendors, List.append_cancel_left queries⟩

theorem signedMessage_eq (request : DayPageRequest) (time : Timestamp) :
    signedMessage request.planned time = stamp time ++ ("GET".toList ++
      (DayPageRequest.vendorsPath.toList ++ (request.vendorId.toList ++
        '/' :: (DayPageRequest.sheetsPath.toList.tail ++ urlencode request.query)))) := by
  have back : DayPageRequest.sheetsPath.toList = '/' :: DayPageRequest.sheetsPath.toList.tail := by decide
  simp only [signedMessage, DayPageRequest.planned, DayPageRequest.path, OfflineReadPlan.encodedQuery,
    List.append_assoc, String.toList_append]
  rw [back]
  rfl

/-- A signature binds the vendor, the window, the state, the page size, the cursor and the stamp, and nothing else:
neither the tenant nor the connection is part of what is signed. -/
theorem signature_binds_read (planned : coupangDayPagePlan printable request = .ok plan)
    (replanned : coupangDayPagePlan printable other = .ok later) (first second : Timestamp) :
    signedMessage plan first = signedMessage later second ↔ stamp first = stamp second ∧ SameRead request other := by
  obtain ⟨fits, rfl⟩ := coupangDayPagePlan_eq_ok.mp planned
  obtain ⟨matching, rfl⟩ := coupangDayPagePlan_eq_ok.mp replanned
  have vendor : '/' ∉ request.vendorId.toList := not_mem_localReference (fits.references _ (by simp))
  have other_vendor : '/' ∉ other.vendorId.toList := not_mem_localReference (matching.references _ (by simp))
  constructor
  · intro same
    rw [signedMessage_eq, signedMessage_eq] at same
    have lengths : (stamp first).length = (stamp second).length := (length_stamp first).trans (length_stamp second).symm
    obtain ⟨stamps, vendors, queries⟩ := message_parts lengths vendor other_vendor same
    obtain ⟨starts, finishes, states, pages, cursors⟩ := query_inj
      (Urlencode.urlencode_inj queries)
    exact ⟨stamps, String.toList_inj.mp vendors, starts, finishes, states, pages, cursors⟩
  · rintro ⟨stamps, reads⟩
    have queries : request.query = other.query := by
      rw [DayPageRequest.query, DayPageRequest.query, reads.start, reads.finish, reads.page, reads.state, reads.cursor]
    rw [signedMessage_eq, signedMessage_eq, stamps, reads.vendor, queries]

def augustRead : DayPageRequest where
  tenantRef := "tenant"
  connectionRef := "connection"
  vendorId := "vendor"
  start := ⟨2026, 8, 1, by decide, by decide, by decide⟩
  finish := ⟨2026, 8, 31, by decide, by decide, by decide⟩
  status := "ACCEPT"
  nextToken := some "a/b"

theorem augustRead_plannable (token : Option String) (fits : token = none ∨ token = some "a/b") :
    Plannable (fun _ => true) { augustRead with nextToken := token } := by
  rcases fits with rfl | rfl
  · exact ⟨by decide, by decide, by decide, by decide, by decide⟩
  · exact ⟨by decide, by decide, by decide, by decide, by decide⟩

theorem signature_binds_read_cursor :
    signedMessage augustRead.planned (.utc 0) ≠ signedMessage { augustRead with nextToken := none }.planned (.utc 0) := by
  intro same
  have reads := (signature_binds_read (coupangDayPagePlan_eq_ok.mpr ⟨augustRead_plannable _ (.inr rfl), rfl⟩)
    (coupangDayPagePlan_eq_ok.mpr ⟨augustRead_plannable _ (.inl rfl), rfl⟩) (.utc 0) (.utc 0)).mp same
  exact absurd reads.2.cursor (by decide)

end AiStore.Offline
