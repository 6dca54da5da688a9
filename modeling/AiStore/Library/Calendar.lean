import AiStore.Library.Timestamp

/-! Days and months of UTC. -/

set_option autoImplicit false

namespace AiStore.Library.Timestamp

/-- Days since the epoch, in UTC. -/
def utcDay (time : Timestamp) : Int := time.instant / 86400000000

/-- The date on the wall clock of the zone. -/
def localDay (time : Timestamp) : Int := (time.instant + time.offset) / 86400000000

/-- Year and month of a day, on the proleptic Gregorian calendar: years start in March
and eras of 400 years have 146097 days. -/
def monthOfDay (day : Int) : Int × Int :=
  let shifted := day + 719468
  let dayOfEra := shifted % 146097
  let yearOfEra := (dayOfEra - dayOfEra / 1460 + dayOfEra / 36524 - dayOfEra / 146096) / 365
  let dayOfYear := dayOfEra - (365 * yearOfEra + yearOfEra / 4 - yearOfEra / 100)
  let march := (5 * dayOfYear + 2) / 153
  let month := if march < 10 then march + 3 else march - 9
  (yearOfEra + shifted / 146097 * 400 + (if month ≤ 2 then 1 else 0), month)

def utcMonth (time : Timestamp) : Int × Int := monthOfDay time.utcDay

example : [0, 58, 59, 19782, 19783, -1].map monthOfDay =
    [(1970, 1), (1970, 2), (1970, 3), (2024, 2), (2024, 3), (1969, 12)] := by decide

end AiStore.Library.Timestamp
