import TraceGraph.Binary64.Format
import TraceGraph.Number

/-! Timestamps: seconds since the beginning of 1970 as date and time in UTC. A fraction of a second is
rounded to microseconds, a half to the even neighbour, and left out if it is zero. -/

namespace TraceGraph.Log

/-- A point in time in whole seconds and microseconds, the latter below a million. -/
structure Instant where
  seconds : Int
  micros : Int
  deriving DecidableEq

inductive TimestampError
  | nan
  | overflow
  /-- Beyond the years that a calendar of the platform counts. -/
  | tooLarge
  | year (y : Int)
  deriving DecidableEq

def TimestampError.message : TimestampError → String
  | nan => "Invalid value NaN (not a number)"
  | overflow => "timestamp out of range for platform time_t"
  | tooLarge => "[Errno 75] Value too large for defined data type"
  | year y => s!"year {y} is out of range"

structure Date where
  year : Int
  month : Int
  day : Int
  deriving DecidableEq

/-- The date of a day counted from the beginning of 1970. Years are counted from March, so that a leap
day ends its year, in eras of 400 years. -/
def Date.ofDay (day : Int) : Date :=
  let z := day + 719468
  let era := z / 146097
  let d := z % 146097
  let y := (d - d / 1460 + d / 36524 - d / 146096) / 365
  let inYear := d - (365 * y + y / 4 - y / 100)
  let m := (5 * inYear + 2) / 153
  let month := if m < 10 then m + 3 else m - 9
  { year := y + era * 400 + (if month ≤ 2 then 1 else 0)
    month
    day := inYear - (153 * m + 2) / 5 + 1 }

namespace Instant

/-- Round a float to microseconds. The fraction of a second is first taken as a float number of
microseconds. -/
def ofFraction (num : Int) (den : Nat) : Instant :=
  let whole := num.tdiv den
  let part := (num - whole * den).natAbs
  let micros : Int := match (Binary64.ofRatio false (part * 1000000) den).ratio? with
    | some (n, d) => Binary64.roundHalfEven n.toNat d
    | none => 0
  let micros := if num < 0 then -micros else micros
  if 1000000 ≤ micros then ⟨whole + 1, micros - 1000000⟩
  else if micros < 0 then ⟨whole - 1, micros + 1000000⟩
  else ⟨whole, micros⟩

/-- The point in time of a number of seconds; the whole seconds must fit into 64 bits. -/
def ofNumber (t : Number) : Except TimestampError Instant :=
  let checked (i : Instant) : Except TimestampError Instant :=
    if -Int.pow 2 63 ≤ i.seconds ∧ i.seconds < Int.pow 2 63 then .ok i else .error .overflow
  match t with
  | .whole n => checked ⟨n, 0⟩
  | .flag b => checked ⟨if b then 1 else 0, 0⟩
  | .real .nan => .error .nan
  | .real x =>
    match x.ratio? with
    | some (n, d) => checked (ofFraction n d)
    | none => .error .overflow

/-- Date and time. A year of more than four digits is refused, and reported in 32 bits with a sign. -/
def text (i : Instant) : Except TimestampError String :=
  let date := Date.ofDay (i.seconds / 86400)
  let second := (i.seconds % 86400).toNat
  let two (n : Nat) := String.ofList (Binary64.padded 2 n)
  if date.year < -2147481748 ∨ 2147485547 < date.year then .error .tooLarge
  else if date.year < 1 ∨ 9999 < date.year then .error (.year (date.year.bmod (Nat.pow 2 32)))
  else
    let day := String.ofList (Binary64.padded 4 date.year.toNat) ++ "-" ++ two date.month.toNat ++
      "-" ++ two date.day.toNat
    let time := two (second / 3600) ++ ":" ++ two (second / 60 % 60) ++ ":" ++ two (second % 60)
    let places := if i.micros = 0 then ""
      else "." ++ String.ofList (Binary64.padded 6 i.micros.toNat)
    .ok (day ++ "T" ++ time ++ places ++ "+00:00")

end Instant

example : (Instant.ofFraction 3 2).text.toOption = some "1970-01-01T00:00:01.500000+00:00" := by
  decide +kernel

end TraceGraph.Log
