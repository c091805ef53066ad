import RecipeCatalog.Fault
import RecipeCatalog.Text.Encoding

/-!
# Calendar dates

Dates of the proleptic Gregorian calendar from year 1 to year 9999, their day numbers (day 1 is
0001-01-01), ISO weeks, and the ISO forms a date is read from.

A date is read from text whose UTF-8 form has 7, 8 or 10 bytes: four year digits, an optional
hyphen, then either two month digits, the same separator and two day digits, or `W`, two week
digits and an optional day of the week (1 to 7, Monday first), again after the separator when
the year had one. Bytes after that form are not looked at. Text of another shape is refused as
a whole; a shape with a year, month or day out of range is refused for that reason.

Main definitions: `Date.ofParts`, `Date.ofIsoWeek`, `Date.read`, `Date.iso`.
-/

namespace RecipeCatalog

/-- A calendar date. -/
structure Date where
  year : Nat
  month : Nat
  day : Nat
  deriving DecidableEq, Repr

namespace Date

/-- Whether a year has 366 days. -/
def isLeap (y : Int) : Bool := y % 4 == 0 && (y % 100 != 0 || y % 400 == 0)

/-- The days of a month. -/
def daysIn (y : Int) (m : Nat) : Nat :=
  match m with
  | 2 => if isLeap y then 29 else 28
  | 4 | 6 | 9 | 11 => 30
  | _ => 31

/-- The date of a year, month and day, or why there is none. -/
def ofParts (y : Int) (m d : Nat) : Except DateRange Date :=
  if y < 1 ∨ y > 9999 then .error (.year y)
  else if m < 1 ∨ m > 12 then .error .month
  else if d < 1 ∨ d > daysIn y m then .error .day
  else .ok ⟨y.toNat, m, d⟩

/-- The days of the years before a year. -/
def daysBeforeYear (y : Int) : Int :=
  let p := y - 1
  p * 365 + p / 4 - p / 100 + p / 400

/-- The days of the months before a month. -/
def daysBeforeMonth (y : Int) (m : Nat) : Nat :=
  (List.range (m - 1)).foldr (fun i acc => daysIn y (i + 1) + acc) 0

/-- The day number of a year, month and day; day 1 is 0001-01-01. -/
def ordinal (y : Int) (m d : Nat) : Int := daysBeforeYear y + daysBeforeMonth y m + d

/-- The year, month and day of a day number. -/
def ofOrdinal (n : Int) : Int × Nat × Nat :=
  -- the year is the largest whose first day is at most `n`
  let guess := (n - 1) * 400 / 146097 + 1
  let y := if ordinal (guess + 1) 1 1 ≤ n then guess + 1
    else if ordinal guess 1 1 ≤ n then guess else guess - 1
  let dayOfYear := (n - ordinal y 1 1).toNat
  let rec month (m left : Nat) : Nat → Nat × Nat
    | 0 => (m, left)
    | fuel + 1 =>
      if left < daysIn y m then (m, left) else month (m + 1) (left - daysIn y m) fuel
  let (m, left) := month 1 dayOfYear 12
  (y, m, left + 1)

/-- The day number of the Monday of week 1 of an ISO year: the week holding January 4th. -/
def isoWeekOneMonday (y : Int) : Int :=
  let first := ordinal y 1 1
  let weekday := (first + 6) % 7
  let monday := first - weekday
  if weekday > 3 then monday + 7 else monday

/-- Whether an ISO year has a 53rd week: it starts on a Thursday, or on a Wednesday in a leap
year. -/
def hasWeek53 (y : Int) : Bool :=
  let weekday := (ordinal y 1 1 + 6) % 7
  weekday == 3 || (weekday == 2 && isLeap y)

/-- The date of an ISO year, week and day of the week; none for a week or day out of range. -/
def ofIsoWeek (y : Int) (w d : Nat) : Option (Except DateRange Date) :=
  if (w == 0 || w > 53 || (w == 53 && !hasWeek53 y)) then none
  else if d == 0 || d > 7 then none
  else
    let (y', m, d') := ofOrdinal (isoWeekOneMonday y + ((w - 1) * 7 + d - 1 : Nat))
    some (ofParts y' m d')

/-- The ISO form `yyyy-mm-dd`. -/
def iso (dt : Date) : String :=
  let pad (w n : Nat) : String :=
    let s := toString n
    String.ofList (List.replicate (w - s.length) '0') ++ s
  pad 4 dt.year ++ "-" ++ pad 2 dt.month ++ "-" ++ pad 2 dt.day

/-- Reads `n` ASCII digits from the front of bytes. -/
def digits (n : Nat) (bs : List UInt8) : Option (Nat × List UInt8) :=
  let ds := bs.take n
  if ds.length == n && ds.all (fun b => 48 ≤ b && b ≤ 57) then
    some (ds.foldl (fun acc b => acc * 10 + (b.toNat - 48)) 0, bs.drop n)
  else none

/-- The shape of an ISO date in bytes. -/
inductive Shape where
  | calendar (y m d : Nat)
  | week (y w d : Nat)
  deriving DecidableEq, Repr

/-- Reads the shape of an ISO date from bytes of one of the allowed lengths. -/
def shape (bs : List UInt8) : Option Shape := do
  let (y, rest) ← digits 4 bs
  let (sep, rest) := match rest with
    | 45 :: r => (true, r)
    | _ => (false, rest)
  match rest with
  | 87 :: r =>
    let (w, r) ← digits 2 r
    let used := 7 + (if sep then 1 else 0)
    if used < bs.length then
      let r ← if sep then (match r with | 45 :: r' => some r' | _ => none) else some r
      let (d, _) ← digits 1 r
      pure (.week y w d)
    else pure (.week y w 1)
  | _ =>
    let (m, r) ← digits 2 rest
    let r ← if sep then (match r with | 45 :: r' => some r' | _ => none) else some r
    let (d, _) ← digits 2 r
    pure (.calendar y m d)

/-- Reads a date from text in an ISO form. -/
def read (t : Text) : Except Fault Date :=
  let bs := Utf8.encodePassing t
  let refuse : Except Fault Date := .error (.badIsoDate t)
  if t.hasLone || !(bs.length == 7 || bs.length == 8 || bs.length == 10) then refuse
  else
    match shape bs with
    | none => refuse
    | some (.calendar y m d) => (ofParts y m d).mapError Fault.dateRange
    | some (.week y w d) =>
      match ofIsoWeek y w d with
      | none => refuse
      | some r => r.mapError Fault.dateRange

end Date

end RecipeCatalog
