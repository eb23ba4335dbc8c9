import KeyMenu.Sh.Digits

/-!
# Days and times

Seconds are counted from the beginning of the year 1970. `Moment.ofSeconds` says what the calendar
and the clock of a zone show then, `Moment.seconds` goes back, and `Moment.written` writes a moment
by a format.
-/

namespace KeyMenu.Sh

/-- A zone: its name, and the seconds by which its clocks are ahead. -/
structure Zone where
  name : Text
  offset : Int

/-- The zone that clocks have without being told. -/
def Zone.universal : Zone := ⟨"UTC".toList, 0⟩

/-- The zone that a text names: a name, then the hours by which its clocks are behind. -/
def Zone.ofText (t : Text) : Zone :=
  let name := t.takeWhile Char.isAlpha
  let rest := t.drop name.length
  let (isBehind, digits) := match rest with
    | '-' :: digits => (false, digits)
    | '+' :: digits => (true, digits)
    | digits => (true, digits)
  match digitsOf 10 2 digits with
  | some (hours, rest) =>
      let minutes := match rest with
        | ':' :: rest => ((digitsOf 10 2 rest).map Prod.fst).getD 0
        | _ => 0
      let offset : Int := 3600 * hours + 60 * minutes
      if name.length < 3 then .universal else ⟨name, if isBehind then -offset else offset⟩
  | none => if name.length < 3 || !rest.isEmpty then .universal else ⟨name, 0⟩

/-- What calendar and clock show. -/
structure Moment where
  year : Int
  month : Nat
  day : Nat
  hour : Nat
  minute : Nat
  second : Nat
  nanosecond : Nat
  zone : Zone

namespace Moment

/-- The number of days from the beginning of 1970 to a day of the calendar; months and days may lie
outside of their ranges. -/
def days (year month day : Int) : Int :=
  let year := year + Int.fdiv (month - 1) 12
  let month := Int.fmod (month - 1) 12 + 1
  let y := if month ≤ 2 then year - 1 else year
  let era := Int.fdiv y 400
  let ofEra := y - era * 400
  let shifted := Int.fmod (month + 9) 12
  let ofYear := (153 * shifted + 2) / 5
  era * 146097 + (ofEra * 365 + ofEra / 4 - ofEra / 100 + ofYear) - 719468 + (day - 1)

/-- The day of the calendar that is so many days after the beginning of 1970. -/
def civil (n : Int) : Int × Nat × Nat :=
  let z := n + 719468
  let era := Int.fdiv z 146097
  let ofEra := z - era * 146097
  let years := (ofEra - ofEra / 1460 + ofEra / 36524 - ofEra / 146096) / 365
  let ofYear := ofEra - (365 * years + years / 4 - years / 100)
  let shifted := (5 * ofYear + 2) / 153
  let day := ofYear - (153 * shifted + 2) / 5 + 1
  let month := if shifted < 10 then shifted + 3 else shifted - 9
  (years + era * 400 + (if month ≤ 2 then 1 else 0), month.toNat, day.toNat)

/-- What is shown so many seconds after the beginning of 1970. -/
def ofSeconds (zone : Zone) (seconds : Int) (nanosecond : Nat) : Moment :=
  let shown := seconds + zone.offset
  let (year, month, day) := civil (Int.fdiv shown 86400)
  let ofDay := (Int.fmod shown 86400).toNat
  ⟨year, month, day, ofDay / 3600, ofDay / 60 % 60, ofDay % 60, nanosecond, zone⟩

/-- The seconds from the beginning of 1970. -/
def seconds (m : Moment) : Int :=
  days m.year m.month m.day * 86400 + 3600 * m.hour + 60 * m.minute + m.second - m.zone.offset

/-- The day of the week; Sunday is the first one. -/
def weekday (m : Moment) : Nat := (Int.fmod (days m.year m.month m.day + 4) 7).toNat

/-- The day of the year. -/
def yearday (m : Moment) : Nat :=
  (days m.year m.month m.day - days m.year 1 1).toNat + 1

/-- The names of the days and of the months. -/
def dayNames : List String :=
  ["Sunday", "Monday", "Tuesday", "Wednesday", "Thursday", "Friday", "Saturday"]

/-- The names of the months. -/
def monthNames : List String :=
  ["January", "February", "March", "April", "May", "June", "July", "August", "September", "October",
    "November", "December"]

/-- The week to which the first days of January belong is the one that holds most of its days; the
year and the week of a moment in that count. -/
def isoWeek (m : Moment) : Int × Nat :=
  let weekday : Int := if m.weekday = 0 then 7 else m.weekday
  let week (yearday : Int) : Int := Int.fdiv (yearday - weekday + 10) 7
  let n := week m.yearday
  let weeksOf (year : Int) : Int :=
    let first := Int.fmod (days year 1 1 + 4) 7
    let isLeap := days year 12 31 - days year 1 1 = 365
    if first = 4 ∨ (first = 3 ∧ isLeap) then 53 else 52
  if n < 1 then (m.year - 1, (weeksOf (m.year - 1)).toNat)
  else if weeksOf m.year < n then (m.year + 1, 1)
  else (m.year, n.toNat)

/-- The distance of a zone from the universal time. -/
def offsetText (zone : Zone) (colon : Bool) : Text :=
  let minutes := zone.offset.natAbs / 60
  (if zone.offset < 0 then '-' else '+') :: inWidth 2 (minutes / 60) ++
    (if colon then [':'] else []) ++ inWidth 2 (minutes % 60)

/-- A number in a width, filled with zeros or blanks. -/
def filled (fill : Char) (width : Nat) (n : Int) : Text :=
  let digits := Text.ofNat n.natAbs
  let missing := List.replicate (width - digits.length) fill
  if n < 0 then '-' :: missing ++ digits else missing ++ digits

/-- What a letter of a format stands for: a number in a width with the sign that fills it, or a
text. -/
def field? (m : Moment) (letter : Char) : Option (Sum (Char × Nat × Int) Text) :=
  let two (n : Nat) : Option (Sum (Char × Nat × Int) Text) := some (.inl ('0', 2, n))
  let text (t : Text) : Option (Sum (Char × Nat × Int) Text) := some (.inr t)
  let name (names : List String) (n : Nat) : Text := (names.getD n "?").toList
  let hour := if m.hour % 12 = 0 then 12 else m.hour % 12
  let clock (n : Nat) : Text := inWidth 2 n
  match letter with
  | 'Y' => some (.inl ('0', 1, m.year))
  | 'C' => some (.inl ('0', 2, Int.fdiv m.year 100))
  | 'y' => some (.inl ('0', 2, Int.fmod m.year 100))
  | 'm' => two m.month
  | 'd' => two m.day
  | 'e' => some (.inl (' ', 2, m.day))
  | 'H' => two m.hour
  | 'I' => two hour
  | 'k' => some (.inl (' ', 2, m.hour))
  | 'l' => some (.inl (' ', 2, hour))
  | 'M' => two m.minute
  | 'S' => two m.second
  | 'N' => some (.inl ('0', 9, m.nanosecond))
  | 'j' => some (.inl ('0', 3, m.yearday))
  | 'u' => some (.inl ('0', 1, if m.weekday = 0 then 7 else m.weekday))
  | 'w' => some (.inl ('0', 1, m.weekday))
  | 'U' => two ((m.yearday + 6 - m.weekday) / 7)
  | 'W' => two ((m.yearday + 6 - (m.weekday + 6) % 7) / 7)
  | 'V' => two m.isoWeek.2
  | 'G' => some (.inl ('0', 1, m.isoWeek.1))
  | 'g' => some (.inl ('0', 2, Int.fmod m.isoWeek.1 100))
  | 'q' => some (.inl ('0', 1, ((m.month + 2) / 3 : Nat)))
  | 's' => some (.inl ('0', 1, m.seconds))
  | 'a' => text ((name dayNames m.weekday).take 3)
  | 'A' => text (name dayNames m.weekday)
  | 'b' => text ((name monthNames (m.month - 1)).take 3)
  | 'h' => text ((name monthNames (m.month - 1)).take 3)
  | 'B' => text (name monthNames (m.month - 1))
  | 'p' => text (if m.hour < 12 then "AM" else "PM").toList
  | 'P' => text (if m.hour < 12 then "am" else "pm").toList
  | 'Z' => text m.zone.name
  | 'z' => text (offsetText m.zone false)
  | 'n' => text ['\n']
  | 't' => text ['\t']
  | '%' => text ['%']
  | 'R' => text (clock m.hour ++ ':' :: clock m.minute)
  | 'T' => text (clock m.hour ++ ':' :: clock m.minute ++ ':' :: clock m.second)
  | 'X' => text (clock m.hour ++ ':' :: clock m.minute ++ ':' :: clock m.second)
  | 'D' => text (clock m.month ++ '/' :: clock m.day ++ '/' :: filled '0' 2 (Int.fmod m.year 100))
  | 'x' => text (clock m.month ++ '/' :: clock m.day ++ '/' :: filled '0' 2 (Int.fmod m.year 100))
  | 'F' => text (Text.ofInt m.year ++ '-' :: clock m.month ++ '-' :: clock m.day)
  | 'r' => text (clock hour ++ ':' :: clock m.minute ++ ':' :: clock m.second ++
      (if m.hour < 12 then " AM" else " PM").toList)
  | 'c' => text ((name dayNames m.weekday).take 3 ++
      ' ' :: (name monthNames (m.month - 1)).take 3 ++
      ' ' :: filled ' ' 2 m.day ++ ' ' :: clock m.hour ++ ':' :: clock m.minute ++ ':' ::
      clock m.second ++ ' ' :: Text.ofInt m.year)
  | _ => none

/-- The signs between a percent sign and a letter: what fills, whether letters become capitals, how
many colons, and the width. -/
structure FieldFlags where
  fill : Option (Option Char)
  isCapital : Bool
  colons : Nat
  width : Nat

/-- Reads the signs before a letter. -/
def flags : FieldFlags → Text → FieldFlags × Text
  | f, '-' :: rest => flags { f with fill := some none } rest
  | f, '_' :: rest => flags { f with fill := some (some ' ') } rest
  | f, '0' :: rest => flags { f with fill := some (some '0') } rest
  | f, '^' :: rest => flags { f with isCapital := true } rest
  | f, '#' :: rest => flags { f with isCapital := true } rest
  | f, ':' :: rest => flags { f with colons := f.colons + 1 } rest
  | f, 'E' :: rest => flags f rest
  | f, 'O' :: rest => flags f rest
  | f, rest =>
      match digitsOf 10 4 rest with
      | some (n, rest) => ({ f with width := n }, rest)
      | none => (f, rest)

/-- Writes a moment by a format, with enough fuel for its length. -/
def writtenFrom (m : Moment) : Nat → Text → Text
  | 0, _ => []
  | _ + 1, [] => []
  | fuel + 1, '%' :: rest =>
      let (f, after) := flags ⟨none, false, 0, 0⟩ rest
      match after with
      | [] => '%' :: rest
      | letter :: after =>
          let shown := match m.field? letter with
            | some (.inl (fill, width, n)) =>
                let width := max width f.width
                let n := if letter = 'N' ∧ 0 < f.width ∧ f.width < 9 then
                    n / (Nat.pow 10 (9 - f.width) : Nat) else n
                let width := if letter = 'N' ∧ 0 < f.width then f.width else width
                match f.fill with
                | some none => filled ' ' 1 n
                | some (some c) => filled c width n
                | none => filled fill width n
            | some (.inr t) =>
                let t := if letter = 'z' && 0 < f.colons then offsetText m.zone true else t
                let t := if f.isCapital then t.map Char.toUpper else t
                List.replicate (f.width - t.length) ' ' ++ t
            | none => '%' :: rest.take (rest.length - after.length)
          shown ++ writtenFrom m fuel after
  | fuel + 1, c :: rest => c :: writtenFrom m fuel rest

/-- Writes a moment by a format. -/
def written (m : Moment) (format : Text) : Text := m.writtenFrom (format.length + 1) format

end Moment

example : (Moment.ofSeconds .universal 951782400 0).written "%F %j %a".toList =
    "2000-02-29 060 Tue".toList := by decide +kernel

end KeyMenu.Sh
