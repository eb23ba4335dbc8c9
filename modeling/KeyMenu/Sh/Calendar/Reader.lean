import KeyMenu.Sh.Calendar

/-!
# Reading days and times

A moment is said in many ways: by a day of the calendar, a time of the day, a zone, a day of the
week, or by how far it is from now (`Moment.read?`). What is said in parts counts together.
-/

namespace KeyMenu.Sh

/-- A part of what is said: a number with its sign and its digits, a word, or a sign. -/
inductive DatePart
  | number (sign : Option Char) (digits : Text)
  | word (t : Text)
  | sign (c : Char)
  deriving DecidableEq

namespace DatePart

/-- The parts of a text; what stands in brackets counts for nothing. -/
def ofText : Nat → Text → List DatePart
  | 0, _ => []
  | _ + 1, [] => []
  | fuel + 1, c :: rest =>
      if c = ' ' || ('\t' ≤ c && c ≤ '\x0d') || c = ',' then ofText fuel rest
      else if c = '(' then ofText fuel ((rest.dropWhile (· != ')')).tail)
      else if c.isDigit then
        let digits := (c :: rest).takeWhile Char.isDigit
        .number none digits :: ofText fuel ((c :: rest).drop digits.length)
      else if (c = '+' || c = '-') && (rest.dropWhile (· == ' ')).head?.any Char.isDigit then
        let rest := rest.dropWhile (· == ' ')
        let digits := rest.takeWhile Char.isDigit
        .number (some c) digits :: ofText fuel (rest.drop digits.length)
      else if c.isAlpha then
        let word := (c :: rest).takeWhile fun c => c.isAlpha || c == '.'
        .word ((word.filter (· != '.')).map Char.toLower) :: ofText fuel
          ((c :: rest).drop word.length)
      else .sign c :: ofText fuel rest

end DatePart

/-- What has been said of a moment. -/
structure Said where
  date : Option (Int × Int × Int)
  clock : Option (Int × Int × Int × Nat)
  zone : Option Int
  weekday : Option (Int × Nat)
  months : Int
  days : Int
  seconds : Int
  hasMore : Bool

namespace Said

/-- Nothing has been said. -/
def nothing : Said := ⟨none, none, none, none, 0, 0, 0, false⟩

/-- The month of a name; three letters are enough. -/
def month? (t : Text) : Option Nat :=
  if t.length < 3 then none
  else (Moment.monthNames.findIdx? fun name =>
      t.isPrefixOf (name.toList.map Char.toLower)).map (· + 1)

/-- The day of the week of a name. -/
def weekday? (t : Text) : Option Nat :=
  if t.length < 3 then none
  else Moment.dayNames.findIdx? fun name => t.isPrefixOf (name.toList.map Char.toLower)

/-- How far a zone of a name is ahead. -/
def zone? (t : Text) : Option Int :=
  match String.ofList t with
  | "z" => some 0
  | "utc" => some 0
  | "gmt" => some 0
  | "ut" => some 0
  | "wet" => some 0
  | "cet" => some 3600
  | "met" => some 3600
  | "eet" => some 7200
  | "est" => some (-18000)
  | "edt" => some (-14400)
  | "cst" => some (-21600)
  | "cdt" => some (-18000)
  | "mst" => some (-25200)
  | "mdt" => some (-21600)
  | "pst" => some (-28800)
  | "pdt" => some (-25200)
  | "bst" => some 3600
  | "cest" => some 7200
  | "jst" => some 32400
  | _ => none

/-- Moves by so many of a unit. -/
def moved? (unit : Text) (n : Int) (s : Said) : Option Said :=
  let unit := if unit.getLast? = some 's' && 3 < unit.length then unit.dropLast else unit
  match String.ofList unit with
  | "year" => some { s with months := s.months + 12 * n }
  | "month" => some { s with months := s.months + n }
  | "fortnight" => some { s with days := s.days + 14 * n }
  | "week" => some { s with days := s.days + 7 * n }
  | "day" => some { s with days := s.days + n }
  | "hour" => some { s with seconds := s.seconds + 3600 * n }
  | "minute" => some { s with seconds := s.seconds + 60 * n }
  | "min" => some { s with seconds := s.seconds + 60 * n }
  | "second" => some { s with seconds := s.seconds + n }
  | "sec" => some { s with seconds := s.seconds + n }
  | _ => none

/-- The number for which a word of order stands. -/
def ordinal? (t : Text) : Option Int :=
  match String.ofList t with
  | "last" => some (-1)
  | "this" => some 0
  | "next" => some 1
  | "first" => some 1
  | "third" => some 3
  | "fourth" => some 4
  | "fifth" => some 5
  | "sixth" => some 6
  | "seventh" => some 7
  | "eighth" => some 8
  | "ninth" => some 9
  | "tenth" => some 10
  | "eleventh" => some 11
  | "twelfth" => some 12
  | _ => none

/-- The year that digits stand for: of two digits it is a near one. -/
def yearOf (digits : Text) : Int :=
  let n : Int := digitsValue digits
  if digits.length ≤ 2 then (if n < 69 then 2000 + n else 1900 + n) else n

/-- The seconds by which a zone is ahead, from a sign and digits. -/
def offsetOf (sign : Char) (digits : Text) (minutes : Nat) : Int :=
  let n := digitsValue digits
  let seconds : Int := if digits.length ≤ 2 then 3600 * n + 60 * minutes
    else 3600 * (n / 100) + 60 * (n % 100)
  if sign = '-' then -seconds else seconds

/-- A day has been said; there may be only one. -/
def withDate? (year month day : Int) (s : Said) : Option Said :=
  if s.date.isSome || month < 1 || 12 < month || day < 1 || 31 < day then none
  else
    let (y, m, _) := Moment.civil (Moment.days year month day)
    if y ≠ year || (m : Int) ≠ month then none else some { s with date := some (year, month, day) }

/-- A time of the day has been said; there may be only one. -/
def withClock? (hour minute second : Int) (nanosecond : Nat) (s : Said) : Option Said :=
  if s.clock.isSome || hour < 0 || 23 < hour || 59 < minute || 59 < second then none
  else some { s with clock := some (hour, minute, second, nanosecond) }

/-- The hour of the half of the day that a word names. -/
def halved? (word : Text) (hour : Int) : Option Int :=
  match String.ofList word with
  | "am" => if 1 ≤ hour ∧ hour ≤ 12 then some (hour % 12) else none
  | "pm" => if 1 ≤ hour ∧ hour ≤ 12 then some (hour % 12 + 12) else none
  | _ => none

/-- What follows a time of the day: the half of the day. -/
def afterClock (hour minute second : Int) (nanosecond : Nat) (rest : List DatePart) (s : Said) :
    Option (Said × List DatePart) :=
  match rest with
  | .word w :: more =>
      match halved? w hour with
      | some hour => (s.withClock? hour minute second nanosecond).map (·, more)
      | none => (s.withClock? hour minute second nanosecond).map (·, rest)
  | rest => (s.withClock? hour minute second nanosecond).map (·, rest)

/-- A zone may follow a time of the day. -/
def afterZone (s : Said) (rest : List DatePart) : Said × List DatePart :=
  match rest with
  | .number (some sign) digits :: .sign ':' :: .number none minutes :: more =>
      if s.zone.isNone && digits.length ≤ 2 then
        ({ s with zone := some (offsetOf sign digits (digitsValue minutes)) }, more)
      else (s, rest)
  | .number (some sign) digits :: more =>
      if s.zone.isNone && digits.length ≤ 4 then
        ({ s with zone := some (offsetOf sign digits 0) }, more)
      else (s, rest)
  | rest => (s, rest)

/-- A number that stands alone: digits of a day, or of a time of the day. -/
def alone (goOn : List DatePart → Said → Option Said) (digits : Text) (rest : List DatePart)
    (s : Said) : Option Said :=
  let n (from' count : Nat) : Int := digitsValue ((digits.drop from').take count)
  if digits.length = 8 && s.date.isNone then
    (s.withDate? (n 0 4) (n 4 2) (n 6 2)).bind (goOn rest)
  else if digits.length = 6 && s.date.isNone then
    (s.withDate? (yearOf (digits.take 2)) (n 2 2) (n 4 2)).bind (goOn rest)
  else if digits.length = 4 && s.date.isSome && s.clock.isSome then
    match s.date with
    | some (0, m, d) => goOn rest { s with date := some (n 0 4, m, d) }
    | _ => none
  else if digits.length = 4 && s.clock.isNone then
    (s.withClock? (n 0 2) (n 2 2) 0 0).bind (goOn rest)
  else if digits.length ≤ 2 && s.clock.isNone then
    (s.withClock? (n 0 2) 0 0 0).bind (goOn rest)
  else none

/-- A word that stands alone: a day of the week, a zone, or an order and a unit. -/
def wordAlone (goOn : List DatePart → Said → Option Said) (w : Text) (rest : List DatePart)
    (s : Said) : Option Said :=
  match weekday? w, zone? w, ordinal? w, rest with
  | some day, _, _, rest =>
      if s.weekday.isSome then none else goOn rest { s with weekday := some (0, day) }
  | none, some offset, _, rest =>
      if s.zone.isSome then none else goOn rest { s with zone := some offset }
  | none, none, some n, .word unit :: rest =>
      match s.moved? unit n, weekday? unit with
      | some s, _ => goOn rest s
      | none, some day => if s.weekday.isSome then none
          else goOn rest { s with weekday := some (n, day) }
      | none, none => none
  | none, none, none, rest =>
      match s.moved? w 1, rest with
      | some _, .word ago :: rest => if ago = "ago".toList then
            (s.moved? w (-1)).bind (goOn rest)
          else (s.moved? w 1).bind (goOn (.word ago :: rest))
      | some s, rest => goOn rest s
      | none, _ => none
  | _, _, _, _ => none

/-- Reads what is said, part by part. -/
def read? : Nat → List DatePart → Said → Option Said
  | 0, _, _ => none
  | _ + 1, [], s => some s
  | fuel + 1, parts, s =>
      let number (digits : Text) : Int := digitsValue digits
      let clocked (found : Option (Said × List DatePart)) : Option Said :=
        found.bind fun (s, rest) =>
          let (s, rest) := s.afterZone rest
          read? fuel rest s
      match parts with
      | .number none y :: .number (some '-') m :: .number (some '-') d :: rest =>
          if 2 < y.length || d.length ≤ 2 then
            (s.withDate? (yearOf y) (number m) (number d)).bind (read? fuel rest)
          else none
      | .number none d :: .sign '-' :: .word w :: .number (some '-') y :: rest =>
          (month? w).bind fun m => (s.withDate? (yearOf y) m (number d)).bind (read? fuel rest)
      | .number none a :: .sign '/' :: .number none b :: .sign '/' :: .number none c :: rest =>
          (if 2 < a.length then s.withDate? (number a) (number b) (number c)
            else s.withDate? (yearOf c) (number a) (number b)).bind (read? fuel rest)
      | .number none a :: .sign '/' :: .number none b :: rest =>
          (s.withDate? 0 (number a) (number b)).bind (read? fuel rest)
      | .number none h :: .sign ':' :: .number none m :: .sign ':' :: .number none sec
          :: .sign '.' ::
          .number none fraction :: rest =>
          clocked (s.afterClock (number h) (number m) (number sec)
            (digitsValue ((fraction ++ "000000000".toList).take 9)) rest)
      | .number none h :: .sign ':' :: .number none m :: .sign ':' :: .number none sec :: rest =>
          clocked (s.afterClock (number h) (number m) (number sec) 0 rest)
      | .number none h :: .sign ':' :: .number none m :: rest =>
          clocked (s.afterClock (number h) (number m) 0 0 rest)
      | .number sign digits :: .word w :: rest =>
          let n : Int := if sign = some '-' then -(number digits) else number digits
          match s.moved? w n with
          | some moved =>
              match rest with
              | .word ago :: rest =>
                  if ago = "ago".toList then (s.moved? w (-n)).bind (read? fuel rest)
                  else read? fuel (.word ago :: rest) moved
              | rest => read? fuel rest moved
          | none =>
              if sign.isNone then
                match month? w, halved? w n with
                | some m, _ =>
                    match rest with
                    | .number none y :: .sign ':' :: more =>
                        (s.withDate? 0 m n).bind (read? fuel (.number none y :: .sign ':' :: more))
                    | .number none y :: rest =>
                        (s.withDate? (yearOf y) m n).bind (read? fuel rest)
                    | rest => (s.withDate? 0 m n).bind (read? fuel rest)
                | none, some hour => (s.withClock? hour 0 0 0).bind (read? fuel rest)
                | none, none =>
                    match weekday? w, String.ofList w with
                    | some day, _ => (if s.weekday.isSome then none
                        else some { s with weekday := some (n, day) }).bind (read? fuel rest)
                    | none, "t" => alone (read? fuel) digits (.word w :: rest) s
                    | none, _ => alone (read? fuel) digits (.word w :: rest) s
              else none
      | .number none digits :: rest => alone (read? fuel) digits rest s
      | .word w :: rest =>
          match String.ofList w, rest with
          | "now", rest => read? fuel rest s
          | "today", rest => read? fuel rest s
          | "t", rest => read? fuel rest s
          | "yesterday", rest => read? fuel rest { s with days := s.days - 1 }
          | "tomorrow", rest => read? fuel rest { s with days := s.days + 1 }
          | _, .number none d :: rest =>
              match month? w with
              | some m =>
                  match rest with
                  | .number none y :: .sign ':' :: more =>
                      (s.withDate? 0 m (number d)).bind
                        (read? fuel (.number none y :: .sign ':' :: more))
                  | .number none y :: rest =>
                      (s.withDate? (yearOf y) m (number d)).bind (read? fuel rest)
                  | rest => (s.withDate? 0 m (number d)).bind (read? fuel rest)
              | none => wordAlone (read? fuel) w (.number none d :: rest) s
          | _, rest => wordAlone (read? fuel) w rest s
      | _ => none

/-- The moment that has been said, as seen from another one. -/
def moment (s : Said) (zone : Zone) (now : Int) (nanosecond : Nat) : Int × Nat :=
  let offset := s.zone.getD zone.offset
  let shown := Moment.ofSeconds ⟨zone.name, offset⟩ now nanosecond
  let (year, month, day) := s.date.getD (shown.year, shown.month, shown.day)
  let year := if s.date.isSome && year = 0 then shown.year else year
  let isDay := s.date.isSome || s.weekday.isSome || s.zone.isSome
  let (hour, minute, second, nano) : Int × Int × Int × Nat := match s.clock with
    | some clock => clock
    | none => if isDay then (0, 0, 0, 0) else (shown.hour, shown.minute, shown.second, nanosecond)
  let start := Moment.days year (month + s.months) day
  let start := match s.weekday with
    | some (n, weekday) =>
        if s.date.isSome then start
        else
          let today := Int.fmod (start + 4) 7
          let ahead := Int.fmod ((weekday : Int) - today) 7
          let weeks := if 0 < n && ahead ≠ 0 then n - 1 else n
          start + ahead + 7 * weeks
    | none => start
  ((start + s.days) * 86400 + 3600 * hour + 60 * minute + second - offset + s.seconds, nano)

end Said

namespace Moment

/-- The seconds and their fraction that a text behind an at sign says. -/
def counted? (t : Text) : Option (Int × Nat) :=
  let (isNegative, digits) := match t with
    | '-' :: digits => (true, digits)
    | '+' :: digits => (false, digits)
    | digits => (false, digits)
  let (whole, fraction) := (Text.splitFirst ['.'] digits).getD (digits, [])
  if whole.isEmpty || !(whole ++ fraction).all Char.isDigit then none
  else
    let nano := digitsValue ((fraction ++ "000000000".toList).take 9)
    let n : Int := digitsValue whole
    if !isNegative then some (n, nano)
    else if nano = 0 then some (-n, 0)
    else some (-n - 1, 1000000000 - nano)

/-- The seconds and the fraction of a second of the moment that a text says, as seen from another
one. -/
def read? (zone : Zone) (now : Int) (nanosecond : Nat) (t : Text) : Option (Int × Nat) :=
  let isBlank (c : Char) : Bool := c == ' ' || ('\t' ≤ c && c ≤ '\x0d')
  let t := ((t.dropWhile isBlank).reverse.dropWhile isBlank).reverse
  match t with
  | '@' :: t => counted? t
  | [] =>
      some (({ Said.nothing with clock := some (0, 0, 0, 0) }).moment zone now nanosecond)
  | t =>
      let parts := DatePart.ofText (t.length + 1) t
      (Said.read? (3 * parts.length + 3) parts .nothing).map fun s => s.moment zone now nanosecond

end Moment

example : Moment.read? .universal 0 0 "2001-02-03 04:05:06 +0100 1 day ago".toList =
    some (981083106, 0) := by decide +kernel

end KeyMenu.Sh
