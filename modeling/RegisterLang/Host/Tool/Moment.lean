import RegisterLang.Host.Text.Calendar
import RegisterLang.Host.Tool.Options

namespace RegisterLang.Tool.Moment

open Calendar

abbrev Time := Int

def billion : Int := 1000000000

inductive Span where
  | year
  | month
  | day (count : Int)
  | hour
  | minute
  | second
  deriving DecidableEq, Repr

/-- The words of a date as people write it. -/
inductive Token where
  | number (signed : Bool) (value : Int) (digits : Nat) (fraction : Option Int)
  | month (number : Int)
  | weekday (number : Int)
  | unit (unit : Span)
  | shift (days : Int)
  | ordinal (value : Int)
  | ago (sign : Int)
  | meridian (afternoon : Bool)
  | zone (offset : Int)
  | summer
  | letterT
  | symbol (c : Char)
  deriving DecidableEq, Repr

def zones : List (String × Int) :=
  [("GMT", 0), ("UT", 0), ("UTC", 0), ("WET", 0), ("WEST", 3600), ("BST", 3600), ("ART", -10800),
    ("BRT", -10800), ("BRST", -7200), ("NST", -12600), ("NDT", -9000), ("AST", -14400),
    ("ADT", -10800), ("CLT", -14400), ("CLST", -10800), ("EST", -18000), ("EDT", -14400),
    ("CST", -21600), ("CDT", -18000), ("MST", -25200), ("MDT", -21600), ("PST", -28800),
    ("PDT", -25200), ("AKST", -32400), ("AKDT", -28800), ("HST", -36000), ("HAST", -36000),
    ("HADT", -32400), ("SST", -43200), ("WAT", 3600), ("CET", 3600), ("CEST", 7200), ("MET", 3600),
    ("MEZ", 3600), ("MEST", 7200), ("MESZ", 7200), ("EET", 7200), ("EEST", 10800), ("CAT", 7200),
    ("SAST", 7200), ("EAT", 10800), ("MSK", 10800), ("MSD", 14400), ("IST", 19800), ("SGT", 28800),
    ("KST", 32400), ("JST", 32400), ("GST", 36000), ("NZST", 43200), ("NZDT", 46800)]

def units : List (String × Span) :=
  [("YEAR", .year), ("MONTH", .month), ("FORTNIGHT", .day 14), ("WEEK", .day 7), ("DAY", .day 1),
    ("HOUR", .hour), ("MINUTE", .minute), ("MIN", .minute), ("SECOND", .second), ("SEC", .second)]

def relatives : List (String × Token) :=
  [("TOMORROW", .shift 1), ("YESTERDAY", .shift (-1)), ("TODAY", .shift 0), ("NOW", .shift 0),
    ("LAST", .ordinal (-1)), ("THIS", .ordinal 0), ("NEXT", .ordinal 1), ("FIRST", .ordinal 1),
    ("THIRD", .ordinal 3), ("FOURTH", .ordinal 4), ("FIFTH", .ordinal 5), ("SIXTH", .ordinal 6),
    ("SEVENTH", .ordinal 7), ("EIGHTH", .ordinal 8), ("NINTH", .ordinal 9), ("TENTH", .ordinal 10),
    ("ELEVENTH", .ordinal 11), ("TWELFTH", .ordinal 12), ("AGO", .ago (-1)), ("HENCE", .ago 1)]

def military? (c : Char) : Option Int :=
  let east := "ABCDEFGHIKLM".toList.findIdx (· = c)
  let west := "NOPQRSUVWXY".toList.findIdx (· = c)
  if c = 'Z' then some 0
  else if c = 'T' then none
  else if east < 12 then some ((east + 1) * 3600)
  else if west < 6 then some (-(Int.ofNat (west + 1) * 3600))
  else if west < 11 then some (-(Int.ofNat (west + 2) * 3600))
  else none

def named? (names : List String) (word : String) : Option Nat :=
  let short (name : String) : String := String.ofList (name.toList.take 3)
  let letters := String.ofList (word.toList.filter (· ≠ '.'))
  let i := names.findIdx fun name ↦
    let upper := name.map Char.toUpper
    word = upper || (letters.length = 3 && word.length ≤ 4 && short upper = letters)
  if i < names.length then some i else none

def wordToken? (text : String) : Option Token :=
  let word := text.map Char.toUpper
  let plain := String.ofList (word.toList.filter (· ≠ '.'))
  let singular :=
    if word.toList.getLast? = some 'S' then String.ofList word.toList.dropLast else word
  if plain = "AM" && (word = "AM" || word = "A.M.") then some (.meridian false)
  else if plain = "PM" && (word = "PM" || word = "P.M.") then some (.meridian true)
  else if let some i := named? monthNames word then some (.month (i + 1))
  else if word = "SEPT" then some (.month 9)
  else if let some i := named? dayNames word then some (.weekday i)
  else if word = "TUES" then some (.weekday 2)
  else if word = "WEDNES" then some (.weekday 3)
  else if word = "THUR" || word = "THURS" then some (.weekday 4)
  else if let some offset := zones.lookup word then some (.zone offset)
  else if word = "DST" then some .summer
  else if let some unit := units.lookup word then some (.unit unit)
  else if let some unit := units.lookup singular then some (.unit unit)
  else if let some token := relatives.lookup word then some token
  else
    match word.toList with
    | ['T'] => some .letterT
    | [c] => (military? c).map .zone
    | _ => (zones.lookup plain).map .zone

def nanoseconds (digits : List Char) : Int :=
  ((String.ofList ((digits ++ List.replicate 9 '0').take 9)).toNat?).getD 0

def tokens : Nat → List Char → Option (List Token)
  | 0, _ => some []
  | _ + 1, [] => some []
  | n + 1, c :: cs =>
    let isSpace (c : Char) : Bool := c = ' ' || ('\t' ≤ c && c ≤ '\r')
    if isSpace c then tokens n cs
    else if c.isDigit || c = '+' || c = '-' then
      let signed := !c.isDigit
      let rest := if signed then cs.dropWhile isSpace else c :: cs
      let digits := rest.takeWhile Char.isDigit
      if digits.isEmpty then tokens n cs
      else
        let size := ((String.ofList digits).toNat?).getD 0
        let value : Int := if c = '-' then -Int.ofNat size else size
        match rest.drop digits.length with
        | point :: d :: more =>
          if (point = '.' || point = ',') && d.isDigit then
            let fraction := (d :: more).takeWhile Char.isDigit
            let nanos := nanoseconds fraction
            let token := Token.number signed value digits.length
              (some (if c = '-' then -nanos else nanos))
            (tokens n ((d :: more).drop fraction.length)).map (token :: ·)
          else (tokens n (point :: d :: more)).map (.number signed value digits.length none :: ·)
        | after => (tokens n after).map (.number signed value digits.length none :: ·)
    else if c.isAlpha then
      let word := (c :: cs).takeWhile fun c ↦ c.isAlpha || c = '.'
      match wordToken? (String.ofList word) with
      | some token => (tokens n ((c :: cs).drop word.length)).map (token :: ·)
      | none => none
    else if c = '(' then
      -- A remark.
      tokens n ((cs.dropWhile (· ≠ ')')).drop 1)
    else (tokens n cs).map (.symbol c :: ·)

/-- What was read of a date, with how often each kind of part occurred. -/
structure Reading where
  year : Option (Int × Nat) := none
  month : Int := 0
  day : Int := 0
  hour : Int := 0
  minute : Int := 0
  second : Int := 0
  nanos : Int := 0
  meridian : Option Bool := none
  zone : Option Int := none
  weekday : Int := 0
  ordinal : Int := 0
  years : Int := 0
  months : Int := 0
  days : Int := 0
  hours : Int := 0
  minutes : Int := 0
  seconds : Int := 0
  extraNanos : Int := 0
  dates : Nat := 0
  times : Nat := 0
  weekdays : Nat := 0
  zones : Nat := 0
  steps : Nat := 0

namespace Reading

def addDate (r : Reading) (year : Option (Int × Nat)) (month day : Int) : Reading :=
  { r with year := year.or r.year, month, day, dates := r.dates + 1 }

def addTime (r : Reading) (hour minute second nanos : Int) (meridian : Option Bool) : Reading :=
  { r with hour, minute, second, nanos, meridian, times := r.times + 1 }

def addZone (r : Reading) (offset : Int) : Reading :=
  { r with zone := some offset, zones := r.zones + 1 }

def addStep (r : Reading) (count : Int) (fraction : Int) : Span → Reading
  | .year => { r with years := r.years + count, steps := r.steps + 1 }
  | .month => { r with months := r.months + count, steps := r.steps + 1 }
  | .day n => { r with days := r.days + count * n, steps := r.steps + 1 }
  | .hour => { r with hours := r.hours + count, steps := r.steps + 1 }
  | .minute => { r with minutes := r.minutes + count, steps := r.steps + 1 }
  | .second =>
    { r with seconds := r.seconds + count, extraNanos := r.extraNanos + fraction
             steps := r.steps + 1 }

end Reading

def offsetOf (value : Int) (digits : Nat) (minutes : Option Int) : Option Int :=
  let sign : Int := if value < 0 then -1 else 1
  match minutes with
  | some m => some (value * 3600 + sign * m * 60)
  | none =>
    if digits ≤ 2 then some (value * 3600)
    else some ((value.tdiv 100) * 3600 + (value.tmod 100) * 60)

def takeOffset (r : Reading) : List Token → Option (Reading × List Token)
  | .number true v d none :: .symbol ':' :: .number false m _ none :: rest =>
    (offsetOf v d (some m)).map fun offset ↦ (r.addZone offset, rest)
  | .number true v d none :: .unit u :: rest => some (r, .number true v d none :: .unit u :: rest)
  | .number true v d none :: rest => (offsetOf v d none).map fun offset ↦ (r.addZone offset, rest)
  | rest => some (r, rest)

def addNumber (r : Reading) (value : Int) (digits : Nat) : Reading :=
  if 0 < r.dates && r.year.isNone && r.steps = 0 && (0 < r.times || 2 < digits) then
    { r with year := some (value, digits) }
  else if 4 < digits then
    r.addDate (some (value / 10000, digits - 4)) (value / 100 % 100) (value % 100)
  else if digits ≤ 2 then r.addTime value 0 0 0 none
  else r.addTime (value / 100) (value % 100) 0 0 none

/-- Turns round what a step has added, if a word like `ago` follows it. -/
def direct (before after : Reading) : List Token → Reading × List Token
  | .ago sign :: rest =>
    ({ after with
        years := before.years + sign * (after.years - before.years)
        months := before.months + sign * (after.months - before.months)
        days := before.days + sign * (after.days - before.days)
        hours := before.hours + sign * (after.hours - before.hours)
        minutes := before.minutes + sign * (after.minutes - before.minutes)
        seconds := before.seconds + sign * (after.seconds - before.seconds)
        extraNanos := before.extraNanos + sign * (after.extraNanos - before.extraNanos) }, rest)
  | rest => (after, rest)

def item (r : Reading) : List Token → Option (Reading × List Token)
  -- Times of day
  | .number false h _ none :: .meridian p :: rest => some (r.addTime h 0 0 0 (some p), rest)
  | .number false h _ none :: .symbol ':' :: .number false m _ none :: .symbol ':' ::
      .number false s _ f :: rest =>
    match rest with
    | .meridian p :: rest => some (r.addTime h m s (f.getD 0) (some p), rest)
    | _ => takeOffset (r.addTime h m s (f.getD 0) none) rest
  | .number false h _ none :: .symbol ':' :: .number false m _ none :: rest =>
    match rest with
    | .meridian p :: rest => some (r.addTime h m 0 0 (some p), rest)
    | _ => takeOffset (r.addTime h m 0 0 none) rest
  -- Dates
  | .number false y yd none :: .number true m _ none :: .number true d _ none :: rest =>
    let r := r.addDate (some (y, yd)) (-m) (-d)
    match rest with
    | .letterT :: rest => some (r, rest)
    | _ => some (r, rest)
  | .number false a ad none :: .symbol '/' :: .number false b _ none :: .symbol '/' ::
      .number false c cd none :: rest =>
    if 4 ≤ ad then some (r.addDate (some (a, ad)) b c, rest)
    else some (r.addDate (some (c, cd)) a b, rest)
  | .number false a _ none :: .symbol '/' :: .number false b _ none :: rest =>
    some (r.addDate none a b, rest)
  | .number false d _ none :: .month m :: .number true y yd none :: rest =>
    some (r.addDate (some (-y, yd)) m d, rest)
  | .month m :: .number true d _ none :: .number true y yd none :: rest =>
    some (r.addDate (some (-y, yd)) m (-d), rest)
  | .month m :: .number false d _ none :: .symbol ',' :: .number false y yd none :: rest =>
    some (r.addDate (some (y, yd)) m d, rest)
  | .month m :: .number false d _ none :: rest => some (r.addDate none m d, rest)
  | .number false d _ none :: .month m :: .number false y yd none :: rest =>
    match rest with
    | .symbol ':' :: _ => some (r.addDate none m d, .number false y yd none :: rest)
    | _ => some (r.addDate (some (y, yd)) m d, rest)
  | .number false d _ none :: .month m :: rest => some (r.addDate none m d, rest)
  -- Days of the week
  | .ordinal n :: .weekday w :: rest | .number false n _ none :: .weekday w :: rest =>
    some ({ r with weekday := w, ordinal := n, weekdays := r.weekdays + 1 }, rest)
  | .weekday w :: .symbol ',' :: rest | .weekday w :: rest =>
    some ({ r with weekday := w, ordinal := 0, weekdays := r.weekdays + 1 }, rest)
  -- Steps
  | .ordinal n :: .unit u :: rest => some (direct r (r.addStep n 0 u) rest)
  | .number _ n _ f :: .unit u :: rest =>
    if f.isSome && u ≠ .second then none
    else some (direct r (r.addStep n (f.getD 0) u) rest)
  | .unit u :: rest => some (direct r (r.addStep 1 0 u) rest)
  | .shift n :: rest => some ({ r with days := r.days + n, steps := r.steps + 1 }, rest)
  -- Zones
  | .zone offset :: .summer :: rest => some (r.addZone (offset + 3600), rest)
  | .zone offset :: .number true v d none :: .symbol ':' :: .number false m _ none :: rest =>
    (offsetOf v d (some m)).map fun more ↦ (r.addZone (offset + more), rest)
  | .zone offset :: .number true v d none :: .unit u :: rest =>
    some (r.addZone offset, .number true v d none :: .unit u :: rest)
  | .zone offset :: .number true v d none :: rest =>
    (offsetOf v d none).map fun more ↦ (r.addZone (offset + more), rest)
  | .zone offset :: rest => some (r.addZone offset, rest)
  | .letterT :: rest => some (r.addZone (-25200), rest)
  | .number false n d none :: rest => some (addNumber r n d, rest)
  | _ => none

def items : Nat → Reading → List Token → Option Reading
  | _, r, [] => some r
  | 0, _, _ => none
  | n + 1, r, ts => (item r ts).bind fun (r, rest) ↦ items n r rest

def hourOf (hour : Int) : Option Bool → Option Int
  | none => if 0 ≤ hour && hour < 24 then some hour else none
  | some afternoon =>
    if 0 < hour && hour < 12 then some (if afternoon then hour + 12 else hour)
    else if hour = 12 then some (if afternoon then 12 else 0)
    else none

def yearOf (year : Int) (digits : Nat) : Int :=
  if digits = 2 then if year < 69 then year + 2000 else year + 1900 else year

/-- The point in time that a reading means, if its parts go together. -/
def resolve (now : Time) (r : Reading) : Option Time := do
  let zones := r.zones
  if 1 < r.times || 1 < r.dates || 1 < r.weekdays || 1 < zones then none
  else
    let current := civil (now / billion)
    let year := match r.year with
      | some (y, d) => yearOf y d
      | none => current.year
    let (month, day) := if 0 < r.dates then (r.month, r.day) else (current.month, current.day)
    let year := if 0 < r.dates || r.year.isSome then year else current.year
    let keeps := r.times = 0 && 0 < r.steps && r.dates = 0 && r.weekdays = 0
    let (hour, minute, second, nanos) ←
      if keeps then some (current.hour, current.minute, current.second, now % billion)
      else if r.times = 0 then some (0, 0, 0, 0)
      else (hourOf r.hour r.meridian).map fun h ↦ (h, r.minute, r.second, r.nanos)
    let given : Civil := { year, month, day, hour, minute, second }
    let again := civil (Calendar.seconds given)
    if again ≠ given then none
    else
      let number := dayNumber year month day
      let day := if 0 < r.weekdays && r.dates = 0 then
          let w := Calendar.weekday number
          day + (r.weekday - w + 7) % 7 +
            7 * (r.ordinal - (if 0 < r.ordinal && w ≠ r.weekday then 1 else 0))
        else day
      let moved : Civil :=
        { year := year + r.years, month := month + r.months, day := day + r.days, hour, minute
          second }
      let total := Calendar.seconds moved - r.zone.getD 0 + r.hours * 3600 + r.minutes * 60 +
        r.seconds
      some (total * billion + nanos + r.extraNanos)

def absolute? (cs : List Char) : Option Time :=
  let (negative, rest) := match cs with
    | '-' :: rest => (true, rest)
    | '+' :: rest => (false, rest)
    | _ => (false, cs)
  let digits := rest.takeWhile Char.isDigit
  let after := rest.drop digits.length
  let fraction : Option Int := match after with
    | [] => some 0
    | point :: more =>
      if (point = '.' || point = ',') && !more.isEmpty && more.all Char.isDigit then
        some (nanoseconds more)
      else none
  match (String.ofList digits).toNat?, fraction with
  | some n, some f =>
    let whole := Int.ofNat n * billion + f
    some (if negative then -whole else whole)
  | _, _ => none

def parse? (now : Time) (text : String) : Option Time :=
  let isSpace (c : Char) : Bool := c = ' ' || ('\t' ≤ c && c ≤ '\r')
  let cs := text.toList.dropWhile isSpace
  -- A zone may be set in front.
  let cs := match cs with
    | 'T' :: 'Z' :: '=' :: '"' :: rest => ((rest.dropWhile (· ≠ '"')).drop 1).dropWhile isSpace
    | _ => cs
  match cs with
  | '@' :: rest => absolute? ((rest.reverse.dropWhile isSpace).reverse.dropWhile isSpace)
  | _ => do
    let ts ← tokens (cs.length + 1) cs
    let r ← items (ts.length + 1) {} ts
    resolve now r

def parseStamp? (now : Time) (text : String) : Option Time := do
  let (digits, second) ← match text.splitOn "." with
    | [digits] => some (digits, (0 : Int))
    | [digits, s] =>
      if s.length = 2 && s.toList.all Char.isDigit then s.toNat?.map fun n ↦ (digits, (n : Int))
      else none
    | _ => none
  if !digits.toList.all Char.isDigit then none
  else
    let pairs (cs : List Char) : List Int :=
      (List.range (cs.length / 2)).map fun i ↦
        (((String.ofList ((cs.drop (2 * i)).take 2)).toNat?).getD 0 : Int)
    let current := civil (now / billion)
    let (year, rest) ← match digits.length with
      | 8 => some (current.year, digits.toList)
      | 10 =>
        let y := (pairs digits.toList).headD 0
        some (if y < 69 then y + 2000 else y + 1900, digits.toList.drop 2)
      | 12 =>
        match pairs digits.toList with
        | c :: y :: _ => some (c * 100 + y, digits.toList.drop 4)
        | _ => none
      | _ => none
    match pairs rest with
    | [month, day, hour, minute] =>
      let given : Civil := { year, month, day, hour, minute, second }
      let total := Calendar.seconds given
      if civil total = given ||
          (second = 60 && civil (total - 60) = { given with second := 0 }) then
        some (total * billion)
      else none
    | _ => none

structure Style where
  pad : Option Char := none
  noPad : Bool := false
  upper : Bool := false
  swap : Bool := false
  plus : Bool := false
  width : Option Nat := none

namespace Style

def number (s : Style) (digits : Nat) (fill : Char) (n : Int) : String :=
  let text := toString n.natAbs
  let sign := if n < 0 then "-" else ""
  if s.noPad then sign ++ text
  else
    let fill := s.pad.getD fill
    let width := max digits (s.width.getD 0)
    let missing := String.ofList (List.replicate (width - text.length - sign.length) fill)
    if fill = '0' then sign ++ missing ++ text else missing ++ sign ++ text

def word (s : Style) (text : String) (lowerIfSwapped : Bool := false) : String :=
  let text := if s.upper then text.map Char.toUpper
    else if s.swap then if lowerIfSwapped then text.map Char.toLower else text.map Char.toUpper
    else text
  let missing := (s.width.getD 0) - text.length
  if s.noPad then text
  else String.ofList (List.replicate missing (s.pad.getD ' ')) ++ text

end Style

/-- One conversion; `none` if there is no such one. The last argument gives the conversions that
this one stands for. -/
def convert (time : Time) (s : Style) (colons : Nat) (expand : String → String) (c : Char) :
    Option String :=
  let seconds := time / billion
  let t := civil seconds
  let day := weekday (dayNumber t.year t.month t.day)
  let twelve : Int := if t.hour % 12 = 0 then 12 else t.hour % 12
  let name (names : List String) (i : Int) : String := (names[i.toNat]?).getD ""
  let short (text : String) : String := String.ofList (text.toList.take 3)
  match c with
  | '%' => some (s.word "%")
  | 'n' => some (s.word "\n")
  | 't' => some (s.word "\t")
  | 'a' => some (s.word (short (name dayNames day)))
  | 'A' => some (s.word (name dayNames day))
  | 'b' | 'h' => some (s.word (short (name monthNames (t.month - 1))))
  | 'B' => some (s.word (name monthNames (t.month - 1)))
  | 'c' => some (s.word (expand "%a %b %e %H:%M:%S %Y"))
  | 'C' => some (s.number 2 '0' (t.year / 100))
  | 'd' => some (s.number 2 '0' t.day)
  | 'D' | 'x' => some (s.word (expand "%m/%d/%y"))
  | 'e' => some (s.number 2 ' ' t.day)
  | 'F' =>
    some ({ s with pad := s.pad.or (some '0') }.word
      (expand (if t.year < 10000 then "%Y-%m-%d" else "+%Y-%m-%d")))
  | 'g' => some (s.number 2 '0' ((isoWeek t).1 % 100))
  | 'G' => some (s.number 4 '0' (isoWeek t).1)
  | 'H' => some (s.number 2 '0' t.hour)
  | 'I' => some (s.number 2 '0' twelve)
  | 'j' => some (s.number 3 '0' (dayOfYear t + 1))
  | 'k' => some (s.number 2 ' ' t.hour)
  | 'l' => some (s.number 2 ' ' twelve)
  | 'm' => some (s.number 2 '0' t.month)
  | 'M' => some (s.number 2 '0' t.minute)
  | 'N' =>
    let digits := toString (time % billion)
    let all := String.ofList (List.replicate (9 - digits.length) '0') ++ digits
    if s.noPad then some all
    else
      let width := s.width.getD 9
      some (if width ≤ 9 then String.ofList (all.toList.take width)
        else all ++ String.ofList (List.replicate (width - 9) '0'))
  | 'p' => some (s.word (if t.hour < 12 then "AM" else "PM") true)
  | 'P' => some (s.word (if t.hour < 12 then "am" else "pm"))
  | 'q' => some (s.number 1 '0' ((t.month + 2) / 3))
  | 'r' => some (s.word (expand "%I:%M:%S %p"))
  | 'R' => some (s.word (expand "%H:%M"))
  | 's' => some (s.number 1 '0' seconds)
  | 'S' => some (s.number 2 '0' t.second)
  | 'T' | 'X' => some (s.word (expand "%H:%M:%S"))
  | 'u' => some (s.number 1 '0' (if day = 0 then 7 else day))
  | 'U' => some (s.number 2 '0' (weekOfYear t 0))
  | 'V' => some (s.number 2 '0' (isoWeek t).2)
  | 'w' => some (s.number 1 '0' day)
  | 'W' => some (s.number 2 '0' (weekOfYear t 1))
  | 'y' => some (s.number 2 '0' (t.year % 100))
  | 'Y' => some (s.number 4 '0' t.year)
  | 'z' =>
    some (match colons with
      | 0 => "+0000"
      | 1 => "+00:00"
      | 2 => "+00:00:00"
      | _ => "+00")
  | 'Z' => some (s.word "UTC" true)
  | _ => none

def flags : List Char → Style → Style × List Char
  | c :: cs, s =>
    match c with
    | '-' => flags cs { s with noPad := true }
    | '_' => flags cs { s with pad := some ' ', noPad := false }
    | '0' => flags cs { s with pad := some '0', noPad := false }
    | '+' => flags cs { s with pad := some '0', plus := true, noPad := false }
    | '^' => flags cs { s with upper := true }
    | '#' => flags cs { s with swap := true }
    | _ => (s, c :: cs)
  | [], s => (s, [])

def render (time : Time) : Nat → Nat → List Char → String
  | _, 0, _ => ""
  | _, _ + 1, [] => ""
  | depth, n + 1, '%' :: cs =>
    let (style, rest) := flags cs {}
    let digits := rest.takeWhile Char.isDigit
    let style := { style with width := (String.ofList digits).toNat? }
    let rest := rest.drop digits.length
    let rest := match rest with
      | 'E' :: more | 'O' :: more => more
      | _ => rest
    let colons := (rest.takeWhile (· = ':')).length
    let expand (format : String) : String :=
      match depth with
      | 0 => ""
      | depth + 1 => render time depth (format.length + 1) format.toList
    match rest.drop colons with
    | c :: more =>
      match if colons = 0 || c = 'z' then convert time style colons expand c else none with
      | some text => text ++ render time depth n more
      | none =>
        String.ofList ('%' :: cs.take (cs.length - more.length)) ++ render time depth n more
    | [] => String.ofList ('%' :: cs)
  | depth, n + 1, c :: cs => c.toString ++ render time depth n cs

/-- A point in time as a pattern says. -/
def format (time : Time) (pattern : String) : String :=
  render time 2 (pattern.length + 1) pattern.toList

def now {σ ε : Type} : Strand σ ε Time := Strand.ask fun _ s ↦ Int.ofNat (s.disk.now + s.now)

end RegisterLang.Tool.Moment
