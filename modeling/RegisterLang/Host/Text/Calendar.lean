namespace RegisterLang.Calendar

structure Civil where
  year : Int
  month : Int
  day : Int
  hour : Int := 0
  minute : Int := 0
  second : Int := 0
  deriving DecidableEq, Repr

def daysBeforeMarch (year : Int) : Int := 365 * year + year / 4 - year / 100 + year / 400

def daysBeforeMonth (month : Int) : Int := (153 * month + 2) / 5

def dayNumber (year month day : Int) : Int :=
  let months := year * 12 + (month - 1) - 2
  daysBeforeMarch (months / 12) + daysBeforeMonth (months % 12) + day - 1 - 719468

def dateOf (number : Int) : Int × Int × Int :=
  let n := number + 719468
  let era := n / 146097
  let ofEra := n % 146097
  let yearOfEra := (ofEra - ofEra / 1460 + ofEra / 36524 - ofEra / 146096) / 365
  let ofYear := ofEra - (365 * yearOfEra + yearOfEra / 4 - yearOfEra / 100)
  let m := (5 * ofYear + 2) / 153
  let day := ofYear - daysBeforeMonth m + 1
  let month := if m < 10 then m + 3 else m - 9
  let year := yearOfEra + era * 400 + (if month ≤ 2 then 1 else 0)
  (year, month, day)

def seconds (c : Civil) : Int :=
  dayNumber c.year c.month c.day * 86400 + c.hour * 3600 + c.minute * 60 + c.second

def civil (seconds : Int) : Civil :=
  let (year, month, day) := dateOf (seconds / 86400)
  let rest := seconds % 86400
  { year, month, day, hour := rest / 3600, minute := rest % 3600 / 60, second := rest % 60 }

def weekday (number : Int) : Int := (number + 4) % 7

def dayOfYear (c : Civil) : Int := dayNumber c.year c.month c.day - dayNumber c.year 1 1

def dayNames : List String :=
  ["Sunday", "Monday", "Tuesday", "Wednesday", "Thursday", "Friday", "Saturday"]

def monthNames : List String :=
  ["January", "February", "March", "April", "May", "June", "July", "August", "September", "October",
    "November", "December"]

/-- The year and the week to which a day belongs, where weeks start on Monday and the first one has
the first Thursday. -/
def isoWeek (c : Civil) : Int × Int :=
  let number := dayNumber c.year c.month c.day
  let thursday := number - (weekday number + 6) % 7 + 3
  let (year, _, _) := dateOf thursday
  (year, (thursday - dayNumber year 1 1) / 7 + 1)

def weekOfYear (c : Civil) (start : Int) : Int :=
  let number := dayNumber c.year c.month c.day
  (dayOfYear c + 7 - (weekday number - start) % 7) / 7

end RegisterLang.Calendar
