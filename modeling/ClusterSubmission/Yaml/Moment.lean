import ClusterSubmission.Value.Basic
import ClusterSubmission.Failure

/-!
# Points in time

A scalar can be a date, or a date with a time of day and the distance to universal time. The
calendar is the usual one for all years, and a date that it does not have is refused.
-/
namespace ClusterSubmission.Yaml

/-- The distance to universal time. -/
structure Offset where
  negative : Bool := false
  hours : Nat := 0
  minutes : Nat := 0

/-- A time of day, with the digits of the fraction of a second, and its distance to universal time
if that is known. -/
structure DayTime where
  hour : Nat
  minute : Nat
  second : Nat
  fraction : List Char := []
  offset : Option Offset := none

/-- A date, with the time of day if it has one. -/
structure Moment where
  year : Nat
  month : Nat
  day : Nat
  time : Option DayTime := none

/-- A number of at least one and at most some digits, and the characters after it. -/
def shortNumber? (least most : Nat) (cs : List Char) : Option (Nat × List Char) :=
  let digits := (cs.take most).takeWhile Char.isDigit
  if digits.length < least then none
  else some (Text.digitsValue digits, cs.drop digits.length)

def afterChar? (c : Char) : List Char → Option (List Char)
  | d :: cs => if d = c then some cs else none
  | [] => none

/-- The distance to universal time at the end of a point in time. -/
def offset? (cs : List Char) : Option (Option Offset) :=
  match cs.dropWhile fun c => c = ' ' || c = '\t' with
  | [] => if cs.isEmpty then some none else none
  | ['Z'] => some (some {})
  | c :: rest =>
    if c ≠ '+' && c ≠ '-' then none
    else do
      let (hours, rest) ← shortNumber? 1 2 rest
      match rest with
      | [] => some (some ⟨c = '-', hours, 0⟩)
      | rest =>
        let (minutes, rest) ← shortNumber? 2 2 (← afterChar? ':' rest)
        if rest.isEmpty then some (some ⟨c = '-', hours, minutes⟩) else none

def dayTime? (cs : List Char) : Option DayTime := do
  let (hour, cs) ← shortNumber? 1 2 cs
  let (minute, cs) ← shortNumber? 2 2 (← afterChar? ':' cs)
  let (second, cs) ← shortNumber? 2 2 (← afterChar? ':' cs)
  let (fraction, cs) := match cs with
    | '.' :: cs => cs.span Char.isDigit
    | cs => ([], cs)
  some { hour, minute, second, fraction, offset := ← offset? cs }

/-- The point in time that a text describes. -/
def moment? (cs : List Char) : Option Moment := do
  let (year, cs) ← shortNumber? 4 4 cs
  let (month, cs) ← shortNumber? 1 2 (← afterChar? '-' cs)
  let (day, cs) ← shortNumber? 1 2 (← afterChar? '-' cs)
  match cs with
  | [] => some { year, month, day }
  | c :: rest =>
    if c = 'T' || c = 't' then some { year, month, day, time := some (← dayTime? rest) }
    else
      let time := (c :: rest).dropWhile fun c => c = ' ' || c = '\t'
      if time.length = rest.length + 1 then none
      else some { year, month, day, time := some (← dayTime? time) }

/-- Whether a plain scalar is taken for a point in time. A date alone has all its digits. -/
def isMoment (cs : List Char) : Bool :=
  match moment? cs with
  | some m => m.time.isSome || cs.length = 10
  | none => false

def daysIn (year month : Nat) : Nat :=
  if month = 2 then if year % 4 = 0 && (year % 100 ≠ 0 || year % 400 = 0) then 29 else 28
  else if [4, 6, 9, 11].contains month then 30
  else 31

/-- A length of time as whole days and the seconds after them. -/
def lengthText (o : Offset) : String :=
  let total : Int := (o.hours * 60 + o.minutes) * 60
  let total := if o.negative then -total else total
  let days := total / 86400
  let seconds := total % 86400
  let parts := (if days = 0 then [] else ["days=" ++ Text.intText days])
    ++ (if seconds = 0 then [] else ["seconds=" ++ Text.intText seconds])
  "datetime.timedelta("
    ++ (if parts.isEmpty then "0" else String.intercalate ", " parts) ++ ")"

/-- The words for a distance to universal time, if it is less than a day. -/
def Offset.text (o : Offset) : Except Reason String :=
  if 24 * 60 ≤ o.hours * 60 + o.minutes then .error (.momentInvalid (.offset (lengthText o)))
  else if o.hours = 0 && o.minutes = 0 then .ok "datetime.timezone.utc"
  else .ok ("datetime.timezone(" ++ lengthText o ++ ")")

def insist (holds : Bool) (fault : MomentFault) : Except Reason Unit :=
  if holds then .ok () else .error (.momentInvalid fault)

/-- The value of a point in time. -/
def Moment.value (m : Moment) : Except Reason Value := do
  let zone ← match m.time.bind (·.offset) with
    | some o => do
      let text ← o.text
      pure [", tzinfo=" ++ text]
    | none => pure []
  insist (m.year ≠ 0) (.year m.year)
  insist (1 ≤ m.month && m.month ≤ 12) .month
  insist (1 ≤ m.day && m.day ≤ daysIn m.year m.month) .day
  let date := [m.year, m.month, m.day]
  let text := fun (ns : List Nat) => String.intercalate ", " (ns.map Text.natText)
  match m.time with
  | none => return .moment "date" (text date)
  | some t =>
    insist (t.hour ≤ 23) .hour
    insist (t.minute ≤ 59) .minute
    insist (t.second ≤ 59) .second
    let micro := Text.digitsValue (t.fraction.take 6 ++ List.replicate (6 - t.fraction.length) '0')
    let rest := if micro ≠ 0 then [t.second, micro] else if t.second ≠ 0 then [t.second] else []
    return .moment "datetime" (text (date ++ [t.hour, t.minute] ++ rest) ++ String.join zone)

end ClusterSubmission.Yaml
