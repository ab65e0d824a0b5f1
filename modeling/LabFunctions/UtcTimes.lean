import LabFunctions.Database
import Mathlib.Data.List.TakeWhile

/-!
What is used of `datetime` where a time is kept as text: a reading of the clock, the text read
back, and what lies between two times in microseconds.
-/

namespace LabFunctions

namespace Clock

def isLeap (year : Nat) : Bool := year % 4 = 0 ∧ (year % 100 ≠ 0 ∨ year % 400 = 0)

def daysInMonth (year month : Nat) : Nat :=
  if month = 2 then (if isLeap year then 29 else 28)
  else if month ∈ [4, 6, 9, 11] then 30
  else 31

/-- The first day of the year 1 has the number 1. -/
def toordinal (year month day : Nat) : Nat :=
  (year - 1) * 365 + (year - 1) / 4 - (year - 1) / 100 + (year - 1) / 400 +
    ((List.range' 1 (month - 1)).map (daysInMonth year)).sum + day

structure Date where
  year : Nat
  month : Nat
  day : Nat

structure Time where
  hour : Nat := 0
  minute : Nat := 0
  second : Nat := 0
  microsecond : Nat := 0

def Date.Valid (date : Date) : Prop :=
  1 ≤ date.year ∧ 1 ≤ date.month ∧ date.month ≤ 12 ∧ 1 ≤ date.day ∧
    date.day ≤ daysInMonth date.year date.month

instance (date : Date) : Decidable date.Valid := inferInstanceAs (Decidable (_ ∧ _))

def Time.Valid (time : Time) : Prop := time.hour < 24 ∧ time.minute < 60 ∧ time.second < 60

instance (time : Time) : Decidable time.Valid := inferInstanceAs (Decidable (_ ∧ _))

def perSecond : Int := 1000000

def perMinute : Int := 60 * perSecond

def perDay : Int := 1440 * perMinute

def Time.micros (time : Time) : Int :=
  (time.hour * 3600 + time.minute * 60 + time.second) * perSecond + time.microsecond

def micros (date : Date) (time : Time) : Int :=
  toordinal date.year date.month date.day * perDay + time.micros

end Clock

/-- What `datetime.utcnow()` returns. -/
structure UtcTime extends DateTime where
  inMonth : day ≤ Clock.daysInMonth year month := by decide

namespace UtcTime

def date (now : UtcTime) : Clock.Date := ⟨now.year, now.month, now.day⟩

def time (now : UtcTime) : Clock.Time := ⟨now.hour, now.minute, now.second, now.microsecond⟩

def micros (now : UtcTime) : Int := Clock.micros now.date now.time

end UtcTime

namespace Clock

/-- A time with an offset is never computed with: to subtract it from a time without one
raises. -/
inductive Stamp where
  | naive (micros : Int)
  | aware

def numeral (character : Char) : Option Nat :=
  if character.isDigit then some (character.toNat - '0'.toNat) else none

def number (characters : List Char) : Option Nat :=
  characters.foldlM (fun value character => (numeral character).map (value * 10 + ·)) 0

/-- `YYYY-MM-DD`, and what follows. -/
def readDate : List Char → Option (Date × List Char)
  | y :: y' :: y'' :: y''' :: '-' :: m :: m' :: '-' :: d :: d' :: rest => do
      let year ← number [y, y', y'', y''']
      let month ← number [m, m']
      let day ← number [d, d']
      return (⟨year, month, day⟩, rest)
  | _ => none

/-- Three digits are milliseconds. -/
def readFraction (fraction : List Char) : Option Nat :=
  if fraction.length = 6 then number fraction
  else if fraction.length = 3 then (number fraction).map (· * 1000)
  else none

/-- `HH[:MM[:SS[.fff[fff]]]]` -/
def readTime : List Char → Option Time
  | [h, h'] => do return { hour := ← number [h, h'] }
  | [h, h', ':', m, m'] => do return { hour := ← number [h, h'], minute := ← number [m, m'] }
  | [h, h', ':', m, m', ':', s, s'] => do
      return { hour := ← number [h, h'], minute := ← number [m, m'], second := ← number [s, s'] }
  | h :: h' :: ':' :: m :: m' :: ':' :: s :: s' :: '.' :: fraction => do
      return {
        hour := ← number [h, h'], minute := ← number [m, m'], second := ← number [s, s'],
        microsecond := ← readFraction fraction }
  | _ => none

/-- `HH:MM[:SS[.ffffff]]` -/
def readOffset (offset : List Char) : Option Time :=
  if offset.length ∈ [5, 8, 15] then readTime offset else none

def noSign (character : Char) : Bool := character ≠ '+' ∧ character ≠ '-'

def readStamp (characters : List Char) : Option Stamp := do
  let (date, rest) ← readDate characters
  guard date.Valid
  match rest with
  | [] => return .naive (micros date {})
  | _ :: clock =>
      let time ← readTime (clock.takeWhile noSign)
      guard time.Valid
      match clock.dropWhile noSign with
      | [] => return .naive (micros date time)
      | _ :: offset =>
          let offset ← readOffset offset
          guard (offset.micros < perDay)
          return .aware

def fromisoformat (text : String) : Except Exn Stamp :=
  match readStamp text.toList with
  | some stamp => .ok stamp
  | none => .error (.otherError "ValueError")

/-! What is written is read back. -/

theorem numeral_digit (n : Nat) : numeral (DateTime.digit n) = some (n % 10) := by
  have digits : ∀ d < 10, numeral (Nat.digitChar d) = some d := by decide
  exact digits _ (Nat.mod_lt _ (by decide))

theorem noSign_digit (n : Nat) : noSign (DateTime.digit n) = true := by
  have digits : ∀ d < 10, noSign (Nat.digitChar d) = true := by decide
  exact digits _ (Nat.mod_lt _ (by decide))

theorem number_append_digit {front : List Char} {value : Nat} (n : Nat)
    (read : number front = some value) :
    number (front ++ [DateTime.digit n]) = some (value * 10 + n % 10) := by
  unfold number at read ⊢
  rw [List.foldlM_append, read]
  simp [numeral_digit]

theorem number_append_two {front : List Char} {value : Nat} (n : Nat)
    (read : number front = some value) :
    number (front ++ (DateTime.two n).toList) = some (value * 100 + n % 100) := by
  have first := number_append_digit (n / 10) read
  have both := number_append_digit n first
  rw [List.append_assoc] at both
  rw [DateTime.two, String.toList_ofList]
  refine both.trans (congrArg some ?_)
  omega

theorem number_two {n : Nat} (small : n < 100) : number (DateTime.two n).toList = some n := by
  have read := number_append_two n (show number [] = some 0 from rfl)
  rw [List.nil_append, Nat.zero_mul, Nat.zero_add, Nat.mod_eq_of_lt small] at read
  exact read

theorem number_four {n : Nat} (small : n < 10000) : number (DateTime.four n).toList = some n := by
  have front := number_two (show n / 100 < 100 by omega)
  have read := number_append_two n front
  rw [DateTime.four, String.toList_append, read]
  congr 1
  omega

theorem number_six {n : Nat} (small : n < 1000000) :
    number (DateTime.four (n / 100) ++ DateTime.two n).toList = some n := by
  have front := number_four (show n / 100 < 10000 by omega)
  have read := number_append_two n front
  rw [String.toList_append, read]
  congr 1
  omega

/-! The parts of the text of a time. -/

def dateText (date : Date) : List Char :=
  (DateTime.four date.year).toList ++ '-' :: (DateTime.two date.month).toList ++
    '-' :: (DateTime.two date.day).toList

def fractionText (microsecond : Nat) : List Char :=
  if microsecond = 0 then []
  else '.' :: (DateTime.four (microsecond / 100) ++ DateTime.two microsecond).toList

def timeText (time : Time) : List Char :=
  (DateTime.two time.hour).toList ++ ':' :: (DateTime.two time.minute).toList ++
    ':' :: (DateTime.two time.second).toList ++ fractionText time.microsecond

theorem toList_isoformat (now : UtcTime) :
    now.isoformat.toList = dateText now.date ++ 'T' :: timeText now.time := by
  have fraction : (if now.microsecond = 0 then "" else
      "." ++ DateTime.four (now.microsecond / 100) ++ DateTime.two now.microsecond).toList =
        fractionText now.microsecond := by
    unfold fractionText
    split
    · rfl
    · rw [String.append_assoc, String.toList_append]
      rfl
  simp only [DateTime.isoformat, String.toList_append, fraction]
  simp [dateText, timeText, UtcTime.date, UtcTime.time]

theorem toList_two (n : Nat) :
    (DateTime.two n).toList = [DateTime.digit (n / 10), DateTime.digit n] :=
  String.toList_ofList

theorem toList_four (n : Nat) : (DateTime.four n).toList =
    [DateTime.digit (n / 100 / 10), DateTime.digit (n / 100), DateTime.digit (n / 10),
      DateTime.digit n] := by
  rw [DateTime.four, String.toList_append, toList_two, toList_two]
  rfl

theorem readDate_dateText {date : Date} (small : date.year < 10000 ∧ date.month < 100 ∧
    date.day < 100) (rest : List Char) : readDate (dateText date ++ rest) = some (date, rest) := by
  have year := number_four small.1
  have month := number_two small.2.1
  have day := number_two small.2.2
  simp only [toList_four, toList_two] at year month day
  simp only [dateText, toList_four, toList_two, List.cons_append, List.nil_append, readDate, year,
    month, day]
  rfl

theorem readTime_timeText {time : Time} (small : time.hour < 100 ∧ time.minute < 100 ∧
    time.second < 100 ∧ time.microsecond < 1000000) : readTime (timeText time) = some time := by
  have hour := number_two small.1
  have minute := number_two small.2.1
  have second := number_two small.2.2.1
  have microsecond := number_six small.2.2.2
  have six : (DateTime.four (time.microsecond / 100) ++
      DateTime.two time.microsecond).toList.length = 6 := by
    rw [String.toList_append, toList_four, toList_two]
    rfl
  simp only [toList_two] at hour minute second
  by_cases whole : time.microsecond = 0
  · simp only [timeText, toList_two, fractionText, if_pos whole, List.cons_append, List.nil_append,
      readTime, hour, minute, second]
    rw [← whole]
    rfl
  · simp only [timeText, toList_two, fractionText, if_neg whole, List.cons_append, List.nil_append,
      readTime, hour, minute, second, readFraction, if_pos six, microsecond]
    rfl

theorem noSign_timeText (time : Time) : ∀ character ∈ timeText time, noSign character = true := by
  have colon : noSign ':' = true := rfl
  have dot : noSign '.' = true := rfl
  unfold timeText fractionText
  split <;> simp [toList_two, toList_four, noSign_digit, colon, dot]

/-- `datetime.fromisoformat` undoes `isoformat`. -/
theorem fromisoformat_isoformat (now : UtcTime) :
    fromisoformat now.isoformat = .ok (.naive now.micros) := by
  obtain ⟨early, late, jan, dec, first, last, hour, minute, second, microsecond⟩ := now.inRange
  have readsDate : readDate now.isoformat.toList = some (now.date, 'T' :: timeText now.time) := by
    rw [toList_isoformat]
    exact readDate_dateText ⟨Nat.lt_succ_of_le late, dec.trans_lt (by decide),
      last.trans_lt (by decide)⟩ _
  have readsTime : readTime (timeText now.time) = some now.time :=
    readTime_timeText ⟨hour.trans (by decide), minute.trans (by decide), second.trans (by decide),
      microsecond⟩
  have validDate : now.date.Valid :=
    ⟨(by decide : 1 ≤ 1970).trans early, jan, dec, first, now.inMonth⟩
  have validTime : now.time.Valid := ⟨hour, minute, second⟩
  have clock := List.takeWhile_eq_self_iff.mpr (noSign_timeText now.time)
  have zone := List.dropWhile_eq_nil_iff.mpr (noSign_timeText now.time)
  have reads : readStamp now.isoformat.toList = some (.naive now.micros) := by
    simp only [readStamp, readsDate, Option.bind_eq_bind, Option.bind_some, guard, if_pos validDate,
      clock, readsTime, if_pos validTime, zone]
    rfl
  rw [fromisoformat, reads]

end Clock

end LabFunctions
