import TierRelay.Calendar.Rfc3339

/-!
Date-times as tiers exchange them. A tier writes one form, day first, and reads ten; every reading
is cut to whole seconds.
-/

namespace TierRelay.Calendar

open TierRelay.Text

def dayFirst : Pattern :=
  [.field .day, .char '/', .field .month, .char '/', .field .year]

def yearFirst : Pattern :=
  [.field .year, .char '-', .field .month, .char '-', .field .day]

def hourMinute : Pattern :=
  [.field .hour, .char ':', .field .minute]

def hourMinuteSecond : Pattern :=
  hourMinute ++ [.char ':', .field .second]

def canonicalPattern : Pattern :=
  dayFirst ++ [.blanks] ++ hourMinuteSecond

def dateTimePatterns : List Pattern :=
  [canonicalPattern,
    dayFirst ++ [.blanks] ++ hourMinute,
    yearFirst ++ [.char 'T'] ++ hourMinuteSecond,
    yearFirst ++ [.char 'T'] ++ hourMinuteSecond ++ [.field .fraction],
    yearFirst ++ [.blanks] ++ hourMinuteSecond,
    yearFirst ++ [.blanks] ++ hourMinuteSecond ++ [.field .fraction],
    yearFirst ++ [.char 'T'] ++ hourMinute]

def datePatterns : List Pattern :=
  [yearFirst, dayFirst]

def recognisers : List (List Char → Option DateTime) :=
  dateTimePatterns.map Pattern.recognise ++ [Rfc3339.recognise] ++ datePatterns.map Pattern.recognise

namespace DateTime

def parse? (s : String) : Option DateTime :=
  (recognisers.findSome? fun recognise => recognise (trim s.toList)).map wholeSecond

def yearText (year : Int) : List Char :=
  if 0 ≤ year ∧ year ≤ 9999 then padded 4 year.toNat
  else (if year < 0 then '-' else '+') :: padded 4 year.natAbs

def secondText (t : Time) : List Char :=
  padded 2 (if 1000000000 ≤ t.nanos then t.second + 1 else t.second)

def canonicalText (t : DateTime) : List Char :=
  padded 2 t.date.day ++ '/' :: padded 2 t.date.month ++ '/' :: yearText t.date.year ++ ' ' ::
    padded 2 t.time.hour ++ ':' :: padded 2 t.time.minute ++ ':' :: secondText t.time

def canonical (t : DateTime) : String :=
  String.ofList t.canonicalText

end DateTime

end TierRelay.Calendar
