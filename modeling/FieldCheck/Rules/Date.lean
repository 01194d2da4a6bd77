import FieldCheck.Date.Timestamp

namespace FieldCheck.Rules

def dateKeywords : List String :=
  ["now", "today", "tomorrow", "yesterday", "midnight", "noon"]

def isDateKeyword (text : List Char) : Bool :=
  dateKeywords.contains (String.ofList (text.map Text.asciiLower))

def date (text : List Char) : Bool :=
  let text := Text.trim text
  !text.isEmpty &&
    (isDateKeyword text || Date.isNumericTimestamp text || Date.isMailTimestamp text ||
      Date.momentLayouts.any (·.fits (fun reading => reading.hasDate && reading.hasTime) text) ||
      Date.dayLayouts.any (·.fits Date.Reading.hasDate text) ||
      Date.timeLayouts.any (·.fits Date.Reading.hasTime text))

end FieldCheck.Rules
