import Datebook.Time.Length

/-!
This module contains the reasons why a calendar command cannot be carried out, the message for each
of them, and the stage of the work at which it is reported.
-/

namespace Datebook

inductive DateFault where
  | missing
  | blank
  /-- The value is neither a text nor a date; the name says what it is. -/
  | wrongKind (kind : String)
  | form (text : String)
  /-- The text has the form of a timestamp, or of a long date, that does not exist. -/
  | components (text : String)
  | range (moment : Moment)
  /-- The text has neither of the forms of an event time. -/
  | longForm (text : String)
  | month (text : String)
  | eventTime
  | windowStart
  | windowEnd
  deriving DecidableEq, Repr

inductive FieldFault where
  | missing (field : String)
  | blank (field : String)
  | noTarget
  /-- The end is not after the start; the field is the one at fault. -/
  | order (field : String)
  | windowPastEnd
  | unknownZone (name : String)
  | attendeesShape
  | address (text : String)
  | durationShape
  | durationRange
  | recurrenceShape
  | calendarsShape
  | nothingToChange
  | other (message : String)
  deriving DecidableEq, Repr

inductive TargetFault where
  | notFound (query : String)
  | other (message : String)
  deriving DecidableEq, Repr

inductive BackendFault where
  | unavailable
  | unavailableBecause (message : String)
  | transport (operation text : String)
  | tool (operation text : String)
  | rejected (detail : String)
  | noFreeBusy (calendarId : String)
  deriving DecidableEq, Repr

inductive ZoneFlaw where
  | absolute
  | unnormalized
  | outside
  deriving DecidableEq, Repr

inductive ShowFlaw where
  | tooDeep
  | tooLong
  deriving DecidableEq, Repr

inductive Crash where
  | offsetTooLarge
  /-- A value that has to be gone through item by item has no items. -/
  | notIterable
  /-- A period lacks one of its ends. -/
  | fieldAbsent (name : String)
  | dateOverflow
  | length (flaw : LengthFlaw)
  | unshown (flaw : ShowFlaw)
  | unknownZone (name : String)
  | malformedZone (flaw : ZoneFlaw) (name : String)
  | broken (message : String)
  deriving DecidableEq, Repr

inductive Fault where
  | date (fault : DateFault)
  | field (fault : FieldFault)
  | target (fault : TargetFault)
  | backend (fault : BackendFault)
  | crash (cause : Crash)
  deriving DecidableEq, Repr

inductive Stage where
  | extract
  | parse
  | validate
  | resolve
  | service
  deriving DecidableEq, Repr

def Stage.name : Stage → String
  | extract => "extract"
  | parse => "parse"
  | validate => "validate"
  | resolve => "resolve"
  | service => "upstream"

def DateFault.message : DateFault → String
  | missing => "DateTime is required"
  | blank => "DateTime cannot be empty"
  | wrongKind kind => "DateTime must be a string or datetime, got " ++ kind
  | form text => "Invalid date format: " ++ Text.quoted text
  | components text => "Invalid date components: " ++ Text.quoted text
  | range moment => "DateTime out of range: " ++ moment.form
  | longForm text => "Unrecognized date text: " ++ Text.quoted text
  | month text => "Unrecognized month in " ++ Text.quoted text
  | eventTime => "Event time is missing"
  | windowStart => "Window start is required"
  | windowEnd => "Window end is required"

def DateFault.field? : DateFault → Option String
  | windowStart => some "timeMin"
  | windowEnd => some "timeMax"
  | _ => none

def FieldFault.message : FieldFault → String
  | missing field => field ++ " is required"
  | blank field => field ++ " cannot be empty"
  | noTarget => "Provide an eventId or a searchQuery to find the event"
  | order _ => "End time must be after start time"
  | windowPastEnd => "Window end falls past the latest supported date"
  | unknownZone name => "Unknown time zone: " ++ name
  | attendeesShape => "Attendees must be a list of e-mail addresses"
  | address text => "Invalid email address: " ++ text
  | durationShape => "Duration must be a number of minutes"
  | durationRange => "Duration must be between 1 and 1440 minutes"
  | recurrenceShape => "Recurrence must be a list of RRULE strings"
  | calendarsShape => "Calendars must be a list of calendar ids"
  | nothingToChange => "Nothing to update: provide at least one field to change"
  | other message => message

def FieldFault.field? : FieldFault → Option String
  | missing field => some field
  | blank field => some field
  | noTarget => some "eventId"
  | order field => some field
  | windowPastEnd => some "timeMax"
  | unknownZone _ => some "timeZone"
  | attendeesShape => some "attendees"
  | address _ => some "attendees"
  | durationShape => some "duration"
  | durationRange => some "duration"
  | recurrenceShape => some "recurrence"
  | calendarsShape => some "calendars"
  | nothingToChange => none
  | other _ => none

def TargetFault.message : TargetFault → String
  | notFound query => "No event matching \"" ++ query ++ "\" was found."
  | other message => message

def unavailableMessage : String :=
  "Calendar service is currently unavailable. Please try again later."

def operationWords (operation : String) : String :=
  String.ofList (operation.toList.map fun c => if c = '-' then ' ' else c)

def BackendFault.message : BackendFault → String
  | unavailable => unavailableMessage
  | unavailableBecause message => message
  | transport operation text => "Failed to " ++ operationWords operation ++ ": " ++ text
  | tool operation text =>
    operation ++ " was rejected: " ++ (if text = "" then "unknown error" else text)
  | rejected detail => detail
  | noFreeBusy calendarId => "Calendar backend returned no free/busy data for " ++ calendarId

def ZoneFlaw.message : ZoneFlaw → String
  | absolute => "ZoneInfo keys may not be absolute paths"
  | unnormalized => "ZoneInfo keys must be normalized relative paths"
  | outside => "ZoneInfo keys must refer to subdirectories of TZPATH"

def ShowFlaw.message : ShowFlaw → String
  | tooDeep => "The value is nested too deeply"
  | tooLong => "The value holds an integer with too many digits"

def Crash.message : Crash → String
  | offsetTooLarge => "The offset is a day or more"
  | notIterable => "The value has no items"
  | fieldAbsent name => name
  | dateOverflow => "date value out of range"
  | length flaw => flaw.message
  | unshown flaw => flaw.message
  | unknownZone name => Text.quoted ("No time zone found with key " ++ name)
  | malformedZone flaw name => flaw.message ++ ", got: " ++ name
  | broken message => message

/--
The stage that reports a fault, and its message. A crash is reported by no stage.
-/
def Fault.report : Fault → Except Crash (Stage × String)
  | date fault => .ok (.validate, fault.message)
  | field fault => .ok (.validate, fault.message)
  | target fault => .ok (.resolve, fault.message)
  | backend fault => .ok (.service, fault.message)
  | crash cause => .error cause

end Datebook
