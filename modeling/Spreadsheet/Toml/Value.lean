namespace Spreadsheet.Toml

/-!
# Values of TOML documents

A document is a table: a list of keys with their values, each key once. Tables remember how they
came about, because that decides whether a later part of the document may add to them.
-/

/-- A number that is written with a fraction or an exponent, or has no finite value. -/
inductive FloatValue where
  /-- The digits times a power of ten. -/
  | finite (isNegative : Bool) (digits : Nat) (exponent : Int)
  | infinite (isNegative : Bool)
  | notANumber
  deriving Repr, DecidableEq

/-- A day of the calendar. -/
structure Date where
  year : Nat
  month : Nat
  day : Nat
  deriving Repr, DecidableEq

/-- A time of day, with the digits of the fraction of its second. -/
structure Time where
  hour : Nat
  minute : Nat
  second : Nat
  fraction : List Char
  deriving Repr, DecidableEq

/-- A date, a time, or both, in which case the distance from universal time may be known. -/
inductive DateTime where
  | date (date : Date)
  | time (time : Time)
  | both (date : Date) (time : Time) (offsetMinutes : Option Int)
  deriving Repr, DecidableEq

/-- How a table came about. -/
inductive Origin where
  /-- It has a header of its own, or is the document itself. -/
  | header
  /-- It is named inside the headers of other tables only. -/
  | path
  /-- It is named inside dotted keys. -/
  | dotted
  /-- It is written between braces, and nothing can be added to it. -/
  | braces
  deriving Repr, DecidableEq

/-- A value of a document. -/
inductive Value where
  | string (text : String)
  | integer (value : Int64)
  | float (value : FloatValue)
  | boolean (value : Bool)
  | dateTime (value : DateTime)
  | array (items : List Value)
  | table (origin : Origin) (entries : List (String × Value))
  /-- The tables of one repeated header, from the first to the last. -/
  | tables (elements : List (List (String × Value)))
  deriving Repr, Inhabited

/-- The keys of a table with their values. -/
abbrev Entries := List (String × Value)

end Spreadsheet.Toml
