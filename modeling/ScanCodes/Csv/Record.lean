/-!
# Records of comma-separated values

The division of bytes into records and of records into fields. Fields are parted by commas. A field
that begins with a quote goes on to the next lone quote, and two quotes in it stand for one; what
follows the closing quote up to the comma belongs to the field as it is. A record ends, outside
quotes, at a line feed, a carriage return, or both in that order. A record of no bytes is a blank
line and has no fields.

Bytes are not decoded here: all that the division looks at is ASCII, and no byte of a longer
character is.

## Main definitions

* `Csv.Position`: an offset and a line.
* `Csv.Record`: the fields of a record, where it starts and where it stops.
* `Csv.scan`: the records of a run of bytes, in order, blank lines included.

## Implementation notes

A record stops right after the byte that ends it. The line feed of a carriage return and line feed
lies between that record and the next, which is what the state `between true` waits for. Lines are
counted by line feeds alone.
-/

namespace ScanCodes.Csv

/-- A place in the bytes. -/
structure Position where
  /-- The number of bytes before it. -/
  offset : Nat
  /-- One more than the number of line feeds before it. -/
  line : Nat
deriving DecidableEq

/-- The comma. -/
def comma : UInt8 := 0x2C

/-- The double quote. -/
def quote : UInt8 := 0x22

/-- The line feed. -/
def lineFeed : UInt8 := 0x0A

/-- The carriage return. -/
def carriageReturn : UInt8 := 0x0D

/-- Does the byte end a record? -/
def isEnding (b : UInt8) : Bool :=
  b = lineFeed || b = carriageReturn

/-- The place before the first byte. -/
def Position.first : Position := ⟨0, 1⟩

/-- The place after one more byte. -/
def Position.next (p : Position) (b : UInt8) : Position :=
  ⟨p.offset + 1, if b = lineFeed then p.line + 1 else p.line⟩

/-- A record with its place in the bytes. -/
structure Record where
  /-- The place before its first byte. -/
  start : Position
  /-- Its fields, without their quotes. -/
  fields : List (List UInt8)
  /-- The place after the byte that ends it. -/
  stop : Position
deriving DecidableEq

/-- Is the record a line without a byte on it? -/
def Record.isBlank (r : Record) : Bool :=
  r.fields.isEmpty

/-- Where in a field a byte stands. -/
inductive Place
  /-- No byte of the field has been seen. -/
  | start
  /-- Outside quotes. -/
  | plain
  /-- Inside quotes. -/
  | quoted
  /-- After a quote that may be the closing one or the first of two. -/
  | closing
deriving DecidableEq

/-- What has been seen of the record that is being read. -/
inductive State
  /-- Nothing yet. `afterReturn` if a carriage return ended the record before. -/
  | between (afterReturn : Bool)
  /-- A record that began at `start`, with its finished fields and the open one. The fields, and the
  bytes of the open one, are listed last first. -/
  | inside (start : Position) (done : List (List UInt8)) (field : List UInt8) (place : Place)
deriving DecidableEq

/-- The record that stops here. -/
def close (start : Position) (done : List (List UInt8)) (field : List UInt8) (stop : Position) :
    Record :=
  ⟨start, (field.reverse :: done).reverse, stop⟩

/-- Reads one byte, at position `p`, of a record that has begun. -/
def stepInside (start : Position) (done : List (List UInt8)) (field : List UInt8) (place : Place)
    (p : Position) (b : UInt8) : State × Option Record :=
  if place = .quoted then
    if b = quote then (.inside start done field .closing, none)
    else (.inside start done (b :: field) .quoted, none)
  else if b = quote && place = .start then (.inside start done field .quoted, none)
  else if b = quote && place = .closing then (.inside start done (b :: field) .quoted, none)
  else if b = comma then (.inside start (field.reverse :: done) [] .start, none)
  else if isEnding b then (.between (b = carriageReturn), some (close start done field (p.next b)))
  else (.inside start done (b :: field) .plain, none)

/-- Reads one byte at position `p`; also gives the record that the byte ends. -/
def step (p : Position) (b : UInt8) : State → State × Option Record
  | .between afterReturn =>
    if afterReturn && b = lineFeed then (.between false, none)
    else if isEnding b then (.between (b = carriageReturn), some ⟨p, [], p.next b⟩)
    else stepInside p [] [] .start p b
  | .inside start done field place => stepInside start done field place p b

/-- The records of the bytes from position `p` on. The end of the bytes ends an open record. -/
def scan (s : State) (p : Position) : List UInt8 → List Record
  | [] =>
    match s with
    | .between _ => []
    | .inside start done field _ => [close start done field p]
  | b :: bs =>
    match step p b s with
    | (s', none) => scan s' (p.next b) bs
    | (s', some r) => r :: scan s' (p.next b) bs

end ScanCodes.Csv
