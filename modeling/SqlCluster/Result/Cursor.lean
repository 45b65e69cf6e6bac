import SqlCluster.Conversion.Coerce
import SqlCluster.Result.Basic
import SqlCluster.Value.Keyed
/-!
Reading a query result row by row. A cursor stands before the first row, on a row, or past the last
one, and only moves forward. Reading a row does not move it.
-/
namespace SqlCluster

/-- The place of a cursor is the number of rows entered so far, and one more past the last row. -/
structure Cursor where
  result : QueryResult
  place : Nat
  deriving Repr

inductive ReadError where
  | beforeFirst
  | pastLast
  | noColumn (column : Value)
  | incomparable
  | shortRow
  | conversion (e : ConversionError)
  | key (e : KeyFault)
  deriving Repr

def ReadError.message : ReadError → String
  | .beforeFirst => "cursor is before the first row; call next() first"
  | .pastLast => "cursor is past the last row"
  | .noColumn column => column.plain
  | .incomparable => Value.incomparableText
  | .shortRow => "list index out of range"
  | .conversion e => e.message
  | .key e => e.message

def ReadError.ofConversion {α : Type} : Except ConversionError α → Except ReadError α
  | .ok a => .ok a
  | .error e => .error (.conversion e)

namespace QueryResult

def numRows (q : QueryResult) : Nat := q.rows.length

def timeTypes : List String := ["date", "datetime", "timestamp", "int_datetime"]

def readCell (declared : String) (v : Value) : Except ConversionError Value :=
  match v with
  | .null => .ok .null
  | v => if timeTypes.contains declared then (Conversion.moment v).map .moment else .ok v

/-- The cells of a row by column, in the order of the columns. A column without a cell is null, and
of equal columns the last one's cell counts. -/
def readRow (types : List String) (cells : List Value) (done : Keyed) :
    List Value → Except ReadError Keyed
  | [] => .ok done
  | column :: columns => do
      let v ← ReadError.ofConversion (readCell (types.headD "") (cells.headD .null))
      match Keyed.fault? column with
      | some e => .error (.key e)
      | none => readRow (types.drop 1) (cells.drop 1) (Keyed.put column v done) columns

def place? (column : Value) : List Value → Except ReadError Nat
  | [] => .error (.noColumn column)
  | c :: cs => match Value.compare? c column with
      | none => .error .incomparable
      | some true => .ok 0
      | some false => (place? column cs).map (· + 1)

def coerceRow : List Value → List Target → Except ConversionError (List Value)
  | v :: vs, t :: ts => do
      let w ← Conversion.coerce v t
      let ws ← coerceRow vs ts
      return w :: ws
  | _, _ => .ok []

end QueryResult

namespace Cursor

def start (q : QueryResult) : Cursor := ⟨q, 0⟩

/-- The number of the row the cursor is on, counted from zero; -1 before the first row. -/
def row (c : Cursor) : Int := (c.place : Int) - 1

def next (c : Cursor) : Cursor × Bool :=
  let place := if c.place ≤ c.result.numRows then c.place + 1 else c.place
  (⟨c.result, place⟩, decide (place ≤ c.result.numRows))

def current (c : Cursor) : Except ReadError (List Value) :=
  match c.place with
  | 0 => .error .beforeFirst
  | n + 1 => match c.result.rows[n]? with
      | some r => .ok r
      | none => .error .pastLast

def slice (c : Cursor) : Except ReadError (List Value) := c.current

def value (c : Cursor) (column : Value) : Except ReadError Value := do
  let r ← c.current
  let n ← QueryResult.place? column c.result.columns
  match r[n]? with
  | some v => .ok v
  | none => .error .shortRow

def asMap (c : Cursor) : Except ReadError Keyed := do
  let r ← c.current
  QueryResult.readRow c.result.types r [] c.result.columns

def scan (c : Cursor) (targets : List Target) : Except ReadError (List Value) := do
  let r ← c.current
  if targets.length = c.result.columns.length then
    ReadError.ofConversion (QueryResult.coerceRow r targets)
  else .error (.conversion (.targetCount targets.length c.result.columns.length))

/-- At most `limit` further rows as maps, and the cursor behind them. A row that cannot be converted
ends the reading with the cursor on it. -/
def takeMaps : Nat → Cursor → Cursor × Except ReadError (List Keyed)
  | 0, c => (c, .ok [])
  | limit + 1, c =>
      let step := c.next
      if step.2 then
        match step.1.asMap with
        | .error e => (step.1, .error e)
        | .ok m =>
            let more := takeMaps limit step.1
            (more.1, more.2.map (m :: ·))
      else (step.1, .ok [])

def allMaps (c : Cursor) : Cursor × Except ReadError (List Keyed) :=
  takeMaps (c.result.numRows + 1 - c.place + 1) c

end Cursor

end SqlCluster
