import SqlCluster.Result.Cursor
/-!
A reader at work on a result. The rows are lists in a memory, and so is every list that the reader
was handed; a list that was handed out may be changed by whoever holds it.
-/
namespace SqlCluster

/-- What a reader does. An iteration starts where the cursor is and is dropped after `limit` rows,
if there is a limit; `change` gives other cells to a list that was handed out. -/
inductive Reading where
  | next
  | slice
  | value (column : Value)
  | asMap
  | scan (targets : List Target)
  | iterate (limit : Option Nat)
  | change (number : Nat) (cells : List Value)
  deriving Repr

inductive Gain where
  | moved (onRow : Bool)
  | cells (vs : List Value)
  | cell (v : Value)
  | map (m : Keyed)
  | maps (ms : List Keyed)
  | nothing
  deriving Repr

/-- Rows and lists that were handed out are known by their places in the memory. -/
structure Desk where
  header : QueryResult
  memory : List (List Value)
  rows : List Nat
  handed : List Nat
  place : Nat
  deriving Repr

namespace Desk

def lay (q : QueryResult) : Desk := ⟨q, q.rows, List.range q.rows.length, [], 0⟩

def read (d : Desk) (a : Nat) : List Value := d.memory.getD a []

def result (d : Desk) : QueryResult := { d.header with rows := d.rows.map d.read }

def cursor (d : Desk) : Cursor := ⟨d.result, d.place⟩

def row (d : Desk) : Int := d.cursor.row

def hand (d : Desk) (cells : List Value) : Desk :=
  { d with memory := d.memory ++ [cells], handed := d.handed ++ [d.memory.length] }

def change (d : Desk) (number : Nat) (cells : List Value) : Desk :=
  match d.handed[number]? with
  | some a => { d with memory := d.memory.set a cells }
  | none => d

def iterate (c : Cursor) : Option Nat → Cursor × Except ReadError (List Keyed)
  | some limit => c.takeMaps limit
  | none => c.allMaps

def step (d : Desk) : Reading → Except ReadError Gain × Desk
  | .next => (.ok (.moved d.cursor.next.2), { d with place := d.cursor.next.1.place })
  | .slice => match d.cursor.slice with
      | .ok cells => (.ok (.cells cells), d.hand cells)
      | .error e => (.error e, d)
  | .value column => ((d.cursor.value column).map .cell, d)
  | .asMap => (d.cursor.asMap.map .map, d)
  | .scan targets => ((d.cursor.scan targets).map .cells, d)
  | .iterate limit =>
      let r := iterate d.cursor limit
      (r.2.map .maps, { d with place := r.1.place })
  | .change number cells => (.ok .nothing, d.change number cells)

def after (d : Desk) : List Reading → Desk
  | [] => d
  | op :: ops => (d.step op).2.after ops

end Desk

end SqlCluster
