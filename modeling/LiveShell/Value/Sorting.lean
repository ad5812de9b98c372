import LiveShell.Value.Compare

/-!
Putting values in order by an order that is itself a computation. Values that are equal keep their places.
A short row is sorted by taking the run at its start and inserting the rest into it, a long one by merging.
-/

namespace LiveShell

namespace Sorting

variable {α : Type}

/-- How far a row goes on in one direction: each item before the last one, or none before the last one. -/
def runLength (before : α → α → Run Bool) (falling : Bool) (last : α) : List α → Run Nat
  | [] => return 0
  | item :: rest => do
      if (← before item last) == falling then return (← runLength before falling item rest) + 1
      else return 0

/-- The place of an item among sorted ones: after all that it is not before. -/
def placeFor (before : α → α → Run Bool) (item : α) (sorted : Array α) : Nat → Nat → Nat → Run Nat
  | 0, low, _ => return low
  | fuel + 1, low, high => do
      if low < high then
        let middle := low + (high - low) / 2
        match sorted[middle]? with
        | some other =>
            if ← before item other then placeFor before item sorted fuel low middle
            else placeFor before item sorted fuel (middle + 1) high
        | none => return low
      else return low

def insertAll (before : α → α → Run Bool) (sorted : Array α) : List α → Run (Array α)
  | [] => return sorted
  | item :: rest => do
      let place ← placeFor before item sorted (sorted.size + 1) 0 sorted.size
      insertAll before (sorted.insertIdxIfInBounds place item) rest

def sortShort (before : α → α → Run Bool) (items : List α) : Run (Array α) := do
  match items with
  | first :: second :: rest =>
      let falling ← before second first
      let length := (← runLength before falling second rest) + 2
      let run := items.take length
      insertAll before (if falling then run.reverse else run).toArray (items.drop length)
  | items => return items.toArray

def merge (before : α → α → Run Bool) : Nat → Array α → List α → List α → Run (Array α)
  | 0, done, left, right => return done ++ left ++ right
  | _, done, [], right => return done ++ right
  | _, done, left, [] => return done ++ left
  | fuel + 1, done, first :: left, second :: right => do
      if ← before second first then merge before fuel (done.push second) (first :: left) right
      else merge before fuel (done.push first) left (second :: right)

/-- Rows shorter than this are sorted by inserting. -/
def shortRow : Nat := 64

def sortBy (before : α → α → Run Bool) : Nat → List α → Run (Array α)
  | 0, items => sortShort before items
  | depth + 1, items => do
      if items.length < shortRow then sortShort before items
      else
        let half := items.length / 2
        let left ← sortBy before depth (items.take half)
        let right ← sortBy before depth (items.drop half)
        merge before (items.length + 1) #[] left.toList right.toList

end Sorting

namespace Run

/-- Values in order of their keys; in reverse order when `descending`, equal ones in their places still. -/
def sortByKeys (engine : Engine) (items : List (Value × Value)) (descending : Bool) : Run (Array Value) := do
  let before (a b : Value × Value) : Run Bool := less engine a.1 b.1
  let items := if descending then items.reverse else items
  let sorted ← Sorting.sortBy before 64 items
  return (if descending then sorted.reverse else sorted).map (·.2)

def sortValues (engine : Engine) (values : Array Value) : Run (Array Value) :=
  sortByKeys engine (values.toList.map fun value => (value, value)) false

end Run

end LiveShell
