/-! Half-open ranges of characters in a text. -/

namespace TreeMatch

structure Range where
  start : Nat
  size : Nat
  deriving DecidableEq, Repr

/-- Bounds that enclose no range: the first is negative, or the second lies before it. -/
structure InvalidRange where
  start : Int
  stop : Int
  deriving DecidableEq, Repr

def InvalidRange.message (fault : InvalidRange) : String :=
  s!"invalid source range [{fault.start}, {fault.stop})"

namespace Range

/-- The offset just past the range. -/
def stop (range : Range) : Nat :=
  range.start + range.size

/-- The range between two offsets; empty if the second lies before the first. -/
def between (start stop : Nat) : Range :=
  ⟨start, stop - start⟩

def ofBounds (start stop : Int) : Except InvalidRange Range :=
  if start < 0 ∨ stop < start then .error ⟨start, stop⟩
  else .ok ⟨start.toNat, (stop - start).toNat⟩

def offsets (range : Range) : List Nat :=
  List.range' range.start range.size

def contains (range : Range) (offset : Int) : Bool :=
  (range.start : Int) ≤ offset && offset < range.stop

def slice (range : Range) (text : List Char) : List Char :=
  (text.drop range.start).take range.size

def hull : List Range → Option Range
  | [] => none
  | first :: rest =>
    let start := rest.foldl (fun least r => min least r.start) first.start
    let stop := rest.foldl (fun most r => max most r.stop) first.stop
    some (between start stop)

@[simp] theorem stop_between {start stop : Nat} (h : start ≤ stop) :
    (between start stop).stop = stop := by
  simp only [between, Range.stop]
  omega

theorem length_slice {range : Range} {text : List Char} (hstop : range.stop ≤ text.length) :
    (range.slice text).length = range.size := by
  rw [stop] at hstop
  rw [slice, List.length_take, List.length_drop]
  omega

end Range

end TreeMatch
