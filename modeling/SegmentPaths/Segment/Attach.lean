/-
Segments made of stored filters.  A filter that is refused is passed over, and
the others are attached all the same.
-/
import SegmentPaths.Segment.Evaluation

namespace SegmentPaths

namespace Dispatcher

/-- Attaches a stored filter, if it is one that can be attached. -/
def attach (dispatcher : Dispatcher) (contactAlias : String) (restriction : ContactRestriction)
    (seed : String) (segment : SegmentQuery) (raw : RawFilter) :
    SegmentQuery × Option AttachError :=
  match SegmentFilter.ofRaw raw with
  | .error error => (segment, some (.query error))
  | .ok filter => dispatcher.apply filter segment contactAlias seed restriction

/-- Attaches stored filters in order, each under the seed of its index, with the
indices of those that were passed over. -/
def attachFrom (dispatcher : Dispatcher) (contactAlias : String)
    (restriction : ContactRestriction) :
    Nat → SegmentQuery → List RawFilter → SegmentQuery × List Nat
  | _, segment, [] => (segment, [])
  | index, segment, raw :: rest =>
    let (next, error) :=
      dispatcher.attach contactAlias restriction (Evaluator.filterSeed index) segment raw
    let (final, skipped) := attachFrom dispatcher contactAlias restriction (index + 1) next rest
    (final, if error.isSome then index :: skipped else skipped)

/-- Attaches stored filters to a segment. -/
def attachAll (dispatcher : Dispatcher) (contactAlias : String)
    (restriction : ContactRestriction) (segment : SegmentQuery) (filters : List RawFilter) :
    SegmentQuery × List Nat :=
  attachFrom dispatcher contactAlias restriction 0 segment filters

end Dispatcher

end SegmentPaths
