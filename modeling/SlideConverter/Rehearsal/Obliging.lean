import SlideConverter.Conversion.Surroundings

/-!
# Obliging surroundings

A rehearsal without a disk and without a script: whatever is asked for succeeds at once, and the
clock stands still.
-/

namespace SlideConverter.Rehearsal

open Text

/-- Everything succeeds at once, and every directory has the same names in it. -/
def obliging (names : List Bytes) (time : Duration) : Surroundings Unit where
  answer
    | .pathExists _, s => (false, s)
    | .checkReadable _, s => (.ok (), s)
    | .isEmptyDir _, s => (.ok true, s)
    | .checkWritable _, s => (.ok (), s)
    | .listDir dir, s => (.ok (names.map (dir.join ⟨·⟩)), s)
    | .createDirAll _, s => (.ok (), s)
    | .copy _ _, s => (.ok (), s)
    | .removeFile _, s => (.ok (), s)
    | .removeDirAll _, s => (.ok (), s)
    | .launch _, s => (.ok ⟨0, 7⟩, s)
    | .tryWait _, s => (.ok (some { code := some 0 }), s)
    | .kill _, s => (.ok (), s)
    | .clock, s => (time, s)
    | .sleep _, s => ((), s)

end SlideConverter.Rehearsal
