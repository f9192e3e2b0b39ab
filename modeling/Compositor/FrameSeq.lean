/-!
# Submission numbers

Every flush of recorded commands takes the next submission number. Number 0 stands for "nothing
submitted yet", so the first submission is number 1.
-/

set_option autoImplicit false

namespace Compositor

/-- The number of a submission. Numbers are 64-bit words and stay at the largest one. -/
abbrev FrameSeq := Nat

namespace FrameSeq

def last : FrameSeq := UInt64.size - 1

/-- The number after `frame`; the largest number is its own successor. -/
def next (frame : FrameSeq) : FrameSeq := min (frame + 1) last

def text (frame : FrameSeq) : String := s!"#{Nat.repr frame}"

end FrameSeq

end Compositor
