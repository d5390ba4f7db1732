/-! # Sequence numbers of inbound packets -/

namespace Liveness

/-- How a sequence number stands to those recorded before. -/
inductive SequenceStatus where
  | advanced
  | duplicate
  | stale
deriving DecidableEq, Repr

/-- The highest sequence number recorded plus one; zero while there is none. -/
structure SequenceMark where
  marker : UInt64
deriving DecidableEq, Repr, Inhabited

namespace SequenceMark

def none : SequenceMark := ⟨0⟩

/-- The next word, except that the largest stays. -/
def successor (n : UInt64) : UInt64 := if n = 18446744073709551615 then n else n + 1

/-- Classifies a sequence number and keeps it when it is the highest so far. -/
def record (m : SequenceMark) (n : UInt64) : SequenceStatus × SequenceMark :=
  let marker := successor n
  if m.marker < marker then (.advanced, ⟨marker⟩)
  else if m.marker = marker then (.duplicate, m)
  else (.stale, m)

/-- Records sequence numbers one after the other. -/
def recordAll (m : SequenceMark) (ns : List UInt64) : SequenceMark := ns.foldl (fun m n => (m.record n).2) m

/-- The highest sequence number recorded. -/
def last (m : SequenceMark) : Option UInt64 :=
  if m.marker = 0 then .none else some (m.marker - 1)

@[simp] theorem recordAll_nil (m : SequenceMark) : m.recordAll [] = m := rfl

@[simp] theorem recordAll_cons (m : SequenceMark) (n : UInt64) (ns : List UInt64) :
    m.recordAll (n :: ns) = (m.record n).2.recordAll ns := rfl

@[simp] theorem last_none : none.last = .none := rfl

end SequenceMark

end Liveness
