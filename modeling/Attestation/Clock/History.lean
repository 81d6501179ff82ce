import Attestation.Clock

/-!
Histories of clocks behind handles: time passes on the clock of a handle, and more handles are made.
Whatever happens goes through a handle that is there.
-/

namespace Attestation.Clocks

/-- What can happen while there are `n` handles, with the number of handles behind it. -/
inductive Event (n : Nat) : Nat → Type
  | advance (handle : Fin n) (d : Duration) : Event n n
  | sleep (handle : Fin n) (d : Duration) : Event n n
  | share (handle : Fin n) : Event n (n + 1)
  | fresh : Event n (n + 1)

def apply {n m : Nat} (cs : Clocks) : Event n m → Clocks
  | .advance handle d => cs.update handle (·.advance d)
  | .sleep handle d => cs.update handle (·.sleep d)
  | .share handle => cs.share handle
  | .fresh => cs.fresh

/-- What happened since there was one clock behind one handle; now there are `n` handles. -/
inductive History : Nat → Type
  | start : History 1
  | next {n m : Nat} (earlier : History n) (event : Event n m) : History m

def History.clocks {n : Nat} : History n → Clocks
  | .start => single
  | .next earlier event => earlier.clocks.apply event

end Attestation.Clocks
