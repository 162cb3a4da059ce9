import Stencil.RuntimeError

set_option autoImplicit false

namespace Stencil

structure Sink where
  accepted : List (List UInt8) := []
  -- How many writes reached the sink, refused ones included.
  attempts : Nat := 0
  refuses : Nat → Bool := fun _ => false

namespace Sink

def bytes (sink : Sink) : List UInt8 :=
  sink.accepted.reverse.flatten

def write (sink : Sink) (data : List UInt8) : Except ResponseError Unit × Sink :=
  -- Writing nothing always succeeds and does not reach the sink.
  if data.isEmpty then (.ok (), sink)
  else if sink.refuses sink.attempts then
    (.error .sinkUnavailable, { sink with attempts := sink.attempts + 1 })
  else
    (.ok (), { sink with accepted := data :: sink.accepted, attempts := sink.attempts + 1 })

end Sink

end Stencil
