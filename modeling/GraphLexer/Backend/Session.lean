/-
Requests to a backend, as other engines make them: load a grammar, or ask a loaded one by its handle.
A handle is a number of 32 bits.
-/
import GraphLexer.Backend.Basic

namespace GraphLexer.Backend

/-- What a loaded grammar is asked for. -/
inductive Query where
  | tagNames
  | stateNames
  /-- one attempt from the state of a number -/
  | evaluate (state : UInt32) (input : String) (ticks : UInt32)
  deriving DecidableEq, Repr

/-- What a backend is asked to do. -/
inductive Request where
  | load (g : Grammar)
  | loadBinary (bytes : List UInt8)
  | ask (handle : UInt32) (query : Query)

/-- What a backend says to a request. -/
inductive Reply where
  | loaded (handle : UInt32)
  | names (entries : List (Nat × String))
  /-- the result of an attempt, unless it does not end -/
  | result (r : Option FlatResult)
  | failed (e : BackendError)
  deriving DecidableEq, Repr

def answer (b : Backend) (handle : UInt32) : Query → Except BackendError Reply
  | .tagNames => (b.tagNames handle.toNat).map .names
  | .stateNames => (b.stateNames handle.toNat).map .names
  | .evaluate state input ticks => (b.evaluate handle.toNat state.toNat input ticks).map .result

/-- The backend after an attempt to load, and the reply to it. -/
def conclude (b : Backend) : Except BackendError (Backend × Nat) → Backend × Reply
  | .ok (b', handle) => (b', .loaded (.ofNat handle))
  | .error e => (b, .failed e)

/-- The backend after a request, and the reply to it. -/
def serve (b : Backend) : Request → Backend × Reply
  | .load g => b.conclude (b.load g)
  | .loadBinary bytes => b.conclude (b.loadBinary bytes)
  | .ask handle query =>
    match b.answer handle query with
    | .ok reply => (b, reply)
    | .error e => (b, .failed e)

end GraphLexer.Backend
