/-
**Runs of one endpoint.**

An endpoint lives through a sequence of calls: `ListenAndServe` reading a datagram into its
buffer and handing it to `handle`, the keepalive tick, and the host's `Link`, `Unlink` and `Send`.
The model takes each call as atomic, so a run is a list of operations applied one after another;
`trace` records what each of them wrote and how it ended.  In the code, `keepalive` runs in a
goroutine of its own beside the read loop (`go h.keepalive` in `ListenAndServe`), and the mutexes
guard only the maps (`mutex`) and `Send` and the packet callback (`rxtx`): `handle` and the tick
change a peer's fields unlocked.  Two calls that interleave statement by statement are outside the
model.
The receive buffer is part of the state: its stale bytes are what `handle` may read past a short
datagram.

Main definitions:

* `GoDmr.Op`, `GoDmr.State` — the operations and the state of a run;
* `GoDmr.step`, `GoDmr.run`, `GoDmr.trace` — one operation, a run, and what a run wrote.

Main results:

* `GoDmr.run_append`, `GoDmr.trace_append` — a run of two sequences is the second run from where
  the first ended, and writes what the two wrote.
-/

import GoDmr.Keepalive

set_option relaxedAutoImplicit false
set_option autoImplicit false

namespace GoDmr

open Homebrew

/-- What can happen to an endpoint, one call at a time. -/
inductive Op
  /-- `ReadFromUDP` reads the datagram `msg` from `remote` into the buffer, and `handle` runs. -/
  | recv (env : Env) (remote : Addr) (msg : List UInt8)
  /-- One tick of `keepalive`. -/
  | tick (env : Env)
  /-- The host calls `Link(&peer)` on a new peer object. -/
  | link (env : Env) (peer : Peer)
  /-- The host calls `Unlink(id)`. -/
  | unlink (id : UInt32)
  /-- The host calls `Send(p)`. -/
  | send (env : Env) (p : Packet)

/-- The state of a run: the endpoint and `ListenAndServe`'s receive buffer. -/
structure State where
  h : Homebrew
  buf : Datagram

/-- `New(config, addr)` and a fresh receive buffer. -/
def State.init (c : RepeaterConfiguration) : State := ⟨Homebrew.new c, Datagram.fresh⟩

variable (X : Ext)

/-- One operation: the state after it, and what the call did. -/
def step (s : State) : Op → State × Out
  | .recv env remote msg =>
    let d := s.buf.read msg
    let o := handle X env s.h remote d
    (⟨o.h, d⟩, o)
  | .tick env => let o := keepalive env s.h; (⟨o.h, s.buf⟩, o)
  | .link env peer =>
    let (h, p) := s.h.alloc peer
    let o := link env h p
    (⟨o.h, s.buf⟩, o)
  | .unlink i => let o := unlink s.h i; (⟨o.h, s.buf⟩, o)
  | .send env p => let o := send X env s.h p; (⟨o.h, s.buf⟩, o)

/-- The state after a sequence of operations. -/
def run (s : State) : List Op → State
  | [] => s
  | op :: ops => run (step X s op).1 ops

/-- Each operation of a run with what it did. -/
def trace (s : State) : List Op → List (Op × Out)
  | [] => []
  | op :: ops => (op, (step X s op).2) :: trace (step X s op).1 ops

@[simp] theorem run_nil (s : State) : run X s [] = s := rfl
@[simp] theorem run_cons (s : State) (op : Op) (ops : List Op) :
    run X s (op :: ops) = run X (step X s op).1 ops := rfl

theorem run_append (s : State) (ops ops' : List Op) :
    run X s (ops ++ ops') = run X (run X s ops) ops' := by
  induction ops generalizing s with
  | nil => rfl
  | cons op ops ih => exact ih _

/-! ### A sample endpoint

The concrete runs of this development use this configuration (repeater id `1`), this instance of
the external code (a 32-byte token that is the nonce behind 28 zero bytes, and no case folding
beyond ASCII) and this environment (the clock at `100`, the nonce `1 2 3 4`, and writes that
succeed). -/

def sampleConfig : RepeaterConfiguration := ⟨1, [], 0, 0, 0, 1, 0, 0, 0, [], [], 1, [], [], []⟩

def sampleExt : Ext :=
  ⟨⟨10, 1, [], []⟩, fun _ nonce => List.replicate 28 0 ++ nonce, fun _ _ => false⟩

def sampleEnv : Env := ⟨100, some ⟨[1, 2, 3, 4], rfl⟩, fun _ => none⟩

theorem trace_append (s : State) (ops ops' : List Op) :
    trace X s (ops ++ ops') = trace X s ops ++ trace X (run X s ops) ops' := by
  induction ops generalizing s with
  | nil => rfl
  | cons op ops ih => simp [trace, ih]

end GoDmr
