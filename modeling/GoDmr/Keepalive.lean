/-
**The keepalive tick.**

`keepalive` wakes once a second and walks the peer snapshot.  Incoming peers are left alone (their
branch is commented out in the code: the master relies on the repeater to ping).  An outgoing peer
retries a failed login after `AuthTimeout`, gives up a login that got no answer for `AuthTimeout`,
and, once authenticated, pings every `PingInterval` and restarts the login when no pong came for
`PingTimeout`.  The errors of the writes are only logged.

Main definitions:

* `GoDmr.Homebrew.keepalivePeer` — one peer's part of a tick;
* `GoDmr.Homebrew.keepalive` — one tick over the snapshot.

What a tick may change is proved with the other operations: it writes only control frames
(`GoDmr.Homebrew.control_keepaliveLoop`), and it changes the status of outgoing peers only
(`GoDmr.Homebrew.touches_keepaliveLoop`).
-/

import GoDmr.Handle

set_option relaxedAutoImplicit false
set_option autoImplicit false

namespace GoDmr

namespace Homebrew

variable (env : Env)

/-- One peer's part of a keepalive tick at `env.now`.  Durations are differences of nanosecond
timestamps; a timestamp after `now` gives a duration of `0`, as Go's negative one compares. -/
def keepalivePeer (h : Homebrew) (p : Ptr) : Out :=
  let q := h.heap p
  if q.incoming then ⟨h, [], .ok⟩ else
  match q.status with
  | .authFailed =>
    if env.now - q.last.authSent > AuthTimeout then handleAuth env (h.setStatus p .authNone) p
    else ⟨h, [], .ok⟩
  | .authNone | .authBegin =>
    if env.now - q.last.packetReceived > AuthTimeout then ⟨h.setStatus p .authFailed, [], .ok⟩
    else ⟨h, [], .ok⟩
  | .authDone =>
    if env.now - q.last.pongReceived > PingTimeout then
      (writeToPeer env (h.setStatus p .authNone) p (RepeaterClosing ++ h.id)).seq fun h =>
        handleAuth env h p
    else if env.now - q.last.pingSent > PingInterval then
      writeToPeer env (h.stamp p fun l => { l with pingSent := env.now }) p (RepeaterPing ++ h.id)
    else ⟨h, [], .ok⟩

/-- The peers of one tick in turn; the tick itself returns nothing. -/
def keepaliveLoop : List Ptr → Homebrew → Out
  | [], h => ⟨h, [], .ok⟩
  | p :: ps, h => (keepalivePeer env h p).seq (keepaliveLoop ps)

/-- One tick of `keepalive`, over the peer snapshot. -/
def keepalive (h : Homebrew) : Out := keepaliveLoop env h.getPeers h

end Homebrew

end GoDmr
