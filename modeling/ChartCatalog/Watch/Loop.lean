import ChartCatalog.Watch.Cache

/-!
# The watch loop

Events reach the cache through a channel of capacity four. The watch stream, the
channel's receiving end, can be opened once; starting the cache opens it and runs a loop
that applies each event as it arrives. The loop prefers cancellation to pending events:
once cancelled it stops at once and drops what is still queued. When the sending end
is closed it applies what is queued and stops. Either way the stream is gone, later
sends fail, and the cache is no longer watching.

Every change here runs the loop until it waits again, so queued events are applied in
the order they were sent before the next change.
-/

set_option autoImplicit false

namespace ChartCatalog

open Http

/-- Where the receiving end of the watch stream is. -/
inductive StreamEnd where
  /-- Not opened yet; events sent are queued. -/
  | waiting
  /-- Held by the running loop. -/
  | looping
  /-- Dropped when the loop stopped. -/
  | dropped
  deriving DecidableEq, Repr, Inhabited

/-- The event channel and the loop that reads it. -/
structure EventLoop where
  /-- Events sent and not yet received, oldest first. -/
  pending : List WatchEvent
  senderOpen : Bool
  stream : StreamEnd
  cancelled : Bool
  /-- Whether a loop is running. -/
  watching : Bool
  deriving Inhabited

namespace EventLoop

/-- How many events the channel holds. -/
def capacity : Nat := 4

/-- A fresh channel: nothing sent, the stream not opened. -/
def initial : EventLoop := ⟨[], true, .waiting, false, false⟩

/-- Runs the loop until it waits: the events it receives, in order, and the loop after.
A loop that is not running receives nothing. -/
def settle (l : EventLoop) : List WatchEvent × EventLoop :=
  if l.stream != .looping then ([], l)
  else if l.cancelled then ([], { l with pending := [], stream := .dropped, watching := false })
  else if !l.senderOpen then
    (l.pending, { l with pending := [], stream := .dropped, watching := false })
  else (l.pending, { l with pending := [] })

end EventLoop

/-- The watch cache: its key-value store and its event loop. -/
structure Watch where
  kv : KvStore
  loop : EventLoop
  /-- How many reads of the cache run at once. -/
  maxWorkers : Nat
  deriving Inhabited

namespace Watch

/-- Runs a cache computation on the watch's key-value store. -/
def onKv {α : Type} (m : Online KvStore α) : Online Watch α :=
  Online.focus Watch.kv (fun w kv => { w with kv := kv }) m

/-- Applies events in order. -/
def apply (events : List WatchEvent) : Online Watch Unit :=
  events.forM fun e => onKv (WatchCache.handleEvent e)

/-- Changes the loop and runs it until it waits. -/
def step (change : EventLoop → EventLoop) : Online Watch Unit := do
  let w ← Online.current
  let (events, loop) := (change w.loop).settle
  modifyThe (Traced Watch) fun s => { s with state := { s.state with loop := loop } }
  apply events

/-- Starts watching: `false` when a loop is already running, an error when the stream
was opened before. -/
def start : Online Watch Bool := do
  let w ← Online.current
  if w.loop.watching then return false
  if w.loop.stream != .waiting then throw (.init "Watch stream already opened")
  step fun l => { l with stream := .looping, watching := true }
  return true

/-- Sends an event: `false` when the channel is closed, its stream gone, or it is full. -/
def send (event : WatchEvent) : Online Watch Bool := do
  let l := (← Online.current).loop
  if !l.senderOpen || l.stream == .dropped || l.pending.length ≥ EventLoop.capacity then
    return false
  step fun l => { l with pending := l.pending ++ [event] }
  return true

/-- Closes the sending end. -/
def close : Online Watch Unit :=
  step fun l => { l with senderOpen := false }

/-- Cancels the loop. -/
def cancel : Online Watch Unit :=
  step fun l => { l with cancelled := true }

end Watch

end ChartCatalog
