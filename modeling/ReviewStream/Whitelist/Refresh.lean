import ReviewStream.Config.Basic
import ReviewStream.Whitelist.Basic

/-!
# Refreshing the whitelist

A refresh reloads the whitelist from its file when it first runs and after that at fixed intervals.
A reload that fails leaves the whitelist as it is.

* `Refresh.start?`: the refresh that the settings ask for.
* `Refresh.runUntil`: the reloads up to a moment.

Moments are counted in milliseconds.
-/

namespace ReviewStream

open Text (Octet)

/-- What there is under each path. -/
abbrev Files := String → Option (List Octet)

/-- A recurring reload of a whitelist. -/
structure Refresh where
  location : String
  /-- Milliseconds between two reloads. -/
  period : Nat
  /-- The moment of the next reload, once the refresh has run. -/
  next : Option Nat
  cancelled : Bool
  /-- Whether the refresh has come to its end. -/
  finished : Bool

namespace Refresh

/-- The refresh that the settings ask for; there is none without a file. -/
def start? (c : WhitelistConfig) : Option Refresh :=
  c.location.map fun location =>
    { location, period := c.refreshSecs.toNat * 1000, next := none, cancelled := false,
      finished := false }

/-- Asks the refresh to end, which it does when it next runs. -/
def cancel (r : Refresh) : Refresh := { r with cancelled := true }

/-- Lets at most `fuel` reloads happen up to a moment, the next one being due at `due`. -/
def reloads (files : Files) (location : String) (period moment : Nat) :
    Nat → Nat → WhitelistHandle → Nat × WhitelistHandle
  | 0, due, h => (due, h)
  | fuel + 1, due, h =>
    if due ≤ moment then
      reloads files location period moment fuel (due + period) (h.reload (files location)).2
    else (due, h)

/-- Lets the refresh run from `now` until a moment.  A refresh without a period crashes when it
first runs. -/
def runUntil (files : Files) (now moment : Nat) (r : Refresh) (h : WhitelistHandle) :
    Refresh × WhitelistHandle :=
  if r.finished then (r, h)
  else if r.cancelled ∨ r.period = 0 then ({ r with finished := true }, h)
  else
    let due := r.next.getD now
    let (due, h) := reloads files r.location r.period moment (moment + 1 - due) due h
    ({ r with next := some due }, h)

end Refresh

end ReviewStream
