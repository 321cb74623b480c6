/-!
Telling servers to stop. A signal goes to everyone who has subscribed before it; only the last one is
kept, and a subscriber who has missed some is told how many.
-/

namespace TierRelay

/-- How many signals have been given, and for each subscriber how many of them lie behind it; a
subscriber who has left has no place. -/
structure Shutdown where
  given : Nat := 0
  places : List (Option Nat) := []
  dropped : Bool := false
  deriving DecidableEq

namespace Shutdown

def capacity : Nat := 1

inductive Delivery
  | signal
  | lagged (lost : Nat)
  | empty
  | closed
  deriving DecidableEq, Repr

inductive Step
  | subscribe
  | unsubscribe (i : Nat)
  | trigger
  | receive (i : Nat)
  | drop
  deriving DecidableEq, Repr

inductive Reply
  | subscribed (i : Nat)
  | unsubscribed
  | triggered
  | received (d : Delivery)
  | noSuchSubscriber
  | dropped
  | gone
  deriving DecidableEq, Repr

def place? (s : Shutdown) (i : Nat) : Option Nat :=
  (s.places[i]?).join

def trigger (s : Shutdown) : Shutdown :=
  if s.places.any Option.isSome then { s with given := s.given + 1 } else s

def deliver (s : Shutdown) (place : Nat) : Delivery × Nat :=
  let pending := s.given - place
  if pending = 0 then (if s.dropped then .closed else .empty, place)
  else if pending ≤ capacity then (.signal, place + 1)
  else (.lagged (pending - capacity), s.given - capacity)

def step (s : Shutdown) : Step → Shutdown × Reply
  | .subscribe =>
    if s.dropped then (s, .gone)
    else ({ s with places := s.places ++ [some s.given] }, .subscribed s.places.length)
  | .unsubscribe i => ({ s with places := s.places.set i none }, .unsubscribed)
  | .trigger => if s.dropped then (s, .gone) else (s.trigger, .triggered)
  | .receive i =>
    match s.place? i with
    | none => (s, .noSuchSubscriber)
    | some place =>
      let (delivery, place) := s.deliver place
      ({ s with places := s.places.set i (some place) }, .received delivery)
  | .drop => ({ s with dropped := true }, .dropped)

def run (s : Shutdown) : List Step → Shutdown × List Reply
  | [] => (s, [])
  | x :: rest =>
    let (s, reply) := s.step x
    let (s, replies) := s.run rest
    (s, reply :: replies)

def releases (s : Shutdown) (place : Nat) : Bool :=
  (s.deliver place).1 ≠ .empty

end Shutdown

end TierRelay
