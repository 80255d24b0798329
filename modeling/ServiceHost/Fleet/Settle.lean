import ServiceHost.Fleet

/-!
Fleets at rest: after every step from outside, what is due is done until nothing is left to do.
-/

namespace ServiceHost.Fleet

/-- The first due step of the members from a number on. -/
def nextFrom? (fleet : Fleet) (number : Nat) : List Member → Option (Fleet × List Log.Entry)
  | [] => none
  | member :: rest =>
    match (fleet.found member).next? (fleet.isSignalled member) with
    | some taken => some (fleet.settleStep number member taken)
    | none => fleet.nextFrom? (number + 1) rest

/-- The notification of the first wait group that has one to send. -/
def announcement? (fleet : Fleet) : Option (Fleet × List Log.Entry) :=
  (List.range fleet.groups.length).findSome? fun number =>
    ((fleet.group number).step .announce).map fun next =>
      ({ fleet with groups := fleet.groups.set number next }, [])

/-- The first due step: a notification of a wait group, and then those of the members. -/
def next? (fleet : Fleet) : Option (Fleet × List Log.Entry) :=
  fleet.announcement?.or (fleet.nextFrom? 0 fleet.members)

/-- Takes due steps, as many as the patience allows. -/
def settleWithin : (patience : Nat) → Fleet → Fleet × List Log.Entry
  | 0, fleet => (fleet, [])
  | patience + 1, fleet =>
    match fleet.next? with
    | none => (fleet, [])
    | some (next, entries) =>
      let (last, others) := settleWithin patience next
      (last, entries ++ others)

/-- A bound of the number of due steps. -/
def patience (fleet : Fleet) : Nat :=
  let calls (service : Service) : Nat :=
    service.starts.length + service.shutdowns.length + service.waits.length +
      service.connections.length
  fleet.members.foldl (fun patience member => patience + 16 * (calls member.service + 2)) 1

/-- Takes the due steps. -/
def settle (fleet : Fleet) : Fleet × List Log.Entry :=
  fleet.settleWithin fleet.patience

/-- Takes a step from outside, if it can be taken, and then what is due. -/
def perform (machine : Machine) (fleet : Fleet) (taken : Step) : Fleet × List Log.Entry :=
  match fleet.step machine taken with
  | none => (fleet, [])
  | some (next, entries) =>
    let (last, others) := next.settle
    (last, entries ++ others)

end ServiceHost.Fleet
