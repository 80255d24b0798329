import ServiceHost.Lifecycle.Run
import ServiceHost.Machine
import ServiceHost.Router
import ServiceHost.Shutdown.Signal
import ServiceHost.Shutdown.WaitGroup

/-!
Fleets: services in one process. Each holds a signal and a wait group that others may hold as well, and two
signals of its own; all of them stand in the stores of the process. A service is constructed in stages, of
which the last one opens its listening socket; a failed construction leaves nothing behind.
-/

namespace ServiceHost

open Lifecycle Shutdown Net

/-- The handles of a service: the tokens that its signals stand on, and the number of its wait group. -/
structure Handles where
  shared : Nat
  stop : Nat
  forceClose : Nat
  group : Nat
  deriving DecidableEq, Repr

/-- The token that a signal stands on. -/
def Handles.token (handles : Handles) : Signal → Nat
  | .shared => handles.shared
  | .stop => handles.stop
  | .forceClose => handles.forceClose

/-- A service with its handles and with the configuration and the router it was constructed from. -/
structure Member where
  config : Config
  router : Router
  handles : Handles
  service : Service

/-- The inspection of a member. -/
def Member.inspect (member : Member) : String :=
  "Server \x7b local_addr: " ++ member.config.address.socketText ++ ", tls: " ++
    toString member.config.options.tls.isSome ++ ", state: " ++ member.service.phase.inspect ++
    ", .. \x7d"

/-- Members with the tokens and the wait groups of their process, beside addresses that other programs have
bound. -/
structure Fleet where
  tokens : Tokens := {}
  groups : List WaitGroup := []
  members : List Member := []
  others : List SocketAddress := []

namespace Fleet

section Handles

/-- Is a token at hand for everybody? The tokens on which members stop and close connections are not. -/
def isPublic (fleet : Fleet) (token : Nat) : Bool :=
  decide (token < fleet.tokens.next) &&
    !fleet.members.any fun member => token == member.handles.stop || token == member.handles.forceClose

/-- Are the handles at hand that options name? -/
def offers (fleet : Fleet) (options : Builder) : Bool :=
  options.shutdownSignal.all (fun handle => fleet.isPublic handle.number) &&
    options.waitGroup.all fun handle => decide (handle.number < fleet.groups.length)

/-- The handles of the next member: two signals of its own, and a signal and a wait group that its options
name or that are made for it. -/
def handlesFor (fleet : Fleet) (options : Builder) : Handles where
  shared := (options.shutdownSignal.map SharedHandle.number).getD (fleet.tokens.next + 2)
  stop := fleet.tokens.next
  forceClose := fleet.tokens.next + 1
  group := (options.waitGroup.map SharedHandle.number).getD fleet.groups.length

/-- The tokens with those that are made for the next member. -/
def tokensFor (fleet : Fleet) (options : Builder) : Tokens :=
  let own := (fleet.tokens.make none).make none
  if options.shutdownSignal.isSome then own else own.make none

/-- The wait groups with the one that is made for the next member. -/
def groupsFor (fleet : Fleet) (options : Builder) : List WaitGroup :=
  if options.waitGroup.isSome then fleet.groups else fleet.groups ++ [({} : WaitGroup)]

/-- The wait group of a number. -/
def group (fleet : Fleet) (number : Nat) : WaitGroup := (fleet.groups[number]?).getD {}

/-- Was the signal triggered that a member may share with others? -/
def isSignalled (fleet : Fleet) (member : Member) : Bool := fleet.tokens.isCancelled member.handles.shared

/-- The service of a member as it finds its own signals. -/
def found (fleet : Fleet) (member : Member) : Service :=
  { member.service with
    stop := fleet.tokens.isCancelled member.handles.stop
    forceClose := fleet.tokens.isCancelled member.handles.forceClose }

end Handles

section Construction

/-- The socket addresses that members have bound. -/
def bound (fleet : Fleet) : List SocketAddress :=
  (fleet.members.filter fun member => member.service.isBound).map fun member =>
    member.config.address.socketAddress

/-- The socket addresses that are in use. -/
def inUse (fleet : Fleet) : List SocketAddress := fleet.bound ++ fleet.others

/-- How a construction ended: with the place of the new member or with the error of the first stage that
failed, whether the routes of the application were asked for, and what was said. -/
structure Construction where
  result : Except ServerError Nat
  routed : Bool
  entries : List Log.Entry

/-- The entry of a valid configuration. -/
def createdEntry (config : Config) : Log.Entry :=
  ⟨.debug, "server created",
    [("address", .text config.options.address), ("state", .text Phase.created.label)]⟩

/-- The entry of a listening member. -/
def listeningEntry (member : Member) : Log.Entry :=
  ⟨.info, "listener bound",
    [("address", .text member.config.address.socketText),
      ("tls", .flag member.config.options.tls.isSome),
      ("routes", .number member.router.listing.length), ("state", .text Phase.listening.label)]⟩

/-- The result of opening the listening socket of a configuration: its TLS material is checked before
its address is bound. -/
def openListener (fleet : Fleet) (machine : Machine) (config : Config) : Except ServerError Unit :=
  match config.options.tls.map (TlsMaterial.check machine.library) with
  | some (.error reason) => .error (.tls reason)
  | _ => (machine.bind fleet.inUse config.address.socketAddress).mapError (.listener config.options.address)

/-- The fleet with a new member. -/
def enlist (fleet : Fleet) (member : Member) : Fleet :=
  { fleet with
    tokens := fleet.tokensFor member.config.options
    groups := fleet.groupsFor member.config.options
    members := fleet.members ++ [member] }

/-- The member of a configuration, with its handles. -/
def memberFor (fleet : Fleet) (config : Config) (routes : List Route) : Member :=
  ⟨config, Router.make config routes, fleet.handlesFor config.options,
    Service.opened config.options.timeouts.shutdown⟩

/-- Constructs a member from options and the routes that the application binds to a configuration. -/
def construct (fleet : Fleet) (machine : Machine) (builder : Builder) (binder : Config → List Route) :
    Fleet × Construction :=
  match builder.build with
  | .error error => (fleet, ⟨.error (.config error), false, []⟩)
  | .ok config =>
    let member := fleet.memberFor config (binder config)
    match fleet.openListener machine config with
    | .error error => (fleet, ⟨.error error, true, [createdEntry config]⟩)
    | .ok () =>
      (fleet.enlist member,
        ⟨.ok fleet.members.length, true, [createdEntry config, listeningEntry member]⟩)

end Construction

/-- One atomic step of a fleet. -/
inductive Step where
  /-- Somebody makes a signal, below another or below none. -/
  | makeSignal (parent : Option Nat)
  | makeGroup
  | construct (builder : Builder) (binder : Config → List Route)
  | member (number : Nat) (action : Service.Action)
  /-- Somebody who holds a wait group takes a step on it. -/
  | group (number : Nat) (taken : WaitGroup.Step)
  /-- Somebody who holds a signal triggers it. -/
  | trigger (token : Nat)
  /-- Another program binds or frees an address. -/
  | bindOther (address : SocketAddress)
  | freeOther (address : SocketAddress)

/-- The tokens after what a service did outside of it. -/
def obey (tokens : Tokens) (handles : Handles) (effects : List Service.Effect) : Tokens :=
  effects.foldl
    (fun tokens effect =>
      match effect with
      | .trigger signal => tokens.cancel (handles.token signal)
      | _ => tokens)
    tokens

/-- The wait group after what a service did outside of it. -/
def absorb (group : WaitGroup) (effects : List Service.Effect) : WaitGroup :=
  effects.foldl
    (fun group effect =>
      match effect with
      | .join => group.attempt [.add 1]
      | .leave => group.attempt [.lower]
      | _ => group)
    group

/-- What a service said. A service that leaves below zero says so. -/
def said (group : WaitGroup) (effects : List Service.Effect) : List Log.Entry :=
  effects.flatMap fun effect =>
    match effect with
    | .leave => if group.count = 0 then [WaitGroup.belowZero] else []
    | .say entry => [entry]
    | _ => []

/-- A step that the service of a member took, in its fleet. -/
def settleStep (fleet : Fleet) (number : Nat) (member : Member) (taken : Service × List Service.Effect) :
    Fleet × List Log.Entry :=
  ({ fleet with
      tokens := obey fleet.tokens member.handles taken.2
      groups := fleet.groups.modify member.handles.group fun group => absorb group taken.2
      members := fleet.members.set number { member with service := taken.1 } },
    said (fleet.group member.handles.group) taken.2)

/-- The fleet after a step, if the step can be taken, and what was said. -/
def step (machine : Machine) (fleet : Fleet) : Step → Option (Fleet × List Log.Entry)
  | .makeSignal parent =>
    if parent.all fleet.isPublic then some ({ fleet with tokens := fleet.tokens.make parent }, []) else none
  | .makeGroup => some ({ fleet with groups := fleet.groups ++ [({} : WaitGroup)] }, [])
  | .construct builder binder =>
    if fleet.offers builder then
      let (next, construction) := fleet.construct machine builder binder
      some (next, construction.entries)
    else none
  | .member number action => do
    let member ← fleet.members[number]?
    let taken ← (fleet.found member).step (fleet.isSignalled member) action
    return fleet.settleStep number member taken
  | .group number taken => do
    let group ← fleet.groups[number]?
    let next ← group.step taken
    return ({ fleet with groups := fleet.groups.set number next },
      if taken = .lower then said group [.leave] else [])
  | .trigger token =>
    if fleet.isPublic token then some ({ fleet with tokens := fleet.tokens.cancel token }, []) else none
  | .bindOther address =>
    match machine.bind fleet.inUse address with
    | .ok () => some ({ fleet with others := fleet.others ++ [address] }, [])
    | .error _ => none
  | .freeOther address => some ({ fleet with others := fleet.others.erase address }, [])

/-- The fleet after some steps in order, if all of them can be taken, and what was said. -/
def run (machine : Machine) (fleet : Fleet) : List Step → Option (Fleet × List Log.Entry)
  | [] => some (fleet, [])
  | taken :: rest => do
    let (next, entries) ← fleet.step machine taken
    let (last, others) ← next.run machine rest
    return (last, entries ++ others)

end Fleet

end ServiceHost
