import TypedPreferences.Flow.Hub

/-! Hubs in use. The log of a run tells, latest first, what was written to which channel and when a
subscription had seen everything. -/

namespace TypedPreferences

/-- What is done with the handles of a hub. -/
inductive HubUse (α β : Type) where
  | create (value : α)
  | cloneFlow (flow : Nat)
  | value (flow : Nat)
  | set (flow : Nat) (value : α)
  | map (flow : Nat) (transform : α → β)
  | cloneView (view : Nat)
  | viewValue (view : Nat)
  | subscribeView (view : Nat)
  | current (subscription : Nat)
  | changed (subscription : Nat)
  | subscribe (flow : Nat)
  | hasChanged (receiver : Nat)
  | borrow (receiver : Nat)
  | borrowAndUpdate (receiver : Nat)
  | dropFlow (flow : Nat)
  | dropView (view : Nat)
  | dropSubscription (subscription : Nat)

inductive HubEvent (α : Type) where
  | wrote (channel : Nat) (value : α)
  | caughtUp (subscription : Nat)

namespace HubEvent

variable {α : Type}

/-- The value that was written to a channel, if this was. -/
def valueOn? (channel : Nat) : HubEvent α → Option α
  | wrote written value => if written = channel then some value else none
  | caughtUp _ => none

def isCaughtUp (subscription : Nat) : HubEvent α → Bool
  | wrote _ _ => false
  | caughtUp named => named = subscription

/-- The values that were written to a channel, latest first. -/
def valuesOn (channel : Nat) (log : List (HubEvent α)) : List α :=
  log.filterMap (valueOn? channel)

/-- The values that were written to a channel since a subscription had seen everything, latest
first. -/
def unseen (subscription channel : Nat) (log : List (HubEvent α)) : List α :=
  valuesOn channel (log.takeWhile (!isCaughtUp subscription ·))

end HubEvent

namespace Hub

variable {α β : Type}

/-- The hub after a use; none when a handle is named that is not there. -/
def use? (h : Hub α β) : HubUse α β → Option (Hub α β)
  | .create value => some (h.create value).2
  | .cloneFlow flow => (h.cloneFlow? flow).map (·.2)
  | .value flow => (h.value? flow).map fun _ => h
  | .set flow value => h.set? flow value
  | .map flow transform => (h.map? flow transform).map (·.2)
  | .cloneView view => (h.cloneView? view).map (·.2)
  | .viewValue view => (h.viewValue? view).map fun _ => h
  | .subscribeView view => (h.subscribeView? view).map (·.2)
  | .current subscription => (h.current? subscription).map fun _ => h
  | .changed subscription => (h.changed? subscription).map (·.2)
  | .subscribe flow => (h.subscribe? flow).map (·.2)
  | .hasChanged receiver => (h.hasChanged? receiver).map fun _ => h
  | .borrow receiver => (h.borrow? receiver).map fun _ => h
  | .borrowAndUpdate receiver => (h.borrowAndUpdate? receiver).map (·.2)
  | .dropFlow flow => some (h.dropFlow flow)
  | .dropView view => some (h.dropView view)
  | .dropSubscription subscription => some (h.dropSubscription subscription)

def run? (h : Hub α β) : List (HubUse α β) → Option (Hub α β)
  | [] => some h
  | u :: rest => do (← h.use? u).run? rest

/-- What a use is logged as. A subscription has seen everything when it is made, and when it was told
a change. -/
def event? (h : Hub α β) : HubUse α β → Option (HubEvent α)
  | .create value => some (.wrote h.channels.length value)
  | .set flow value => (h.channelOf? flow).map (.wrote · value)
  | .subscribeView _ => some (.caughtUp h.subscriptions.length)
  | .changed subscription =>
    match h.changed? subscription with
    | some (.changed _, _) => some (.caughtUp subscription)
    | _ => none
  | _ => none

/-- The log of a run, latest first. -/
def log (h : Hub α β) : List (HubUse α β) → List (HubEvent α)
  | [] => []
  | u :: rest =>
    let later := match h.use? u with
      | some after => after.log rest
      | none => []
    later ++ (h.event? u).toList

end Hub

end TypedPreferences
