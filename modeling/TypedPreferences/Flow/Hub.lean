import TypedPreferences.Flow.Channel

/-! Flows: handles by which the value of a channel is read and replaced, views that transform it,
and subscriptions. Handles are named by the order in which they were made. A channel is open as long
as one of its flows or views is held. -/

namespace TypedPreferences

/-- A view of a channel: its values pass through a function. -/
structure FlowView (α β : Type) where
  channel : Nat
  transform : α → β

/-- A subscription to a channel: its values pass through a function. -/
structure Subscription (α β : Type) where
  channel : Nat
  transform : α → β
  receiver : Receiver

/-- Channels and what refers to them. Flows and views are none once they are dropped. -/
structure Hub (α β : Type) where
  channels : List (Channel α) := []
  flows : List (Option Nat) := []
  views : List (Option (FlowView α β)) := []
  subscriptions : List (Option (Subscription α β)) := []
  receivers : List (Nat × Receiver) := []

namespace Hub

variable {α β : Type}

instance : Inhabited (Hub α β) := ⟨{}⟩

def channelOf? (h : Hub α β) (flow : Nat) : Option Nat :=
  (h.flows[flow]?).join

def view? (h : Hub α β) (view : Nat) : Option (FlowView α β) :=
  (h.views[view]?).join

def subscription? (h : Hub α β) (subscription : Nat) : Option (Subscription α β) :=
  (h.subscriptions[subscription]?).join

def isOpen (h : Hub α β) (channel : Nat) : Bool :=
  h.flows.any (· == some channel) || h.views.any fun v => v.any (·.channel == channel)

def create (h : Hub α β) (value : α) : Nat × Hub α β :=
  let channels := h.channels ++ [⟨value, 0⟩]
  (h.flows.length, { h with channels, flows := h.flows ++ [some h.channels.length] })

def cloneFlow? (h : Hub α β) (flow : Nat) : Option (Nat × Hub α β) :=
  (h.channelOf? flow).map fun c => (h.flows.length, { h with flows := h.flows ++ [some c] })

def value? (h : Hub α β) (flow : Nat) : Option α := do
  let c ← h.channels[← h.channelOf? flow]?
  return c.value

def set? (h : Hub α β) (flow : Nat) (value : α) : Option (Hub α β) :=
  (h.channelOf? flow).map fun c => { h with channels := h.channels.modify c (·.set value) }

def sameFlow? (h : Hub α β) (flow other : Nat) : Option Bool := do
  return (← h.channelOf? flow) == (← h.channelOf? other)

def map? (h : Hub α β) (flow : Nat) (transform : α → β) : Option (Nat × Hub α β) :=
  (h.channelOf? flow).map fun c =>
    (h.views.length, { h with views := h.views ++ [some ⟨c, transform⟩] })

def cloneView? (h : Hub α β) (view : Nat) : Option (Nat × Hub α β) :=
  (h.view? view).map fun v => (h.views.length, { h with views := h.views ++ [some v] })

def viewValue? (h : Hub α β) (view : Nat) : Option β := do
  let v ← h.view? view
  let c ← h.channels[v.channel]?
  return v.transform c.value

def subscribeView? (h : Hub α β) (view : Nat) : Option (Nat × Hub α β) := do
  let v ← h.view? view
  let c ← h.channels[v.channel]?
  return (h.subscriptions.length,
    { h with subscriptions := h.subscriptions ++ [some ⟨v.channel, v.transform, c.subscribe⟩] })

/-- The value that a subscription shows; it does not count as seen. -/
def current? (h : Hub α β) (subscription : Nat) : Option β := do
  let s ← h.subscription? subscription
  let c ← h.channels[s.channel]?
  return s.transform c.value

def changed? (h : Hub α β) (subscription : Nat) : Option (Notice β × Hub α β) := do
  let s ← h.subscription? subscription
  let c ← h.channels[s.channel]?
  let (notice, receiver) := c.poll (h.isOpen s.channel) s.receiver
  return (notice.map s.transform,
    { h with subscriptions := h.subscriptions.set subscription (some { s with receiver }) })

def subscribe? (h : Hub α β) (flow : Nat) : Option (Nat × Hub α β) := do
  let channel ← h.channelOf? flow
  let c ← h.channels[channel]?
  return (h.receivers.length, { h with receivers := h.receivers ++ [(channel, c.subscribe)] })

/-- Whether there is a value that a receiver has not seen; an end of the channel is told before it.
-/
def hasChanged? (h : Hub α β) (receiver : Nat) : Option (Notice Bool) := do
  let (channel, r) ← h.receivers[receiver]?
  let c ← h.channels[channel]?
  return if h.isOpen channel then .changed (c.isNewTo r) else .closed

def borrow? (h : Hub α β) (receiver : Nat) : Option α := do
  let (channel, _) ← h.receivers[receiver]?
  let c ← h.channels[channel]?
  return c.value

def borrowAndUpdate? (h : Hub α β) (receiver : Nat) : Option (α × Hub α β) := do
  let (channel, _) ← h.receivers[receiver]?
  let c ← h.channels[channel]?
  return (c.value, { h with receivers := h.receivers.set receiver (channel, c.subscribe) })

def dropFlow (h : Hub α β) (flow : Nat) : Hub α β :=
  { h with flows := h.flows.set flow none }

def dropView (h : Hub α β) (view : Nat) : Hub α β :=
  { h with views := h.views.set view none }

def dropSubscription (h : Hub α β) (subscription : Nat) : Hub α β :=
  { h with subscriptions := h.subscriptions.set subscription none }

def sameFlows (h : Hub α β) (flow : Nat) : List Nat :=
  (List.range flow).filter fun other => (h.sameFlow? flow other).getD false

end Hub

end TypedPreferences
