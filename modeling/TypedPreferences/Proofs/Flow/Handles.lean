import TypedPreferences.Flow.Hub

/-! What handles show. A flow and a view show the content of their channel, handles made later leave
those made earlier alone, and replacing the value of a flow replaces the content of its channel. -/

namespace TypedPreferences.Hub

variable {α β : Type} (h : Hub α β)

/-- The value in a channel. -/
def content? (channel : Nat) : Option α :=
  h.channels[channel]?.map (·.value)

variable {h} {flow channel : Nat}

theorem value?_of_channelOf? (hflow : h.channelOf? flow = some channel) :
    h.value? flow = h.content? channel := by
  rw [value?, hflow, content?, Option.map_eq_bind]
  rfl

theorem sameFlow?_of_channelOf? {other : Nat} (hflow : h.channelOf? flow = some channel)
    (hother : h.channelOf? other = some channel) : h.sameFlow? flow other = some true := by
  rw [sameFlow?, hflow, hother]
  exact congrArg some (beq_self_eq_true channel)

theorem viewValue?_of_view? {view : Nat} {transform : α → β}
    (hview : h.view? view = some ⟨channel, transform⟩) :
    h.viewValue? view = (h.content? channel).map transform := by
  rw [viewValue?, hview, content?, Option.map_map, Option.map_eq_bind]
  rfl

theorem flow_lt_length (hflow : h.channelOf? flow = some channel) : flow < h.flows.length := by
  have hsome : h.flows[flow]? = some (some channel) := Option.join_eq_some_iff.1 hflow
  exact (List.getElem?_eq_some_iff.1 hsome).1

theorem view_lt_length {view : Nat} {v : FlowView α β} (hview : h.view? view = some v) :
    view < h.views.length := by
  have hsome : h.views[view]? = some (some v) := Option.join_eq_some_iff.1 hview
  exact (List.getElem?_eq_some_iff.1 hsome).1

/-- A flow that is added is the last one. -/
theorem channelOf?_added (channels : List (Channel α)) (added : Nat) :
    ({ h with channels, flows := h.flows ++ [some added] } : Hub α β).channelOf? h.flows.length =
      some added := by
  rw [channelOf?, List.getElem?_concat_length]
  rfl

theorem channelOf?_before_added (hflow : h.channelOf? flow = some channel) (added : Option Nat) :
    ({ h with flows := h.flows ++ [added] } : Hub α β).channelOf? flow = some channel := by
  rw [channelOf?, List.getElem?_append_left (flow_lt_length hflow)]
  exact hflow

theorem view?_before_added {view : Nat} {v : FlowView α β} (hview : h.view? view = some v)
    (added : Option (FlowView α β)) :
    ({ h with views := h.views ++ [added] } : Hub α β).view? view = some v := by
  rw [view?, List.getElem?_append_left (view_lt_length hview)]
  exact hview

theorem channelOf?_dropFlow_of_ne {dropped : Nat} (hne : flow ≠ dropped) :
    (h.dropFlow dropped).channelOf? flow = h.channelOf? flow := by
  rw [channelOf?, dropFlow, List.getElem?_set_ne (Ne.symm hne), channelOf?]

/-- What a flow sets is afterwards in its channel. -/
theorem content?_set {old : α} (hold : h.content? channel = some old) (value : α) :
    ({ h with channels := h.channels.modify channel (·.set value) } : Hub α β).content? channel =
      some value := by
  rw [content?] at hold ⊢
  rw [List.getElem?_modify_eq]
  cases hc : h.channels[channel]? with
  | none =>
    rw [hc] at hold
    cases hold
  | some c => rfl

theorem cloneFlow?_of_channelOf? (hflow : h.channelOf? flow = some channel) :
    h.cloneFlow? flow =
      some (h.flows.length, { h with flows := h.flows ++ [some channel] }) := by
  rw [cloneFlow?, hflow, Option.map_some]

/-- A hub with a further channel, and two handles to it. -/
def createShared (h : Hub α β) (value : α) : Hub α β :=
  { h with
    channels := h.channels ++ [⟨value, 0⟩]
    flows := h.flows ++ [some h.channels.length] ++ [some h.channels.length] }

theorem cloneFlow?_create (h : Hub α β) (value : α) :
    (h.create value).2.cloneFlow? (h.create value).1 =
      some (h.flows.length + 1, h.createShared value) := by
  have hfirst := channelOf?_added (h := h) (h.channels ++ [⟨value, 0⟩]) h.channels.length
  refine (cloneFlow?_of_channelOf? hfirst).trans ?_
  rw [List.length_append, List.length_singleton]
  rfl

theorem channelOf?_createShared (h : Hub α β) (value : α) :
    (h.createShared value).channelOf? h.flows.length = some h.channels.length ∧
      (h.createShared value).channelOf? (h.flows.length + 1) = some h.channels.length := by
  have hfirst := channelOf?_added (h := h) (h.channels ++ [⟨value, 0⟩]) h.channels.length
  have hsecond := channelOf?_added (h := (h.create value).2) (h.create value).2.channels
    h.channels.length
  have hlength : (h.create value).2.flows.length = h.flows.length + 1 := by
    rw [create, List.length_append, List.length_singleton]
  rw [hlength] at hsecond
  exact ⟨channelOf?_before_added hfirst _, hsecond⟩

theorem content?_createShared (h : Hub α β) (value : α) :
    (h.createShared value).content? h.channels.length = some value := by
  rw [content?, createShared, List.getElem?_concat_length]
  rfl

end TypedPreferences.Hub
