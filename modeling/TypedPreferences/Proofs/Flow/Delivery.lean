import Mathlib.Data.List.Basic
import TypedPreferences.Flow.Log
import TypedPreferences.Proofs.Flow.Handles

/-! Changes reach every subscription once. The hub that a run led to is described by the log of the
run: a channel holds the value that was written to it last, and a subscription is behind its channel
by as many versions as values were written since it had seen everything. -/

namespace TypedPreferences

namespace HubEvent

variable {α : Type} (subscription channel : Nat) (log : List (HubEvent α))

@[simp]
theorem valuesOn_wrote (written : Nat) (value : α) :
    valuesOn channel (.wrote written value :: log) =
      if written = channel then value :: valuesOn channel log else valuesOn channel log := by
  by_cases h : written = channel <;> simp [valuesOn, valueOn?, h]

@[simp]
theorem valuesOn_caughtUp (named : Nat) :
    valuesOn channel (.caughtUp named :: log) = valuesOn channel log :=
  List.filterMap_cons_none rfl

@[simp]
theorem unseen_wrote (written : Nat) (value : α) :
    unseen subscription channel (.wrote written value :: log) =
      if written = channel then value :: unseen subscription channel log
      else unseen subscription channel log := by
  rw [unseen, List.takeWhile_cons_of_pos rfl, valuesOn_wrote]
  rfl

@[simp]
theorem unseen_caughtUp (named : Nat) :
    unseen subscription channel (.caughtUp named :: log) =
      if named = subscription then [] else unseen subscription channel log := by
  split
  · rename_i hnamed
    rw [unseen, List.takeWhile_cons_of_neg (by simp [isCaughtUp, hnamed])]
    rfl
  · rename_i hother
    rw [unseen, List.takeWhile_cons_of_pos (by simp [isCaughtUp, hother]), valuesOn_caughtUp]
    rfl

end HubEvent

open HubEvent

namespace Hub

variable {α β : Type}

/-- What a log tells about the hub that it led to. -/
structure Follows (h : Hub α β) (log : List (HubEvent α)) : Prop where
  contents : ∀ channel, h.content? channel = (valuesOn channel log).head?
  behind : ∀ {k s}, h.subscription? k = some s → ∃ c, h.channels[s.channel]? = some c ∧
    c.version = s.receiver.seen + (unseen k s.channel log).length
  flows : ∀ {flow channel}, h.channelOf? flow = some channel → channel < h.channels.length

variable {h after : Hub α β} {log : List (HubEvent α)}

/-- A log goes on telling about a hub when no channel is touched, no subscription is added and every
flow leads to a channel that is there. -/
theorem Follows.of_kept (hf : h.Follows log) (hchannels : after.channels = h.channels)
    (hsubscriptions : ∀ {k s}, after.subscription? k = some s → h.subscription? k = some s)
    (hflows : ∀ {flow channel}, after.channelOf? flow = some channel →
      channel < h.channels.length) :
    after.Follows log where
  contents channel := by
    rw [content?, hchannels]
    exact hf.contents channel
  behind hs := by
    rw [hchannels]
    exact hf.behind (hsubscriptions hs)
  flows hflow := by
    rw [hchannels]
    exact hflows hflow

theorem subscription_lt_length {k : Nat} {s : Subscription α β} (hs : h.subscription? k = some s) :
    k < h.subscriptions.length := by
  have hsome : h.subscriptions[k]? = some (some s) := Option.join_eq_some_iff.1 hs
  exact (List.getElem?_eq_some_iff.1 hsome).1

theorem join_getElem?_append {γ : Type} {xs : List (Option γ)} {added : Option γ} {i : Nat} {x : γ}
    (hx : (xs ++ [added])[i]?.join = some x) :
    xs[i]?.join = some x ∨ i = xs.length ∧ added = some x := by
  have hget : (xs ++ [added])[i]? = some (some x) := Option.join_eq_some_iff.1 hx
  rcases Nat.lt_trichotomy i xs.length with hlt | heq | hgt
  · rw [List.getElem?_append_left hlt] at hget
    exact .inl (Option.join_eq_some_iff.2 hget)
  · rw [heq, List.getElem?_concat_length, Option.some.injEq] at hget
    exact .inr ⟨heq, hget⟩
  · rw [List.getElem?_eq_none (by simp; omega)] at hget
    cases hget

theorem join_getElem?_set {γ : Type} {xs : List (Option γ)} {put : Option γ} {place i : Nat} {x : γ}
    (hx : (xs.set place put)[i]?.join = some x) :
    i ≠ place ∧ xs[i]?.join = some x ∨ i = place ∧ put = some x := by
  have hget : (xs.set place put)[i]? = some (some x) := Option.join_eq_some_iff.1 hx
  by_cases heq : i = place
  · subst heq
    have hlt : i < (xs.set i put).length := (List.getElem?_eq_some_iff.1 hget).1
    rw [List.length_set] at hlt
    rw [List.getElem?_set_self hlt, Option.some.injEq] at hget
    exact .inr ⟨rfl, hget⟩
  · rw [List.getElem?_set_ne (Ne.symm heq)] at hget
    exact .inl ⟨heq, Option.join_eq_some_iff.2 hget⟩

theorem Follows.create (hf : h.Follows log) (value : α) :
    (h.create value).2.Follows (.wrote h.channels.length value :: log) where
  contents channel := by
    rw [valuesOn_wrote]
    have hold := hf.contents channel
    rw [content?] at hold
    split
    · rename_i hnew
      rw [← hnew, content?, Hub.create, List.getElem?_concat_length]
      rfl
    · rename_i hold'
      rw [← hold, content?, Hub.create]
      rcases Nat.lt_or_gt_of_ne hold' with hlt | hgt
      · rw [List.getElem?_eq_none (by simp; omega), List.getElem?_eq_none (by omega)]
      · rw [List.getElem?_append_left hgt]
  behind {k s} hs := by
    obtain ⟨c, hget, hversion⟩ := hf.behind hs
    -- Who subscribed before has another channel, and nothing new is unseen there.
    have hlt : s.channel < h.channels.length := (List.getElem?_eq_some_iff.1 hget).1
    refine ⟨c, ?_, ?_⟩
    · rw [Hub.create, List.getElem?_append_left hlt]
      exact hget
    · rw [unseen_wrote, if_neg (by omega)]
      exact hversion
  flows {flow channel} hflow := by
    rw [Hub.create, List.length_append, List.length_singleton]
    rcases join_getElem?_append hflow with hold | ⟨_, hnew⟩
    · have hlt := hf.flows hold
      omega
    · have hchannel : h.channels.length = channel := Option.some.inj hnew
      omega

theorem Follows.set (hf : h.Follows log) {flow channel : Nat}
    (hflow : h.channelOf? flow = some channel) (value : α) :
    ({ h with channels := h.channels.modify channel (·.set value) } : Hub α β).Follows
      (.wrote channel value :: log) where
  contents other := by
    have hlt := hf.flows hflow
    rw [valuesOn_wrote]
    split
    · rename_i hsame
      rw [← hsame]
      exact content?_set (Option.map_eq_some_iff.2 ⟨_, List.getElem?_eq_getElem hlt, rfl⟩) value
    · rename_i hother
      rw [← hf.contents other, content?, content?, List.getElem?_modify_ne _ _ hother]
  behind {k s} hs := by
    obtain ⟨c, hget, hversion⟩ := hf.behind hs
    rw [unseen_wrote]
    split
    · rename_i hsame
      -- The version of the channel that is written grows with what is unseen on it.
      refine ⟨c.set value, ?_, ?_⟩
      · rw [hsame, List.getElem?_modify_eq, hget]
        rfl
      · have hset : (c.set value).version = c.version + 1 := rfl
        rw [hset, hversion, List.length_cons]
        omega
    · rename_i hother
      refine ⟨c, ?_, hversion⟩
      rw [List.getElem?_modify_ne _ _ hother]
      exact hget
  flows hold := by
    rw [List.length_modify]
    exact hf.flows hold

/-- A subscription that is added has seen the version of its channel. -/
theorem Follows.subscribe (hf : h.Follows log) {channel : Nat} {c : Channel α}
    (hget : h.channels[channel]? = some c) (transform : α → β) :
    ({ h with
      subscriptions := h.subscriptions ++ [some ⟨channel, transform, c.subscribe⟩] } :
        Hub α β).Follows (.caughtUp h.subscriptions.length :: log) where
  contents other := by
    rw [valuesOn_caughtUp]
    exact hf.contents other
  behind {k s} hs := by
    rw [unseen_caughtUp]
    rcases join_getElem?_append hs with hold | ⟨hnew, hs⟩
    · have hlt : k < h.subscriptions.length := subscription_lt_length hold
      rw [if_neg (by omega)]
      exact hf.behind hold
    · rw [if_pos hnew.symm, ← Option.some.inj hs]
      exact ⟨c, hget, rfl⟩
  flows hflow := hf.flows hflow

/-- The hub after a subscription was told what its channel holds. -/
def caughtUp (h : Hub α β) (k : Nat) (s : Subscription α β) (c : Channel α) : Hub α β :=
  { h with subscriptions := h.subscriptions.set k (some { s with receiver := c.subscribe }) }

/-- A subscription that was told a change has seen the version of its channel. -/
theorem Follows.catchUp (hf : h.Follows log) {told : Nat} {s : Subscription α β}
    {c : Channel α} (hget : h.channels[s.channel]? = some c) :
    (h.caughtUp told s c).Follows (.caughtUp told :: log) where
  contents other := by
    rw [valuesOn_caughtUp]
    exact hf.contents other
  behind {k t} ht := by
    rw [unseen_caughtUp]
    rcases join_getElem?_set ht with ⟨hne, hold⟩ | ⟨hsame, ht⟩
    · rw [if_neg hne.symm]
      exact hf.behind hold
    · rw [if_pos hsame.symm, ← Option.some.inj ht]
      exact ⟨c, hget, rfl⟩
  flows hflow := hf.flows hflow

theorem poll_of_isNewTo {c : Channel α} {r : Receiver} (hnew : c.isNewTo r = true)
    (isOpen : Bool) : c.poll isOpen r = (.changed c.value, c.subscribe) :=
  if_pos hnew

/-- What a subscription that has seen everything learns. -/
def idle (h : Hub α β) (channel : Nat) : Notice β :=
  if h.isOpen channel then .pending else .closed

theorem poll_of_seen {c : Channel α} {r : Receiver} (hseen : c.isNewTo r = false) (isOpen : Bool) :
    c.poll isOpen r = (if isOpen then .pending else .closed, r) := by
  rw [Channel.poll, if_neg (by simp [hseen])]
  cases isOpen <;> rfl

/-- A subscription that is behind its channel learns its value, and has seen it. -/
theorem changed?_of_isNewTo {k : Nat} {s : Subscription α β} {c : Channel α}
    (hs : h.subscription? k = some s) (hget : h.channels[s.channel]? = some c)
    (hnew : c.isNewTo s.receiver = true) :
    h.changed? k = some (.changed (s.transform c.value), h.caughtUp k s c) := by
  have hpoll := poll_of_isNewTo hnew (h.isOpen s.channel)
  simp only [changed?, hs, hget, hpoll, Option.bind_eq_bind, Option.bind_some]
  rfl

theorem subscription?_caughtUp {k : Nat} {s : Subscription α β} (hs : h.subscription? k = some s)
    (c : Channel α) : (h.caughtUp k s c).subscription? k = some { s with receiver := c.subscribe } := by
  rw [subscription?, caughtUp, List.getElem?_set_self (subscription_lt_length hs)]
  rfl

theorem set_of_subscription? {k : Nat} {s : Subscription α β} (hs : h.subscription? k = some s) :
    h.subscriptions.set k (some s) = h.subscriptions := by
  have hsome : h.subscriptions[k]? = some (some s) := Option.join_eq_some_iff.1 hs
  obtain ⟨hlt, hget⟩ := List.getElem?_eq_some_iff.1 hsome
  rw [← hget, List.set_getElem_self]

/-- A subscription that is not behind its channel learns no value, and nothing changes. -/
theorem changed?_of_seen {k : Nat} {s : Subscription α β} {c : Channel α}
    (hs : h.subscription? k = some s) (hget : h.channels[s.channel]? = some c)
    (hseen : c.isNewTo s.receiver = false) : h.changed? k = some (h.idle s.channel, h) := by
  have hpoll := poll_of_seen hseen (h.isOpen s.channel)
  have hkept := set_of_subscription? hs
  simp only [changed?, hs, hget, hpoll, Option.bind_eq_bind, Option.bind_some, hkept, idle]
  cases h.isOpen s.channel <;> rfl

/-- What a use does to the channels and the subscriptions of a hub. -/
inductive Effect (h : Hub α β) : HubUse α β → Hub α β → Prop where
  | created (value : α) : Effect h (.create value) (h.create value).2
  | written {flow channel : Nat} (hflow : h.channelOf? flow = some channel) (value : α) :
      Effect h (.set flow value)
        { h with channels := h.channels.modify channel (·.set value) }
  | subscribed {view : Nat} {v : FlowView α β} {c : Channel α} (hview : h.view? view = some v)
      (hget : h.channels[v.channel]? = some c) :
      Effect h (.subscribeView view)
        { h with
          subscriptions := h.subscriptions ++ [some ⟨v.channel, v.transform, c.subscribe⟩] }
  | told {k : Nat} {s : Subscription α β} {c : Channel α} (hs : h.subscription? k = some s)
      (hget : h.channels[s.channel]? = some c) (hnew : c.isNewTo s.receiver = true) :
      Effect h (.changed k) (h.caughtUp k s c)
  | dropped (k : Nat) : Effect h (.dropSubscription k) (h.dropSubscription k)
  | kept {u : HubUse α β} {after : Hub α β} (hevent : h.event? u = none)
      (hchannels : after.channels = h.channels) (hsubscriptions : after.subscriptions =
        h.subscriptions) (hflows : ∀ {flow channel}, after.channelOf? flow = some channel →
        ∃ earlier, h.channelOf? earlier = some channel) : Effect h u after

theorem effect_changed {k : Nat} {told : Notice β × Hub α β} (hk : h.changed? k = some told) :
    h.Effect (.changed k) told.2 := by
  obtain ⟨s, hs, hrest⟩ := Option.bind_eq_some_iff.1 hk
  obtain ⟨c, hget, _⟩ := Option.bind_eq_some_iff.1 hrest
  cases hnew : c.isNewTo s.receiver with
  | true =>
    rw [changed?_of_isNewTo hs hget hnew] at hk
    rw [← Option.some.inj hk]
    exact .told hs hget hnew
  | false =>
    rw [changed?_of_seen hs hget hnew] at hk
    have hevent : h.event? (.changed k) = none := by
      rw [event?, changed?_of_seen hs hget hnew, idle]
      cases h.isOpen s.channel <;> rfl
    rw [← Option.some.inj hk]
    exact .kept hevent rfl rfl fun hflow => ⟨_, hflow⟩

theorem effect_of_use? {u : HubUse α β} (hu : h.use? u = some after) : h.Effect u after := by
  -- Only five of the uses change what a reader can see; the others make handles or look.
  cases u with
  | create value =>
    obtain rfl : (h.create value).2 = after := Option.some.inj hu
    exact .created value
  | set flow value =>
    obtain ⟨channel, hflow, rfl⟩ := Option.map_eq_some_iff.1 hu
    exact .written hflow value
  | subscribeView view =>
    obtain ⟨made, hmade, rfl⟩ := Option.map_eq_some_iff.1 hu
    obtain ⟨v, hview, hrest⟩ := Option.bind_eq_some_iff.1 hmade
    obtain ⟨c, hget, hmade⟩ := Option.bind_eq_some_iff.1 hrest
    obtain rfl := Option.some.inj hmade
    exact .subscribed hview hget
  | changed k =>
    obtain ⟨told, hchanged, rfl⟩ := Option.map_eq_some_iff.1 hu
    exact effect_changed hchanged
  | dropSubscription k =>
    obtain rfl : h.dropSubscription k = after := Option.some.inj hu
    exact .dropped k
  | cloneFlow flow =>
    obtain ⟨made, hmade, rfl⟩ := Option.map_eq_some_iff.1 hu
    obtain ⟨channel, hflow, rfl⟩ := Option.map_eq_some_iff.1 hmade
    refine .kept rfl rfl rfl fun hlater => ?_
    rcases join_getElem?_append hlater with hold | ⟨_, hnew⟩
    · exact ⟨_, hold⟩
    · rw [← Option.some.inj hnew]
      exact ⟨_, hflow⟩
  | dropFlow flow =>
    obtain rfl : h.dropFlow flow = after := Option.some.inj hu
    refine .kept rfl rfl rfl fun hlater => ?_
    rcases join_getElem?_set hlater with ⟨_, hold⟩ | ⟨_, hnew⟩
    · exact ⟨_, hold⟩
    · cases hnew
  | dropView view =>
    obtain rfl : h.dropView view = after := Option.some.inj hu
    exact .kept rfl rfl rfl fun hflow => ⟨_, hflow⟩
  | map flow transform =>
    obtain ⟨made, hmade, rfl⟩ := Option.map_eq_some_iff.1 hu
    obtain ⟨channel, _, rfl⟩ := Option.map_eq_some_iff.1 hmade
    exact .kept rfl rfl rfl fun hflow => ⟨_, hflow⟩
  | cloneView view =>
    obtain ⟨made, hmade, rfl⟩ := Option.map_eq_some_iff.1 hu
    obtain ⟨v, _, rfl⟩ := Option.map_eq_some_iff.1 hmade
    exact .kept rfl rfl rfl fun hflow => ⟨_, hflow⟩
  | subscribe flow =>
    obtain ⟨made, hmade, rfl⟩ := Option.map_eq_some_iff.1 hu
    obtain ⟨channel, _, hrest⟩ := Option.bind_eq_some_iff.1 hmade
    obtain ⟨c, _, hmade⟩ := Option.bind_eq_some_iff.1 hrest
    obtain rfl := Option.some.inj hmade
    exact .kept rfl rfl rfl fun hflow => ⟨_, hflow⟩
  | borrowAndUpdate receiver =>
    obtain ⟨made, hmade, rfl⟩ := Option.map_eq_some_iff.1 hu
    obtain ⟨r, _, hrest⟩ := Option.bind_eq_some_iff.1 hmade
    obtain ⟨c, _, hmade⟩ := Option.bind_eq_some_iff.1 hrest
    obtain rfl := Option.some.inj hmade
    exact .kept rfl rfl rfl fun hflow => ⟨_, hflow⟩
  | value _ | viewValue _ | current _ | hasChanged _ | borrow _ =>
    obtain ⟨_, _, rfl⟩ := Option.map_eq_some_iff.1 hu
    exact .kept rfl rfl rfl fun hflow => ⟨_, hflow⟩

theorem subscription?_of_dropSubscription {k dropped : Nat} {s : Subscription α β}
    (hs : (h.dropSubscription dropped).subscription? k = some s) : h.subscription? k = some s := by
  rcases join_getElem?_set hs with ⟨_, hold⟩ | ⟨_, hnew⟩
  · exact hold
  · cases hnew

/-- What a use is logged as tells about the hub that the use led to. -/
theorem Follows.use (hf : h.Follows log) {u : HubUse α β} (hu : h.use? u = some after) :
    after.Follows ((h.event? u).toList ++ log) := by
  cases effect_of_use? hu with
  | created value => exact hf.create value
  | written hflow value =>
    rw [event?, hflow]
    exact hf.set hflow value
  | subscribed hview hget => exact hf.subscribe hget _
  | told hs hget hnew =>
    rw [event?, changed?_of_isNewTo hs hget hnew]
    exact hf.catchUp hget
  | dropped k => exact hf.of_kept rfl subscription?_of_dropSubscription hf.flows
  | kept hevent hchannels hsubscriptions hflows =>
    rw [hevent]
    refine hf.of_kept hchannels (fun hs => ?_) fun hflow => ?_
    · rw [subscription?, ← hsubscriptions]
      exact hs
    · obtain ⟨_, hearlier⟩ := hflows hflow
      exact hf.flows hearlier

theorem log_cons {u : HubUse α β} (hu : h.use? u = some after) (rest : List (HubUse α β)) :
    h.log (u :: rest) = after.log rest ++ (h.event? u).toList := by
  rw [Hub.log, hu]

/-- The log of a run tells about the hub that it led to. -/
theorem Follows.run {uses : List (HubUse α β)} (hf : h.Follows log)
    (hrun : h.run? uses = some after) : after.Follows (h.log uses ++ log) := by
  induction uses generalizing h log with
  | nil =>
    obtain rfl := Option.some.inj hrun
    exact hf
  | cons u rest ih =>
    obtain ⟨next, hu, hrest⟩ := Option.bind_eq_some_iff.1 hrun
    rw [log_cons hu, List.append_assoc]
    exact ih (hf.use hu) hrest

theorem Follows.empty : ({} : Hub α β).Follows [] where
  contents _ := rfl
  behind hs := by cases hs
  flows hflow := by cases hflow

theorem run?_append (uses later : List (HubUse α β)) :
    h.run? (uses ++ later) = (h.run? uses).bind (·.run? later) := by
  induction uses generalizing h with
  | nil => rfl
  | cons u rest ih =>
    rw [List.cons_append, run?, run?]
    cases h.use? u with
    | none => rfl
    | some next => exact ih

/-- A subscription is held that shows the channel of a view through the function of the view. -/
def Serves (h : Hub α β) (k : Nat) (v : FlowView α β) : Prop :=
  ∃ receiver, h.subscription? k = some ⟨v.channel, v.transform, receiver⟩

variable {k : Nat} {v : FlowView α β}

theorem Serves.subscribe {c : Channel α} :
    ({ h with
      subscriptions := h.subscriptions ++ [some ⟨v.channel, v.transform, c.subscribe⟩] } :
        Hub α β).Serves h.subscriptions.length v := by
  refine ⟨c.subscribe, ?_⟩
  rw [subscription?, List.getElem?_concat_length]
  rfl

/-- A subscription serves its view until it is dropped. -/
theorem Serves.use (hserves : h.Serves k v) {u : HubUse α β} (hu : h.use? u = some after)
    (hheld : u ≠ .dropSubscription k) : after.Serves k v := by
  obtain ⟨receiver, hk⟩ := hserves
  cases effect_of_use? hu with
  | created _ | written _ _ => exact ⟨receiver, hk⟩
  | kept _ _ hsubscriptions _ =>
    rw [subscription?, ← hsubscriptions] at hk
    exact ⟨receiver, hk⟩
  | subscribed _ _ =>
    refine ⟨receiver, ?_⟩
    rw [subscription?, List.getElem?_append_left (subscription_lt_length hk)]
    exact hk
  | @told told s c hs _ _ =>
    -- Who was told keeps the view, with a receiver that has caught up.
    by_cases hsame : told = k
    · subst hsame
      obtain rfl := Option.some.inj (hs.symm.trans hk)
      refine ⟨c.subscribe, ?_⟩
      exact subscription?_caughtUp hk c
    · refine ⟨receiver, ?_⟩
      rw [subscription?, caughtUp, List.getElem?_set_ne hsame]
      exact hk
  | dropped dropped =>
    have hother : dropped ≠ k := fun hsame => hheld (congrArg _ hsame)
    refine ⟨receiver, ?_⟩
    rw [subscription?, dropSubscription, List.getElem?_set_ne hother]
    exact hk

theorem Serves.run (hserves : h.Serves k v) {uses : List (HubUse α β)}
    (hrun : h.run? uses = some after) (hheld : .dropSubscription k ∉ uses) :
    after.Serves k v := by
  induction uses generalizing h with
  | nil =>
    obtain rfl := Option.some.inj hrun
    exact hserves
  | cons u rest ih =>
    obtain ⟨next, hu, hrest⟩ := Option.bind_eq_some_iff.1 hrun
    rw [List.mem_cons, not_or] at hheld
    exact ih (hserves.use hu (Ne.symm hheld.1)) hrest hheld.2

/-- A subscription to a view serves the view as long as it is held. -/
theorem serves_of_run {before later : List (HubUse α β)} {start : Hub α β} {view : Nat}
    (hbefore : h.run? before = some start) (hview : start.view? view = some v)
    (hrun : h.run? (before ++ .subscribeView view :: later) = some after)
    (hheld : .dropSubscription start.subscriptions.length ∉ later) :
    after.Serves start.subscriptions.length v := by
  rw [run?_append, hbefore, Option.bind_some] at hrun
  obtain ⟨next, hu, hlater⟩ := Option.bind_eq_some_iff.1 hrun
  have hnext : next.Serves start.subscriptions.length v := by
    cases effect_of_use? hu with
    | subscribed hview' _ =>
      obtain rfl := Option.some.inj (hview.symm.trans hview')
      exact .subscribe
    | kept hevent _ _ _ => cases hevent
  exact hnext.run hlater hheld

/-- A subscription is told a change when a value was written since it had seen everything, equal
values included. It is told the value that was written last, and then no other until the next one is
written, also when no flow and no view is held any more. What it shows is always that value, and to
look at it changes nothing. -/
theorem told_unseen_once {before later : List (HubUse α β)} {start : Hub α β} {view : Nat}
    (hbefore : ({} : Hub α β).run? before = some start) (hview : start.view? view = some v)
    (hrun : ({} : Hub α β).run? (before ++ .subscribeView view :: later) = some h)
    (hheld : .dropSubscription start.subscriptions.length ∉ later) :
    let k := start.subscriptions.length
    let log := ({} : Hub α β).log (before ++ .subscribeView view :: later)
    ∃ latest after, (valuesOn v.channel log).head? = some latest ∧
      h.current? k = some (v.transform latest) ∧ h.use? (.current k) = some h ∧
      h.changed? k = some (if (unseen k v.channel log).isEmpty then h.idle v.channel
        else .changed (v.transform latest), after) ∧
      after.changed? k = some (h.idle v.channel, after) := by
  intro k log
  have hfollows : h.Follows (log ++ []) := Follows.empty.run hrun
  rw [List.append_nil] at hfollows
  obtain ⟨receiver, hk⟩ := serves_of_run hbefore hview hrun hheld
  obtain ⟨c, hget, hversion⟩ := hfollows.behind hk
  change c.version = receiver.seen + (unseen k v.channel log).length at hversion
  have hcontent : h.content? v.channel = some c.value := by
    rw [content?, hget]
    rfl
  have hcurrent : h.current? k = some (v.transform c.value) := by
    simp only [current?, k, hk, hget, Option.bind_eq_bind, Option.bind_some]
    rfl
  have hlook : h.use? (.current k) = some h := by
    rw [use?, hcurrent]
    rfl
  cases hnew : c.isNewTo receiver with
  | false =>
    -- The versions agree, so nothing was written meanwhile.
    have hidle := changed?_of_seen hk hget hnew
    have hempty : (unseen k v.channel log).isEmpty = true := by
      have heq : receiver.seen = c.version := by simpa [Channel.isNewTo] using hnew
      have hlength : (unseen k v.channel log).length = 0 := by omega
      exact List.isEmpty_iff_length_eq_zero.2 hlength
    refine ⟨c.value, h, ?_, hcurrent, hlook, ?_, hidle⟩
    · rw [← hfollows.contents, hcontent]
    · rw [if_pos hempty]
      exact hidle
  | true =>
    have htold := changed?_of_isNewTo hk hget hnew
    have hsome : (unseen k v.channel log).isEmpty = false := by
      have hne : receiver.seen ≠ c.version := by simpa [Channel.isNewTo] using hnew
      rw [List.isEmpty_eq_false_iff, ← List.length_pos_iff]
      omega
    refine ⟨c.value, h.caughtUp k ⟨v.channel, v.transform, receiver⟩ c, ?_, hcurrent, hlook, ?_, ?_⟩
    · rw [← hfollows.contents, hcontent]
    · rw [htold, hsome]
      rfl
    · exact changed?_of_seen (subscription?_caughtUp hk c) hget (Channel.isNewTo_subscribe c)

/-- Two subscriptions of one number: an equal value counts, two values are told as one, and the last
one is told after the flow and the views are dropped. -/
theorem told_unseen_once_after_dropping :
    let uses : List (HubUse Nat Nat) :=
      [.subscribeView 1, .set 0 2, .changed 0, .set 0 4, .set 0 5, .changed 1, .current 0,
        .dropFlow 0, .dropView 0, .dropView 1]
    ∃ h after, ({} : Hub Nat Nat).run? ([.create 2, .map 0 (· * 2), .map 0 (· + 1)] ++
        .subscribeView 0 :: uses) = some h ∧
      h.current? 0 = some 10 ∧ h.changed? 0 = some (.changed 10, after) ∧
      after.changed? 0 = some (.closed, after) := by
  intro uses
  obtain ⟨h, hrun⟩ : ∃ h, ({} : Hub Nat Nat).run? ([.create 2, .map 0 (· * 2), .map 0 (· + 1)] ++
      .subscribeView 0 :: uses) = some h := ⟨_, rfl⟩
  obtain ⟨latest, after, hlatest, hcurrent, _, hchanged, hidle⟩ :=
    told_unseen_once rfl rfl hrun (by simp [uses])
  obtain rfl := Option.some.inj hrun
  obtain rfl : 5 = latest := Option.some.inj hlatest
  exact ⟨_, after, rfl, hcurrent, hchanged, hidle⟩

end Hub

end TypedPreferences
