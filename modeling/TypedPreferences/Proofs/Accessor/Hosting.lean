import TypedPreferences.Accessor.Desk
import TypedPreferences.Accessor.Session

/-! Sessions as desks. What a session is asked that names one of its accessors is a use of this
accessor, and what it is asked of the stores is done behind its back. -/

namespace TypedPreferences

namespace Session

variable {F : Type} {s after : Session F} {number : Nat} {d : Desk F}

/-- A session has a desk for an accessor: its space, its editors and its flows are those of the
desk. -/
structure Hosts (s : Session F) (number : Nat) (d : Desk F) : Prop where
  accessor : s.accessor? number = some d.accessor
  space : s.space = d.space
  editors : s.editors = d.editors
  flows : s.flows = d.flows

/-- The use of an accessor that a request makes. -/
inductive Requests (s : Session F) (number : Nat) : SessionRequest F → Use F → Prop where
  | get : Requests s number (.get number) .get
  | mutable : Requests s number (.mutable number) .mutable
  | set (editor : Nat) (field : String) (value : Datum F) :
    Requests s number (.set editor field value) (.set editor field value)
  | update (editor : Nat) : Requests s number (.update number editor) (.update editor)
  | edit (sets : List (String × Datum F)) : Requests s number (.edit number sets) (.edit sets)
  | flow : Requests s number (.flow number) .stateFlow
  | map (field : String) : Requests s number (.map number field)
    (.mapFlow fun values => (values.value? field).getD .absent)
  | put (space key : String) (value : Stored) : Requests s number (.put space key value)
    (.elsewhere (s.space.engine.answer space (.insert key value)).2)
  | remove (space key : String) : Requests s number (.remove space key)
    (.elsewhere (s.space.engine.answer space (.remove key)).2)
  | clear (space : String) : Requests s number (.clear space)
    (.elsewhere (s.space.engine.answer space .clear).2)

/-- After a use of an accessor the session has a desk with what the accessor has become. -/
theorem hosts_afterUse (h : s.Hosts number d) (a : Accessor F) (w : Space F) :
    (s.afterUse number a w).Hosts number { d with accessor := a, space := w } where
  accessor := by
    have hthere := h.accessor
    rw [accessor?] at hthere
    obtain ⟨held, hheld, -⟩ := Option.bind_eq_some_iff.1 hthere
    rw [accessor?, afterUse, List.getElem?_modify_eq, hheld]
    rfl
  space := rfl
  editors := h.editors
  flows := h.flows

/-- Telling which object was shown is none of the desk. -/
theorem Hosts.showObject (h : s.Hosts number d) (object : Shared (Snapshot F)) :
    (s.showObject number object).2.Hosts number d where
  accessor := by
    have hthere := h.accessor
    rw [accessor?] at hthere
    obtain ⟨held, hheld, haccessor⟩ := Option.bind_eq_some_iff.1 hthere
    rw [accessor?, Session.showObject, List.getElem?_modify_eq, hheld]
    exact haccessor
  space := h.space
  editors := h.editors
  flows := h.flows

theorem Hosts.ask (h : s.Hosts number d) (space : String) (request : StoreRequest) :
    (s.ask space request).2.Hosts number
      { d with space := { d.space with engine := (s.space.engine.answer space request).2 } } where
  accessor := h.accessor
  space := by
    rw [← h.space]
    rfl
  editors := h.editors
  flows := h.flows

/-- A session answers a request by the use that it makes. -/
theorem Hosts.answer (h : s.Hosts number d) {request : SessionRequest F} {u : Use F}
    (hrequest : Requests s number request u) {answer : SessionAnswer F}
    (hanswer : s.answer? request = some (answer, after)) :
    ∃ next, d.use? u = some next ∧ after.Hosts number next := by
  have haccessor := h.accessor
  -- By the request: each is answered from one object of the session, which the desk has as well.
  cases hrequest with
  | get =>
    obtain ⟨a, ha, hgiven⟩ := Option.bind_eq_some_iff.1 hanswer
    obtain rfl := Option.some.inj (haccessor.symm.trans ha)
    obtain ⟨rfl, rfl⟩ := Prod.mk.inj (Option.some.inj hgiven)
    rw [h.space]
    exact ⟨_, rfl, (hosts_afterUse h _ _).showObject _⟩
  | mutable =>
    obtain ⟨a, ha, hgiven⟩ := Option.bind_eq_some_iff.1 hanswer
    obtain rfl := Option.some.inj (haccessor.symm.trans ha)
    obtain ⟨rfl, rfl⟩ := Prod.mk.inj (Option.some.inj hgiven)
    have hhosts := hosts_afterUse h (d.accessor.mutable s.space).2.1 (d.accessor.mutable s.space).2.2
    rw [h.space] at hhosts
    rw [h.editors, h.space]
    exact ⟨_, rfl, hhosts.accessor, rfl, rfl, h.flows⟩
  | set editor field value =>
    obtain ⟨e, he, hgiven⟩ := Option.bind_eq_some_iff.1 hanswer
    obtain ⟨_, -, hvalue⟩ := Option.bind_eq_some_iff.1 hgiven
    obtain ⟨-, rfl⟩ := Prod.mk.inj (Option.some.inj hvalue)
    rw [h.editors] at he
    rw [h.editors, h.space]
    exact ⟨_, Option.bind_eq_some_iff.2 ⟨e, he, rfl⟩, haccessor, rfl, rfl, h.flows⟩
  | update editor =>
    obtain ⟨a, ha, hgiven⟩ := Option.bind_eq_some_iff.1 hanswer
    obtain rfl := Option.some.inj (haccessor.symm.trans ha)
    obtain ⟨e, he, hupdate⟩ := Option.bind_eq_some_iff.1 hgiven
    obtain ⟨-, rfl⟩ := Prod.mk.inj (Option.some.inj hupdate)
    rw [h.editors] at he
    rw [h.space]
    exact ⟨_, Option.bind_eq_some_iff.2 ⟨e, he, rfl⟩, hosts_afterUse h _ _⟩
  | edit sets =>
    obtain ⟨a, ha, hgiven⟩ := Option.bind_eq_some_iff.1 hanswer
    obtain rfl := Option.some.inj (haccessor.symm.trans ha)
    obtain ⟨rfl, rfl⟩ := Prod.mk.inj (Option.some.inj hgiven)
    rw [h.space]
    exact ⟨_, rfl, (hosts_afterUse h _ _).showObject _⟩
  | flow =>
    obtain ⟨a, ha, hgiven⟩ := Option.bind_eq_some_iff.1 hanswer
    obtain rfl := Option.some.inj (haccessor.symm.trans ha)
    obtain ⟨rfl, rfl⟩ := Prod.mk.inj (Option.some.inj hgiven)
    have hhosts := hosts_afterUse h (d.accessor.stateFlow s.space).2.1
      (d.accessor.stateFlow s.space).2.2
    rw [h.space] at hhosts
    rw [h.flows, h.space]
    exact ⟨_, rfl, hhosts.accessor, rfl, h.editors, rfl⟩
  | map field =>
    obtain ⟨a, ha, hgiven⟩ := Option.bind_eq_some_iff.1 hanswer
    obtain rfl := Option.some.inj (haccessor.symm.trans ha)
    obtain ⟨⟨view, b, v⟩, hmap, hshown⟩ := Option.bind_eq_some_iff.1 hgiven
    obtain ⟨_, -, hvalue⟩ := Option.bind_eq_some_iff.1 hshown
    obtain ⟨-, rfl⟩ := Prod.mk.inj (Option.some.inj hvalue)
    rw [h.space] at hmap
    have hhosts := hosts_afterUse h b v
    exact ⟨_, Option.bind_eq_some_iff.2 ⟨(view, b, v), hmap, rfl⟩, hhosts.accessor, rfl, h.editors,
      h.flows⟩
  | put space key value =>
    obtain rfl := congrArg Prod.snd (Option.some.inj hanswer)
    exact ⟨_, rfl, h.ask space (.insert key value)⟩
  | remove space key =>
    obtain rfl := congrArg Prod.snd (Option.some.inj hanswer)
    exact ⟨_, rfl, h.ask space (.remove key)⟩
  | clear space =>
    obtain rfl := congrArg Prod.snd (Option.some.inj hanswer)
    exact ⟨_, rfl, h.ask space .clear⟩

/-- An accessor that is opened has a desk of its own. -/
theorem hosts_opened (heditors : s.editors = []) (hflows : s.flows = []) {l : Layout F} {id : String}
    {answer : SessionAnswer F} (hanswer : s.answer? (.openAccessor l id) = some (answer, after)) :
    after.Hosts s.accessors.length (Desk.opened l id after.space) := by
  obtain ⟨-, rfl⟩ := Prod.mk.inj (Option.some.inj hanswer)
  refine ⟨?_, rfl, heditors, hflows⟩
  rw [accessor?, List.getElem?_concat_length]
  rfl

/-- A session that is asked for uses of one accessor, one after another. -/
inductive Runs (number : Nat) : Session F → List (Use F) → Session F → Prop where
  | nil (s : Session F) : Runs number s [] s
  | cons {s middle after : Session F} {request : SessionRequest F} {u : Use F}
    {rest : List (Use F)} {answer : SessionAnswer F} :
    Requests s number request u → s.answer? request = some (answer, middle) →
      Runs number middle rest after → Runs number s (u :: rest) after

/-- What a session does for one accessor is a run of its desk. -/
theorem Hosts.run? (h : s.Hosts number d) {uses : List (Use F)} (hruns : Runs number s uses after) :
    ∃ last, d.run? uses = some last ∧ after.Hosts number last := by
  induction hruns generalizing d with
  | nil s => exact ⟨d, rfl, h⟩
  | cons hrequest hanswer _ ih =>
    obtain ⟨next, hu, hnext⟩ := h.answer hrequest hanswer
    obtain ⟨last, hrest, hlast⟩ := ih hnext
    exact ⟨last, Option.bind_eq_some_iff.2 ⟨next, hu, hrest⟩, hlast⟩

/-- The snapshot that a session shows is the object of the desk. -/
theorem Hosts.shown (h : s.Hosts number d) {answer : SessionAnswer F}
    (hanswer : s.answer? (.get number) = some (answer, after)) :
    ∃ same, answer = .shown d.object.value same := by
  obtain ⟨a, ha, hgiven⟩ := Option.bind_eq_some_iff.1 hanswer
  obtain rfl := Option.some.inj (h.accessor.symm.trans ha)
  obtain ⟨rfl, -⟩ := Prod.mk.inj (Option.some.inj hgiven)
  rw [h.space]
  exact ⟨_, rfl⟩

end Session

end TypedPreferences
