import Mathlib.Data.List.Infix

/-!
# Topics and subscribers

A client opens a topic by a call, and subscribers subscribe to what the call returned. While a subscriber
is subscribed it receives what is published to its topic, in order. This is what a broadcaster is for,
and an implementation is compared with it.
-/

namespace PubSub

open List Function

variable {Topic Name Event Id : Type}

inductive Op (Topic Event Id : Type) where
  | publish (topic : Topic) (event : Event)
  | open (call : Id) (topic : Topic)
  | subscribe (id call : Id)
  | unsubscribe (id : Id)

def Op.rename (name : Topic → Name) : Op Topic Event Id → Op Name Event Id
  | publish topic event => publish (name topic) event
  | «open» call topic => «open» call (name topic)
  | subscribe id call => subscribe id call
  | unsubscribe id => unsubscribe id

/-- The topics that calls have opened, the calls that have had a subscriber, the topics subscribed to and
what subscribers have received. -/
structure State (Topic Event Id : Type) where
  calls : Id → Option Topic
  taken : Id → Bool
  subscribed : Id → Option Topic
  received : Id → List Event

def State.initial : State Topic Event Id := ⟨fun _ => none, fun _ => false, fun _ => none, fun _ => []⟩

variable [DecidableEq Topic] [DecidableEq Id]

/-- A call opens one topic, and a subscriber has one subscription at a time. -/
def step (s : State Topic Event Id) : Op Topic Event Id → State Topic Event Id
  | .publish topic event =>
    { s with
      received := fun id =>
        if s.subscribed id = some topic then s.received id ++ [event] else s.received id }
  | .open call topic =>
    if s.calls call = none then { s with calls := Function.update s.calls call (some topic) } else s
  | .subscribe id call =>
    match s.subscribed id, s.calls call with
    | none, some topic =>
      { s with
        taken := Function.update s.taken call true
        subscribed := Function.update s.subscribed id (some topic) }
    | _, _ => s
  | .unsubscribe id => { s with subscribed := Function.update s.subscribed id none }

def run (ops : List (Op Topic Event Id)) : State Topic Event Id := ops.foldl step .initial

theorem run_snoc (ops : List (Op Topic Event Id)) (op : Op Topic Event Id) :
    run (ops ++ [op]) = step (run ops) op := by
  simp [run]

/-- What an operation appends to what a subscriber has received. -/
def delivered (s : State Topic Event Id) (id : Id) : Op Topic Event Id → List Event
  | .publish topic event => if s.subscribed id = some topic then [event] else []
  | _ => []

theorem received_step (s : State Topic Event Id) (op : Op Topic Event Id) (id : Id) :
    (step s op).received id = s.received id ++ delivered s id op := by
  cases op with
  | publish topic event =>
    simp only [step, delivered]
    split <;> simp
  | «open» call topic =>
    simp only [step, delivered]
    split <;> simp
  | subscribe id' call =>
    simp only [step, delivered]
    split <;> simp
  | unsubscribe id' => simp [step, delivered]

/-! ## Where things come from -/

variable {ops : List (Op Topic Event Id)}

theorem mem_open_of_calls {call : Id} {topic : Topic}
    (h : (run ops).calls call = some topic) : .open call topic ∈ ops := by
  induction ops using reverseRecOn with
  | nil => cases h
  | append_singleton ops op ih =>
    rw [run_snoc] at h
    rw [mem_append, mem_singleton]
    cases op with
    | publish topic' event => exact Or.inl (ih h)
    | unsubscribe id => exact Or.inl (ih h)
    | subscribe id call' =>
      simp only [step] at h
      split at h <;> exact Or.inl (ih h)
    | «open» call' topic' =>
      simp only [step] at h
      split at h
      · by_cases hc : call = call'
        · subst hc
          simp only [update_self, Option.some.injEq] at h
          exact Or.inr (by rw [h])
        · simp only [update_of_ne hc] at h
          exact Or.inl (ih h)
      · exact Or.inl (ih h)

theorem mem_open_of_subscribed {id : Id} {topic : Topic}
    (h : (run ops).subscribed id = some topic) : ∃ call, .open call topic ∈ ops := by
  induction ops using reverseRecOn with
  | nil => cases h
  | append_singleton ops op ih =>
    have ho : (run ops).subscribed id = some topic → ∃ call, .open call topic ∈ ops ++ [op] :=
      fun h => (ih h).imp fun _ hm => mem_append_left _ hm
    rw [run_snoc] at h
    cases op with
    | publish topic' event => exact ho h
    | «open» call topic' =>
      simp only [step] at h
      split at h <;> exact ho h
    | unsubscribe id' =>
      simp only [step] at h
      by_cases hi : id = id'
      · subst hi
        rw [update_self] at h
        cases h
      · rw [update_of_ne hi] at h
        exact ho h
    | subscribe id' call =>
      simp only [step] at h
      split at h
      · next topic' _ hc =>
        by_cases hi : id = id'
        · subst hi
          simp only [update_self, Option.some.injEq] at h
          subst h
          exact ⟨call, mem_append_left _ (mem_open_of_calls hc)⟩
        · simp only [update_of_ne hi] at h
          exact ho h
      · exact ho h

theorem mem_subscribe_of_taken {call : Id}
    (h : (run ops).taken call = true) : ∃ id, .subscribe id call ∈ ops := by
  induction ops using reverseRecOn with
  | nil => cases h
  | append_singleton ops op ih =>
    have ho : (run ops).taken call = true → ∃ id, .subscribe id call ∈ ops ++ [op] :=
      fun h => (ih h).imp fun _ hm => mem_append_left _ hm
    rw [run_snoc] at h
    cases op with
    | publish topic' event => exact ho h
    | unsubscribe id => exact ho h
    | «open» call' topic' =>
      simp only [step] at h
      split at h <;> exact ho h
    | subscribe id call' =>
      simp only [step] at h
      split at h
      · by_cases hc : call = call'
        · exact ⟨id, mem_append_right _ (mem_singleton.mpr (by rw [hc]))⟩
        · simp only [update_of_ne hc] at h
          exact ho h
      · exact ho h

/-! ## Other names -/

section Rename

variable (name : Topic → Name)

/-- What is published is not mistaken for the topic of a subscriber to another one. -/
def Separate (ops : List (Op Topic Event Id)) (id : Id) : Prop :=
  ∀ before topic event topic', before ++ [.publish topic event] <+: ops →
    (run before).subscribed id = some topic' → name topic' = name topic → topic' = topic

variable {name} in
variable {ops : List (Op Topic Event Id)} {s : State Topic Event Id} {s' : State Name Event Id}

theorem separate_snoc {op : Op Topic Event Id} {id : Id} :
    Separate name (ops ++ [op]) id ↔
      Separate name ops id ∧
        ∀ topic event topic', op = .publish topic event → (run ops).subscribed id = some topic' →
          name topic' = name topic → topic' = topic := by
  constructor
  · intro h
    refine ⟨fun before topic event topic' hs => ?_, fun topic event topic' ho => ?_⟩
    · exact h before topic event topic' (hs.trans (prefix_append ops [op]))
    · exact h ops topic event topic' (by rw [ho])
  · rintro ⟨hb, hl⟩ before topic event topic' hs
    rcases prefix_concat_iff.mp hs with heq | hs
    · obtain ⟨rfl, ho⟩ := append_inj' heq rfl
      exact hl topic event topic' (singleton_inj.mp ho).symm
    · exact hb before topic event topic' hs

/-- Where the states of a run and of the renamed run agree, whatever has been received. -/
structure Renamed (s : State Topic Event Id) (s' : State Name Event Id) : Prop where
  calls : ∀ call, s'.calls call = (s.calls call).map name
  taken : s'.taken = s.taken
  subscribed : ∀ id, s'.subscribed id = (s.subscribed id).map name

variable [DecidableEq Name]

variable {name} in
theorem Renamed.step (h : Renamed name s s')
    (op : Op Topic Event Id) : Renamed name (step s op) (step s' (op.rename name)) := by
  cases op with
  | publish topic event => exact ⟨h.calls, h.taken, h.subscribed⟩
  | «open» call topic =>
    simp only [Op.rename, PubSub.step, h.calls, Option.map_eq_none_iff]
    split
    · refine ⟨fun call' => ?_, h.taken, h.subscribed⟩
      by_cases hc : call' = call
      · subst hc
        simp
      · simp [update_of_ne hc, h.calls]
    · exact h
  | subscribe id call =>
    simp only [Op.rename, PubSub.step, h.calls, h.subscribed]
    cases hi : s.subscribed id with
    | some topic => exact h
    | none =>
      cases hc : s.calls call with
      | none => exact h
      | some topic =>
        refine ⟨h.calls, by simp [h.taken], fun id' => ?_⟩
        by_cases hs : id' = id
        · subst hs
          simp
        · simp [update_of_ne hs, h.subscribed]
  | unsubscribe id =>
    refine ⟨h.calls, h.taken, fun id' => ?_⟩
    simp only [Op.rename, PubSub.step]
    by_cases hs : id' = id
    · subst hs
      simp
    · simp [update_of_ne hs, h.subscribed]

theorem renamed_run (ops : List (Op Topic Event Id)) :
    Renamed name (run ops) (run (ops.map (Op.rename name))) := by
  induction ops using reverseRecOn with
  | nil => exact ⟨fun _ => rfl, rfl, fun _ => rfl⟩
  | append_singleton ops op ih =>
    rw [map_append, map_singleton, run_snoc, run_snoc]
    exact ih.step op

omit [DecidableEq Id] in
variable {name} in
theorem delivered_sublist_rename (h : Renamed name s s') (op : Op Topic Event Id) (id : Id) :
    (delivered s id op).Sublist (delivered s' id (op.rename name)) := by
  cases op with
  | publish topic event =>
    simp only [delivered, Op.rename, h.subscribed]
    by_cases hs : s.subscribed id = some topic
    · simp [hs]
    · rw [if_neg hs]
      exact nil_sublist _
  | «open» call topic => exact nil_sublist _
  | subscribe id' call => exact nil_sublist _
  | unsubscribe id' => exact nil_sublist _

theorem received_sublist_rename (ops : List (Op Topic Event Id)) (id : Id) :
    ((run ops).received id).Sublist ((run (ops.map (Op.rename name))).received id) := by
  induction ops using reverseRecOn with
  | nil => exact Sublist.refl _
  | append_singleton ops op ih =>
    rw [map_append, map_singleton, run_snoc, run_snoc, received_step, received_step]
    exact ih.append (delivered_sublist_rename (renamed_run name ops) op id)

variable {name}

omit [DecidableEq Id] in
theorem delivered_rename_iff (h : Renamed name s s') (op : Op Topic Event Id) (id : Id) :
    delivered s' id (op.rename name) = delivered s id op ↔
      ∀ topic event topic', op = .publish topic event → s.subscribed id = some topic' →
        name topic' = name topic → topic' = topic := by
  cases op with
  | publish topic event =>
    simp only [delivered, Op.rename, h.subscribed, Op.publish.injEq]
    cases hi : s.subscribed id with
    | none => simp
    | some topic' =>
      by_cases hn : name topic' = name topic
      · by_cases hs : topic' = topic
        · subst hs
          simp
        · -- this subscriber is sent an event of another topic
          simp only [Option.map_some, Option.some.injEq, hn, hs, if_true, if_false]
          refine iff_of_false (by simp) fun ha => hs ?_
          exact ha topic event topic' ⟨rfl, rfl⟩ rfl hn
      · have hot : topic' ≠ topic := fun hs => hn (congrArg name hs)
        simp only [Option.map_some, Option.some.injEq, hn, hot, if_false]
        refine iff_of_true trivial ?_
        rintro _ _ _ ⟨rfl, rfl⟩ rfl hn'
        exact absurd hn' hn
  | «open» call topic => exact iff_of_true rfl fun _ _ _ ho => nomatch ho
  | subscribe id' call => exact iff_of_true rfl fun _ _ _ ho => nomatch ho
  | unsubscribe id' => exact iff_of_true rfl fun _ _ _ ho => nomatch ho

theorem received_rename_iff {id : Id} :
    (run (ops.map (Op.rename name))).received id = (run ops).received id ↔ Separate name ops id := by
  induction ops using reverseRecOn with
  | nil =>
    refine iff_of_true rfl fun before topic event topic' hstt => ?_
    simp at hstt
  | append_singleton ops op ih =>
    have hst := renamed_run name ops
    have ho := received_sublist_rename name ops id
    have hn := delivered_sublist_rename hst op id
    rw [map_append, map_singleton, run_snoc, run_snoc, received_step, received_step,
      separate_snoc, ← ih, ← delivered_rename_iff hst op id]
    constructor
    · -- neither part can be shorter, so both are equal
      intro heq
      have hl := congrArg length heq
      rw [length_append, length_append] at hl
      have hle := ho.length_le
      have hle' := hn.length_le
      exact ⟨(ho.eq_of_length (by omega)).symm, (hn.eq_of_length (by omega)).symm⟩
    · rintro ⟨hs, hs'⟩
      rw [hs, hs']

end Rename

end PubSub
