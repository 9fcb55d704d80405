import SyntheticHeart.Transition.System
import SyntheticHeart.Go.Map

/-!
# The broadcaster (`utils.Broadcaster`)

Test routines publish their `TestRun`s to the broadcaster, and every subscriber gets a copy
on a channel of its own. `SubscribeToTestRuns` makes the subscriber's channel and sends a
`Listener` on `testRunSubCh`, `UnsubscribeFromTestRuns` sends the channel on
`testRunUnsubCh`, and `PublishTestRun` sends the run on `testRunPubCh`. The `Start` loop
takes one message at a time from the three channels, in any order, and keeps the
subscriptions in the map `testRunSubs`; for a run it visits every subscribed channel, in the
unspecified order of the map, and sends the run when the channel has room and drops it
otherwise.

`State` holds the three channel buffers, the map, and each subscriber's channel (`Chan`),
with the fan-out of the last run taken as the list of channels it has still to visit
(`pending`). `step` is one channel operation of one goroutine (`Label`). The owner of a
channel receives from it in a `select` until it calls `UnsubscribeFromTestRuns`; the
routines and the test-run exporter all unsubscribe as they return. An owner blocked in its
`select` on an empty channel is `waiting`, and a send to its channel hands it the run
whether or not the channel has room, as Go does for an unbuffered channel.

The state also keeps ghost fields, which no goroutine reads: the runs taken from
`testRunPubCh`, in order (`log`), each run in a channel tagged with its position in the log,
the runs each owner has received, how many runs had been taken when the subscription and the
unsubscription were processed, and the runs at whose taking the channel was full.

* `Inv`: what holds of every reachable state, channel by channel (`ChanInv`).
* `sublist_drop_of_indices`: values found at strictly increasing positions, from `n` on, of a
  list form a sublist of the list from `n` on.
-/

namespace SyntheticHeart.Broadcaster

open GoMap

section Subsequence

variable {α : Type}

/-- Values found at strictly increasing positions, from position `n` on, of a list form a
sublist of its suffix from `n`. -/
theorem sublist_drop_of_indices {l : List α} :
    ∀ {ps : List (Nat × α)} {n : Nat}, (ps.map Prod.fst).Pairwise (· < ·) →
      (∀ p ∈ ps, n ≤ p.1 ∧ l[p.1]? = some p.2) → (ps.map Prod.snd).Sublist (l.drop n)
  | [], _, _, _ => List.nil_sublist _
  | p :: ps, n, hsort, hps => by
    rw [List.map_cons, List.pairwise_cons] at hsort
    obtain ⟨hn, hp⟩ := hps p List.mem_cons_self
    have hrest : (ps.map Prod.snd).Sublist (l.drop (p.1 + 1)) :=
      sublist_drop_of_indices hsort.2 fun q hq =>
        ⟨hsort.1 q.1 (List.mem_map_of_mem hq), (hps q (List.mem_cons_of_mem p hq)).2⟩
    obtain ⟨hlt, hget⟩ := List.getElem?_eq_some_iff.mp hp
    have hdrop : l.drop p.1 = p.2 :: l.drop (p.1 + 1) := by
      rw [List.drop_eq_getElem_cons hlt, hget]
    calc List.Sublist ((p :: ps).map Prod.snd) (p.2 :: l.drop (p.1 + 1)) := hrest.cons_cons p.2
      _ = l.drop p.1 := hdrop.symm
      List.Sublist _ (l.drop n) := List.drop_sublist_drop_left l hn

end Subsequence

/-- `Listener`, without its channel, which is the key of `testRunSubs`. -/
structure Listener where
  name : String
  channelSize : Nat
  deriving DecidableEq, Repr

/-- A subscriber's channel `chan proto.TestRun` with `capacity` slots, and ghost
observations. -/
structure Chan (α : Type) where
  capacity : Nat
  buffer : List (Nat × α)
  unsubscribed : Bool
  waiting : Bool
  received : List (Nat × α)
  subscribedAt : Option Nat
  unsubscribedAt : Option Nat
  fullAt : List Nat

/-- A channel not made yet. -/
def Chan.empty {α : Type} : Chan α := ⟨0, [], false, false, [], none, none, []⟩

/-- The runs a channel was given: those its owner received, then those it holds. -/
def Chan.delivered {α : Type} (ch : Chan α) : List (Nat × α) := ch.received ++ ch.buffer

/-- A run put into the channel is given after the others. -/
@[simp] theorem Chan.delivered_push {α : Type} (ch : Chan α) (x : Nat × α) :
    ({ ch with buffer := ch.buffer ++ [x] } : Chan α).delivered = ch.delivered ++ [x] := by
  simp [Chan.delivered]

/-- A run handed to the waiting owner of an empty channel is given after the others. -/
theorem Chan.delivered_handOff {α : Type} {ch : Chan α} (hb : ch.buffer = []) (x : Nat × α) :
    ({ ch with waiting := false, received := ch.received ++ [x] } : Chan α).delivered =
      ch.delivered ++ [x] := by
  simp [Chan.delivered, hb]

/-- A receive moves the first run the channel holds to those received. -/
theorem Chan.delivered_receive {α : Type} {ch : Chan α} {x : Nat × α} {xs : List (Nat × α)}
    (hb : ch.buffer = x :: xs) :
    ({ ch with buffer := xs, received := ch.received ++ [x] } : Chan α).delivered = ch.delivered := by
  simp [Chan.delivered, hb]

/-- The broadcaster, its channels and the subscribers' channels. -/
structure State (α : Type) where
  subCh : List (Nat × Listener)
  unsubCh : List Nat
  pubCh : List α
  subs : GoMap Nat Listener
  current : Option α
  pending : List Nat
  chans : Nat → Chan α
  nextChan : Nat
  log : List α

/-- The state before any goroutine runs. -/
def init {α : Type} : State α := ⟨[], [], [], ∅, none, [], fun _ => Chan.empty, 0, []⟩

/-- The channel operations: a goroutine publishes, subscribes, or unsubscribes the channel
it owns, an owner receives from its channel, blocks in its `select` on it, or leaves the
`select` by another case, and `Start` takes a subscription, an unsubscription or a run, or
sends the run it took to one more subscriber. -/
inductive Label (α : Type)
  | publish (r : α)
  | subscribe (name : String) (channelSize : Nat)
  | unsubscribe (c : Nat)
  | receive (c : Nat)
  | wait (c : Nat)
  | leave (c : Nat)
  | takeSub
  | takeUnsub
  | takePub
  | send (c : Nat)

section Step

variable {α : Type} (publishCap : Nat)

/-- One channel operation; `none` when the goroutine is blocked. `testRunSubCh` and
`testRunUnsubCh` have one slot and `testRunPubCh` has `publishCap`. -/
def step (s : State α) : Label α → Option (State α)
  | .publish r =>
    if s.pubCh.length < publishCap then some { s with pubCh := s.pubCh ++ [r] } else none
  | .subscribe name channelSize =>
    if s.subCh.length < 1 then
      some { s with
        subCh := s.subCh ++ [(s.nextChan, ⟨name, channelSize⟩)]
        chans := Function.update s.chans s.nextChan { Chan.empty with capacity := channelSize }
        nextChan := s.nextChan + 1 }
    else none
  | .unsubscribe c =>
    -- the deferred unsubscription runs after the owner has left its `select`
    if c < s.nextChan ∧ (s.chans c).unsubscribed = false ∧ (s.chans c).waiting = false ∧
        s.unsubCh.length < 1 then
      some { s with
        unsubCh := s.unsubCh ++ [c]
        chans := Function.update s.chans c { s.chans c with unsubscribed := true } }
    else none
  | .receive c =>
    if (s.chans c).unsubscribed = false then
      match (s.chans c).buffer with
      | x :: xs =>
        some { s with
          chans := Function.update s.chans c
            { s.chans c with buffer := xs, received := (s.chans c).received ++ [x] } }
      | [] => none
    else none
  | .wait c =>
    if c < s.nextChan ∧ (s.chans c).unsubscribed = false ∧ (s.chans c).waiting = false ∧
        (s.chans c).buffer = [] then
      some { s with chans := Function.update s.chans c { s.chans c with waiting := true } }
    else none
  | .leave c =>
    if (s.chans c).waiting = true then
      some { s with chans := Function.update s.chans c { s.chans c with waiting := false } }
    else none
  | .takeSub =>
    -- `Start` is in its `select` only once the last fan-out is over
    if s.pending = [] then
      match s.subCh with
      | (c, listener) :: rest =>
        some { s with
          subCh := rest
          subs := s.subs.insert c listener
          chans := Function.update s.chans c { s.chans c with subscribedAt := some s.log.length } }
      | [] => none
    else none
  | .takeUnsub =>
    if s.pending = [] then
      match s.unsubCh with
      | c :: rest =>
        some { s with
          unsubCh := rest
          subs := s.subs.erase c
          chans := Function.update s.chans c
            { s.chans c with unsubscribedAt := some s.log.length } }
      | [] => none
    else none
  | .takePub =>
    if s.pending = [] then
      match s.pubCh with
      | r :: rest =>
        some { s with
          pubCh := rest
          current := some r
          pending := s.subs.keys
          -- ghost: the subscribers whose channel is full as the run is taken
          chans := fun c => { s.chans c with
            fullAt :=
              if c ∈ s.subs.keys ∧ (s.chans c).capacity ≤ (s.chans c).buffer.length then
                (s.chans c).fullAt ++ [s.log.length]
              else (s.chans c).fullAt }
          log := s.log ++ [r] }
      | [] => none
    else none
  | .send c =>
    -- `select { case resCh <- res: default: }` for the subscriber `c`: the send goes through
    -- to an owner waiting on the channel, or into a channel with room
    match s.current with
    | some r =>
      if c ∈ s.pending then
        some { s with
          pending := s.pending.erase c
          chans :=
            if (s.chans c).waiting then
              Function.update s.chans c
                { s.chans c with
                  waiting := false
                  received := (s.chans c).received ++ [(s.log.length - 1, r)] }
            else if (s.chans c).buffer.length < (s.chans c).capacity then
              Function.update s.chans c
                { s.chans c with buffer := (s.chans c).buffer ++ [(s.log.length - 1, r)] }
            else s.chans }
      else none
    | none => none

end Step

section Invariant

variable {α : Type}

/-- What holds of channel `c` in every reachable state. A run in a channel is tagged with
its position in `log`; the window of a subscriber is the runs taken after its subscription
and before its unsubscription. -/
structure ChanInv (s : State α) (c : Nat) : Prop where
  unused : s.nextChan ≤ c → s.chans c = Chan.empty
  sorted : ((s.chans c).delivered.map Prod.fst).Pairwise (· < ·)
  logged : ∀ x ∈ (s.chans c).delivered, s.log[x.1]? = some x.2
  fresh : c ∈ s.pending → ∀ x ∈ (s.chans c).delivered, x.1 + 1 < s.log.length
  subscribed : ∀ x ∈ (s.chans c).delivered, ∃ t, (s.chans c).subscribedAt = some t ∧ t ≤ x.1
  beforeUnsub : ∀ x ∈ (s.chans c).received, ∀ u, (s.chans c).unsubscribedAt = some u → x.1 < u
  unsubFlag : (s.chans c).unsubscribedAt ≠ none → (s.chans c).unsubscribed = true
  unsubAt : ∀ u, (s.chans c).unsubscribedAt = some u → u ≤ s.log.length
  inSubs : (s.chans c).subscribedAt ≠ none → (s.chans c).unsubscribedAt = none → c ∈ s.subs.keys
  subsAt : c ∈ s.subs.keys → ∃ t, (s.chans c).subscribedAt = some t ∧ t ≤ s.log.length
  pendingAt : c ∈ s.pending → ∃ t, (s.chans c).subscribedAt = some t ∧ t + 1 ≤ s.log.length
  room : c ∈ s.pending →
    (s.chans c).buffer.length < (s.chans c).capacity ∨ s.log.length - 1 ∈ (s.chans c).fullAt
  complete : ∀ i < s.log.length, (∃ t, (s.chans c).subscribedAt = some t ∧ t ≤ i) →
    (∀ u, (s.chans c).unsubscribedAt = some u → i < u) →
    i ∈ (s.chans c).delivered.map Prod.fst ∨ i ∈ (s.chans c).fullAt ∨
      (c ∈ s.pending ∧ i + 1 = s.log.length)
  subMsg : ∀ l, (c, l) ∈ s.subCh → (s.chans c).subscribedAt = none ∧ c < s.nextChan
  unsubMsg : c ∈ s.unsubCh →
    (s.chans c).unsubscribed = true ∧ (s.chans c).unsubscribedAt = none
  waitEmpty : (s.chans c).waiting = true → (s.chans c).buffer = []
  waitFlag : (s.chans c).waiting = true → (s.chans c).unsubscribed = false

/-- What holds of every reachable state. -/
structure Inv (s : State α) : Prop where
  chan : ∀ c, ChanInv s c
  current : s.pending ≠ [] → ∃ r, s.current = some r ∧ s.log[s.log.length - 1]? = some r
  nodup : s.pending.Nodup
  subCh : s.subCh.length ≤ 1
  unsubCh : s.unsubCh.length ≤ 1

theorem inv_init : Inv (init : State α) where
  chan c := by
    constructor <;> simp [init, Chan.empty, Chan.delivered]
  current := by simp [init]
  nodup := by simp [init]
  subCh := by simp [init]
  unsubCh := by simp [init]

/-- A channel's invariant depends on the state only through the channel, the log, whether
the channel is subscribed or due a run, the messages naming it and how many channels
were made. -/
theorem ChanInv.frame {s s' : State α} {c : Nat} (h : ChanInv s c)
    (hch : s'.chans c = s.chans c) (hlog : s'.log = s.log) (hn : s.nextChan ≤ s'.nextChan)
    (hp : c ∈ s'.pending ↔ c ∈ s.pending) (hk : c ∈ s'.subs.keys ↔ c ∈ s.subs.keys)
    (hsub : ∀ l, (c, l) ∈ s'.subCh → (c, l) ∈ s.subCh) (hun : c ∈ s'.unsubCh → c ∈ s.unsubCh) :
    ChanInv s' c := by
  constructor <;> simp only [hch, hlog, hp, hk]
  · exact fun hc => h.unused (by omega)
  · exact h.sorted
  · exact h.logged
  · exact h.fresh
  · exact h.subscribed
  · exact h.beforeUnsub
  · exact h.unsubFlag
  · exact h.unsubAt
  · exact h.inSubs
  · exact h.subsAt
  · exact h.pendingAt
  · exact h.room
  · exact h.complete
  · intro l hl
    obtain ⟨hnone, hlt⟩ := h.subMsg l (hsub l hl)
    exact ⟨hnone, by omega⟩
  · exact fun hl => h.unsubMsg (hun hl)
  · exact h.waitEmpty
  · exact h.waitFlag

theorem ChanInv.lt_length {s : State α} {c : Nat} (h : ChanInv s c) {x : Nat × α}
    (hx : x ∈ (s.chans c).delivered) : x.1 < s.log.length :=
  (List.getElem?_eq_some_iff.mp (h.logged x hx)).1

theorem ChanInv.lt_nextChan_of_subscribedAt {s : State α} {c t : Nat} (h : ChanInv s c)
    (ht : (s.chans c).subscribedAt = some t) : c < s.nextChan := by
  by_contra hle
  rw [h.unused (by omega)] at ht
  cases ht

theorem ChanInv.not_mem_keys_of_unused {s : State α} {c : Nat} (h : ChanInv s c)
    (hc : s.nextChan ≤ c) : c ∉ s.subs.keys := fun hk => by
  obtain ⟨t, ht, -⟩ := h.subsAt hk
  exact absurd (h.lt_nextChan_of_subscribedAt ht) (by omega)

/-- An owner that has not unsubscribed has no unsubscription taken by `Start`. -/
theorem ChanInv.unsubscribedAt_eq_none {s : State α} {c : Nat} (h : ChanInv s c)
    (hflag : (s.chans c).unsubscribed = false) : (s.chans c).unsubscribedAt = none := by
  by_contra hne
  simp [h.unsubFlag hne] at hflag

/-- A message taken from a one-slot channel leaves it empty. -/
theorem tail_eq_nil_of_length_le_one {β : Type} {l rest : List β} {x : β} (hl : l = x :: rest)
    (hlen : l.length ≤ 1) : rest = [] := by
  rw [hl, List.length_cons] at hlen
  exact List.eq_nil_of_length_eq_zero (by omega)

/-! ### A channel given the last run taken

A send gives channel `c` the last run taken, into its buffer or to its waiting owner; either
way the runs it was given grow by that run, and these are the fields of `ChanInv` that read
them. -/

section Give

variable {s : State α} {c : Nat} {r : α}

theorem ChanInv.sorted_give (h : ChanInv s c) (hmem : c ∈ s.pending) :
    (((s.chans c).delivered ++ [(s.log.length - 1, r)]).map Prod.fst).Pairwise (· < ·) := by
  rw [List.map_append, List.pairwise_append]
  refine ⟨h.sorted, List.pairwise_singleton _ _, fun a ha b hb => ?_⟩
  obtain ⟨x, hx, rfl⟩ := List.mem_map.mp ha
  rw [List.map_singleton, List.mem_singleton] at hb
  have := h.fresh hmem x hx
  omega

theorem ChanInv.logged_give (h : ChanInv s c) (hlast : s.log[s.log.length - 1]? = some r) :
    ∀ x ∈ (s.chans c).delivered ++ [(s.log.length - 1, r)], s.log[x.1]? = some x.2 := by
  intro x hx
  rcases List.mem_append.mp hx with hx | hx
  · exact h.logged x hx
  · rw [List.mem_singleton.mp hx]
    exact hlast

theorem ChanInv.subscribed_give (h : ChanInv s c) (hmem : c ∈ s.pending) :
    ∀ x ∈ (s.chans c).delivered ++ [(s.log.length - 1, r)],
      ∃ t, (s.chans c).subscribedAt = some t ∧ t ≤ x.1 := by
  obtain ⟨t, ht, htle⟩ := h.pendingAt hmem
  intro x hx
  rcases List.mem_append.mp hx with hx | hx
  · exact h.subscribed x hx
  · rw [List.mem_singleton.mp hx]
    exact ⟨t, ht, by omega⟩

/-- Every run of the window is given, or was found with the channel full, once the last one
is given. -/
theorem ChanInv.complete_give (h : ChanInv s c) (i : Nat) (hi : i < s.log.length)
    (hsub : ∃ t, (s.chans c).subscribedAt = some t ∧ t ≤ i)
    (hunsub : ∀ u, (s.chans c).unsubscribedAt = some u → i < u) :
    i ∈ ((s.chans c).delivered ++ [(s.log.length - 1, r)]).map Prod.fst ∨
      i ∈ (s.chans c).fullAt := by
  rw [List.map_append, List.mem_append]
  rcases h.complete i hi hsub hunsub with hd | hf | ⟨-, hi'⟩
  · exact .inl (.inl hd)
  · exact .inr hf
  · exact .inl (.inr (by simp only [List.map_singleton, List.mem_singleton]; omega))

end Give

end Invariant

section Preservation

variable {α : Type} {publishCap : Nat} {s s' : State α}

theorem Inv.publish {r : α} (h : Inv s) (hs : step publishCap s (.publish r) = some s') :
    Inv s' := by
  simp only [step] at hs
  split_ifs at hs
  cases hs
  exact ⟨fun c => (h.chan c).frame rfl rfl le_rfl Iff.rfl Iff.rfl (fun _ => id) id,
    h.current, h.nodup, h.subCh, h.unsubCh⟩

theorem Inv.subscribe {name : String} {size : Nat} (h : Inv s)
    (hs : step publishCap s (.subscribe name size) = some s') : Inv s' := by
  simp only [step] at hs
  split_ifs at hs with hlen
  cases hs
  have hnil : s.subCh = [] := List.eq_nil_of_length_eq_zero (by omega)
  refine ⟨fun c => ?_, h.current, h.nodup, by simp [hnil], h.unsubCh⟩
  by_cases hc : c = s.nextChan
  · -- the channel `make` returns: no set and no message names it yet
    subst hc
    have hnew := (h.chan s.nextChan).unused le_rfl
    have hk := (h.chan s.nextChan).not_mem_keys_of_unused le_rfl
    have hp : s.nextChan ∉ s.pending := fun hm => by
      obtain ⟨t, ht, -⟩ := (h.chan _).pendingAt hm
      simp [hnew, Chan.empty] at ht
    have hu : s.nextChan ∉ s.unsubCh := fun hm => by
      have := ((h.chan _).unsubMsg hm).1
      simp [hnew, Chan.empty] at this
    constructor
    case unused => exact fun hle => absurd hle (Nat.not_succ_le_self _)
    all_goals simp [Chan.empty, Chan.delivered, hk, hp, hu, hnil]
  · refine (h.chan c).frame (Function.update_of_ne hc _ _) rfl (Nat.le_succ _) Iff.rfl Iff.rfl
      (fun l hl => ?_) id
    simp [hnil, hc] at hl

theorem Inv.unsubscribe {c₀ : Nat} (h : Inv s)
    (hs : step publishCap s (.unsubscribe c₀) = some s') : Inv s' := by
  simp only [step] at hs
  split_ifs at hs with hg
  obtain ⟨hlt, hflag, hwait, hlen⟩ := hg
  cases hs
  have hnil : s.unsubCh = [] := List.eq_nil_of_length_eq_zero (by omega)
  refine ⟨fun c => ?_, h.current, h.nodup, h.subCh, by simp [hnil]⟩
  by_cases hc : c = c₀
  · subst hc
    -- an owner unsubscribes once, so `Start` has not taken an unsubscription of it
    have hnone := (h.chan c).unsubscribedAt_eq_none hflag
    obtain ⟨-, sorted, logged, fresh, subscribed, beforeUnsub, -, unsubAt, inSubs, subsAt,
      pendingAt, room, complete, subMsg, -, waitEmpty, -⟩ := h.chan c
    constructor <;> simp only [Function.update_self] <;> try assumption
    · intro hle; omega
    · exact fun _ => trivial
    · exact fun _ => ⟨trivial, hnone⟩
    · intro hw
      rw [hwait] at hw
      cases hw
  · refine (h.chan c).frame (Function.update_of_ne hc _ _) rfl le_rfl Iff.rfl Iff.rfl
      (fun _ => id) (fun hl => ?_)
    simp [hnil, hc] at hl

theorem Inv.receive {c₀ : Nat} (h : Inv s) (hs : step publishCap s (.receive c₀) = some s') :
    Inv s' := by
  simp only [step] at hs
  split_ifs at hs with hflag
  split at hs
  · rename_i x xs hb
    cases hs
    refine ⟨fun c => ?_, h.current, h.nodup, h.subCh, h.unsubCh⟩
    by_cases hc : c = c₀
    · subst hc
      have hnone := (h.chan c).unsubscribedAt_eq_none hflag
      -- the owner moves the first run it holds to the runs it received
      obtain ⟨unused, sorted, logged, fresh, subscribed, -, unsubFlag, unsubAt, inSubs, subsAt,
        pendingAt, room, complete, subMsg, unsubMsg, waitEmpty, waitFlag⟩ := h.chan c
      constructor <;> simp only [Function.update_self, Chan.delivered_receive hb] <;>
        try assumption
      · intro hle
        simp [unused hle, Chan.empty] at hb
      · intro y _ u hu
        simp [hnone] at hu
      · intro hm
        rcases room hm with hlt | hf
        · left
          rw [hb, List.length_cons] at hlt
          omega
        · exact .inr hf
      · -- an owner holding a run is not waiting
        intro hw
        rw [waitEmpty hw] at hb
        cases hb
    · exact (h.chan c).frame (Function.update_of_ne hc _ _) rfl le_rfl Iff.rfl Iff.rfl
        (fun _ => id) id
  · cases hs

theorem Inv.takeSub (h : Inv s) (hs : step publishCap s .takeSub = some s') : Inv s' := by
  simp only [step] at hs
  split_ifs at hs with hpend
  split at hs
  · rename_i c₀ l rest hsub
    cases hs
    have hrest : rest = [] := tail_eq_nil_of_length_le_one hsub h.subCh
    subst hrest
    refine ⟨fun c => ?_, h.current, h.nodup, by simp, h.unsubCh⟩
    by_cases hc : c = c₀
    · subst hc
      obtain ⟨hnone, hlt⟩ := (h.chan c).subMsg l (by simp [hsub])
      -- nothing reached the channel before its subscription was taken
      have hdel : (s.chans c).delivered = [] := by
        rw [List.eq_nil_iff_forall_not_mem]
        intro x hx
        obtain ⟨t, ht, -⟩ := (h.chan c).subscribed x hx
        simp [hnone] at ht
      obtain ⟨-, sorted, logged, fresh, -, beforeUnsub, unsubFlag, unsubAt, -, -,
        -, -, -, -, unsubMsg⟩ := h.chan c
      constructor <;> simp only [Function.update_self] <;> try assumption
      · intro hle
        omega
      · intro x hx
        have hx' : x ∈ (s.chans c).delivered := hx
        simp [hdel] at hx'
      · intro _ _
        simp [AList.keys_insert]
      · exact fun _ => ⟨_, rfl, le_rfl⟩
      · intro hm
        simp [hpend] at hm
      · intro hm
        simp [hpend] at hm
      · rintro i hi ⟨t, ht, hle⟩
        cases ht
        omega
      · intro _ hm
        simp at hm
    · refine (h.chan c).frame (Function.update_of_ne hc _ _) rfl le_rfl Iff.rfl ?_
        (fun _ hm => by simp at hm) id
      rw [← AList.mem_keys, ← AList.mem_keys, AList.mem_insert]
      simp [hc]
  · cases hs

theorem Inv.takeUnsub (h : Inv s) (hs : step publishCap s .takeUnsub = some s') : Inv s' := by
  simp only [step] at hs
  split_ifs at hs with hpend
  split at hs
  · rename_i c₀ rest hun
    cases hs
    have hrest : rest = [] := tail_eq_nil_of_length_le_one hun h.unsubCh
    subst hrest
    refine ⟨fun c => ?_, h.current, h.nodup, h.subCh, by simp⟩
    by_cases hc : c = c₀
    · subst hc
      obtain ⟨hflag, hnone⟩ := (h.chan c).unsubMsg (by simp [hun])
      obtain ⟨unused, sorted, logged, fresh, subscribed, -, -, -, -, -,
        pendingAt, room, complete, subMsg, -⟩ := h.chan c
      constructor <;> simp only [Function.update_self] <;> try assumption
      · intro hle
        simp [unused hle, Chan.empty] at hflag
      · intro x hx u hu
        cases hu
        exact (h.chan c).lt_length (List.mem_append_left _ hx)
      · exact fun _ => hflag
      · intro u hu
        cases hu
        exact le_rfl
      · intro _ hsome
        simp at hsome
      · intro hk
        rw [← AList.mem_keys, AList.mem_erase] at hk
        exact absurd rfl hk.1
      · intro i hi hsub _
        exact complete i hi hsub (by simp [hnone])
      · intro hm
        simp at hm
    · refine (h.chan c).frame (Function.update_of_ne hc _ _) rfl le_rfl Iff.rfl ?_
        (fun _ => id) (fun hm => by simp at hm)
      rw [← AList.mem_keys, ← AList.mem_keys, AList.mem_erase]
      simp [hc]
  · cases hs

theorem Inv.takePub (h : Inv s) (hs : step publishCap s .takePub = some s') : Inv s' := by
  simp only [step] at hs
  split_ifs at hs with hpend
  split at hs
  · rename_i r rest hpub
    cases hs
    refine ⟨fun c => ?_, fun _ => ⟨r, rfl, by simp⟩, AList.keys_nodup _, h.subCh, h.unsubCh⟩
    -- the run taken is at position `s.log.length`; the runs found full before stay recorded
    have hfull : ∀ i ∈ (s.chans c).fullAt, i ∈ (if c ∈ s.subs.keys ∧
        (s.chans c).capacity ≤ (s.chans c).buffer.length then
          (s.chans c).fullAt ++ [s.log.length] else (s.chans c).fullAt) := by
      intro i hi
      split_ifs <;> simp [hi]
    have hlen : (s.log ++ [r]).length = s.log.length + 1 := by simp
    obtain ⟨unused, sorted, logged, fresh, subscribed, beforeUnsub, unsubFlag, unsubAt, inSubs,
      subsAt, pendingAt, room, complete, subMsg, unsubMsg⟩ := h.chan c
    constructor <;> dsimp only <;> try assumption
    · intro hle
      have hk := (h.chan c).not_mem_keys_of_unused hle
      rw [if_neg (fun hc => hk hc.1), unused hle]
    · intro x hx
      rw [List.getElem?_append_left ((h.chan c).lt_length hx)]
      exact logged x hx
    · intro _ x hx
      have hlt := (h.chan c).lt_length hx
      omega
    · intro u hu
      have hle := unsubAt u hu
      omega
    · intro hk
      obtain ⟨t, ht, hle⟩ := subsAt hk
      exact ⟨t, ht, by omega⟩
    · intro hk
      obtain ⟨t, ht, hle⟩ := subsAt hk
      exact ⟨t, ht, by omega⟩
    · intro hk
      by_cases hcap : (s.chans c).capacity ≤ (s.chans c).buffer.length
      · right
        rw [if_pos ⟨hk, hcap⟩]
        simp
      · left
        omega
    · intro i hi hsub hunsub
      rw [hlen] at hi ⊢
      rcases Nat.lt_or_ge i s.log.length with hlt | hge
      · rcases complete i hlt hsub hunsub with hd | hf | ⟨hm, -⟩
        · exact .inl hd
        · exact .inr (.inl (hfull i hf))
        · simp [hpend] at hm
      · -- the run just taken: the channel is still subscribed, so it is due the run
        have hnone : (s.chans c).unsubscribedAt = none := by
          cases hu : (s.chans c).unsubscribedAt with
          | none => rfl
          | some u =>
            have h₁ := unsubAt u hu
            have h₂ := hunsub u hu
            omega
        obtain ⟨t, ht, -⟩ := hsub
        exact .inr (.inr ⟨inSubs (by simp [ht]) hnone, by omega⟩)
  · cases hs

theorem Inv.send {c₀ : Nat} (h : Inv s) (hs : step publishCap s (.send c₀) = some s') :
    Inv s' := by
  simp only [step] at hs
  split at hs
  · rename_i r hcur
    obtain ⟨hmem, hs⟩ := Option.ite_none_right_eq_some.mp hs
    cases hs
    obtain ⟨r', hr', hlast⟩ := h.current (List.ne_nil_of_mem hmem)
    rw [hcur, Option.some.injEq] at hr'
    subst hr'
    refine ⟨fun c => ?_, fun hne => h.current (fun he => hne (by simp [he])), h.nodup.erase c₀,
      h.subCh, h.unsubCh⟩
    by_cases hc : c = c₀
    · subst hc
      have hout : c ∉ s.pending.erase c := h.nodup.not_mem_erase
      have hc := h.chan c
      obtain ⟨t, ht, -⟩ := hc.pendingAt hmem
      have hlt := hc.lt_nextChan_of_subscribedAt ht
      obtain ⟨-, sorted, logged, fresh, subscribed, beforeUnsub, unsubFlag, unsubAt, inSubs,
        subsAt, -, room, complete, subMsg, unsubMsg, waitEmpty, waitFlag⟩ := h.chan c
      by_cases hwait : (s.chans c).waiting = true
      · -- the owner waiting on the channel takes the run at once
        have hnone := hc.unsubscribedAt_eq_none (waitFlag hwait)
        constructor <;>
          simp only [if_pos hwait, Function.update_self, Chan.delivered_handOff (waitEmpty hwait)] <;>
          try assumption
        · intro hle
          omega
        · exact hc.sorted_give hmem
        · exact hc.logged_give hlast
        · exact fun hm => absurd hm hout
        · exact hc.subscribed_give hmem
        · intro x _ u hu
          simp [hnone] at hu
        · exact fun hm => absurd hm hout
        · exact fun hm => absurd hm hout
        · exact fun i hi hsub hunsub => (hc.complete_give i hi hsub hunsub).imp_right .inl
        · exact fun _ => waitEmpty hwait
        · exact fun _ => waitFlag hwait
      by_cases hroom : (s.chans c).buffer.length < (s.chans c).capacity
      · -- the run goes into the channel, after every run it was given before
        constructor <;>
          simp only [if_neg hwait, if_pos hroom, Function.update_self, Chan.delivered_push] <;>
          try assumption
        · intro hle
          omega
        · exact hc.sorted_give hmem
        · exact hc.logged_give hlast
        · exact fun hm => absurd hm hout
        · exact hc.subscribed_give hmem
        · exact fun hm => absurd hm hout
        · exact fun hm => absurd hm hout
        · exact fun i hi hsub hunsub => (hc.complete_give i hi hsub hunsub).imp_right .inl
        · exact fun hw => absurd hw hwait
      · -- the channel is full: the run is dropped, as recorded when it was taken
        constructor <;> simp only [if_neg hwait, if_neg hroom] <;> try assumption
        · intro hle
          omega
        · exact fun hm => absurd hm hout
        · exact fun hm => absurd hm hout
        · exact fun hm => absurd hm hout
        · intro i hi hsub hunsub
          rcases hc.complete i hi hsub hunsub with hd | hf | ⟨-, hi'⟩
          · exact .inl hd
          · exact .inr (.inl hf)
          · rcases room hmem with hlt' | hf
            · exact absurd hlt' hroom
            · exact .inr (.inl (by rw [show i = s.log.length - 1 by omega]; exact hf))
    · have hch : (if (s.chans c₀).waiting then
          Function.update s.chans c₀ { s.chans c₀ with
            waiting := false
            received := (s.chans c₀).received ++ [(s.log.length - 1, r)] }
          else if (s.chans c₀).buffer.length < (s.chans c₀).capacity then
          Function.update s.chans c₀ { s.chans c₀ with
            buffer := (s.chans c₀).buffer ++ [(s.log.length - 1, r)] }
          else s.chans) c = s.chans c := by
        split_ifs
        · exact Function.update_of_ne hc _ _
        · exact Function.update_of_ne hc _ _
        · rfl
      exact (h.chan c).frame hch rfl le_rfl (List.mem_erase_of_ne hc) Iff.rfl (fun _ => id) id
  · cases hs

theorem Inv.wait {c₀ : Nat} (h : Inv s) (hs : step publishCap s (.wait c₀) = some s') :
    Inv s' := by
  simp only [step] at hs
  obtain ⟨⟨hlt, hflag, -, hbuf⟩, hs⟩ := Option.ite_none_right_eq_some.mp hs
  cases hs
  refine ⟨fun c => ?_, h.current, h.nodup, h.subCh, h.unsubCh⟩
  by_cases hc : c = c₀
  · -- only the flag changes, on an empty channel whose owner has not unsubscribed
    subst hc
    obtain ⟨-, sorted, logged, fresh, subscribed, beforeUnsub, unsubFlag, unsubAt, inSubs,
      subsAt, pendingAt, room, complete, subMsg, unsubMsg, -, -⟩ := h.chan c
    constructor <;> simp only [Function.update_self] <;> try assumption
    · intro hle
      omega
    · exact fun _ => hbuf
    · exact fun _ => hflag
  · exact (h.chan c).frame (Function.update_of_ne hc _ _) rfl le_rfl Iff.rfl Iff.rfl
      (fun _ => id) id

theorem Inv.leave {c₀ : Nat} (h : Inv s) (hs : step publishCap s (.leave c₀) = some s') :
    Inv s' := by
  simp only [step] at hs
  obtain ⟨hwait, hs⟩ := Option.ite_none_right_eq_some.mp hs
  cases hs
  refine ⟨fun c => ?_, h.current, h.nodup, h.subCh, h.unsubCh⟩
  by_cases hc : c = c₀
  · -- the owner leaves its `select`; a channel that is not made has no owner waiting on it
    subst hc
    obtain ⟨unused, sorted, logged, fresh, subscribed, beforeUnsub, unsubFlag, unsubAt, inSubs,
      subsAt, pendingAt, room, complete, subMsg, unsubMsg, -, -⟩ := h.chan c
    constructor <;> simp only [Function.update_self] <;> try assumption
    · intro hle
      simp [unused hle, Chan.empty] at hwait
    · intro hw
      cases hw
    · intro hw
      cases hw
  · exact (h.chan c).frame (Function.update_of_ne hc _ _) rfl le_rfl Iff.rfl Iff.rfl
      (fun _ => id) id

/-- Every step keeps the invariant. -/
theorem Inv.of_step (h : Inv s) {l : Label α} (hs : step publishCap s l = some s') : Inv s' := by
  cases l with
  | publish r => exact h.publish hs
  | subscribe name size => exact h.subscribe hs
  | unsubscribe c => exact h.unsubscribe hs
  | receive c => exact h.receive hs
  | wait c => exact h.wait hs
  | leave c => exact h.leave hs
  | takeSub => exact h.takeSub hs
  | takeUnsub => exact h.takeUnsub hs
  | takePub => exact h.takePub hs
  | send c => exact h.send hs

theorem inv_of_reachable (h : Transition.Reachable (step publishCap) (fun _ => True) init s) :
    Inv s :=
  h.invariant inv_init (fun _ _ _ _ hi hs => hi.of_step hs)

end Preservation

section Delivery

variable {α : Type} {publishCap : Nat} {s : State α}

/-- The runs `Start` took after it took the subscription of channel `c` and before it took
its unsubscription, or up to now while it has not. -/
def window (s : State α) (c : Nat) : List α :=
  match (s.chans c).subscribedAt with
  | none => []
  | some t => (s.log.take ((s.chans c).unsubscribedAt.getD s.log.length)).drop t

theorem ChanInv.received_sorted {c : Nat} (h : ChanInv s c) :
    ((s.chans c).received.map Prod.fst).Pairwise (· < ·) :=
  h.sorted.sublist ((List.sublist_append_left _ _).map Prod.fst)

theorem ChanInv.received_sublist_window {c : Nat} (h : ChanInv s c) :
    ((s.chans c).received.map Prod.snd).Sublist (window s c) := by
  have hrec : ∀ x ∈ (s.chans c).received, x ∈ (s.chans c).delivered :=
    fun x hx => List.mem_append_left _ hx
  unfold window
  cases ht : (s.chans c).subscribedAt with
  | none =>
    -- a channel whose subscription was not taken was given nothing
    have hnil : (s.chans c).received = [] := by
      rw [List.eq_nil_iff_forall_not_mem]
      intro x hx
      obtain ⟨t, ht', -⟩ := h.subscribed x (hrec x hx)
      rw [ht] at ht'
      cases ht'
    simp [hnil]
  | some t =>
    refine sublist_drop_of_indices h.received_sorted fun x hx => ⟨?_, ?_⟩
    · obtain ⟨t', ht', hle⟩ := h.subscribed x (hrec x hx)
      rw [ht, Option.some.injEq] at ht'
      omega
    · have hlt : x.1 < (s.chans c).unsubscribedAt.getD s.log.length := by
        cases hu : (s.chans c).unsubscribedAt with
        | none => exact h.lt_length (hrec x hx)
        | some u => exact h.beforeUnsub x hx u hu
      rw [List.getElem?_take_of_lt hlt]
      exact h.logged x (hrec x hx)

/-- While channel `c` is due the last run taken, `Start` can send it. -/
theorem Inv.send_enabled (h : Inv s) {c : Nat} (hc : c ∈ s.pending) :
    ∃ s', step publishCap s (.send c) = some s' := by
  obtain ⟨r, hr, -⟩ := h.current (List.ne_nil_of_mem hc)
  simp only [step, hr, if_pos hc]
  exact ⟨_, rfl⟩

/-- The test-run exporter subscribes with a buffer of one, two runs are published, and it
receives only after both were fanned out: the second is dropped. -/
def exporterRun : List (Label Nat) :=
  [.subscribe "ext-storage-manager" 1, .takeSub, .publish 7, .publish 8, .takePub, .send 0,
    .takePub, .send 0, .receive 0]

/-- The state the run `exporterRun` reaches. -/
def exporterState : State Nat := (Transition.run (step 1000) init exporterRun).getD init

example : (exporterState.chans 0).received = [(0, 7)] ∧ (exporterState.chans 0).fullAt = [1] := by
  decide

/-- An owner of an unbuffered channel blocks in its `select`, and the run sent to it is handed
over although the channel was full when the run was taken. -/
example :
    ((Transition.run (step 1000) init
        [.subscribe "watcher" 0, .takeSub, .wait 0, .publish 7, .takePub, .send 0]).map
      fun s => ((s.chans 0).received, (s.chans 0).fullAt)) = some ([(0, 7)], [0]) := by
  decide

end Delivery

end SyntheticHeart.Broadcaster
