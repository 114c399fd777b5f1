import NmOpenvpn3.Plugin.Steps
import NmOpenvpn3.Concurrent.Outbox

/-!
# State changes

`set_state_via` updates the cached state under its mutex and sends `StateChanged` after releasing
it. Several tasks do so, and nothing orders their signals: one that updates the state later may send
its signal earlier. `stateChanged_in_order` is about the runs in which no task updates the state
while another has yet to send its signal.
-/

namespace NmOpenvpn3

namespace Plugin

open Rust Ovpn Service Concurrent

variable {env : Env} {w w' : World} {t : TaskId} {op : Op} {reply a : Answer}
  {new : NmVpnServiceState} {e : Event}

/-! ## Assigned and announced -/

/-- The state that an event assigns to the cached state. -/
def Event.assigned? : Event → Option NmVpnServiceState
  | .set new true => some new
  | _ => none

/-- The state that an event announces to NetworkManager. -/
def Event.announced? : Event → Option NmVpnServiceState
  | .sent (.stateChanged new) => some new
  | _ => none

theorem Event.assigned?_eq_some : e.assigned? = some new ↔ e = .set new true := by
  cases e with
  | set new' changed => cases changed <;> simp [assigned?]
  | _ => simp [assigned?]

theorem Event.announced?_eq_some : e.announced? = some new ↔ e = .sent (.stateChanged new) := by
  cases e with
  | sent signal => cases signal <;> simp [announced?]
  | _ => simp [announced?]

namespace World

/-- The updates of the cached state, the oldest first, with the tasks that made them. -/
def updates (w : World) : List (TaskId × NmVpnServiceState) :=
  (w.history.filterMap fun e ↦ e.2.assigned?.map (e.1, ·)).reverse

/-- The values that were assigned to the cached state, the oldest first. -/
def assigned (w : World) : List NmVpnServiceState := w.updates.map Prod.snd

/-- The values of the `StateChanged` signals, the oldest first. -/
def announced (w : World) : List NmVpnServiceState :=
  (w.history.filterMap fun e ↦ e.2.announced?).reverse

end World

theorem updates_of_history (hh : w'.history = w.history) : w'.updates = w.updates := by
  rw [World.updates, World.updates, hh]

theorem updates_of_cons (hh : w'.history = (t, e) :: w.history) :
    w'.updates = w.updates ++ (e.assigned?.map (t, ·)).toList := by
  rw [World.updates, World.updates, hh, List.filterMap_cons]
  cases e.assigned? <;> simp

theorem announced_of_history (hh : w'.history = w.history) : w'.announced = w.announced := by
  rw [World.announced, World.announced, hh]

theorem announced_of_cons (hh : w'.history = (t, e) :: w.history) :
    w'.announced = w.announced ++ e.announced?.toList := by
  rw [World.announced, World.announced, hh, List.filterMap_cons]
  cases e.announced? <;> simp

/-- The state that a signal announces. -/
def Signal.state? : Signal → Option NmVpnServiceState
  | .stateChanged new => some new
  | _ => none

/-- The tasks as workers that owe what they have assigned. -/
def stateOutbox (w : World) : Outbox TaskId NmVpnServiceState where
  updates := w.updates
  sent := w.announced
  owes t := (w.owed t).bind Signal.state?

/-- A task updates the cached state only while nobody owes a `StateChanged`; the signal gets out,
and its task is not cancelled before it. -/
structure OneAtATime (env : Env) (w : World) (act : Action) : Prop where
  updates : ∀ t reply new next, act = .run t reply →
    program env w t = some (.setState new, next) → w.owed t = none → w.state ≠ new →
    ∀ s new', w.owed s ≠ some (.stateChanged new')
  emits : ∀ t reply new, act = .run t reply → w.owed t = some (.stateChanged new) → reply = .ok
  cancels : ∀ i b new, act = .cancel i b → w.owed (.background i b) ≠ some (.stateChanged new)

theorem owes_eq_none_iff :
    (stateOutbox w).owes t = none ↔ ∀ new, w.owed t ≠ some (.stateChanged new) := by
  simp only [stateOutbox, Option.bind_eq_none_iff]
  constructor
  · intro h new howed
    cases h _ howed
  · intro h signal howed
    cases signal with
    | stateChanged new => exact absurd howed (h new)
    | _ => rfl

/-! ## Steps -/

/-- An operation that is done without owing a signal has neither assigned nor announced a state. -/
theorem exec_silent {next : Answer → Option (Pc t)} (hprog : program env w t = some (op, next))
    (hexec : exec t w op reply = some (a, w')) (howed' : w'.owed t = none) :
    w'.updates = w.updates ∧ w'.announced = w.announced := by
  obtain hh | ⟨e, he, hh⟩ := exec_history hexec
  · exact ⟨updates_of_history hh, announced_of_history hh⟩
  -- A changed state would be owed as a signal, which the operation does not leave behind.
  have hassigned : e.assigned? = none := by
    rw [Option.eq_none_iff_forall_ne_some]
    intro new hnew
    obtain rfl := Event.assigned?_eq_some.mp hnew
    obtain rfl := Op.records_set.mp he
    simp only [exec] at hexec
    split_ifs at hexec <;> cases hexec
    · simp at hh
    · simp at howed'
  have hannounced : e.announced? = none := by
    rw [Option.eq_none_iff_forall_ne_some]
    intro new hnew
    obtain rfl := Event.announced?_eq_some.mp hnew
    obtain rfl := Op.records_sent.mp he
    exact program_of hprog
  rw [updates_of_cons hh, announced_of_cons hh, hassigned, hannounced]
  simp

/-- A step of a task is a move of the outbox. -/
theorem TaskStep.outbox_move (hone : OneAtATime env w (.run t reply))
    (h : TaskStep env w t reply w') :
    Outbox.Move (stateOutbox w) (stateOutbox w') := by
  cases h with
  | @complete op next a w₁ pc hprog howed hexec howed' hnext =>
    obtain ⟨hupdates, hannounced⟩ := exec_silent hprog hexec howed'
    refine .stay hupdates hannounced (funext fun s ↦ ?_)
    simp only [stateOutbox, World.goto_owed]
    by_cases hs : s = t
    · rw [hs, howed', howed]
    · rw [exec_owed_of_ne hexec hs]
  | @update new next hprog howed hstate =>
    have hset : (({ w with state := new }.note t (.set new true)).owe t
        (some (.stateChanged new))).history = (t, .set new true) :: w.history := rfl
    refine .update t new (fun s ↦ ?_) (updates_of_cons hset) ?_ (funext fun s ↦ ?_)
    · exact owes_eq_none_iff.mpr (hone.updates t reply new next rfl hprog howed hstate s)
    · exact (announced_of_cons hset).trans (List.append_nil _)
    · by_cases hs : s = t
      · subst hs
        simp [stateOutbox, Signal.state?]
      · simp [stateOutbox, hs]
  | @win i reason next hprog howed hflag =>
    refine .stay rfl rfl (funext fun s ↦ ?_)
    by_cases hs : s = t
    · subst hs
      simp [stateOutbox, howed, Signal.state?]
    · simp [stateOutbox, hs]
  | @settle op next signal pc hprog howed hsignal hnext =>
    obtain ⟨new, rfl, rfl⟩ | ⟨i, reason, rfl, rfl⟩ := Op.of_signal hsignal
    · obtain rfl := hone.emits t reply new rfl howed
      have hsent : ((emit t w (.stateChanged new) .ok).goto t pc).history =
          (t, .sent (.stateChanged new)) :: w.history := rfl
      refine .send t new (by simp [stateOutbox, howed, Signal.state?]) ?_ (announced_of_cons hsent)
        (funext fun s ↦ ?_)
      · exact (updates_of_cons hsent).trans (List.append_nil _)
      · by_cases hs : s = t
        · subst hs
          simp [stateOutbox]
        · simp [stateOutbox, hs, emit_owed_of_ne hs]
    · -- A failure signal announces no state.
      refine .stay ?_ ?_ (funext fun s ↦ ?_)
      · cases reply <;> rfl
      · cases reply <;> rfl
      · by_cases hs : s = t
        · subst hs
          simp [stateOutbox, howed, Signal.state?]
        · simp [stateOutbox, emit_owed_of_ne hs]

/-- A step is a move of the outbox. -/
theorem step_outbox {act : Action} (hone : OneAtATime env w act)
    (h : (machine env).step w act = some w') :
    Outbox.Move (stateOutbox w) (stateOutbox w') := by
  obtain ⟨-, ⟨t, reply, rfl, htask⟩ | ⟨i, b, rfl, -, rfl⟩ | ⟨-, -, rfl⟩⟩ := step_cases h
  · exact htask.outbox_move hone
  · refine .stay rfl rfl (funext fun s ↦ ?_)
    by_cases hs : s = .background i b
    · subst hs
      have hnone := owes_eq_none_iff.mpr fun new ↦ hone.cancels i b new rfl
      simp only [stateOutbox] at hnone
      simp [stateOutbox, hnone]
    · simp [stateOutbox, hs]
  · exact .stay rfl rfl rfl

/-! ## The cached state -/

/-- The cached state is the last value assigned. -/
def World.Cached (w : World) : Prop := w.state = w.assigned.getLast?.getD .init

theorem World.Cached.of_eq (hw : w.Cached) (hstate : w'.state = w.state)
    (hupdates : w'.updates = w.updates) : w'.Cached := by
  rw [Cached, assigned, hstate, hupdates]
  exact hw

theorem exec_state (h : exec t w op reply = some (a, w')) (howed' : w'.owed t = none) :
    w'.state = w.state := by
  unfold exec at h
  split at h <;> (try split_ifs at h) <;> cases h <;> first | rfl | simp at howed'

theorem TaskStep.cached (hw : w.Cached) (h : TaskStep env w t reply w') : w'.Cached := by
  cases h with
  | @complete op next a w₁ pc hprog howed hexec howed' hnext =>
    have hw₁ : w₁.Cached := hw.of_eq (exec_state hexec howed') (exec_silent hprog hexec howed').1
    exact hw₁.of_eq rfl rfl
  | @update new next hprog howed hstate =>
    have hset : (({ w with state := new }.note t (.set new true)).owe t
        (some (.stateChanged new))).history = (t, .set new true) :: w.history := rfl
    rw [World.Cached, World.assigned, updates_of_cons hset]
    simp [Event.assigned?]
  | win => exact hw.of_eq rfl rfl
  | settle => cases reply <;> exact hw.of_eq rfl rfl

theorem cached_of_reachable (h : (machine env).Reachable w) : w.Cached := by
  refine invariant_of_steps (I := World.Cached) rfl ?_ ?_ ?_ h
  · exact fun w t reply w' _ _ hw htask ↦ htask.cached hw
  · exact fun w i b _ hw ↦ hw.of_eq rfl rfl
  · exact fun w hw ↦ hw.of_eq rfl rfl

/-- In runs in which the tasks announce their updates one at a time, the announcements are the
assignments but for the one that is still to come, and once none is, NetworkManager has last seen
the cached state. -/
theorem stateChanged_in_order (env : Env) {w : World}
    (h : (machine env).ReachableBy (OneAtATime env) w) :
    w.assigned = w.announced ++ (stateOutbox w).unsent.map Prod.snd ∧
      ((∀ t new, w.owed t ≠ some (.stateChanged new)) →
        w.announced = w.assigned ∧ w.announced.getLast?.getD .init = w.state) := by
  have hsound : (stateOutbox w).Sound := by
    refine h.invariant (I := fun w ↦ (stateOutbox w).Sound) ?_
      fun w act w' hw hone hstep ↦ hw.move (step_outbox hone hstep)
    rintro _ rfl
    refine ⟨rfl, Nat.zero_le 1, fun t v ↦ ?_⟩
    simp [stateOutbox, Outbox.unsent, World.updates, World.init]
  refine ⟨hsound.inOrder, fun hnone ↦ ?_⟩
  have heq : w.announced = w.assigned :=
    hsound.sent_eq fun t ↦ owes_eq_none_iff.mpr (hnone t)
  exact ⟨heq, heq ▸ (cached_of_reachable h.reachable).symm⟩

/-- The listener publishes the configuration and sets the state to `Started`. -/
private def listenerAssigns : List Action :=
  ([.ok, .status 2 7, .ok, .ok, .ok, .ok, .ok, .ok] : List Answer).map
    (.run (.background 0 .listener))

private def startAnnounced : List Action :=
  connectRun ++ listenerAssigns ++ [.run (.background 0 .listener) .ok]

/-- When the listener sets the state, the signal of `connect` is out. -/
private theorem owed_connectRun (s : TaskId) :
    (((machine sampleEnv).run .init connectRun).getD .init).owed s = none := by
  have howed : (((machine sampleEnv).run .init connectRun).getD .init).owed =
      Function.update (Function.update (fun _ ↦ none) (.connect 0)
        (some (.stateChanged .starting))) (.connect 0) none := rfl
  rw [howed, Function.update_idem]
  exact congrFun (Function.update_eq_self _ _) s

theorem stateChanged_in_order_started :
    let w := ((machine sampleEnv).run .init startAnnounced).getD .init
    w.announced = [.starting, .started] ∧ w.announced = w.assigned := by
  refine ⟨rfl, ((stateChanged_in_order sampleEnv
    (Machine.ReachableBy.getD_run ⟨_, rfl, .refl⟩ _ ?_)).2 fun t new howed ↦ ?_).1⟩
  · simp only [startAnnounced, connectRun, listenerAssigns, List.map, List.cons_append,
      List.nil_append, Machine.Allows, and_true]
    and_intros <;> refine ⟨?_, by rintro t reply new ⟨⟩ ⟨⟩ <;> rfl, by rintro i b new ⟨⟩⟩
    all_goals rintro t reply new next ⟨⟩ ⟨⟩ howed - s new' h
    all_goals first
      | exact absurd (show none = some _ from h) nofun
      | exact absurd ((owed_connectRun s).symm.trans h) nofun
      | cases howed
  · have hlistener : (((machine sampleEnv).run .init startAnnounced).getD .init).owed =
        Function.update (Function.update
          (((machine sampleEnv).run .init connectRun).getD .init).owed
          (.background 0 .listener) (some (.stateChanged .started))) (.background 0 .listener)
          none := rfl
    rw [hlistener, Function.update_idem] at howed
    by_cases ht : t = .background 0 .listener
    · subst ht
      simp at howed
    · rw [Function.update_of_ne ht, owed_connectRun] at howed
      cases howed

/-- The poller sees that the connection is gone, sets the state to `Stopped` and sends its
signal. -/
private def pollerStops : List Action :=
  ([.ok, .ok, .status 2 9, .ok, .ok, .ok] : List Answer).map (.run (.background 0 .poller))

/-- The signals of the listener and the poller change places: NetworkManager has last seen the
session start while it has stopped. -/
theorem stateChanged_out_of_order :
    ∃ w, (machine sampleEnv).Reachable w ∧ w.assigned = [.starting, .started, .stopped] ∧
      w.announced = [.starting, .stopped, .started] ∧ w.state = .stopped :=
  ⟨_, Machine.reachable_getD_run (Machine.reachable_of_init rfl)
    (connectRun ++ listenerAssigns ++ pollerStops ++ [.run (.background 0 .listener) .ok]),
    rfl, rfl, rfl⟩

end Plugin

end NmOpenvpn3
