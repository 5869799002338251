import Wisp.Client.Grip
import Wisp.Lib.Epoch
import Wisp.System.Stamp
import Wisp.System.World

/-!
# What one step of the system can do

`Moves` lists the steps of the system by what they do to the generation, to the
grants and to the clients: a step in the background, an increment of the generation, a
grant going out, or a step of one client. Every invariant of the system is derived from
this list.

A ledger keeps the increments of the generation and the grants sent so far.
-/

namespace Wisp

open Transition System Epoch Effect

/-- The ledger after an effect of the control thread. -/
def Effect.note (l : Ledger Int) : Effect → Ledger Int
  | .evictClient => l.bump
  | .send _ fd (.activateGrant generation _) => l.issue fd generation
  | _ => l

theorem Effect.note_of_plain {effect : Effect} (h : effect.plain = true) (l : Ledger Int) :
    effect.note l = l := by
  cases effect with
  | evictClient => cases h
  | send idx fd msg =>
      cases msg with
      | activateGrant => cases h
      | _ => rfl
  | _ => rfl

namespace World

/-- The ledger after a step of the system. -/
def note (l : Ledger Int) (w : World) : WorldEvent → Ledger Int
  | .effect => w.todo.head?.elim l fun effect => effect.note l
  | _ => l

/-- The increments of the generation and the grants sent during a run, in order. -/
def ledger (base : UInt32) (trace : List (World × WorldEvent)) : Ledger Int :=
  trace.foldl (fun l p => note l p.1 p.2) (.opened base)

@[simp] theorem ledger_snoc (base : UInt32) (trace : List (World × WorldEvent)) (w : World)
    (ev : WorldEvent) : ledger base (trace ++ [(w, ev)]) = note (ledger base trace) w ev := by
  simp [ledger]

/-- A step adds to the ledger and takes nothing back. -/
theorem note_spec (l : Ledger Int) (w : World) (ev : WorldEvent) :
    (note l w ev).base = l.base ∧ l.bumps ≤ (note l w ev).bumps := by
  have kept : l.base = l.base ∧ l.bumps ≤ l.bumps := ⟨rfl, Nat.le_refl _⟩
  cases ev with
  | effect =>
      cases todo : w.todo with
      | nil => simp [note, todo]
      | cons effect rest =>
          simp only [note, todo, List.head?_cons, Option.elim_some]
          cases effect with
          | evictClient => exact ⟨rfl, Nat.le_succ _⟩
          | send idx fd msg => cases msg <;> exact kept
          | _ => exact kept
  | _ => exact kept

@[simp] theorem note_base (l : Ledger Int) (w : World) (ev : WorldEvent) :
    (note l w ev).base = l.base :=
  (note_spec l w ev).1

theorem bumps_le_note (l : Ledger Int) (w : World) (ev : WorldEvent) :
    l.bumps ≤ (note l w ev).bumps :=
  (note_spec l w ev).2

section Fields

variable (w : World) (c : Nat) (client : Client) (ring : Ring)

@[simp] theorem setRing_ring : (w.setRing ring).ring = ring := rfl

@[simp] theorem setRing_clients : (w.setRing ring).clients = w.clients := rfl

@[simp] theorem setClient_ring : (w.setClient c client).ring = w.ring := rfl

@[simp] theorem setClient_same : (w.setClient c client).clients c = client := by
  simp [setClient]

theorem setClient_other {d : Nat} (other : d ≠ c) :
    (w.setClient c client).clients d = w.clients d := by
  simp [setClient, other]

end Fields

/-- What is true of the changed client, and was true of the others, is true of all. -/
theorem forall_setClient {P : Nat → Client → Prop} {w : World} {c : Nat} {client : Client}
    (changed : P c client) (others : ∀ d, d ≠ c → P d (w.clients d)) (d : Nat) :
    P d ((w.setClient c client).clients d) := by
  by_cases same : d = c
  · subst same
    rwa [setClient_same]
  · rw [setClient_other _ _ _ same]
    exact others d same

/-- The data plane moves only the server's own lock. -/
theorem frame_of_display {d d' : Display} {ev : RingEvent} (own : ev = .checkout ∨ ev = .release)
    (h : d.step ev = some d') :
    d'.ring.generation = d.ring.generation ∧ d'.ring.clientLocked = d.ring.clientLocked := by
  rcases own with rfl | rfl
  · simp only [Display.step, Ring.checkout] at h
    split at h
    · cases h
    · cases h
      dsimp only
      split <;> exact ⟨rfl, rfl⟩
  · simp only [Display.step] at h
    split at h
    · cases h
      exact ⟨rfl, rfl⟩
    · cases h

/-- The sockets give the server its input; nothing else of a client changes. -/
theorem feed_spec {w fed : World} {ev : Event} (h : w.feed ev = some fed) :
    fed.display = w.display ∧ ∀ c, ∃ outbox accepted,
      fed.clients c = { w.clients c with outbox, accepted } := by
  have unchanged (c : Nat) :
      ∃ outbox accepted, w.clients c = { w.clients c with outbox, accepted } :=
    ⟨_, _, rfl⟩
  have changed {c : Nat} {client : Client}
      (kept : ∃ outbox accepted, client = { w.clients c with outbox, accepted }) (d : Nat) :
      ∃ outbox accepted,
        (w.setClient c client).clients d = { w.clients d with outbox, accepted } :=
    forall_setClient (P := fun d client =>
      ∃ outbox accepted, client = { w.clients d with outbox, accepted }) kept
      (fun d _ => unchanged d) d
  have read {fd : Int} {received : ControlPlane.Received}
      (h : (consumed (w.clients fd.toNat) received).map (w.setClient fd.toNat) = some fed) :
      fed.display = w.display ∧ ∀ c, ∃ outbox accepted,
        fed.clients c = { w.clients c with outbox, accepted } := by
    obtain ⟨client, took, rfl⟩ := Option.map_eq_some_iff.mp h
    refine ⟨rfl, changed ?_⟩
    unfold consumed at took
    split at took
    · cases took
      exact ⟨_, _, rfl⟩
    · split at took
      · cases took
        exact unchanged _
      · cases took
  cases ev with
  | accept fd =>
      simp only [feed] at h
      split at h
      · cases h
        exact ⟨rfl, unchanged⟩
      · obtain ⟨client, took, rfl⟩ := Option.map_eq_some_iff.mp h
        refine ⟨rfl, changed ?_⟩
        unfold admitted at took
        split at took
        · cases took
          exact ⟨_, _, rfl⟩
        · cases took
  | readable idx received =>
      simp only [feed] at h
      split at h
      · cases h
      · exact read h
  | hangup idx =>
      simp only [feed] at h
      split at h
      · cases h
      · exact read h
  | list | switch | tick =>
      cases h
      exact ⟨rfl, unchanged⟩

/-- What is true of every client stays true when the one behind a descriptor changes. -/
theorem forall_atPeer {P : Nat → Client → Prop} {w : World} {fd : Int} {change : Client → Client}
    (all : ∀ c, P c (w.clients c)) (changed : ∀ c : Nat, (c : Int) = fd → P c (change (w.clients c)))
    (c : Nat) : P c ((w.atPeer fd change).clients c) := by
  unfold atPeer
  split
  · exact all c
  · exact forall_setClient (changed _ (by omega)) (fun d _ => all d) c

@[simp] theorem atPeer_ring (w : World) (fd : Int) (change : Client → Client) :
    (w.atPeer fd change).ring = w.ring := by
  unfold atPeer
  split <;> rfl

/-- The control thread takes an event when all effects of the last one have been performed. -/
theorem serve_eq_some {w next : World} {ev : Event} (h : w.serve ev = some next) :
    w.todo = [] ∧ ∃ fed server, w.feed ev = some fed ∧ w.attentive.step ev = some server ∧
      next = { fed with server, todo := server.out } := by
  unfold serve at h
  obtain ⟨empty, handled⟩ := Option.ite_none_right_eq_some.mp h
  obtain ⟨fed, took, stepped⟩ := Option.bind_eq_some_iff.mp handled
  obtain ⟨server, moved, same⟩ := Option.map_eq_some_iff.mp stepped
  exact ⟨List.isEmpty_iff.mp empty, fed, server, took, moved, same.symm⟩

/-- A handler runs on the ring as it is and leaves its effects to be performed. -/
theorem serve_spec {w next : World} {ev : Event} (h : w.serve ev = some next) :
    w.todo = [] ∧ next.display = w.display ∧ w.attentive.step ev = some next.server ∧
      next.todo = next.server.out ∧ ∀ c, ∃ outbox accepted,
        next.clients c = { w.clients c with outbox, accepted } := by
  obtain ⟨settled, fed, server, took, stepped, rfl⟩ := serve_eq_some h
  obtain ⟨display, clients⟩ := feed_spec took
  exact ⟨settled, display, stepped, rfl, clients⟩

theorem perform_ring_of_plain {w : World} {effect : Effect} (plain : effect.plain = true) :
    (w.perform effect).ring = w.ring := by
  cases effect with
  | evictClient => cases plain
  | send | close => exact atPeer_ring _ _ _
  | _ => rfl

theorem quiet_of_plain {w : World} {effect : Effect} (plain : effect.plain = true) (c : Nat) :
    Client.Quiet (w.clients c) ((w.perform effect).clients c) := by
  cases effect with
  | evictClient => cases plain
  | send idx fd msg =>
      refine forall_atPeer (P := fun c => Client.Quiet (w.clients c)) (fun c => .refl _) ?_ c
      intro c _
      cases msg with
      | activateGrant => cases plain
      | _ => exact Client.quiet_deliver _ rfl
  | close fd =>
      refine forall_atPeer (P := fun c => Client.Quiet (w.clients c)) (fun c => .refl _) ?_ c
      exact fun c _ => ⟨rfl, rfl, rfl, rfl, rfl⟩
  | _ => exact .refl _

/-- No step of a producer touches the generation. -/
theorem appStep_generation {a b : Client} {ring ring' : Ring} {choice : Choice}
    (taken : a.appStep ring choice = some (b, ring')) : ring'.generation = ring.generation := by
  have idles := Client.appStep_top taken
  cases before : a.app <;> simp only [Client.appStep, before] at taken
  case claim =>
      split at taken
      · rename_i claimed
        obtain ⟨-, -, rfl⟩ := Ring.writeSlot_spec claimed
        cases taken
        rfl
      · cases taken
        rfl
  case offline | gone | aborted => cases taken
  case top => rw [(idles before).1]
  case join =>
      split at taken <;> cases taken
      rfl
  all_goals
    cases taken
    rfl

/-- The kinds of steps. -/
inductive Moves (w : World) : WorldEvent → World → Prop where
  | background {ev : WorldEvent} {next : World} (noted : ∀ l, note l w ev = l)
      (stamped : ∀ used,
        (w.todo.foldlM stamp (w.ring.generation, used)).isSome = true →
        (next.todo.foldlM stamp (w.ring.generation, used)).isSome = true)
      (quiet : ∀ c, Client.Quiet (w.clients c) (next.clients c))
      (generation : next.ring.generation = w.ring.generation)
      (clientLocked : next.ring.clientLocked = w.ring.clientLocked) : Moves w ev next
  | evict {next : World} (todo : w.todo = .evictClient :: next.todo)
      (ring : next.ring = w.ring.evictClient) (clients : next.clients = w.clients) :
      Moves w .effect next
  | grant {next : World} {idx : Slot} {fd frameFd : Int} {generation : UInt32}
      (todo : w.todo = .send idx fd (.activateGrant generation frameFd) :: next.todo)
      (ring : next.ring = w.ring)
      (clients : next.clients =
        (w.atPeer fd fun client => client.deliver (.activateGrant generation frameFd)).clients) :
      Moves w .effect next
  | control {c : Nat} {ok : Bool} {now : Timespec} {client : Client}
      (stepped : (w.clients c).controlStep w.ring ok now = some client) :
      Moves w (.control c ok now) (w.setClient c client)
  | app {c : Nat} {choice : Choice} {client : Client} {ring : Ring}
      (stepped : (w.clients c).appStep w.ring choice = some (client, ring)) :
      Moves w (.app c choice) ((w.setClient c client).setRing ring)
  | crash {c : Nat} : Moves w (.crash c) (w.setClient c ((w.clients c).exit .gone))

/-- An effect of the control thread. -/
theorem moves_of_effect {w : World} {effect : Effect} {rest : List Effect}
    (todo : w.todo = effect :: rest) : Moves w .effect { w.perform effect with todo := rest } := by
  have noted (l : Ledger Int) : note l w .effect = effect.note l := by simp [note, todo]
  by_cases plain : effect.plain = true
  · have ring : (w.perform effect).ring = w.ring := perform_ring_of_plain plain
    refine .background ?_ ?_ (quiet_of_plain plain) (congrArg Ring.generation ring)
      (congrArg Ring.clientLocked ring)
    · intro l
      rw [noted, note_of_plain plain]
    · intro used stamped
      rwa [todo, List.foldlM_cons, stamp_of_plain plain] at stamped
  · cases effect with
    | evictClient => exact .evict todo rfl rfl
    | send idx fd msg =>
        cases msg with
        | activateGrant generation frameFd => exact .grant todo (atPeer_ring _ _ _) rfl
        | _ => exact absurd rfl plain
    | _ => exact absurd rfl plain

/-- The list is complete. -/
theorem moves_of_step {w next : World} {ev : WorldEvent} (taken : world.step w ev = some next) :
    Moves w ev next := by
  change w.step ev = some next at taken
  cases ev with
  | serve ev =>
      obtain ⟨-, display, stepped, todo, clients⟩ := serve_spec taken
      have ring : next.ring = w.ring := congrArg Display.ring display
      refine .background (fun _ => rfl) ?_ ?_ (congrArg Ring.generation ring)
        (congrArg Ring.clientLocked ring)
      · intro used _
        rw [todo]
        exact ControlPlane.stamped_of_step stepped used
      · intro c
        obtain ⟨outbox, accepted, same⟩ := clients c
        rw [same]
        exact ⟨rfl, rfl, rfl, rfl, rfl⟩
  | effect =>
      simp only [step] at taken
      split at taken
      · cases taken
      · cases taken
        exact moves_of_effect ‹_›
  | control c ok now =>
      obtain ⟨client, stepped, rfl⟩ := Option.map_eq_some_iff.mp taken
      exact .control stepped
  | app c choice =>
      obtain ⟨⟨client, ring⟩, stepped, rfl⟩ := Option.map_eq_some_iff.mp taken
      exact .app stepped
  | crash c =>
      cases taken
      exact .crash
  | checkout =>
      obtain ⟨display, stepped, rfl⟩ := Option.map_eq_some_iff.mp taken
      obtain ⟨generation, clientLocked⟩ := frame_of_display (.inl rfl) stepped
      exact .background (fun _ => rfl) (fun _ => id) (fun c => .refl _) generation clientLocked
  | release =>
      obtain ⟨display, stepped, rfl⟩ := Option.map_eq_some_iff.mp taken
      obtain ⟨generation, clientLocked⟩ := frame_of_display (.inr rfl) stepped
      exact .background (fun _ => rfl) (fun _ => id) (fun c => .refl _) generation clientLocked

/-- Only the first `n` clients take steps of their own. -/
def Involves (n : Nat) : WorldEvent → Bool
  | .control c _ _ | .app c _ | .crash c => c < n
  | _ => true

/-- A client that takes no step of its own has no application running. -/
theorem offline_step {n : Nat} {w next : World} {ev : WorldEvent}
    (offline : ∀ c ≥ n, (w.clients c).app = .offline) (involves : Involves n ev = true)
    (moves : Moves w ev next) : ∀ c ≥ n, (next.clients c).app = .offline := by
  have other {d : Nat} {client : Client} (named : d < n) (c : Nat) (beyond : c ≥ n) :
      ((w.setClient d client).clients c).app = .offline := by
    rw [setClient_other _ _ _ (by omega)]
    exact offline c beyond
  intro c beyond
  cases moves with
  | background _ _ quiet => exact (quiet c).app.trans (offline c beyond)
  | evict _ _ clients =>
      rw [clients]
      exact offline c beyond
  | grant _ _ clients =>
      rw [clients]
      refine forall_atPeer (P := fun c client => c ≥ n → client.app = .offline) offline ?_ c beyond
      intro d _ beyond
      unfold Client.deliver
      split <;> exact offline d beyond
  | control | app | crash => exact other (of_decide_eq_true involves) c beyond

end World

end Wisp
