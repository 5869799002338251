import Wisp.Client.Grip
import Wisp.DataPlane.Loop
import Wisp.Lib.Doorbell

/-!
# Frame signals

`wispc_publish` makes a frame the latest one and writes to the eventfd afterwards, the data
plane drains the eventfd and looks at the ring afterwards. Publishers, the data plane, kicks
and evictions interleave freely, and both threads of a client take steps of their own.

For the data plane this is a `Doorbell`: a publish posts, the write to the eventfd rings, a
drained eventfd is answered, and a checkout looks.
-/

namespace Wisp

open Transition System

/-- The ring, the data plane and the clients, all of which hold the one eventfd of the
server. -/
structure Feed where
  ring : Ring
  dataPlane : DataPlane
  clients : Nat → Client

/-- A step of one of the threads, or a message or the end of the stream that the control
plane leaves for a client. -/
inductive FeedEvent where
  | deliver (c : Nat) (msg : ServerMsg)
  | hangUp (c : Nat)
  | control (c : Nat) (ok : Bool) (now : Timespec)
  | app (c : Nat) (choice : Choice)
  | loop (ev : LoopEvent)
  | kick
  | evict
  | setMode (width height : UInt32)
  | halt

namespace Feed

/-- Change one client. -/
def setClient (x : Feed) (c : Nat) (client : Client) : Feed :=
  { x with clients := Function.update x.clients c client }

/-- The write that ends `wispc_publish`. -/
def signalled (dp : DataPlane) (client : Client) : DataPlane :=
  if client.app = .signal ∧ 0 ≤ client.frameFd then
    { dp with frameFd := eventfdWrite dp.frameFd }
  else dp

def step (x : Feed) : FeedEvent → Option Feed
  | .deliver c msg => some (x.setClient c ((x.clients c).deliver msg))
  | .hangUp c => some (x.setClient c { x.clients c with hungUp := true })
  | .control c ok now => ((x.clients c).controlStep x.ring ok now).map (x.setClient c)
  | .app c choice =>
      ((x.clients c).appStep x.ring choice).map fun next =>
        { x.setClient c next.1 with
          ring := next.2
          dataPlane := signalled x.dataPlane (x.clients c) }
  | .loop ev =>
      (x.dataPlane.step x.ring ev).map fun next => { x with dataPlane := next.1, ring := next.2 }
  | .kick => some { x with dataPlane := x.dataPlane.kick }
  | .evict => some { x with ring := x.ring.evictClient }
  | .setMode width height => some { x with dataPlane := x.dataPlane.setMode width height }
  | .halt => some { x with dataPlane := x.dataPlane.halt }

/-- The clients and the data plane as a transition system. -/
def system : System Feed FeedEvent where
  step := step

/-- Fresh clients, and a server that has just started. -/
def boot (ids : Nat → ClientId) (modes : Nat → List RenderMode) (width height : UInt32) : Feed where
  ring := .create
  dataPlane := .init width height
  clients := fun c => .fresh (ids c) (modes c)

end Feed

/-- What has happened to the frames so far: who published last, unless there was a checkout
since, and the buffer published last, unless there was an eviction since. -/
structure Sighting where
  unseen : Option Nat
  newest : Option Buf
  deriving DecidableEq

namespace Sighting

def none : Sighting := ⟨.none, .none⟩

def note (h : Sighting) (x : Feed) (ev : FeedEvent) (_ : Feed) : Sighting :=
  match ev with
  | .app c _ =>
      match (x.clients c).app with
      | .publishLocked idx _ => ⟨some c, some idx⟩
      | _ => h
  | .loop _ => if x.dataPlane.loop = .checkout then { h with unseen := .none } else h
  | .evict => { h with newest := .none }
  | _ => h

end Sighting

namespace Feed

/-- The system with the record of its frames. -/
def sighted : System (Feed × Sighting) FeedEvent :=
  system.record Sighting.note

/-- The step is a checkout. -/
def ChecksOut (x : Feed) (ev : FeedEvent) : Prop :=
  x.dataPlane.loop = .checkout ∧ ∃ turn, ev = .loop turn

/-- The data plane can go on, and whatever else happens, it checks out a frame before it
waits again. -/
def WillCheckout (x : Feed) : Prop :=
  (∃ y, system.step x (.loop .next) = some y) ∧
    ∀ trace y, system.Run x trace y → y.dataPlane.loop = .wait →
      ∃ p ∈ trace, ChecksOut p.1 p.2

/-- A frame that is ready and has not been checked out is being signalled, or its checkout is
due. -/
def NoLostSignal (x : Feed × Sighting) : Prop :=
  ∀ c, 0 ≤ x.1.ring.latestReady → x.2.unseen = some c →
    0 < x.1.dataPlane.frameFd ∨ (x.1.clients c).app = .signal ∨ x.1.WillCheckout

/-- A data plane that sleeps with no signal on the way has seen the frame that is ready. -/
def CaughtUp (x : Feed × Sighting) : Prop :=
  x.1.dataPlane.loop = .wait → x.1.dataPlane.frameFd = 0 →
    (∀ c, (x.1.clients c).app ≠ .signal) → 0 ≤ x.1.ring.latestReady → x.2.unseen = none

/-- What a checkout returns is the frame published last. -/
def TakesNewest (x : Feed × Sighting) : Prop :=
  x.1.ring.checkout.1 = x.2.newest.elim (-1) fun idx => (idx.val : Int)

/-- The parties as poster, bell and consumer. -/
def doorbell (x : Feed × Sighting) : Doorbell Nat where
  unseen := x.2.unseen
  silent := { c | (x.1.clients c).app = .signal }
  rings := x.1.dataPlane.frameFd
  answering := x.1.dataPlane.loop.bound = true

end Feed

/-- `wispc_handle_grant` has adopted a descriptor and not set `active` yet. -/
def ControlPc.storing : ControlPc → Bool
  | .storeGeneration _ | .storeActive => true
  | _ => false

theorem ControlPc.Leads.storing {pc pc' : ControlPc} {sent : Option MsgKind}
    (leads : pc.Leads sent pc') : pc'.storing = false := by
  cases leads <;> rfl

namespace Client

variable {a b : Client} {ring ring' : Ring}

/-- A step changes `frame_fd` only to a descriptor, and no grant is stored without one. -/
def Adopts (a b : Client) : Prop :=
  b.frameFd = a.frameFd ∧ (b.control.storing = true → a.control.storing = true) ∨ 0 ≤ b.frameFd

theorem adopts_of_controlStep {ok : Bool} {now : Timespec}
    (taken : a.controlStep ring ok now = some b) : Adopts a b := by
  have goes {next : Client} (same : next.frameFd = a.frameFd)
      (elsewhere : next.control.storing = false) : Adopts a next :=
    .inl ⟨same, fun stores => absurd stores (by simp [elsewhere])⟩
  have refuses : a.refuseGrant.frameFd = a.frameFd ∧ a.refuseGrant.control.storing = false := by
    unfold refuseGrant
    split <;> exact ⟨rfl, rfl⟩
  cases proceeds_of_controlStep taken with
  | moves leads | sends leads => exact goes rfl leads.storing
  | @negotiates msg =>
      rcases a.taken.negotiate_cases msg with gone | ⟨mode, asks⟩
      · exact goes (by rw [gone]; rfl) (by rw [gone]; rfl)
      · exact goes (by rw [asks]; rfl) (by rw [asks]; rfl)
  | @activates msg => cases msg <;> exact goes rfl rfl
  | @dispatches msg =>
      cases msg with
      | dmabufAck accepted => cases accepted <;> exact goes rfl rfl
      | _ => exact goes rfl rfl
  | unattached | unpassed => exact goes refuses.1 refuses.2
  | adopts _ passed => exact .inr passed
  | stores stands => exact .inl ⟨rfl, fun _ => by rw [stands]; rfl⟩
  | readies =>
      refine goes rfl ?_
      simp only [resume, goto]
      split <;> rfl
  | disarms stands => rcases stands with ⟨-, rfl⟩ | ⟨-, rfl⟩ <;> exact goes rfl rfl
  | gone | attaches | arms | spawns => exact goes rfl rfl

/-- The control thread moves the application only at the end of `wispc_connect`. -/
theorem app_of_controlStep {ok : Bool} {now : Timespec} (sane : a.Sane)
    (taken : a.controlStep ring ok now = some b) :
    b.app = a.app ∨ a.app = .offline ∧ (b.app = .top ∨ b.app = .gone) := by
  cases handled_of_controlStep sane taken with
  | keep _ _ _ _ _ app => exact app
  | adopt _ _ _ app => exact .inl app
  | arm _ _ _ _ _ app => exact .inl app
  | clear _ _ _ _ _ app => exact .inl app

/-- A client that may publish holds the eventfd. -/
def Equipped (client : Client) : Prop :=
  client.active = true ∨ client.app.busy = true ∨ client.control.storing = true →
    0 ≤ client.frameFd

theorem equipped_of_controlStep {ok : Bool} {now : Timespec} (sane : a.Sane)
    (equipped : a.Equipped) (taken : a.controlStep ring ok now = some b) : b.Equipped := by
  intro publishes
  rcases adopts_of_controlStep taken with ⟨same, storing⟩ | owned
  · rw [same]
    apply equipped
    rcases publishes with active | busy | stores
    · cases handled_of_controlStep sane taken with
      | keep _ _ still => exact .inl (still ▸ active)
      | adopt _ still => exact .inl (still ▸ active)
      | arm _ _ _ before => exact .inr (.inr (by rw [before]; rfl))
      | clear _ _ cleared => simp [cleared] at active
    · rcases app_of_controlStep sane taken with app | ⟨-, app | app⟩
      · exact .inr (.inl (app ▸ busy))
      · simp [app, AppPc.busy] at busy
      · simp [app, AppPc.busy] at busy
    · exact .inr (.inr (storing stores))
  · exact owned

/-- What one step of the application does to the frames: it publishes, it signals, or it does
neither. -/
theorem appStep_signal {choice : Choice} (taken : a.appStep ring choice = some (b, ring')) :
    b.frameFd = a.frameFd ∧
      ((∃ idx generation, a.app = .publishLocked idx generation ∧ b.app = .signal ∧
          ring' = ring.publishLocked idx) ∨
        a.app = .signal ∧ b.app ≠ .signal ∧ ring' = ring ∨
        (∀ idx generation, a.app ≠ .publishLocked idx generation) ∧ a.app ≠ .signal ∧
          b.app ≠ .signal ∧ ring'.latestReady = ring.latestReady) := by
  have idles := appStep_top taken
  cases before : a.app <;> simp only [appStep, before] at taken
  case offline | gone | aborted => cases taken
  case top =>
      obtain ⟨rfl, running, ack, app, rfl, goes⟩ := idles before
      refine ⟨rfl, .inr (.inr ⟨by simp, by simp, ?_, rfl⟩)⟩
      rcases goes with ⟨rfl, -⟩ | rfl | rfl | ⟨payload, fds, rfl⟩ <;> simp
  case claim =>
      split at taken
      · rename_i idx ring claimed
        obtain ⟨-, -, rfl⟩ := Ring.writeSlot_spec claimed
        cases taken
        exact ⟨rfl, .inr (.inr ⟨by simp, by simp, by simp [turn], rfl⟩)⟩
      · cases taken
        exact ⟨rfl, .inr (.inr ⟨by simp, by simp, by simp [exit], rfl⟩)⟩
  case publishLocked idx generation =>
      cases taken
      exact ⟨rfl, .inl ⟨idx, generation, rfl, rfl, rfl⟩⟩
  case signal =>
      cases taken
      exact ⟨rfl, .inr (.inl ⟨rfl, by simp [turn], rfl⟩)⟩
  case join =>
      split at taken
      · cases taken
        exact ⟨rfl, .inr (.inr ⟨by simp, by simp, by simp [turn], rfl⟩)⟩
      · cases taken
  case publish | compare | ringLoaded | grantedLoaded | awaitAck =>
      cases taken
      refine ⟨rfl, .inr (.inr ⟨by simp, by simp, ?_, rfl⟩)⟩
      simp only [turn]
      split <;> simp
  all_goals
    cases taken
    exact ⟨rfl, .inr (.inr ⟨by simp, by simp, by simp [turn, exit], rfl⟩)⟩

theorem equipped_of_appStep {choice : Choice} (equipped : a.Equipped)
    (taken : a.appStep ring choice = some (b, ring')) : b.Equipped := by
  intro publishes
  rw [(appStep_signal taken).1]
  have acted := acted_of_appStep taken
  apply equipped
  rcases publishes with active | busy | stores
  · exact .inl (acted.active active)
  · rcases acted.busy busy with before | active
    · exact .inr (.inl before)
    · exact .inl active
  · rcases acted.control with same | ended
    · rw [same] at stores
      exact .inr (.inr stores)
    · rw [ended] at stores
      cases stores

end Client

namespace Feed

variable {x y : Feed × Sighting} {ev : FeedEvent}

/-- The clients are in order. -/
def Ready (x : Feed) : Prop :=
  ∀ c, (x.clients c).Sane ∧ (x.clients c).Equipped

/-- What is true of the changed client, and was true of the others, is true of all. -/
theorem ready_setClient {x : Feed} {c : Nat} {client : Client} (ready : x.Ready)
    (changed : client.Sane ∧ client.Equipped) : (x.setClient c client).Ready := by
  intro d
  by_cases same : d = c
  · subst same
    simpa [setClient] using changed
  · simpa [setClient, same] using ready d

theorem ready_step {x y : Feed} (ready : x.Ready) (taken : system.step x ev = some y) :
    y.Ready := by
  cases ev with
  | deliver c msg =>
      cases taken
      refine ready_setClient ready ?_
      unfold Client.deliver
      split <;> exact ready c
  | hangUp c =>
      cases taken
      exact ready_setClient ready (ready c)
  | control c ok now =>
      obtain ⟨client, stepped, rfl⟩ := Option.map_eq_some_iff.mp taken
      obtain ⟨sane, equipped⟩ := ready c
      exact ready_setClient ready ⟨Client.sane_of_controlStep sane stepped,
        Client.equipped_of_controlStep sane equipped stepped⟩
  | app c choice =>
      obtain ⟨⟨client, ring⟩, stepped, rfl⟩ := Option.map_eq_some_iff.mp taken
      obtain ⟨sane, equipped⟩ := ready c
      exact ready_setClient ready ⟨Client.sane_of_appStep sane stepped,
        Client.equipped_of_appStep equipped stepped⟩
  | loop ev =>
      obtain ⟨next, stepped, rfl⟩ := Option.map_eq_some_iff.mp taken
      exact ready
  | kick | evict | setMode | halt =>
      cases taken
      exact ready

/-- Whether a client is before its write depends on its application only. -/
theorem silent_setClient {x : Feed} {c : Nat} {client : Client}
    (same : client.app = .signal ↔ (x.clients c).app = .signal) :
    { d | ((x.setClient c client).clients d).app = .signal } =
      { d | (x.clients d).app = .signal } := by
  ext d
  by_cases here : d = c
  · subst here
    simpa [setClient] using same
  · simp [setClient, here]

/-- A doorbell changes by its parts. -/
theorem doorbell_eq {d : Doorbell Nat} (unseen : y.2.unseen = d.unseen)
    (silent : { c | (y.1.clients c).app = .signal } = d.silent)
    (rings : y.1.dataPlane.frameFd = d.rings)
    (answering : y.1.dataPlane.loop.bound = true ↔ d.answering) : doorbell y = d := by
  cases d
  simp only [doorbell, Doorbell.mk.injEq]
  exact ⟨unseen, silent, rings, propext answering⟩

/-- Nothing happens that the doorbell is about. -/
theorem step_of_same (unseen : y.2.unseen = x.2.unseen)
    (silent : { c | (y.1.clients c).app = .signal } = { c | (x.1.clients c).app = .signal })
    (rings : y.1.dataPlane.frameFd = x.1.dataPlane.frameFd)
    (answering : y.1.dataPlane.loop.bound = x.1.dataPlane.loop.bound) :
    (doorbell x).Step (doorbell y) := by
  have same : doorbell y = doorbell x := doorbell_eq unseen silent rings (by rw [answering]; rfl)
  rw [same]
  exact .rest

@[simp] theorem signalled_loop (dp : DataPlane) (client : Client) :
    (signalled dp client).loop = dp.loop := by
  unfold signalled
  split <;> rfl

theorem signalled_of_ne {dp : DataPlane} {client : Client} (elsewhere : client.app ≠ .signal) :
    signalled dp client = dp :=
  if_neg fun signals => elsewhere signals.1

/-- A step of the application posts, rings, or does neither. -/
theorem step_of_app (ready : x.1.Ready) {c : Nat} {choice : Choice}
    (taken : sighted.step x (.app c choice) = some y) : (doorbell x).Step (doorbell y) := by
  obtain ⟨moved, noted⟩ := record_step.mp taken
  obtain ⟨⟨client, ring⟩, stepped, rest⟩ := Option.map_eq_some_iff.mp moved
  have clients : y.1.clients = Function.update x.1.clients c client := by rw [← rest]; rfl
  have dataPlane : y.1.dataPlane = signalled x.1.dataPlane (x.1.clients c) := by rw [← rest]
  have answering : y.1.dataPlane.loop.bound = x.1.dataPlane.loop.bound := by
    rw [dataPlane, signalled_loop]
  obtain ⟨-, ⟨idx, generation, stands, goes, -⟩ | ⟨stands, goes, -⟩ | ⟨elsewhere, busy, goes, -⟩⟩ :=
    Client.appStep_signal stepped
  · have posted : doorbell y = { doorbell x with
        unseen := some c, silent := insert c (doorbell x).silent } := by
      refine doorbell_eq ?_ ?_ ?_ (by rw [answering]; rfl)
      · simp [noted, Sighting.note, stands]
      · ext d
        by_cases here : d = c
        · subst here
          simp [clients, goes]
        · simp [clients, here, doorbell]
      · rw [dataPlane, signalled_of_ne (by simp [stands])]
        rfl
    rw [posted]
    exact .post
  · have owned : 0 ≤ (x.1.clients c).frameFd := (ready c).2 (.inr (.inl (by rw [stands]; rfl)))
    have rung : doorbell y = { doorbell x with
        silent := (doorbell x).silent \ {c}
        rings := eventfdWrite x.1.dataPlane.frameFd } := by
      refine doorbell_eq ?_ ?_ ?_ (by rw [answering]; rfl)
      · simp [noted, Sighting.note, stands, doorbell]
      · ext d
        by_cases here : d = c
        · subst here
          simp [clients, goes]
        · simp [clients, here, doorbell]
      · simp [dataPlane, signalled, stands, owned]
    rw [rung]
    exact .ring (eventfdWrite_pos _)
  · refine step_of_same ?_ ?_ ?_ answering
    · rw [noted]
      simp only [Sighting.note]
    · ext d
      by_cases here : d = c
      · subst here
        simp [clients, goes, busy]
      · simp [clients, here]
    · rw [dataPlane, signalled_of_ne busy]

/-- A step of the data plane answers, looks, or does neither. -/
theorem step_of_loop {ev : LoopEvent} (taken : sighted.step x (.loop ev) = some y) :
    (doorbell x).Step (doorbell y) := by
  obtain ⟨moved, noted⟩ := record_step.mp taken
  obtain ⟨⟨dp, ring⟩, stepped, rest⟩ := Option.map_eq_some_iff.mp moved
  have silent : { c | (y.1.clients c).app = .signal } = (doorbell x).silent := by
    rw [← rest]
    rfl
  have dataPlane : y.1.dataPlane = dp := by rw [← rest]
  have unseen (elsewhere : x.1.dataPlane.loop ≠ .checkout) : y.2.unseen = x.2.unseen := by
    simp [noted, Sighting.note, elsewhere]
  have answers (elsewhere : x.1.dataPlane.loop ≠ .checkout) (bound : dp.loop.bound = true) :
      (doorbell x).Step (doorbell y) := by
    have answered : doorbell y =
        { doorbell x with rings := dp.frameFd, answering := dp.loop.bound = true } :=
      doorbell_eq (unseen elsewhere) silent (by rw [dataPlane]) (by rw [dataPlane])
    rw [answered]
    exact .answer bound
  cases DataPlane.turns_of_step stepped with
  | @moves loop elsewhere bound =>
      cases after : loop.bound with
      | true => exact answers elsewhere after
      | false =>
          have before : x.1.dataPlane.loop.bound = false := by
            by_contra bounded
            simp [bound (by simpa using bounded)] at after
          exact step_of_same (unseen elsewhere) silent (by rw [dataPlane]; rfl)
            (by rw [dataPlane, before]; exact after)
  | @clears source events haveFrameSignal stands =>
      have elsewhere : x.1.dataPlane.loop ≠ .checkout := by simp [stands]
      cases source with
      | frameFd =>
          refine answers elsewhere ?_
          rw [DataPlane.clear_loop, stands]
          simp [LoopPc.bound]
      | abortFd =>
          exact step_of_same (unseen elsewhere) silent (by rw [dataPlane]; rfl)
            (by rw [dataPlane]; rfl)
  | checksOut stands =>
      have looked : doorbell y =
          { doorbell x with unseen := none, answering := y.1.dataPlane.loop.bound = true } := by
        refine doorbell_eq (by simp [noted, Sighting.note, stands]) silent ?_ Iff.rfl
        rw [dataPlane]
        unfold DataPlane.checkedOut
        split <;> rfl
      rw [looked]
      exact .look
  | releases stands | counts stands =>
      refine step_of_same (unseen (by simp [stands])) silent ?_ (by rw [dataPlane, stands]; rfl)
      rw [dataPlane]
      try unfold DataPlane.account
      first | rfl | (split <;> rfl)

/-- Every step of the system is one of the doorbell. -/
theorem doorbell_step (ready : x.1.Ready) (taken : sighted.step x ev = some y) :
    (doorbell x).Step (doorbell y) := by
  cases ev with
  | app => exact step_of_app ready taken
  | loop => exact step_of_loop taken
  | deliver c msg =>
      obtain ⟨moved, noted⟩ := record_step.mp taken
      have after := Option.some.inj moved
      refine step_of_same (by rw [noted]; rfl) ?_ (by rw [← after]; rfl) (by rw [← after]; rfl)
      rw [← after]
      refine silent_setClient ?_
      unfold Client.deliver
      split <;> exact Iff.rfl
  | hangUp c =>
      obtain ⟨moved, noted⟩ := record_step.mp taken
      have after := Option.some.inj moved
      refine step_of_same (by rw [noted]; rfl) ?_ (by rw [← after]; rfl) (by rw [← after]; rfl)
      rw [← after]
      exact silent_setClient Iff.rfl
  | control c ok now =>
      obtain ⟨moved, noted⟩ := record_step.mp taken
      obtain ⟨client, stepped, after⟩ := Option.map_eq_some_iff.mp moved
      refine step_of_same (by rw [noted]; rfl) ?_ (by rw [← after]; rfl) (by rw [← after]; rfl)
      rw [← after]
      apply silent_setClient
      rcases Client.app_of_controlStep (ready c).1 stepped with same | ⟨offline, ended | ended⟩
      · rw [same]
      · simp [offline, ended]
      · simp [offline, ended]
  | kick | evict | setMode | halt =>
      obtain ⟨moved, noted⟩ := record_step.mp taken
      have after := Option.some.inj moved
      refine step_of_same (by rw [noted]; rfl) ?_ ?_ ?_ <;> rw [← after] <;> rfl

/-- What holds of a run so far. -/
structure Accounts (x : Feed × Sighting) : Prop where
  ready : x.1.Ready
  heard : (doorbell x).Heard
  newest : TakesNewest x

theorem accounts_boot (ids : Nat → ClientId) (modes : Nat → List RenderMode)
    (width height : UInt32) : Accounts (boot ids modes width height, .none) where
  ready c := by
    refine ⟨Client.sane_fresh _ _, ?_⟩
    rintro (active | busy | stores)
    · cases active
    · cases busy
    · cases stores
  heard c unseen := by cases unseen
  newest := rfl

/-- The buffer that is ready is the one published last. -/
theorem takesNewest_step (newest : TakesNewest x) (taken : sighted.step x ev = some y) :
    TakesNewest y := by
  obtain ⟨moved, noted⟩ := record_step.mp taken
  have keep (same : y.1.ring.latestReady = x.1.ring.latestReady) (still : y.2.newest = x.2.newest) :
      TakesNewest y := by
    change y.1.ring.latestReady = _
    rw [same, still]
    exact newest
  cases ev with
  | app c choice =>
      obtain ⟨⟨client, ring⟩, stepped, after⟩ := Option.map_eq_some_iff.mp moved
      have left : y.1.ring = ring := by rw [← after]
      obtain ⟨-, ⟨idx, generation, stands, -, rfl⟩ | ⟨stands, -, rfl⟩ |
        ⟨elsewhere, -, -, same⟩⟩ := Client.appStep_signal stepped
      · change y.1.ring.latestReady = _
        rw [left, noted]
        simp only [Sighting.note, stands]
        rfl
      · refine keep (by rw [left]) ?_
        simp [noted, Sighting.note, stands]
      · refine keep (by rw [left, same]) ?_
        rw [noted]
        simp only [Sighting.note]
  | loop ev =>
      obtain ⟨⟨dp, ring⟩, stepped, after⟩ := Option.map_eq_some_iff.mp moved
      refine keep ?_ ?_
      · have left : y.1.ring = ring := by rw [← after]
        rw [left]
        cases DataPlane.turns_of_step stepped with
        | checksOut =>
            unfold Ring.checkout
            split <;> rfl
        | _ => rfl
      · rw [noted]
        simp only [Sighting.note]
        split <;> rfl
  | evict =>
      have after := Option.some.inj moved
      change y.1.ring.latestReady = _
      rw [← after, noted]
      rfl
  | control c ok now =>
      obtain ⟨client, -, after⟩ := Option.map_eq_some_iff.mp moved
      exact keep (by rw [← after]; rfl) (by rw [noted]; rfl)
  | deliver | hangUp =>
      have after := Option.some.inj moved
      exact keep (by rw [← after]; rfl) (by rw [noted]; rfl)
  | kick | setMode | halt =>
      have after := Option.some.inj moved
      exact keep (by rw [← after]) (by rw [noted]; rfl)

theorem accounts_step (accounts : Accounts x) (taken : sighted.step x ev = some y) :
    Accounts y where
  ready := ready_step accounts.ready (record_step.mp taken).1
  heard := accounts.heard.step (doorbell_step accounts.ready taken)
  newest := takesNewest_step accounts.newest taken

/-- A data plane that is bound for a checkout stays so until the checkout. -/
theorem bound_step {x y : Feed} (bound : x.dataPlane.loop.bound = true)
    (taken : system.step x ev = some y) :
    y.dataPlane.loop.bound = true ∨ ChecksOut x ev := by
  cases ev with
  | loop ev =>
      obtain ⟨⟨dp, ring⟩, stepped, rfl⟩ := Option.map_eq_some_iff.mp taken
      cases DataPlane.turns_of_step stepped with
      | moves elsewhere still => exact .inl (still bound)
      | clears => exact .inl (by rw [DataPlane.clear_loop]; exact bound)
      | checksOut stands => exact .inr ⟨stands, _, rfl⟩
      | releases stands | counts stands => simp [stands, LoopPc.bound] at bound
  | app c choice =>
      obtain ⟨next, -, rfl⟩ := Option.map_eq_some_iff.mp taken
      exact .inl (by rw [signalled_loop]; exact bound)
  | control c ok now =>
      obtain ⟨client, -, rfl⟩ := Option.map_eq_some_iff.mp taken
      exact .inl bound
  | deliver | hangUp | kick | evict | setMode | halt =>
      cases taken
      exact .inl bound

/-- So it looks at the ring before it sleeps again. -/
theorem willCheckout_of_bound {x : Feed} (bound : x.dataPlane.loop.bound = true) :
    x.WillCheckout := by
  constructor
  · have moves : ∃ next, x.dataPlane.next x.ring = some next := by
      cases stands : x.dataPlane.loop with
      | drain events haveFrameSignal =>
          cases events with
          | nil => exact ⟨_, by rw [DataPlane.next, stands]⟩
          | cons source events =>
              simp only [DataPlane.next, stands]
              split
              · exact ⟨_, rfl⟩
              · exact ⟨_, rfl⟩
      | checkout => exact ⟨_, by rw [DataPlane.next, stands]⟩
      | _ => simp [stands, LoopPc.bound] at bound
    obtain ⟨next, moves⟩ := moves
    exact ⟨_, Option.map_eq_some_iff.mpr ⟨next, moves, rfl⟩⟩
  · intro trace y run waits
    have reaches : y.dataPlane.loop.bound = true ∨ ∃ p ∈ trace, ChecksOut p.1 p.2 := by
      clear waits
      induction run with
      | nil => exact .inl bound
      | snoc prior taken ih =>
          rcases ih with still | ⟨p, member, checks⟩
          · rcases bound_step still taken with still | checks
            · exact .inl still
            · exact .inr ⟨_, List.mem_append_right _ (List.mem_singleton_self _), checks⟩
          · exact .inr ⟨p, List.mem_append_left _ member, checks⟩
    rcases reaches with still | checks
    · simp [waits, LoopPc.bound] at still
    · exact checks

/-- No frame signal is lost, whatever the interleaving: in every state reached a frame that is
ready and unseen is still being signalled, signalled, or about to be checked out. A data plane
asleep has seen the frame, and what it sees is the newest one. -/
theorem noLostSignal_of_run {ids : Nat → ClientId} {modes : Nat → List RenderMode}
    {width height : UInt32} {trace : List ((Feed × Sighting) × FeedEvent)}
    (run : sighted.Run (boot ids modes width height, .none) trace x) :
    NoLostSignal x ∧ CaughtUp x ∧ TakesNewest x := by
  have accounts : Accounts x :=
    run.invariant (C := fun _ _ => True) (fun _ _ => trivial) (accounts_boot ids modes width height)
      fun _ _ _ accounts _ => accounts_step accounts
  refine ⟨?_, ?_, accounts.newest⟩
  · intro c _ unseen
    rcases accounts.heard c unseen with rings | silent | answering
    · exact .inl rings
    · exact .inr (.inl silent)
    · exact .inr (.inr (willCheckout_of_bound answering))
  · intro waits quiet nobody _
    cases unseen : x.2.unseen with
    | none => rfl
    | some c =>
        rcases accounts.heard c unseen with rings | silent | answering
        · exact absurd quiet (Nat.ne_of_gt rings)
        · exact absurd silent (nobody c)
        · have answering : x.1.dataPlane.loop.bound = true := answering
          simp [waits, LoopPc.bound] at answering

/-- A client publishes its second frame just after the data plane, woken by a kick and the
signal of the first, has drained both eventfds. -/
theorem noLostSignal_of_run_burst :
    ∃ trace x, sighted.Run (boot (fun _ => .single 97) (fun _ => [⟨320, 240, 60⟩]) 320 240, .none)
        trace x ∧
      trace.map Prod.snd =
        [.evict, .kick, .deliver 0 (.mode true ⟨320, 240, 60⟩), .deliver 0 (.activateGrant 1 5)] ++
          List.replicate 11 (.control 0 true ⟨0, 0⟩) ++ List.replicate 10 (.app 0 {}) ++
          [.loop .next, .loop (.wake [.abortFd, .frameFd]), .loop .next, .loop .next] ++
          List.replicate 8 (.app 0 {}) ++ List.replicate 3 (.loop .next) ++ [.app 0 {}] ∧
      NoLostSignal x ∧ CaughtUp x ∧ TakesNewest x ∧
      x.2 = ⟨some 0, some 1⟩ ∧ x.1.dataPlane.frameFd = 0 := by
  refine Demonstrates.exists_run
    (P := fun _ x => x.2 = ⟨some 0, some 1⟩ ∧ x.1.dataPlane.frameFd = 0) (by decide +kernel) ?_
  rintro trace x run ⟨published, drained⟩
  obtain ⟨kept, caught, newest⟩ := noLostSignal_of_run run
  exact ⟨kept, caught, newest, published, drained⟩

end Feed

end Wisp
