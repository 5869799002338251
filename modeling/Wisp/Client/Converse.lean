import Wisp.Client.Grip

/-!
# What a client says and hears

The conversation of a client with the server, without what it does with the ring. A phase
says how far the control thread is in it: whether its CONNECT is out, whether it works on a
grant, whether it still has to clear `active`.

`Converses` lists what a step of the control thread can do to the two queues, to `active`
and to the phase.
-/

namespace Wisp

/-- How far the control thread is in its conversation. -/
inductive Phase where
  | unsent
  | awaiting
  | opening
  | accepting
  | ready
  | running
  | yielding
  | done
  deriving DecidableEq

/-- The phase a program counter belongs to. -/
def ControlPc.phase : ControlPc → Phase
  | .dial | .sendConnect => .unsent
  | .awaitMode => .awaiting
  | .sendRequest | .awaitGrant => .opening
  | .attach _ _ | .adopt _ _ | .storeGeneration _ | .storeActive => .accepting
  | .sendReady => .ready
  | .deactivate | .stop => .yielding
  | .done => .done
  | .spawn | .loop | .heartbeat _ | .sendHeartbeat _ | .retry _ | .sendRetry _ | .receive
  | .sendStopped => .running

theorem ControlPc.eq_done {control : ControlPc} (ended : control.phase = .done) :
    control = .done := by
  cases control <;> first | rfl | cases ended

/-- The message takes the RT slot away. -/
def ServerMsg.revokes : ServerMsg → Bool
  | .evictPending _ | .deactivate => true
  | _ => false

namespace Client

/-- `wispc_handle_grant` does not fail at this step. -/
def Admits (client : Client) (ok : Bool) : Prop :=
  match client.control with
  | .attach _ _ => client.attached = true ∨ ok = true
  | .adopt _ frameFd => 0 ≤ frameFd
  | _ => True

instance (client : Client) (ok : Bool) : Decidable (client.Admits ok) :=
  match stands : client.control with
  | .attach _ _ =>
      decidable_of_iff (client.attached = true ∨ ok = true) (by simp [Admits, stands])
  | .adopt _ frameFd => decidable_of_iff (0 ≤ frameFd) (by simp [Admits, stands])
  | .dial | .sendConnect | .awaitMode | .sendRequest | .awaitGrant | .storeGeneration _
  | .storeActive | .sendReady | .spawn | .loop | .heartbeat _ | .sendHeartbeat _ | .retry _
  | .sendRetry _ | .receive | .deactivate | .stop | .sendStopped | .done =>
      isTrue (by simp [Admits, stands])

/-- The phases before and after a message has been taken out of the receive queue. -/
inductive Hears (msg : ServerMsg) (before after : Phase) : Prop where
  | reply (awaits : before = .awaiting) (goes : after = .opening)
  | granted (waits : before = .opening ∨ before = .running) (goes : after = .accepting)
      (grants : msg.grant ≠ none)
  | opened (waits : before = .opening) (goes : after = .running) (other : msg.grant = none)
  | revoked (waits : before = .running) (goes : after = .yielding) (revokes : msg.revokes = true)
  | ignored (waits : before = .running) (goes : after = .running) (other : msg.grant = none)
      (keeps : msg.revokes = false)

/-- The phases before and after a message has been sent. -/
inductive Speaks (kind : MsgKind) (before after : Phase) : Prop where
  | connect (unsent : before = .unsent) (goes : after = .awaiting) (named : kind = .connect)
  | ready (stands : before = .ready) (goes : after = .running) (named : kind = .readyForRt)
  | other (stands : before = .opening ∨ before = .running) (goes : after = before)
      (named : kind = .activateRequest ∨ kind = .heartbeat ∨ kind = .stopped)

/-- The two ends of the socket and `active` stay as they are. -/
structure Silent (a b : Client) : Prop where
  inbox : b.inbox = a.inbox
  outbox : b.outbox = a.outbox
  active : b.active = a.active
  closed : b.closed = a.closed

/-- What one step of the control thread does in the conversation. -/
inductive Converses (ok : Bool) (a b : Client) : Prop where
  | moves (silent : Silent a b) (phase : b.control.phase = a.control.phase ∨
      a.control.phase = .awaiting ∧ b.control.phase = .opening ∨
      a.control.phase = .opening ∧ b.control.phase = .running ∨
      a.control.phase = .running ∧ b.control.phase = .done)
  | refuses (silent : Silent a b) (before : a.control.phase = .accepting)
      (after : b.control.phase = .running) (online : a.app ≠ .offline) (fails : ¬ a.Admits ok)
  | quits (outbox : b.outbox = a.outbox) (closed : b.closed = true) (after : b.control = .done)
  | hears (msg : ServerMsg) (inbox : a.inbox = msg :: b.inbox) (outbox : b.outbox = a.outbox)
      (active : b.active = a.active) (closed : b.closed = a.closed)
      (phase : Hears msg a.control.phase b.control.phase)
  | speaks (msg : ClientMsg) (inbox : b.inbox = a.inbox) (outbox : b.outbox = a.outbox ++ [msg])
      (active : b.active = a.active) (closed : b.closed = a.closed)
      (phase : Speaks msg.kind a.control.phase b.control.phase)
  | arms (inbox : b.inbox = a.inbox) (outbox : b.outbox = a.outbox) (active : b.active = true)
      (closed : b.closed = a.closed) (before : a.control.phase = .accepting)
      (after : b.control.phase = .ready)
  | disarms (inbox : b.inbox = a.inbox) (outbox : b.outbox = a.outbox) (active : b.active = false)
      (closed : b.closed = a.closed) (before : a.control.phase = .yielding)
      (after : b.control.phase = .running)

end Client

namespace ControlPc.Leads

variable {pc pc' : ControlPc} {kind : MsgKind}

theorem phase_moves (leads : pc.Leads none pc') : pc'.phase = pc.phase ∨
    pc.phase = .awaiting ∧ pc'.phase = .opening ∨
    pc.phase = .opening ∧ pc'.phase = .running ∨ pc.phase = .running ∧ pc'.phase = .done := by
  cases leads <;> simp [ControlPc.phase]

theorem phase_speaks (leads : pc.Leads (some kind) pc') :
    Client.Speaks kind pc.phase pc'.phase := by
  cases leads with
  | connect => exact .connect rfl rfl rfl
  | request => exact .other (.inl rfl) rfl (.inl rfl)
  | heartbeat | retry | stopped => exact .other (.inr rfl) rfl (by simp)

end ControlPc.Leads

namespace Client

section Conversation

variable {a b : Client} {ring : Ring} {ok : Bool} {now : Timespec}

theorem converses_of_refuseGrant (accepting : a.control.phase = .accepting)
    (fails : ¬ a.Admits ok) : Converses ok a a.refuseGrant := by
  unfold refuseGrant
  split
  · exact .quits rfl rfl rfl
  · exact .refuses ⟨rfl, rfl, rfl, rfl⟩ accepting rfl ‹_› fails

theorem converses_of_negotiate {msg : ServerMsg} {rest : List ServerMsg}
    (awaits : a.control = .awaitMode) (inbox : a.inbox = msg :: rest) :
    Converses ok a (a.taken.negotiate msg) := by
  have taken : a.inbox = msg :: a.taken.inbox := by simp [taken, inbox]
  have phase : a.control.phase = .awaiting := by rw [awaits]; rfl
  rcases a.taken.negotiate_cases msg with gone | ⟨mode, goes⟩
  · rw [gone]
    exact .quits rfl rfl rfl
  · rw [goes]
    exact .hears msg taken rfl rfl rfl (.reply phase rfl)

theorem converses_of_activation {msg : ServerMsg} {rest : List ServerMsg}
    (awaits : a.control = .awaitGrant) (inbox : a.inbox = msg :: rest) (passed : Bool) :
    Converses ok a (a.taken.activation passed msg) := by
  have taken : a.inbox = msg :: a.taken.inbox := by simp [taken, inbox]
  have phase : a.control.phase = .opening := by rw [awaits]; rfl
  cases msg with
  | activateGrant generation frameFd =>
      refine .hears _ taken rfl rfl rfl ?_
      exact .granted (.inl phase) rfl (by simp [ServerMsg.grant])
  | _ => exact .hears _ taken rfl rfl rfl (.opened phase rfl rfl)

theorem converses_of_dispatch {msg : ServerMsg} {rest : List ServerMsg}
    (receives : a.control = .receive) (inbox : a.inbox = msg :: rest) (passed : Bool) :
    Converses ok a (a.taken.dispatch passed msg) := by
  have taken : a.inbox = msg :: a.taken.inbox := by simp [taken, inbox]
  have phase : a.control.phase = .running := by rw [receives]; rfl
  cases msg with
  | activateGrant generation frameFd =>
      refine .hears _ taken rfl rfl rfl ?_
      exact .granted (.inr phase) rfl (by simp [ServerMsg.grant])
  | deactivate | evictPending => exact .hears _ taken rfl rfl rfl (.revoked phase rfl rfl)
  | dmabufAck accepted reason =>
      cases accepted <;> exact .hears _ taken rfl rfl rfl (.ignored phase rfl rfl rfl)
  | _ => exact .hears _ taken rfl rfl rfl (.ignored phase rfl rfl rfl)

/-- The list is complete. -/
theorem converses_of_controlStep (stepped : a.controlStep ring ok now = some b) :
    Converses ok a b := by
  cases proceeds_of_controlStep stepped with
  | moves leads => exact .moves ⟨rfl, rfl, rfl, rfl⟩ leads.phase_moves
  | sends leads payload => exact .speaks ⟨_, payload, []⟩ rfl rfl rfl rfl leads.phase_speaks
  | gone => exact .quits rfl rfl rfl
  | negotiates stands inbox => exact converses_of_negotiate stands inbox
  | activates stands inbox => exact converses_of_activation stands inbox ok
  | dispatches stands inbox => exact converses_of_dispatch stands inbox ok
  | attaches stands | adopts stands | stores stands | spawns stands =>
      exact .moves ⟨rfl, rfl, rfl, rfl⟩ (.inl (by rw [stands]; rfl))
  | unattached stands fails =>
      refine converses_of_refuseGrant (by rw [stands]; rfl) ?_
      simpa [Admits, stands] using fails
  | unpassed stands negative =>
      refine converses_of_refuseGrant (by rw [stands]; rfl) ?_
      simpa [Admits, stands] using negative
  | arms stands => exact .arms rfl rfl rfl rfl (by rw [stands]; rfl) rfl
  | readies stands =>
      refine .speaks ⟨.readyForRt, [], []⟩ rfl rfl rfl rfl ?_
      have after : ((a.send .readyForRt []).resume).control.phase = .running := by
        unfold resume goto
        dsimp only
        split <;> rfl
      exact .ready (by rw [stands]; rfl) after rfl
  | disarms stands =>
      rcases stands with ⟨stands, rfl⟩ | ⟨stands, rfl⟩
      all_goals exact .disarms rfl rfl rfl rfl (by rw [stands]; rfl) rfl

/-- What one step of the application does in the conversation: it may clear `active`, announce
dmabufs, and end the connection. -/
inductive Parts (a b : Client) : Prop where
  | works (inbox : b.inbox = a.inbox) (outbox : b.outbox = a.outbox) (closed : b.closed = a.closed)
      (control : b.control = a.control) (active : b.active = true → a.active = true)
  | announces (msg : ClientMsg) (inbox : b.inbox = a.inbox) (outbox : b.outbox = a.outbox ++ [msg])
      (closed : b.closed = a.closed) (control : b.control = a.control)
      (active : b.active = a.active) (named : msg.kind = .dmabufAnnounce) (online : a.app ≠ .offline)
  | leaves (closed : b.closed = true) (control : b.control = .done)
      (outbox : b.outbox = a.outbox ∨ b.outbox = a.outbox ++ [⟨.disconnect, [], []⟩])

theorem parts_of_appStep {ring' : Ring} {choice : Choice}
    (stepped : a.appStep ring choice = some (b, ring')) : Parts a b := by
  have idles := appStep_top stepped
  cases stands : a.app <;> simp only [appStep, stands] at stepped
  case offline | gone | aborted => cases stepped
  case top =>
      obtain ⟨-, running, ack, app, rfl, -⟩ := idles stands
      exact .works rfl rfl rfl rfl id
  case join =>
      split at stepped <;> cases stepped
      exact .works rfl rfl rfl rfl id
  case announce payload fds =>
      cases stepped
      exact .announces ⟨.dmabufAnnounce, payload, fds⟩ rfl rfl rfl rfl rfl rfl (by simp [stands])
  case claim =>
      split at stepped <;> cases stepped
      · exact .works rfl rfl rfl rfl id
      · exact .leaves rfl rfl (.inl rfl)
  case drop =>
      cases stepped
      exact .works rfl rfl rfl rfl fun active => by cases active
  case sendDisconnect =>
      cases stepped
      exact .leaves rfl rfl (.inr rfl)
  all_goals
    cases stepped
    exact .works rfl rfl rfl rfl id

/-- The connection is accepted by the server, not by the client. -/
theorem controlStep_accepted (stepped : a.controlStep ring ok now = some b) :
    b.accepted = a.accepted := by
  have refuses : a.refuseGrant.accepted = a.accepted := by
    unfold refuseGrant
    split <;> rfl
  cases proceeds_of_controlStep stepped with
  | @negotiates msg =>
      rcases a.taken.negotiate_cases msg with gone | ⟨mode, goes⟩
      · rw [gone]
        rfl
      · rw [goes]
        rfl
  | activates =>
      unfold activation
      split <;> rfl
  | dispatches =>
      unfold dispatch
      split
      case h_4 => split <;> rfl
      all_goals rfl
  | unattached | unpassed => exact refuses
  | _ => rfl

theorem appStep_accepted {ring' : Ring} {choice : Choice}
    (stepped : a.appStep ring choice = some (b, ring')) : b.accepted = a.accepted := by
  have idles := appStep_top stepped
  cases stands : a.app <;> simp only [appStep, stands] at stepped
  case offline | gone | aborted => cases stepped
  case top =>
      obtain ⟨-, running, ack, app, rfl, -⟩ := idles stands
      rfl
  case join | claim =>
      split at stepped <;> cases stepped
      all_goals rfl
  all_goals
    cases stepped
    rfl

end Conversation

end Client

end Wisp
