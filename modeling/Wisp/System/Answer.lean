import Wisp.System.Due

/-!
# Grants and their answers

The server has no timeout for a warm-up: it relies on the client to answer every grant. The
SDK answers with READY_FOR_RT, or closes the connection. There is one way out of
`wispc_handle_grant` where it does neither: the ring cannot be mapped, or the grant came
without its descriptor, and the call was made by the control loop, which does not look at
the result.

Where this does not happen, no session is left in its warm-up by a client that waits for a
message.
-/

namespace Wisp

open Transition System Effect

namespace Client

/-- The control thread has taken a grant and not answered it. -/
def handling (client : Client) : Bool :=
  client.control.phase = .accepting ∨ client.control.phase = .ready

variable {a b : Client} {ok : Bool}

/-- `wispc_handle_grant` fails. -/
theorem controlStep_of_fails (ring : Ring) (now : Timespec) (fails : ¬ a.Admits ok) :
    a.controlStep ring ok now = some a.refuseGrant ∧ a.control.phase = .accepting := by
  cases stands : a.control with
  | attach generation frameFd =>
      simp only [Admits, stands, not_or, Bool.not_eq_true] at fails
      simp [controlStep, stands, fails, ControlPc.phase]
  | adopt generation frameFd =>
      simp only [Admits, stands, Int.not_le] at fails
      simp [controlStep, stands, fails, ControlPc.phase]
  | _ => simp [Admits, stands] at fails

/-- Where it does not fail, the grant is answered before the control thread turns to
anything else. -/
theorem answers_of_converses (step : Converses ok a b) (handles : a.handling = true)
    (admits : a.app ≠ .offline → a.Admits ok) :
    b.handling = true ∨ b.closed = true ∨ ∃ msg, b.outbox = a.outbox ++ [msg] ∧
      (msg.kind = .readyForRt ∨ msg.kind = .grantDecline) := by
  have stands : a.control.phase = .accepting ∨ a.control.phase = .ready := by
    simpa [handling] using handles
  cases step with
  | moves silent phase =>
      refine .inl ?_
      have same : b.control.phase = a.control.phase := by
        rcases stands with stands | stands <;> simpa [stands] using phase
      simpa [handling, same] using stands
  | refuses silent before after online fails => exact absurd (admits online) fails
  | quits outbox closed => exact .inr (.inl closed)
  | hears msg inbox outbox active closed phase =>
      cases phase with
      | granted waits => rcases waits with waits | waits <;> simp [waits] at stands
      | _ => simp_all
  | speaks msg inbox outbox active closed phase =>
      cases phase with
      | ready before goes named => exact .inr (.inr ⟨msg, outbox, .inl named⟩)
      | connect before => simp [before] at stands
      | other before => rcases before with before | before <;> simp [before] at stands
  | arms inbox outbox active closed before after =>
      left
      simp [handling, after]
  | disarms inbox outbox active closed before => simp [before] at stands

end Client

namespace World

/-- No control loop fails to handle a grant at this step. A failure inside `wispc_connect` is
admitted. -/
def Admitted (w : World) : WorldEvent → Prop
  | .control c ok _ => (w.clients c).app ≠ .offline → (w.clients c).Admits ok
  | _ => True

instance (w : World) (ev : WorldEvent) : Decidable (w.Admitted ev) :=
  match ev with
  | .control c ok _ =>
      inferInstanceAs (Decidable ((w.clients c).app ≠ .offline → (w.clients c).Admits ok))
  | .serve _ | .effect | .app _ _ | .crash _ | .checkout | .release => isTrue trivial

/-- A client that handles a grant goes on with it, answers it or leaves. -/
def Answers (w : World) (ev : WorldEvent) : Prop :=
  ∀ next c, world.step w ev = some next → (w.clients c).handling = true →
    (next.clients c).handling = true ∨ (next.clients c).closed = true ∨
      ∃ msg, (next.clients c).outbox = (w.clients c).outbox ++ [msg] ∧
        (msg.kind = .readyForRt ∨ msg.kind = .grantDecline)

/-- No session is in its warm-up while its client waits for a message and none is on its
way. -/
def Unparked (w : World) : Prop :=
  ∀ c, w.Quiescent c → w.session c ≠ some .grantedWarmup

section Steps

variable {w next : World} {ev : WorldEvent} {c : Nat}

/-- A control loop that fails to handle a grant leaves it unanswered. -/
theorem admitted_of_answers (wired : Wired w) (taken : world.step w ev = some next)
    (answers : Answers w ev) : Admitted w ev := by
  cases ev with
  | control c ok now =>
      intro online
      by_contra fails
      obtain ⟨refuses, accepting⟩ := Client.controlStep_of_fails w.ring now fails
      have outcome := answers next c taken (by simp [Client.handling, accepting])
      have client : next.clients c = (w.clients c).goto .loop := by
        change ((w.clients c).controlStep w.ring ok now).map (w.setClient c) = some next at taken
        rw [refuses, Client.refuseGrant, if_neg online] at taken
        rw [← Option.some.inj taken]
        exact setClient_same _ _ _
      rw [client] at outcome
      rcases outcome with still | closed | ⟨msg, outbox, -⟩
      · simp [Client.handling, Client.goto, ControlPc.phase] at still
      · rw [(wired.orderly c).done closed] at accepting
        cases accepting
      · have length := congrArg List.length outbox
        simp [Client.goto] at length
  | _ => trivial

theorem answers_of_admitted (wired : Wired w) (admitted : Admitted w ev) : Answers w ev := by
  intro next c taken handles
  have keeps (control : (next.clients c).control = (w.clients c).control) :
      (next.clients c).handling = true := by
    simpa [Client.handling, control] using handles
  cases turn_of_step wired taken c with
  | served settled served => exact .inl (keeps served.unchanged.2.1)
  | delivered msg tidings client =>
      refine .inl (keeps ?_)
      rw [client, Client.deliver]
      split <;> rfl
  | idle hungUp client =>
      refine .inl (keeps ?_)
      rw [client]
  | control converses => exact Client.answers_of_converses converses handles admitted
  | app parts =>
      cases parts with
      | works inbox outbox closed control | announces msg inbox outbox closed control =>
          exact .inl (keeps control)
      | leaves closed => exact .inr (.inl closed)
  | crashed client =>
      rw [client]
      exact .inr (.inl rfl)

/-- The first message that a connection is sent is not a grant. -/
def Heralded (msgs : List ServerMsg) (state : Option SessionState) : Prop :=
  match msgs.head? with
  | none => state = none ∨ state = some .connected
  | some msg => msg.grant = none

/-- A session is in its warm-up only while its client has a grant to answer. -/
structure Prompt (client : Client) (tidings : List ServerMsg) (state : Option SessionState) :
    Prop where
  warm : state = some .grantedWarmup → Due client tidings
  early : client.control.phase = .unsent ∨ client.control.phase = .awaiting →
    Heralded (client.inbox ++ tidings) state

section Connection

variable {a b : Client} {tidings sent : List ServerMsg} {state state' : Option SessionState}

/-- Before its reply, a control thread takes nothing from its queue. -/
theorem early_of_converses {ok : Bool} (step : Client.Converses ok a b) (live : b.closed = false)
    (early : b.control.phase = .unsent ∨ b.control.phase = .awaiting) :
    (a.control.phase = .unsent ∨ a.control.phase = .awaiting) ∧ b.inbox = a.inbox := by
  cases step with
  | moves silent phase =>
      refine ⟨?_, silent.inbox⟩
      rcases phase with same | ⟨-, after⟩ | ⟨-, after⟩ | ⟨-, after⟩
      · exact same ▸ early
      · simp [after] at early
      · simp [after] at early
      · simp [after] at early
  | refuses silent before after => simp [after] at early
  | quits outbox closed =>
      rw [closed] at live
      cases live
  | hears msg inbox outbox active closed phase => cases phase <;> simp_all
  | speaks msg inbox outbox active closed phase =>
      refine ⟨?_, inbox⟩
      cases phase with
      | connect before => exact .inl before
      | ready before after => simp [after] at early
      | other before goes => exact goes ▸ early
  | arms inbox outbox active closed before after => simp [after] at early
  | disarms inbox outbox active closed before after => simp [after] at early

theorem Prompt.conversed {ok : Bool} (h : Prompt a tidings state) (step : Client.Converses ok a b)
    (live : b.closed = false) (admits : a.app ≠ .offline → a.Admits ok) :
    Prompt b tidings state := by
  constructor
  · intro warm
    rcases (h.warm warm).conversed step live with due | lapses
    · exact due
    · cases lapses with
      | missed msg before inbox grants =>
          have herald := h.early (.inr before)
          rw [inbox] at herald
          exact absurd herald grants
      | refused before online fails => exact absurd (admits online) fails
  · intro early
    obtain ⟨before, inbox⟩ := early_of_converses step live early
    rw [inbox]
    exact h.early before

theorem Prompt.parted (h : Prompt a tidings state) (step : Client.Parts a b)
    (live : b.closed = false) : Prompt b tidings state := by
  cases step with
  | works inbox outbox closed control | announces msg inbox outbox closed control =>
      refine ⟨fun warm => (h.warm warm).mono (by rw [inbox]) (by simp [outbox]) control, ?_⟩
      rw [inbox, control]
      exact h.early
  | leaves closed =>
      rw [closed] at live
      cases live

theorem Prompt.delivered {msg : ServerMsg} (h : Prompt a (msg :: tidings) state)
    (live : a.closed = false) : Prompt (a.deliver msg) tidings state := by
  obtain ⟨queue, outbox, control, -⟩ := deliver_spec live msg tidings
  refine ⟨fun warm => (h.warm warm).mono queue outbox control, ?_⟩
  rw [queue, control]
  exact h.early

/-- What the control thread sends to a session that has not been introduced. -/
theorem Heralded.served (h : Heralded a.inbox state) (step : Served a state sent b state')
    (live : b.closed = false) : Heralded (a.inbox ++ sent) state' := by
  cases inbox : a.inbox with
  | cons msg rest =>
      rw [inbox] at h
      exact h
  | nil =>
      rw [inbox] at h
      have new : state = none ∨ state = some .connected := h
      have quiet (silent : ∀ msg ∈ sent, msg.grant = none)
          (after : state' = none ∨ state' = some .connected) : Heralded ([] ++ sent) state' := by
        cases first : sent with
        | nil => exact after
        | cons msg rest => exact silent msg (by simp [first])
      cases step with
      | apart same exchange mute present absent =>
          rcases new with missing | connected
          · obtain ⟨silent, gone⟩ := absent missing
            exact quiet (by simp [silent]) (.inl gone)
          · obtain ⟨silent, stays⟩ := mute connected
            exact quiet silent (.inr stays)
      | accepted same first before silent after => exact quiet (by simp [silent]) after
      | introduced msg rest outbox same named before reply after =>
          obtain ⟨answer, silent, replies⟩ := reply
          rw [silent]
          show answer.grant = none
          cases answer with
          | activateGrant => cases replies
          | _ => rfl
      | spoken msg rest outbox same named before exchange mute =>
          obtain ⟨silent, after⟩ := mute (new.resolve_left before)
          exact quiet silent after
      | ended same closed =>
          rw [same, closed] at live
          cases live

theorem Prompt.served (h : Prompt a [] state) (step : Served a state sent b state')
    (live : b.closed = false) : Prompt b sent state' := by
  obtain ⟨inbox, control, -, -, -⟩ := step.unchanged
  refine ⟨fun warm => step.due live warm h.warm, fun early => ?_⟩
  rw [control] at early
  have herald := h.early early
  rw [List.append_nil] at herald
  rw [inbox]
  exact herald.served step live

end Connection

theorem prompt_turn (turn : Turn w c next ev) (admitted : w.Admitted ev)
    (live : (next.clients c).closed = false)
    (h : Prompt (w.clients c) (w.tidings c) (w.session c)) :
    Prompt (next.clients c) (next.tidings c) (next.session c) := by
  refine turn.live live h (fun h served => h.served served) (fun h present => h.delivered present)
    (fun _ => ⟨h.warm, h.early⟩) ?_ fun parts => h.parted parts live
  rintro ok now rfl converses
  exact h.conversed converses live admitted

/-- The connections are in order, and every grant finds its answer. -/
def Responsive (w : World) : Prop :=
  Wired w ∧ ∀ c, (w.clients c).closed = false →
    Prompt (w.clients c) (w.tidings c) (w.session c)

theorem Responsive.step (h : Responsive w) (admitted : w.Admitted ev)
    (taken : world.step w ev = some next) : Responsive next := by
  obtain ⟨wired, prompt⟩ := h
  refine ⟨wired.step taken, fun c live => ?_⟩
  have turn := turn_of_step wired taken c
  exact prompt_turn turn admitted live (prompt c (live_turn turn live))

theorem Responsive.unparked (h : Responsive w) : Unparked w := by
  obtain ⟨wired, prompt⟩ := h
  intro c quiescent warm
  exact quiescent.not_due ((prompt c (quiescent.live wired)).warm warm)

theorem Booted.responsive {start : World} (booted : Booted start) : Responsive start := by
  refine ⟨booted.wired, fun c _ => ?_⟩
  obtain ⟨clientId, modes, fresh⟩ := booted.clients c
  rw [booted.session c, fresh, World.tidings, booted.todo]
  constructor
  · intro warm
    cases warm
  · exact fun _ => .inl rfl

end Steps

/-- In every run: the grants that clients handle are all answered exactly if no control loop
fails to handle one, and then no session is ever left in its warm-up by a client that waits
for a message. -/
theorem answered_of_run {start finish : World} {trace : List (World × WorldEvent)}
    (booted : Booted start) (run : world.Run start trace finish) :
    (Meets Answers trace ↔ Meets Admitted trace) ∧
      (Meets Admitted trace → Through Unparked trace ∧ Unparked finish) := by
  constructor
  · have always : Meets (fun _ _ => True) trace := fun _ _ => trivial
    exact run.exact (I := Wired) always booted.wired (fun _ _ _ wired _ _ taken => wired.step taken)
      fun _ _ _ wired _ taken => ⟨admitted_of_answers wired taken, answers_of_admitted wired⟩
  · intro admitted
    have step (w : World) (ev : WorldEvent) (next : World) (h : Responsive w) (ok : w.Admitted ev)
        (taken : world.step w ev = some next) : Responsive next := h.step ok taken
    refine ⟨?_, (run.invariant admitted booted.responsive step).unparked⟩
    exact (run.through admitted booted.responsive step).mono fun _ _ h => h.unparked

theorem answered_of_run_relay :
    ∃ trace finish, world.Run studio trace finish ∧ trace.map Prod.snd = relay ∧
      (Meets Admitted trace ∧ finish.Quiescent 1 ∧ (finish.clients 1).active = true) ∧
      Meets Answers trace ∧ Through Unparked trace ∧ Unparked finish := by
  refine Demonstrates.exists_run
    (P := fun trace finish => Meets Admitted trace ∧ finish.Quiescent 1 ∧
      (finish.clients 1).active = true)
    (by decide +kernel) ?_
  intro trace finish run checked
  obtain ⟨exact, unparked⟩ := answered_of_run booted_studio run
  exact ⟨checked, exact.mpr checked.1, unparked checked.1⟩

theorem not_unparked_of_impasse :
    Booted studio ∧ ∃ trace finish, world.Run studio trace finish ∧
      trace.map Prod.snd = impasse ∧ (finish.Quiescent 1 ∧ finish.session 1 = some .grantedWarmup) ∧
      ¬ Unparked finish := by
  refine ⟨booted_studio, ?_⟩
  refine Demonstrates.exists_run
    (P := fun _ finish => finish.Quiescent 1 ∧ finish.session 1 = some .grantedWarmup)
    (by decide +kernel) ?_
  rintro trace finish - ⟨quiescent, warm⟩
  exact ⟨⟨quiescent, warm⟩, fun unparked => unparked 1 quiescent warm⟩

end World

end Wisp
