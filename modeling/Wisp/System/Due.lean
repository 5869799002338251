import Wisp.System.Turn

/-!
# Grants that wait for an answer

A grant is due from the moment the server sends it until it has read the READY_FOR_RT of the
client: it is in the hands of the control thread of the server, in the receive queue, being
handled, or its answer is on its way. The client may also let it lapse.
-/

namespace Wisp

open Transition System Effect

/-- The control thread is at a receive. -/
def ControlPc.waits : ControlPc → Bool
  | .awaitMode | .awaitGrant | .receive => true
  | _ => false

theorem ControlPc.phase_of_waits {control : ControlPc} (waits : control.waits = true) :
    control.phase = .awaiting ∨ control.phase = .opening ∨ control.phase = .running := by
  cases control with
  | awaitMode => exact .inl rfl
  | awaitGrant => exact .inr (.inl rfl)
  | receive => exact .inr (.inr rfl)
  | _ => cases waits

namespace World

/-- No message is on its way between the server and a client, and the client is at a
receive. -/
def Quiescent (w : World) (c : Nat) : Prop :=
  (w.clients c).inbox = [] ∧ (w.clients c).outbox = [] ∧ w.tidings c = [] ∧
    (w.clients c).control.waits = true

instance (w : World) (c : Nat) : Decidable (w.Quiescent c) :=
  inferInstanceAs (Decidable (_ ∧ _ ∧ _ ∧ _))

/-- A grant is on its way to a client, or is being handled, or its answer is on its way. -/
def Due (client : Client) (tidings : List ServerMsg) : Prop :=
  (∃ msg ∈ client.inbox ++ tidings, msg.grant ≠ none) ∨ client.control.phase = .accepting ∨
    client.control.phase = .ready ∨ ∃ msg ∈ client.outbox, msg.kind = .readyForRt

/-- A grant comes to nothing. `wispc_connect` takes whatever comes first for the reply to its
CONNECT, and the control loop goes on where `wispc_handle_grant` has failed. -/
inductive Lapses (ok : Bool) (a b : Client) : Prop where
  | missed (msg : ServerMsg) (before : a.control.phase = .awaiting)
      (inbox : a.inbox = msg :: b.inbox) (grants : msg.grant ≠ none) (active : b.active = a.active)
  | refused (before : a.control.phase = .accepting) (online : a.app ≠ .offline)
      (fails : ¬ a.Admits ok) (active : b.active = a.active)

section Client

variable {a b : Client} {tidings : List ServerMsg} {ok : Bool}

/-- It does not matter how far a message has come. -/
theorem Due.mono {tidings' : List ServerMsg} (due : Due a tidings)
    (queue : b.inbox ++ tidings' = a.inbox ++ tidings) (outbox : a.outbox ⊆ b.outbox)
    (control : b.control = a.control) : Due b tidings' := by
  unfold Due at due ⊢
  rw [queue, control]
  refine due.imp_right (.imp_right (.imp_right ?_))
  rintro ⟨msg, member, named⟩
  exact ⟨msg, outbox member, named⟩

/-- A message goes from the server's hands into the receive queue. -/
theorem deliver_spec (live : a.closed = false) (msg : ServerMsg) (tidings : List ServerMsg) :
    (a.deliver msg).inbox ++ tidings = a.inbox ++ msg :: tidings ∧
      a.outbox ⊆ (a.deliver msg).outbox ∧ (a.deliver msg).control = a.control ∧
      (a.deliver msg).active = a.active := by
  simp [Client.deliver, live]

/-- A message is taken out of the receive queue. -/
theorem Due.heard {msg : ServerMsg} (due : Due a tidings) (inbox : a.inbox = msg :: b.inbox)
    (outbox : b.outbox = a.outbox) (active : b.active = a.active)
    (phase : Client.Hears msg a.control.phase b.control.phase) :
    Due b tidings ∨ Lapses ok a b := by
  by_cases grants : msg.grant = none
  · left
    rcases due with ⟨other, member, promised⟩ | accepting | ready | ⟨other, member, named⟩
    · rw [inbox, List.cons_append] at member
      rcases List.mem_cons.mp member with rfl | later
      · exact absurd grants promised
      · exact .inl ⟨other, later, promised⟩
    · cases phase <;> simp_all
    · cases phase <;> simp_all
    · exact .inr (.inr (.inr ⟨other, outbox ▸ member, named⟩))
  · cases phase with
    | reply awaits => exact .inr (.missed msg awaits inbox grants active)
    | granted waits goes => exact .inl (.inr (.inl goes))
    | opened waits goes other => exact absurd other grants
    | revoked waits goes revokes =>
        cases msg with
        | activateGrant => cases revokes
        | _ => exact absurd rfl grants
    | ignored waits goes other => exact absurd other grants

/-- A grant stays due until the answer has been read, unless it lapses. -/
theorem Due.conversed (due : Due a tidings) (step : Client.Converses ok a b)
    (live : b.closed = false) : Due b tidings ∨ Lapses ok a b := by
  have keeps (inbox : b.inbox = a.inbox) (outbox : a.outbox ⊆ b.outbox)
      (phase : a.control.phase = .accepting ∨ a.control.phase = .ready → Due b tidings) :
      Due b tidings ∨ Lapses ok a b := by
    refine .inl ?_
    rcases due with ⟨msg, member, grants⟩ | accepting | ready | ⟨msg, member, named⟩
    · exact .inl ⟨msg, inbox ▸ member, grants⟩
    · exact phase (.inl accepting)
    · exact phase (.inr ready)
    · exact .inr (.inr (.inr ⟨msg, outbox member, named⟩))
  cases step with
  | moves silent phase =>
      refine keeps silent.inbox (by simp [silent.outbox]) fun stands => ?_
      have same : b.control.phase = a.control.phase := by
        rcases stands with stands | stands <;> simpa [stands] using phase
      rw [← same] at stands
      exact .inr (stands.imp_right .inl)
  | refuses silent before after online fails =>
      exact .inr (.refused before online fails silent.active)
  | quits outbox closed =>
      rw [closed] at live
      cases live
  | hears msg inbox outbox active closed phase => exact due.heard inbox outbox active phase
  | speaks msg inbox outbox active closed phase =>
      refine keeps inbox (by simp [outbox]) fun stands => ?_
      cases phase with
      | connect before => simp [before] at stands
      | ready before goes named => exact .inr (.inr (.inr ⟨msg, by simp [outbox], named⟩))
      | other before goes named =>
          rcases before with before | before <;> simp [before] at stands
  | arms inbox outbox active closed before after => exact .inl (.inr (.inr (.inl after)))
  | disarms inbox outbox active closed before after =>
      exact keeps inbox (by simp [outbox]) fun stands => by simp [before] at stands

/-- Only a grant makes a client active. -/
theorem inactive_of_converses (step : Client.Converses ok a b) (live : b.closed = false)
    (inactive : a.active = false) : b.active = false ∨ Due b tidings := by
  cases step with
  | moves silent | refuses silent => exact .inl (silent.active.trans inactive)
  | quits outbox closed =>
      rw [closed] at live
      cases live
  | hears msg inbox outbox active | speaks msg inbox outbox active =>
      exact .inl (active.trans inactive)
  | arms inbox outbox active closed before after => exact .inr (.inr (.inr (.inl after)))
  | disarms inbox outbox active => exact .inl active

end Client

/-- A session is in its warm-up only while an answer is due. -/
theorem Served.due {client client' : Client} {state state' : Option SessionState}
    {sent : List ServerMsg} (served : Served client state sent client' state')
    (live : client'.closed = false) (warm : state' = some .grantedWarmup)
    (before : state = some .grantedWarmup → Due client []) : Due client' sent := by
  cases served with
  | apart same exchange mute present absent =>
      rw [same]
      rcases exchange.warm warm with already | ⟨msg, told, grants⟩
      · rcases before already with ⟨msg, member, grants⟩ | later
        · rw [List.append_nil] at member
          exact .inl ⟨msg, List.mem_append_left _ member, grants⟩
        · exact .inr later
      · exact .inl ⟨msg, List.mem_append_right _ told, grants⟩
  | accepted same first missing silent after =>
      rw [warm] at after
      rcases after with gone | connected
      · cases gone
      · cases connected
  | introduced msg rest outbox same named connected reply after =>
      rw [warm] at after
      rcases after with gone | negotiated
      · cases gone
      · cases negotiated
  | spoken msg rest outbox same named known exchange mute present ready =>
      rw [same]
      rcases exchange.warm warm with already | ⟨msg, told, grants⟩
      · rcases before already with ⟨msg, member, grants⟩ | accepting | armed | ⟨m, member, answers⟩
        · rw [List.append_nil] at member
          exact .inl ⟨msg, List.mem_append_left _ member, grants⟩
        · exact .inr (.inl accepting)
        · exact .inr (.inr (.inl armed))
        · rw [outbox] at member
          rcases List.mem_cons.mp member with rfl | later
          · exact absurd warm (ready answers)
          · exact .inr (.inr (.inr ⟨m, later, answers⟩))
      · exact .inl ⟨msg, List.mem_append_right _ told, grants⟩
  | ended same closed =>
      rw [same, closed] at live
      cases live

section Quiescence

variable {w : World} {c : Nat}

/-- A client at a receive has not left. -/
theorem Quiescent.live (quiescent : w.Quiescent c) (wired : Wired w) :
    (w.clients c).closed = false := by
  obtain ⟨-, -, -, waits⟩ := quiescent
  rw [Bool.eq_false_iff]
  intro closed
  rw [(wired.orderly c).done closed] at waits
  cases waits

/-- Where nothing is on its way, no answer is due. -/
theorem Quiescent.not_due (quiescent : w.Quiescent c) : ¬ Due (w.clients c) (w.tidings c) := by
  obtain ⟨inbox, outbox, tidings, waits⟩ := quiescent
  rintro (⟨msg, member, -⟩ | accepting | ready | ⟨msg, member, -⟩)
  · rw [inbox, tidings] at member
    cases member
  · simpa [accepting] using ControlPc.phase_of_waits waits
  · simpa [ready] using ControlPc.phase_of_waits waits
  · rw [outbox] at member
    cases member

end Quiescence

end World

end Wisp
