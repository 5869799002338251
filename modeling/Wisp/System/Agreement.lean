import Wisp.System.Due

/-!
# A client and the server agree on who is active

Messages cross: while a client handles a grant, the server may already have taken the slot
back. What the client believes is therefore compared with what the server has decided
through the messages in between. Read in order from what the client knows, they end at what
the server has granted, and never grant twice.

Once nothing is on its way, the two agree.
-/

namespace Wisp

open Transition System Effect

namespace ServerMsg

theorem verdict_of_grant {msg : ServerMsg} {known next : Bool} (grants : msg.grant ≠ none)
    (tells : msg.verdict known = some next) : known = false ∧ next = true := by
  cases msg with
  | activateGrant =>
      cases known with
      | true =>
          have twice : none = some next := tells
          cases twice
      | false =>
          have once : some true = some next := tells
          cases once
          exact ⟨rfl, rfl⟩
  | _ => exact absurd rfl grants

theorem verdict_of_other {msg : ServerMsg} (other : msg.grant = none)
    (keeps : msg.revokes = false) (known : Bool) : msg.verdict known = some known := by
  cases msg with
  | activateGrant => cases other
  | evictPending | deactivate => cases keeps
  | _ => rfl

theorem verdict_of_replies {msg : ServerMsg} (replies : msg.replies = true) (known : Bool) :
    msg.verdict known = some known := by
  cases msg with
  | mode | versionMismatch => rfl
  | _ => cases replies

/-- Without a revocation, who has been granted the slot keeps it. -/
theorem verdict_of_unrevoked {msgs : List ServerMsg} {known : Bool}
    (unrevoked : ∀ msg ∈ msgs, msg.revokes = false)
    (tells : msgs.foldlM verdict true = some known) : known = true := by
  induction msgs with
  | nil =>
      cases tells
      rfl
  | cons msg rest ih =>
      rw [List.foldlM_cons] at tells
      obtain ⟨next, first, later⟩ := Option.bind_eq_some_iff.mp tells
      have other : msg.grant = none := by
        by_contra grants
        cases (verdict_of_grant grants first).1
      rw [verdict_of_other other (unrevoked msg List.mem_cons_self)] at first
      cases first
      exact ih (fun m member => unrevoked m (List.mem_cons_of_mem msg member)) later

/-- Between two grants there is a revocation. -/
def Alternates (msgs : List ServerMsg) : Prop :=
  ∀ before first between second after, msgs = before ++ first :: between ++ second :: after →
    first.grant ≠ none → second.grant ≠ none → ∃ msg ∈ between, msg.revokes = true

theorem alternates_of_verdict {msgs : List ServerMsg} {start known : Bool}
    (tells : msgs.foldlM verdict start = some known) : Alternates msgs := by
  intro before first between second after split grantsFirst grantsSecond
  by_contra none
  have unrevoked : ∀ msg ∈ between, msg.revokes = false := by
    intro msg member
    rw [Bool.eq_false_iff]
    exact fun revokes => none ⟨msg, member, revokes⟩
  rw [split, List.append_assoc, List.foldlM_append] at tells
  obtain ⟨known₁, -, tells⟩ := Option.bind_eq_some_iff.mp tells
  rw [List.cons_append, List.foldlM_cons] at tells
  obtain ⟨known₂, atFirst, tells⟩ := Option.bind_eq_some_iff.mp tells
  rw [List.foldlM_append] at tells
  obtain ⟨known₃, inside, tells⟩ := Option.bind_eq_some_iff.mp tells
  rw [List.foldlM_cons] at tells
  obtain ⟨known₄, atSecond, -⟩ := Option.bind_eq_some_iff.mp tells
  obtain ⟨-, rfl⟩ := verdict_of_grant grantsFirst atFirst
  obtain ⟨rfl, -⟩ := verdict_of_grant grantsSecond atSecond
  cases verdict_of_unrevoked unrevoked inside

end ServerMsg

namespace World

/-- The message to a connection that a step sends. -/
def utters (c : Nat) (w : World) : WorldEvent → Option ServerMsg
  | .effect => w.todo.head?.bind (Effect.sentTo c)
  | _ => none

/-- The messages to a connection that a run has sent. -/
def dispatched (c : Nat) (trace : List (World × WorldEvent)) : List ServerMsg :=
  trace.filterMap fun p => utters c p.1 p.2

theorem dispatched_snoc (c : Nat) (trace : List (World × WorldEvent)) (w : World)
    (ev : WorldEvent) :
    dispatched c (trace ++ [(w, ev)]) = dispatched c trace ++ (utters c w ev).toList := by
  cases uttered : utters c w ev <;> simp [dispatched, uttered]

/-- What a client that has heard so much may take itself for. -/
def Believes (phase : Phase) (active known : Bool) : Prop :=
  match phase with
  | .unsent | .awaiting | .opening => active = false
  | .accepting => active = false ∧ known = true
  | .ready | .running | .done => active = true → known = true
  | .yielding => True

/-- What a client believes, what is on its way to it, and what the server has decided. -/
structure Advised (client : Client) (tidings : List ServerMsg) (state : Option SessionState) :
    Prop where
  verdict : ∃ known, (client.inbox ++ tidings).foldlM ServerMsg.verdict known =
      some (granted state) ∧ Believes client.control.phase client.active known
  warm : state = some .grantedWarmup → Due client tidings ∨ client.active = false

section Client

variable {a b : Client} {tidings : List ServerMsg} {ok : Bool}

/-- A message is taken out of the receive queue. -/
theorem Believes.heard {before after : Phase} {active known next : Bool} {msg : ServerMsg}
    (h : Believes before active known) (phase : Client.Hears msg before after)
    (tells : msg.verdict known = some next) : Believes after active next := by
  cases phase with
  | reply awaits goes =>
      rw [awaits] at h
      rw [goes]
      exact h
  | granted waits goes grants =>
      obtain ⟨rfl, rfl⟩ := ServerMsg.verdict_of_grant grants tells
      rw [goes]
      rcases waits with stands | stands <;> rw [stands] at h
      · exact ⟨h, rfl⟩
      · exact ⟨by simpa [Believes] using h, rfl⟩
  | opened waits goes =>
      rw [waits] at h
      rw [goes, show active = false from h]
      exact Bool.noConfusion
  | revoked waits goes =>
      rw [goes]
      trivial
  | ignored waits goes other keeps =>
      rw [ServerMsg.verdict_of_other other keeps] at tells
      cases tells
      rw [goes, ← waits]
      exact h

/-- The control thread keeps to what it has heard. -/
theorem Believes.conversed {known decided : Bool}
    (h : Believes a.control.phase a.active known) (step : Client.Converses ok a b)
    (live : b.closed = false)
    (tells : (a.inbox ++ tidings).foldlM ServerMsg.verdict known = some decided) :
    ∃ known, (b.inbox ++ tidings).foldlM ServerMsg.verdict known = some decided ∧
      Believes b.control.phase b.active known := by
  have unheard (inbox : b.inbox = a.inbox) (believes : Believes b.control.phase b.active known) :
      ∃ known, (b.inbox ++ tidings).foldlM ServerMsg.verdict known = some decided ∧
        Believes b.control.phase b.active known := by
    rw [inbox]
    exact ⟨known, tells, believes⟩
  cases step with
  | moves silent phase =>
      apply unheard silent.inbox
      rw [silent.active]
      rcases phase with same | ⟨before, after⟩ | ⟨before, after⟩ | ⟨before, after⟩
      · rw [same]
        exact h
      · rw [before] at h
        rw [after]
        exact h
      · rw [before] at h
        rw [after, show a.active = false from h]
        exact Bool.noConfusion
      · rw [before] at h
        rw [after]
        exact h
  | refuses silent before after =>
      apply unheard silent.inbox
      rw [before] at h
      rw [silent.active, after, h.1]
      exact Bool.noConfusion
  | quits outbox closed =>
      rw [closed] at live
      cases live
  | hears msg inbox outbox active closed phase =>
      rw [inbox, List.cons_append, List.foldlM_cons] at tells
      obtain ⟨next, first, later⟩ := Option.bind_eq_some_iff.mp tells
      refine ⟨next, later, ?_⟩
      rw [active]
      exact h.heard phase first
  | speaks msg inbox outbox active closed phase =>
      apply unheard inbox
      rw [active]
      cases phase with
      | connect stands goes | ready stands goes =>
          rw [stands] at h
          rw [goes]
          exact h
      | other stands goes =>
          rw [goes]
          exact h
  | arms inbox outbox active closed before after =>
      apply unheard inbox
      rw [before] at h
      rw [after]
      exact fun _ => h.2
  | disarms inbox outbox active closed before after =>
      apply unheard inbox
      rw [after, active]
      exact Bool.noConfusion

/-- A grant that lapses leaves the client inactive. -/
theorem Believes.lapsed {known : Bool} (h : Believes a.control.phase a.active known)
    (lapses : Lapses ok a b) : b.active = false := by
  cases lapses with
  | missed msg before inbox grants active =>
      rw [before] at h
      exact active.trans h
  | refused before online fails active =>
      rw [before] at h
      exact active.trans h.1

theorem Advised.conversed {state : Option SessionState} (h : Advised a tidings state)
    (step : Client.Converses ok a b) (live : b.closed = false) : Advised b tidings state := by
  obtain ⟨known, tells, believes⟩ := h.verdict
  refine ⟨believes.conversed step live tells, fun warm => ?_⟩
  rcases h.warm warm with due | inactive
  · exact (due.conversed step live).imp_right believes.lapsed
  · exact (inactive_of_converses step live inactive).symm

theorem Advised.parted {state : Option SessionState} (h : Advised a tidings state)
    (step : Client.Parts a b) (live : b.closed = false) : Advised b tidings state := by
  cases step with
  | works inbox outbox closed control active =>
      have inactive (before : a.active = false) : b.active = false := by
        rw [Bool.eq_false_iff] at before ⊢
        exact fun still => before (active still)
      obtain ⟨known, tells, believes⟩ := h.verdict
      refine ⟨⟨known, by rw [inbox]; exact tells, ?_⟩, fun warm => ?_⟩
      · rw [control]
        cases phase : a.control.phase with
        | unsent | awaiting | opening =>
            rw [phase] at believes
            exact inactive believes
        | accepting =>
            rw [phase] at believes
            exact ⟨inactive believes.1, believes.2⟩
        | ready | running | done =>
            rw [phase] at believes
            exact fun still => believes (active still)
        | yielding => trivial
      · exact (h.warm warm).imp (·.mono (by rw [inbox]) (by simp [outbox]) control) inactive
  | announces msg inbox outbox closed control active =>
      constructor
      · rw [inbox, control, active]
        exact h.verdict
      · rw [active]
        exact fun warm => (h.warm warm).imp_left (·.mono (by rw [inbox]) (by simp [outbox]) control)
  | leaves closed =>
      rw [closed] at live
      cases live

theorem Advised.delivered {state : Option SessionState} {msg : ServerMsg}
    (h : Advised a (msg :: tidings) state) (live : a.closed = false) :
    Advised (a.deliver msg) tidings state := by
  obtain ⟨queue, outbox, control, active⟩ := deliver_spec live msg tidings
  constructor
  · rw [queue, control, active]
    exact h.verdict
  · rw [active]
    exact fun warm => (h.warm warm).imp_left (·.mono queue outbox control)

end Client

section Server

variable {client client' : Client} {state state' : Option SessionState} {sent : List ServerMsg}

/-- The control thread tells a connection what it makes of its session, as long as there is
one. -/
theorem Served.verdict (served : Served client state sent client' state')
    (orderly : Orderly client state) :
    ∃ known, sent.foldlM ServerMsg.verdict (granted state) = some known ∧
      (state' ≠ none ∨ client'.closed = false → known = granted state') := by
  cases served with
  | apart same exchange mute present absent =>
      obtain ⟨known, tells, agrees⟩ := exchange.verdict
      refine ⟨known, tells, fun _ => ?_⟩
      by_cases missing : state = none
      · obtain ⟨silent, gone⟩ := absent missing
        rw [silent, missing] at tells
        rw [gone]
        exact (Option.some.inj tells).symm
      · exact agrees (present missing)
  | accepted same first before silent after =>
      refine ⟨false, by rw [silent, before]; rfl, fun _ => ?_⟩
      rcases after with gone | connected
      · rw [gone]
        rfl
      · rw [connected]
        rfl
  | introduced msg rest outbox same named before reply after =>
      obtain ⟨answer, silent, replies⟩ := reply
      refine ⟨false, ?_, fun _ => ?_⟩
      · rw [silent, before, List.foldlM_cons, ServerMsg.verdict_of_replies replies]
        rfl
      · rcases after with gone | negotiated
        · rw [gone]
          rfl
        · rw [negotiated]
          rfl
  | spoken msg rest outbox same named before exchange mute present ready =>
      obtain ⟨known, tells, agrees⟩ := exchange.verdict
      refine ⟨known, tells, ?_⟩
      rintro (stays | live)
      · exact agrees stays
      · refine agrees (present fun leaves => ?_)
        have closed := orderly.leaves ⟨msg, by simp [outbox], leaves⟩
        rw [same] at live
        cases closed.symm.trans live
  | ended same closed outbox before exchange =>
      obtain ⟨known, tells, agrees⟩ := exchange.verdict
      refine ⟨known, tells, ?_⟩
      rintro (stays | live)
      · exact agrees stays
      · rw [same, closed] at live
        cases live

/-- Who has no session is told nothing, and gets one by being accepted. -/
theorem Served.absent (served : Served client state sent client' state') (missing : state = none) :
    sent = [] ∧ (state' = none ∨ client.accepted = false ∧ state' = some .connected) := by
  cases served with
  | apart same exchange mute present absent =>
      obtain ⟨silent, gone⟩ := absent missing
      exact ⟨silent, .inl gone⟩
  | accepted same first before silent after => exact ⟨silent, after.imp_right (⟨first, ·⟩)⟩
  | introduced msg rest outbox same named before =>
      rw [missing] at before
      cases before
  | spoken msg rest outbox same named before => exact absurd missing before
  | ended same closed outbox before => exact absurd missing before

theorem Advised.served (h : Advised client [] state) (orderly : Orderly client state)
    (step : Served client state sent client' state') (live : client'.closed = false) :
    Advised client' sent state' := by
  obtain ⟨inbox, control, -, active, -⟩ := step.unchanged
  obtain ⟨known, tells, believes⟩ := h.verdict
  obtain ⟨decided, adds, agrees⟩ := step.verdict orderly
  rw [List.append_nil] at tells
  refine ⟨⟨known, ?_, ?_⟩, fun warm => ?_⟩
  · rw [inbox, List.foldlM_append, tells]
    exact agrees (.inr live) ▸ adds
  · rw [control, active]
    exact believes
  · by_cases due : state = some .grantedWarmup → Due client []
    · exact .inl (step.due live warm due)
    · obtain ⟨already, nothing⟩ := Classical.not_imp.mp due
      right
      rw [active]
      exact (h.warm already).resolve_left nothing

end Server

section Run

variable {w next : World} {ev : WorldEvent} {c : Nat}

theorem advised_turn (turn : Turn w c next ev) (orderly : Orderly (w.clients c) (w.session c))
    (live : (next.clients c).closed = false)
    (h : Advised (w.clients c) (w.tidings c) (w.session c)) :
    Advised (next.clients c) (next.tidings c) (next.session c) :=
  turn.live live h (fun h served => h.served orderly served) (fun h present => h.delivered present)
    (fun _ => ⟨h.verdict, h.warm⟩) (fun _ converses => h.conversed converses live)
    fun parts => h.parted parts live

theorem Booted.advised {start : World} (booted : Booted start) (c : Nat) :
    Advised (start.clients c) (start.tidings c) (start.session c) := by
  obtain ⟨clientId, modes, fresh⟩ := booted.clients c
  rw [booted.session c, fresh, World.tidings, booted.todo]
  exact ⟨⟨false, rfl, rfl⟩, fun warm => by cases warm⟩

theorem advised_of_run {start finish : World} {trace : List (World × WorldEvent)}
    (booted : Booted start) (run : world.Run start trace finish) (c : Nat)
    (live : (finish.clients c).closed = false) :
    Advised (finish.clients c) (finish.tidings c) (finish.session c) := by
  have always : Meets (fun _ _ => True) trace := fun _ _ => trivial
  have both := run.invariant
    (I := fun w => Wired w ∧ ((w.clients c).closed = false →
      Advised (w.clients c) (w.tidings c) (w.session c)))
    always ⟨booted.wired, fun _ => booted.advised c⟩ ?_
  · exact both.2 live
  · rintro w ev next ⟨wired, advised⟩ - taken
    have turn := turn_of_step wired taken c
    refine ⟨wired.step taken, fun live => ?_⟩
    exact advised_turn turn (wired.orderly c) live (advised (live_turn turn live))

/-- A step of anybody but the server's control thread at most hands on the next message. -/
theorem tidings_of_step (taken : world.step w ev = some next) (other : ∀ ev', ev ≠ .serve ev') :
    w.tidings c = (utters c w ev).toList ++ next.tidings c := by
  change w.step ev = some next at taken
  cases ev with
  | serve ev => exact absurd rfl (other ev)
  | effect =>
      simp only [step] at taken
      split at taken
      · cases taken
      · rename_i effect rest todo
        cases taken
        show w.todo.filterMap _ = (w.todo.head?.bind _).toList ++ rest.filterMap _
        rw [todo, List.filterMap_cons, List.head?_cons, Option.bind_some]
        cases effect.sentTo c <;> rfl
  | control | app | checkout | release =>
      obtain ⟨moved, -, rfl⟩ := Option.map_eq_some_iff.mp taken
      rfl
  | crash =>
      cases taken
      rfl

/-- What a connection has been told is what the server has decided about its session, as long
as there is one, and before it was accepted. -/
def Heeds (msgs : List ServerMsg) (client : Client) (state : Option SessionState) : Prop :=
  ∃ known, msgs.foldlM ServerMsg.verdict false = some known ∧
    (state ≠ none ∨ client.accepted = false → known = granted state)

/-- The control thread has handled an event. -/
theorem Heeds.served {msgs sent : List ServerMsg} {client client' : Client}
    {state state' : Option SessionState} (h : Heeds msgs client state)
    (step : Served client state sent client' state') (orderly : Orderly client state)
    (known : state ≠ none → client.accepted = true)
    (stays : client.accepted = true → client'.accepted = true) :
    Heeds (msgs ++ sent) client' state' := by
  obtain ⟨verdict, tells, agrees⟩ := h
  by_cases missing : state = none
  · obtain ⟨silent, gone | ⟨first, connected⟩⟩ := step.absent missing
    · rw [silent, gone, List.append_nil]
      refine ⟨verdict, tells, ?_⟩
      rintro (present | later)
      · exact absurd rfl present
      · rw [← missing]
        refine agrees (.inr (Bool.eq_false_iff.mpr fun accepted => ?_))
        rw [stays accepted] at later
        cases later
    · rw [silent, connected, List.append_nil]
      exact ⟨verdict, tells, fun _ => (agrees (.inr first)).trans (by rw [missing]; rfl)⟩
  · obtain ⟨decided, adds, settles⟩ := step.verdict orderly
    refine ⟨decided, ?_, ?_⟩
    · rw [List.foldlM_append, tells, agrees (.inl missing)]
      exact adds
    · rintro (present | later)
      · exact settles (.inl present)
      · rw [stays (known missing)] at later
        cases later

/-- Whoever has a session has been accepted. -/
theorem Wired.accepted_of_session (wired : Wired w) (present : w.session c ≠ none) :
    (w.clients c).accepted = true := by
  obtain ⟨state, found⟩ := Option.ne_none_iff_exists'.mp present
  obtain ⟨i, inUse, ctrlFd, -⟩ := SessionTable.slot_of_session found
  obtain ⟨d, same, accepted⟩ := wired.accepted i inUse
  obtain rfl : d = c := by omega
  exact accepted

theorem heeds_of_run {start finish : World} {trace : List (World × WorldEvent)}
    (booted : Booted start) (run : world.Run start trace finish) (c : Nat) :
    Heeds (dispatched c trace ++ finish.tidings c) (finish.clients c) (finish.session c) := by
  induction run with
  | nil =>
      rw [World.tidings, booted.todo, booted.session c]
      exact ⟨false, rfl, fun _ => rfl⟩
  | @snoc trace w ev next prior taken ih =>
      have wired := wired_of_run booted prior
      have stays := accepted_turn (turn_of_step wired taken c)
      rw [dispatched_snoc, List.append_assoc]
      by_cases serves : ∃ ev', ev = .serve ev'
      · obtain ⟨ev, rfl⟩ := serves
        have nothing : w.tidings c = [] := by simp [World.tidings, (serve_spec taken).1]
        rw [nothing, List.append_nil] at ih
        exact ih.served (wired.served_of_serve taken c) (wired.orderly c)
          wired.accepted_of_session stays
      · have other (ev' : Event) (same : ev = .serve ev') : False := serves ⟨ev', same⟩
        have session : next.session c = w.session c :=
          congrArg (·.table.session c) (server_of_step taken other)
        obtain ⟨known, tells, agrees⟩ := ih
        rw [← tidings_of_step taken other, session]
        refine ⟨known, tells, fun present => agrees (present.imp_right fun later => ?_)⟩
        rw [Bool.eq_false_iff] at later ⊢
        exact fun accepted => later (stays accepted)

/-- An advised client that is active and has nothing more to hear is active on the server. -/
theorem Quiescent.session (quiescent : w.Quiescent c)
    (advised : Advised (w.clients c) (w.tidings c) (w.session c))
    (active : (w.clients c).active = true) : w.session c = some .activeRt := by
  obtain ⟨⟨known, tells, believes⟩, warm⟩ := advised
  have knows : known = true := by
    rcases ControlPc.phase_of_waits quiescent.2.2.2 with stands | stands | stands
    · rw [stands, active] at believes
      cases believes
    · rw [stands, active] at believes
      cases believes
    · rw [stands] at believes
      exact believes active
  rw [quiescent.1, quiescent.2.2.1, knows] at tells
  have entitled : granted (w.session c) = true := (Option.some.inj tells).symm
  cases found : w.session c with
  | none =>
      rw [found] at entitled
      cases entitled
  | some state =>
      rw [found] at entitled
      cases state with
      | activeRt => rfl
      | grantedWarmup =>
          rcases warm found with due | inactive
          · exact absurd due quiescent.not_due
          · cases active.symm.trans inactive
      | _ => cases entitled

/-- In every state of every run: a client that takes itself for active is the active session,
unless a message is still on its way between it and the server. And no connection is ever
sent a second grant before the first one has been taken back. -/
theorem agrees_of_run {start finish : World} {trace : List (World × WorldEvent)}
    (booted : Booted start) (run : world.Run start trace finish) (c : Nat) :
    (finish.Quiescent c → (finish.clients c).active = true →
      ∃ i, (finish.server.table.slots i).inUse = true ∧
        (finish.server.table.slots i).ctrlFd = c ∧
        (finish.server.table.slots i).state = .activeRt ∧
        finish.server.table.activeSlot = some i) ∧
      ServerMsg.Alternates (dispatched c trace) := by
  constructor
  · intro quiescent active
    have wired := wired_of_run booted run
    have found := quiescent.session (advised_of_run booted run c (quiescent.live wired)) active
    obtain ⟨i, inUse, ctrlFd, holds⟩ := SessionTable.slot_of_session found
    refine ⟨i, inUse, ctrlFd, holds, (wired.coherent.active i).mpr ?_⟩
    exact finish.server.arbiter_status_eq_some.mpr ⟨inUse, holds⟩
  · obtain ⟨known, tells, -⟩ := heeds_of_run booted run c
    rw [List.foldlM_append] at tells
    obtain ⟨said, sent, -⟩ := Option.bind_eq_some_iff.mp tells
    exact ServerMsg.alternates_of_verdict sent

theorem agrees_of_run_comeback :
    ∃ trace finish, world.Run studio trace finish ∧ trace.map Prod.snd = comeback ∧
      (((dispatched 0 trace).filter (·.grant.isSome)).length = 2 ∧ finish.Quiescent 0 ∧
        (finish.clients 0).active = true) ∧
      (∃ i, (finish.server.table.slots i).inUse = true ∧
        (finish.server.table.slots i).ctrlFd = (0 : Nat) ∧
        (finish.server.table.slots i).state = .activeRt ∧
        finish.server.table.activeSlot = some i) ∧
      ServerMsg.Alternates (dispatched 0 trace) := by
  refine Demonstrates.exists_run
    (P := fun trace finish => ((dispatched 0 trace).filter (·.grant.isSome)).length = 2 ∧
      finish.Quiescent 0 ∧ (finish.clients 0).active = true)
    (by decide +kernel) ?_
  rintro trace finish run ⟨twice, quiescent, active⟩
  obtain ⟨agrees, alternates⟩ := agrees_of_run booted_studio run 0
  exact ⟨⟨twice, quiescent, active⟩, agrees quiescent active, alternates⟩

end Run

end World

end Wisp
