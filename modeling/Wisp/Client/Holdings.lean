import Wisp.DataPlane.Memory

/-!
# What a client acquires and gives back

`wispc_connect`, the control loop and `wispc_disconnect` as far as memory, descriptors and the
mapping of the ring go. Every call may fail, and the server is anybody: a message may come with
any number of descriptors, and need not come in full.

Two things can stay behind. A descriptor that comes with another message than a grant is
received and forgotten, and the ring stays mapped when `wispc_connect` fails on a grant that
came without a descriptor.
-/

namespace Wisp

open Custody

/-- What the server sends in answer to CONNECT: no MODE in full, a refusal, an accepted mode, or
a version mismatch. -/
inductive FirstReply where
  | accepted
  | refused
  | mismatch
  | other
  deriving DecidableEq, Repr

/-- What `wisp_ctrl_recv_fds` meets: how many descriptors are attached, whether a message of
acceptable size comes in full, and whether it is a grant. -/
structure Delivery where
  attached : Nat
  whole : Bool
  grant : Bool
  deriving DecidableEq, Repr

/-- `wispc_ctx_t` -/
structure ClientCtx where
  ctx : Resource Kind
  ctrlFd : Resource Kind
  ring : Option (Resource Kind)
  frameFd : Option (Resource Kind)

/-- Why `wispc_connect` returns `NULL`. -/
inductive ConnectFailure where
  | noMemory
  | noServer
  | refused
  | mismatch
  | noRing
  | noFrameFd
  deriving DecidableEq, Repr

/-- `wisp_ctrl_recv_fds` stores one descriptor and closes the others. -/
def harvest : Nat → Option (Resource Kind) → Prog Kind (Option (Resource Kind))
  | 0, kept => pure kept
  | attached + 1, kept => do
      match ← acquire .descriptor, kept with
      | none, kept => harvest attached kept
      | some fd, none => harvest attached (some fd)
      | some fd, some kept => do
          release fd
          harvest attached (some kept)

/-- `wisp_ctrl_recv_fds`: the descriptor that is left when it returns 0. -/
def recvFds (d : Delivery) : Prog Kind (Option (Resource Kind)) := do
  let kept ← harvest d.attached none
  if d.whole then pure kept
  else do
    releaseIf kept
    pure none

/-- `wispc_shm_attach` with so many attempts left. -/
def shmAttach : Nat → Prog Kind (Option (Resource Kind))
  | 0 => pure none
  | retries + 1 => do
      match ← acquire .descriptor with
      | none => shmAttach retries
      | some fd =>
          let ring ← acquire .mapping
          release fd
          pure ring

namespace ClientCtx

/-- `wispc_handle_grant`: whether it returns 0, and what is in the context then. -/
def handleGrant (ctx : ClientCtx) (frameFd : Option (Resource Kind)) :
    Prog Kind (Bool × ClientCtx) := do
  let ring ← match ctx.ring with
    | some ring => pure (some ring)
    | none => shmAttach 50
  match ring, frameFd with
  | some ring, some frameFd => do
      releaseIf ctx.frameFd
      pure (true, { ctx with ring := some ring, frameFd := some frameFd })
  | ring, frameFd => do
      releaseIf frameFd
      pure (false, { ctx with ring })

/-- The control loop: one message after the other. -/
def controlLoop : List Delivery → ClientCtx → Prog Kind ClientCtx
  | [], ctx => pure ctx
  | d :: rest, ctx => do
      let fd ← recvFds d
      if d.whole && d.grant then
        let r ← ctx.handleGrant fd
        controlLoop rest r.2
      else controlLoop rest ctx

/-- `wispc_disconnect` -/
def disconnect (ctx : ClientCtx) : Prog Kind Unit := do
  release ctx.ctrlFd
  releaseIf ctx.ring
  releaseIf ctx.frameFd
  release ctx.ctx

/-- The dial loop of `wispc_connect` with so many attempts left. -/
def dial : Nat → Prog Kind (Option (Resource Kind))
  | 0 => pure none
  | attempts + 1 => do
      match ← acquire .descriptor with
      | none => pure none
      | some fd =>
          if ← call then pure (some fd)
          else do
            release fd
            dial attempts

/-- The activation handshake of `wispc_connect`. -/
def activate (ctx : ClientCtx) (d : Delivery) : Prog Kind (Except ConnectFailure ClientCtx) := do
  let fd ← recvFds d
  if d.whole && d.grant then
    let r ← ctx.handleGrant fd
    if r.1 then pure (.ok r.2)
    else do
      release ctx.ctrlFd
      release ctx.ctx
      pure (.error (if r.2.ring.isSome then .noFrameFd else .noRing))
  else pure (.ok ctx)

/-- `wispc_connect` -/
def connect (reply : FirstReply) (d : Delivery) : Prog Kind (Except ConnectFailure ClientCtx) := do
  match ← acquire .memory with
  | none => pure (.error .noMemory)
  | some ctx =>
      match ← dial 100 with
      | none => do
          release ctx
          pure (.error .noServer)
      | some fd =>
          let giveUp (failure : ConnectFailure) : Prog Kind (Except ConnectFailure ClientCtx) := do
            release fd
            release ctx
            pure (.error failure)
          match reply with
          | .refused => giveUp .refused
          | .mismatch => giveUp .mismatch
          | .accepted | .other => activate ⟨ctx, fd, none, none⟩ d

/-- A client from `wispc_connect` to `wispc_disconnect`. -/
def session (reply : FirstReply) (d : Delivery) (rest : List Delivery) :
    Prog Kind (Option ConnectFailure) := do
  match ← connect reply d with
  | .error failure => pure (some failure)
  | .ok ctx => do
      let ctx ← controlLoop rest ctx
      ctx.disconnect
      pure none

/-- What the context names. -/
def owned (ctx : ClientCtx) : Multiset (Resource Kind) :=
  {ctx.ctx} + {ctx.ctrlFd} + Custody.owned ctx.ring + Custody.owned ctx.frameFd

end ClientCtx

/-- Descriptors that came with another message than a grant: at most one is kept. -/
def Delivery.forgets (d : Delivery) : Nat :=
  if d.whole && !d.grant && 0 < d.attached then 1 else 0

/-- What has been forgotten: so many descriptors at most. -/
structure Forgotten (most : Nat) (lost : Multiset (Resource Kind)) : Prop where
  bounded : lost.card ≤ most
  kinds : ∀ r ∈ lost, r.kind = .descriptor

theorem Forgotten.none (most : Nat) : Forgotten most 0 :=
  ⟨Nat.zero_le most, nofun⟩

theorem Forgotten.add {m n : Nat} {first second : Multiset (Resource Kind)}
    (one : Forgotten m first) (two : Forgotten n second) : Forgotten (m + n) (first + second) := by
  refine ⟨?_, fun r member => ?_⟩
  · rw [Multiset.card_add]
    exact Nat.add_le_add one.bounded two.bounded
  · rcases Multiset.mem_add.mp member with member | member
    · exact one.kinds r member
    · exact two.kinds r member

variable {held : Multiset (Resource Kind)}

/-- A descriptor that has been received. -/
def IsDescriptor (r : Option (Resource Kind)) : Prop :=
  ∀ fd, r = some fd → fd.kind = .descriptor

theorem keeps_harvest (attached : Nat) {kept : Option (Resource Kind)} (known : IsDescriptor kept)
    {Q : Option (Resource Kind) → Multiset (Resource Kind) → Prop}
    (done : ∀ r, IsDescriptor r → (attached = 0 → r = kept) → Q r (owned r + held)) :
    Keeps (owned kept + held) (harvest attached kept) Q := by
  induction attached generalizing kept with
  | zero => exact .pure (done kept known fun _ => rfl)
  | succ attached ih =>
      have next {kept : Option (Resource Kind)} (known : IsDescriptor kept) :
          Keeps (owned kept + held) (harvest attached kept) Q :=
        ih known fun r fd _ => done r fd nofun
      refine .bind (.acquire (next known) fun fd kind => ?_)
      cases kept with
      | none =>
          have one : IsDescriptor (some fd) := by
            rintro _ ⟨⟩
            exact kind
          rw [owned_none, zero_add]
          exact next one
      | some kept => exact .bind (.release rfl (next known))

theorem keeps_recvFds (d : Delivery) {Q : Option (Resource Kind) → Multiset (Resource Kind) → Prop}
    (done : ∀ r, IsDescriptor r → (d.whole = false ∨ d.attached = 0 → r = none) →
      Q r (owned r + held)) : Keeps held (recvFds d) Q := by
  have start : held = owned none + held := (zero_add held).symm
  have nothing : IsDescriptor none := fun _ same => nomatch same
  rw [start]
  refine .bind (keeps_harvest d.attached nothing fun r fd same => ?_)
  split
  · rename_i whole
    refine .pure (done r fd fun empty => same (empty.resolve_left ?_))
    rw [whole]
    nofun
  · refine .bind (.releaseIf rfl (.pure ?_))
    exact start ▸ done none nothing fun _ => rfl

theorem keeps_shmAttach (retries : Nat)
    {Q : Option (Resource Kind) → Multiset (Resource Kind) → Prop}
    (done : ∀ r, (∀ ring, r = some ring → ring.kind = .mapping) → Q r (owned r + held)) :
    Keeps held (shmAttach retries) Q := by
  have gives : Q none held := by
    simpa using done none fun _ same => nomatch same
  induction retries with
  | zero => exact .pure gives
  | succ retries ih =>
      refine .bind (.acquire ih fun fd _ => .bind (.acquire ?_ fun ring kind => ?_))
      · exact .bind (.release rfl (.pure gives))
      · refine .bind (.release (F := {ring} + held) (by abel) (.pure (done (some ring) ?_)))
        rintro _ ⟨⟩
        exact kind

/-- What comes with another message than a grant is forgotten. -/
theorem forgotten_of_other {d : Delivery} {r : Option (Resource Kind)} (genuine : IsDescriptor r)
    (absent : d.whole = false ∨ d.attached = 0 → r = none) (other : ¬ (d.whole && d.grant) = true) :
    Forgotten d.forgets (owned r) := by
  cases r with
  | none => exact .none _
  | some fd =>
      have there : ¬ (d.whole = false ∨ d.attached = 0) := fun empty => nomatch absent empty
      obtain ⟨whole, attached⟩ := not_or.mp there
      rw [Bool.not_eq_false] at whole
      have grant : d.grant = false := by simpa [whole] using other
      refine ⟨?_, fun r member => ?_⟩
      · simp [Delivery.forgets, whole, grant, Nat.pos_of_ne_zero attached]
      · rw [owned_some, Multiset.mem_singleton] at member
        exact genuine r (congrArg some member.symm)

namespace ClientCtx

variable {ctx : ClientCtx}

/-- The ring is a mapping. -/
def Fits (ctx : ClientCtx) : Prop :=
  ∀ ring, ctx.ring = some ring → ring.kind = .mapping

/-- What a grant does to the context: its descriptor is taken over, or closed. -/
theorem keeps_handleGrant (fits : ctx.Fits) (fd : Option (Resource Kind))
    {Q : Bool × ClientCtx → Multiset (Resource Kind) → Prop}
    (adopted : ∀ ctx', Fits ctx' → Q (true, ctx') (ctx'.owned + held))
    (refused : ∀ ring, Fits { ctx with ring } →
      Q (false, { ctx with ring }) (owned { ctx with ring } + held)) :
    Keeps (Custody.owned fd + (ctx.owned + held)) (ctx.handleGrant fd) Q := by
  have rest (ring : Option (Resource Kind)) (fits : Fits { ctx with ring }) :
      Keeps (Custody.owned fd + (owned { ctx with ring } + held))
        (match ring, fd with
          | some ring, some frameFd => do
              releaseIf ctx.frameFd
              pure (true, { ctx with ring := some ring, frameFd := some frameFd })
          | ring, frameFd => do
              releaseIf frameFd
              pure (false, { ctx with ring })) Q := by
    have closes : Keeps (Custody.owned fd + (owned { ctx with ring } + held)) (do
        releaseIf fd
        pure (false, { ctx with ring })) Q :=
      .bind (.releaseIf rfl (.pure (refused ring fits)))
    cases ring with
    | none => exact closes
    | some ring =>
        cases fd with
        | none => exact closes
        | some fd =>
            refine .bind (.releaseIf
              (F := owned { ctx with ring := some ring, frameFd := some fd } + held) ?_
              (.pure (adopted _ fits)))
            simp only [owned, owned_some]
            abel
  unfold handleGrant
  cases mapped : ctx.ring with
  | some ring =>
      have same : { ctx with ring := some ring } = ctx := by rw [← mapped]
      have next := rest (some ring) (same.symm ▸ fits)
      rw [same] at next
      exact .bind (.pure next)
  | none =>
      refine .bind (keeps_shmAttach 50 fun ring kind => ?_)
      have next := rest ring kind
      rw [show Custody.owned ring + (Custody.owned fd + (ctx.owned + held)) =
        Custody.owned fd + (owned { ctx with ring } + held) by
          simp only [owned, mapped, owned_none]
          abel]
      exact next

/-- The control loop holds what the context names, and what it has forgotten. -/
theorem keeps_controlLoop (rest : List Delivery) {ctx : ClientCtx} (fits : ctx.Fits)
    {Q : ClientCtx → Multiset (Resource Kind) → Prop}
    (done : ∀ ctx' lost, Forgotten (rest.map Delivery.forgets).sum lost →
      Q ctx' (ctx'.owned + (lost + held))) :
    Keeps (ctx.owned + held) (controlLoop rest ctx) Q := by
  induction rest generalizing ctx held with
  | nil => exact .pure (by simpa using done ctx 0 (.none _))
  | cons d rest ih =>
      -- What is lost on the message comes before what is lost later.
      have next {ctx : ClientCtx} (fits : ctx.Fits) {lost : Multiset (Resource Kind)}
          (forgotten : Forgotten d.forgets lost) :
          Keeps (ctx.owned + (lost + held)) (controlLoop rest ctx) Q := by
        refine ih fits fun ctx' lost' forgotten' => ?_
        rw [← add_assoc lost', add_comm lost' lost]
        refine done ctx' (lost + lost') ?_
        rw [List.map_cons, List.sum_cons]
        exact forgotten.add forgotten'
      have clean {ctx : ClientCtx} (fits : ctx.Fits) :
          Keeps (ctx.owned + held) (controlLoop rest ctx) Q := by
        simpa using next fits (Forgotten.none d.forgets)
      refine .bind (keeps_recvFds d fun fd genuine absent => ?_)
      split
      · refine .bind (keeps_handleGrant fits fd (fun ctx' fits => clean fits) fun ring fits => ?_)
        exact clean fits
      · rename_i other
        have again := next fits (forgotten_of_other genuine absent other)
        rwa [add_left_comm] at again

theorem keeps_disconnect {Q : Unit → Multiset (Resource Kind) → Prop} (done : Q () held) :
    Keeps (ctx.owned + held) ctx.disconnect Q := by
  refine .bind (.release (F := Custody.owned ctx.ring + (Custody.owned ctx.frameFd +
    ({ctx.ctx} + held))) ?_ (.bind (.releaseIf rfl (.bind (.releaseIf rfl (.release rfl done))))))
  rw [owned]
  abel

theorem keeps_dial (attempts : Nat) {Q : Option (Resource Kind) → Multiset (Resource Kind) → Prop}
    (done : ∀ r, Q r (Custody.owned r + held)) : Keeps held (dial attempts) Q := by
  have gives : Q none held := by simpa using done none
  induction attempts with
  | zero => exact .pure gives
  | succ attempts ih =>
      refine .bind (.acquire (.pure gives) fun fd _ => .bind (.call (.pure (done (some fd))) ?_))
      exact .bind (.release rfl ih)

/-- What is left of a client that has got no connection. -/
def debris : ConnectFailure → Multiset Kind
  | .noFrameFd => {.mapping}
  | _ => 0

/-- What `wispc_connect` does to the holdings. -/
def Connects (most : Nat) (held : Multiset (Resource Kind)) :
    Except ConnectFailure ClientCtx → Multiset (Resource Kind) → Prop
  | .ok ctx, held' => ctx.Fits ∧ ∃ lost, Forgotten most lost ∧ held' = ctx.owned + (lost + held)
  | .error failure, held' =>
      ∃ left, left.map Resource.kind = debris failure ∧ held' = left + held

theorem keeps_activate (d : Delivery) (ctx fd : Resource Kind) :
    Keeps (owned ⟨ctx, fd, none, none⟩ + held) (activate ⟨ctx, fd, none, none⟩ d)
      (Connects d.forgets held) := by
  have fits : Fits ⟨ctx, fd, none, none⟩ := fun _ same => nomatch same
  refine .bind (keeps_recvFds d fun received genuine absent => ?_)
  split
  · refine .bind (keeps_handleGrant fits received (fun ctx' fits => .pure ?_) fun ring fits => ?_)
    · exact ⟨fits, 0, .none _, by rw [zero_add]⟩
    · rw [if_neg nofun]
      refine .bind (.release (F := {ctx} + (Custody.owned ring + held)) ?_
        (.bind (.release rfl (.pure ⟨Custody.owned ring, ?_, rfl⟩))))
      · simp only [owned, owned_none]
        abel
      · cases ring with
        | none => rfl
        | some ring => simp [debris, fits ring rfl]
  · rename_i other
    refine .pure ⟨fits, Custody.owned received, forgotten_of_other genuine absent other, ?_⟩
    exact add_left_comm ..

theorem keeps_connect (reply : FirstReply) (d : Delivery) :
    Keeps held (connect reply d) (Connects d.forgets held) := by
  have none {failure : ConnectFailure} (clean : debris failure = 0) :
      Connects d.forgets held (.error failure) held :=
    ⟨0, clean.symm, (zero_add held).symm⟩
  refine .bind (.acquire (.pure (none rfl)) fun ctx _ => .bind (keeps_dial 100 fun fd => ?_))
  cases fd with
  | none =>
      rw [owned_none, zero_add]
      exact .bind (.release rfl (.pure (none rfl)))
  | some fd =>
      have giveUp {failure : ConnectFailure} (clean : debris failure = 0) :
          Keeps ({fd} + ({ctx} + held)) (do
            release fd
            release ctx
            pure (.error failure) : Prog Kind (Except ConnectFailure ClientCtx))
            (Connects d.forgets held) :=
        .bind (.release rfl (.bind (.release rfl (.pure (none clean)))))
      have activates : Keeps (owned ⟨ctx, fd, Option.none, Option.none⟩ + held)
          (activate ⟨ctx, fd, Option.none, Option.none⟩ d) (Connects d.forgets held) :=
        keeps_activate d ctx fd
      rw [show owned ⟨ctx, fd, Option.none, Option.none⟩ + held = {fd} + ({ctx} + held) by
        simp only [owned, owned_none]
        abel] at activates
      cases reply with
      | refused => exact giveUp rfl
      | mismatch => exact giveUp rfl
      | accepted | other => exact activates

/-- Whatever the server sends and whatever calls fail: when the client is done, nothing is left
but the ring, if `wispc_connect` has failed on a grant without a descriptor, and a descriptor for
each message that came in full with some and was no grant. Nothing is given back twice. -/
theorem released_of_session (reply : FirstReply) (d : Delivery) (rest : List Delivery)
    (answer : Nat → Bool) :
    (∃ left lost, ((session reply d rest).run (.start answer)).2.held = left + lost ∧
        left.map Resource.kind =
          (((session reply d rest).run (.start answer)).1.elim 0 debris) ∧
        Forgotten ((d :: rest).map Delivery.forgets).sum lost) ∧
      ((session reply d rest).run (.start answer)).2.strays = 0 := by
  refine Keeps.start (Q := fun exit held => ∃ left lost, held = left + lost ∧
    left.map Resource.kind = Option.elim exit 0 debris ∧
      Forgotten ((d :: rest).map Delivery.forgets).sum lost) ?_ answer
  refine .bind ((keeps_connect reply d).mono fun r held known => ?_)
  cases r with
  | error failure =>
      obtain ⟨left, kinds, rfl⟩ := known
      exact .pure ⟨left, 0, rfl, kinds, .none _⟩
  | ok ctx =>
      obtain ⟨fits, lost, forgotten, rfl⟩ := known
      refine .bind (keeps_controlLoop rest fits fun ctx' lost' forgotten' => ?_)
      refine .bind (keeps_disconnect (.pure ⟨0, lost' + (lost + 0), (zero_add _).symm, rfl, ?_⟩))
      rw [add_zero, add_comm lost', List.map_cons, List.sum_cons]
      exact forgotten.add forgotten'

end ClientCtx

end Wisp
