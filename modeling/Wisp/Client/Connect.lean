import Wisp.Client.Context
import Wisp.Socket.Receive

/-!
# Connecting

`wispc_connect` against an arbitrary peer. All the function learns of the peer are the bytes on
the socket up to its end, so the stream is the peer. Local variables that are not initialised
hold what was left on the stack, and a flag tells whether such a value was read.

The results of the sends are ignored, as in the source. A process that leaves `SIGPIPE` at its
default may also die in one, which is no return of the function.
-/

namespace Wisp

/-- `wisp_mode_msg_t` -/
structure ModeMsg where
  accepted : UInt8
  chosen : RenderMode

namespace ModeMsg

/-- `sizeof(wisp_mode_msg_t)` -/
def size : Nat := 16

/-- `memcpy(&mode, buf, sizeof(mode))` -/
def ofBytes (bytes : List UInt8) : ModeMsg where
  accepted := bytes.getD 0 0
  chosen :=
    { width := leU32 bytes 4
      height := leU32 bytes 8
      fps := leU32 bytes 12 }

/-- A message in full is read from the payload alone. -/
theorem ofBytes_append {payload : List UInt8} (full : size ≤ payload.length)
    (stale : List UInt8) : ofBytes (payload ++ stale) = ofBytes payload := by
  have byte (i : Nat) (small : i < size) : (payload ++ stale).getD i 0 = payload.getD i 0 := by
    rw [List.getD_eq_getElem?_getD, List.getElem?_append_left (by omega),
      ← List.getD_eq_getElem?_getD]
  simp (disch := decide) only [ofBytes, leU32, byte]

end ModeMsg

/-- The size of `buf` in `wispc_connect`. -/
def clientRecvBufSize : UInt32 := 256

/-- What the stack holds where `wispc_connect` has its variables. -/
structure Stale where
  kind : UInt32
  buf : List UInt8

/-- What `wispc_connect` returns and leaves behind: the mode of the context, `none` for `NULL`,
whether the socket is open, and whether a variable was read that nothing had been stored in. -/
structure Connection where
  mode : Option RenderMode
  socketOpen : Bool
  readsUnset : Bool
  deriving DecidableEq

namespace Client

/-- What `wispc_handle_grant` returns in a context without a ring: whether it returns 0.
`mapped` tells whether a ring could be mapped. -/
def handleGrant (mapped : Bool) (fds : List Int) : Bool :=
  mapped && 0 ≤ fds.headD (-1)

/-- The activation handshake of `wispc_connect`. Its variables have been set again before. -/
def activate (mapped : Bool) (first : Nat) (stream : List Cell) (mode : RenderMode)
    (readsUnset : Bool) : Connection :=
  match (ctrlRecvFds clientRecvBufSize 1 first stream).received with
  | .message type _ fds =>
      if type = MsgKind.activateGrant.toByte ∧ handleGrant mapped fds = false then
        ⟨none, false, readsUnset⟩
      else ⟨some mode, true, readsUnset⟩
  | _ => ⟨some mode, true, readsUnset⟩

/-- The payload of a MODE that was received. -/
def modePayload : ControlPlane.Received → Option (List UInt8)
  | .message type payload _ => if type = MsgKind.mode.toByte then some payload else none
  | .closed | .oversized => none

/-- `wispc_connect`. `reached` tells whether the socket could be connected, `first` how much the
first system call of the second receive returns. -/
def connect (reached mapped : Bool) (stale : Stale) (first : Nat) (stream : List Cell) :
    Connection :=
  if reached = false then ⟨none, false, false⟩
  else
    let reply := ctrlRecv clientRecvBufSize stream
    match modePayload reply.received with
    | some payload =>
        -- a short payload leaves the rest of `buf` as it was
        let mode := ModeMsg.ofBytes (payload ++ stale.buf.drop payload.length)
        let readsUnset := decide (payload.length < ModeMsg.size)
        if mode.accepted = 0 then ⟨none, false, readsUnset⟩
        else activate mapped first reply.rest mode.chosen readsUnset
    | none =>
        -- `kind` is stored only once a header has arrived
        let kind := (reply.kind.map UInt8.toUInt32).getD stale.kind
        let readsUnset := reply.kind.isNone
        if kind = MsgKind.versionMismatch.toByte.toUInt32 then ⟨none, false, readsUnset⟩
        else activate mapped first reply.rest ⟨0, 0, 0⟩ readsUnset

/-- The first reply is a MODE that is there in full. -/
def RepliesMode (stream : List Cell) : Prop :=
  Whole clientRecvBufSize stream ∧ (headerOf stream).headD 0 = MsgKind.mode.toByte ∧
    ModeMsg.size ≤ (lengthOf stream).toNat

/-- The payload of the first reply. -/
def payloadOf (stream : List Cell) : List UInt8 :=
  ((stream.drop headerSize).take (lengthOf stream).toNat).map Cell.byte

/-- `wispc_connect` succeeds only on an accepted mode, else it fails and closes the socket, and
it reads nothing that is not set. -/
structure Sound (stream : List Cell) (result : Connection) : Prop where
  accepted : ∀ mode, result.mode = some mode → RepliesMode stream ∧
    (ModeMsg.ofBytes (payloadOf stream)).accepted = 1 ∧
    (ModeMsg.ofBytes (payloadOf stream)).chosen = mode
  closed : result.mode = none → result.socketOpen = false
  set : result.readsUnset = false

/-- What the second receive finds on the stream: a message that the first one refused for its
length leaves its payload there. -/
def afterReply (stream : List Cell) : List Cell :=
  if lengthOf stream > clientRecvBufSize then stream.drop headerSize
  else if Whole clientRecvBufSize stream then
    stream.drop (headerSize + (lengthOf stream).toNat)
  else []

/-- The stream begins with a grant that is of no use: no ring, or no descriptor with it. -/
def SpoiltGrant (mapped : Bool) (first : Nat) (stream : List Cell) : Prop :=
  firstChunk first stream ≠ [] ∧ Whole clientRecvBufSize stream ∧
    (headerOf stream).headD 0 = MsgKind.activateGrant.toByte ∧
    handleGrant mapped ((delivered first stream).take 1) = false

instance (mapped : Bool) (first : Nat) (stream : List Cell) :
    Decidable (SpoiltGrant mapped first stream) :=
  inferInstanceAs (Decidable (_ ∧ _))

/-- The peers on which `wispc_connect` does what it should: nobody there, a version mismatch, a
MODE in full that says yes or no, or, after the header of anything but a short MODE, a grant that
ends the attempt. -/
def Forthright (reached mapped : Bool) (first : Nat) (stream : List Cell) : Prop :=
  reached = false ∨
    (headerSize ≤ stream.length ∧
      (headerOf stream).headD 0 = MsgKind.versionMismatch.toByte) ∨
    (RepliesMode stream ∧ ((ModeMsg.ofBytes (payloadOf stream)).accepted = 0 ∨
      (ModeMsg.ofBytes (payloadOf stream)).accepted = 1)) ∨
    (headerSize ≤ stream.length ∧
      ¬ (Whole clientRecvBufSize stream ∧ (headerOf stream).headD 0 = MsgKind.mode.toByte ∧
        (lengthOf stream).toNat < ModeMsg.size) ∧
      SpoiltGrant mapped first (afterReply stream))

theorem activate_eq (mapped : Bool) (first : Nat) (stream : List Cell) (mode : RenderMode)
    (readsUnset : Bool) :
    activate mapped first stream mode readsUnset =
      if SpoiltGrant mapped first stream then ⟨none, false, readsUnset⟩
      else ⟨some mode, true, readsUnset⟩ := by
  by_cases came : firstChunk first stream = []
  · rw [if_neg fun spoilt => spoilt.1 came]
    simp [activate, ctrlRecvFds, came]
  · rcases ctrlRecvFds_spec clientRecvBufSize 1 came with
      ⟨whole, payload, -, received, -⟩ | ⟨partly, failed, -⟩
    · simp only [activate, received, SpoiltGrant, ne_eq, came, not_false_eq_true, whole, true_and]
    · rw [if_neg fun spoilt => partly spoilt.2.1]
      rcases failed with failed | failed <;> simp only [activate, failed]

/-- What the first receive makes of the stream. -/
theorem ctrlRecv_spec (stream : List Cell) (long : headerSize ≤ stream.length) :
    (ctrlRecv clientRecvBufSize stream).kind = some ((headerOf stream).headD 0) ∧
      (ctrlRecv clientRecvBufSize stream).rest = afterReply stream ∧
      modePayload (ctrlRecv clientRecvBufSize stream).received =
        if Whole clientRecvBufSize stream ∧ (headerOf stream).headD 0 = MsgKind.mode.toByte then
          some (payloadOf stream)
        else none := by
  have header : recvAll headerSize stream =
      some (headerOf stream, stream.drop headerSize) := if_neg (Nat.not_lt.mpr long)
  have received : ctrlRecv clientRecvBufSize stream =
      recvPayload clientRecvBufSize (headerOf stream) [] [] (stream.drop headerSize) := by
    simp only [ctrlRecv, header]
  rw [received, recvPayload]
  by_cases large : lengthOf stream > clientRecvBufSize
  · have partly : ¬ Whole clientRecvBufSize stream := by
      intro whole
      have fits := UInt32.le_iff_toNat_le.mp whole.2.1
      have exceeds := UInt32.lt_iff_toNat_lt.mp large
      omega
    rw [if_pos (show ntohl ((headerOf stream).drop 1) > clientRecvBufSize from large)]
    refine ⟨rfl, ?_, ?_⟩
    · rw [afterReply, if_pos large]
    · rw [if_neg fun both => partly both.1]
      rfl
  · have fits : lengthOf stream ≤ clientRecvBufSize := by
      rw [UInt32.le_iff_toNat_le]
      rw [gt_iff_lt, UInt32.lt_iff_toNat_lt] at large
      omega
    rw [if_neg (show ¬ ntohl ((headerOf stream).drop 1) > clientRecvBufSize from large)]
    rw [show ntohl ((headerOf stream).drop 1) = lengthOf stream from rfl]
    by_cases short : stream.length < headerSize + (lengthOf stream).toNat
    · have missing : recvAll (lengthOf stream).toNat (stream.drop headerSize) = none :=
        if_pos (by rw [List.length_drop]; omega)
      have partly : ¬ Whole clientRecvBufSize stream := fun whole => Nat.not_le.mpr short whole.2.2
      rw [missing]
      refine ⟨rfl, ?_, ?_⟩
      · rw [afterReply, if_neg large, if_neg partly]
      · rw [if_neg fun both => partly both.1]
        rfl
    · have all : recvAll (lengthOf stream).toNat (stream.drop headerSize) =
          some (payloadOf stream, stream.drop (headerSize + (lengthOf stream).toNat)) := by
        rw [recvAll, if_neg (by rw [List.length_drop]; omega), List.drop_drop, payloadOf]
      have whole : Whole clientRecvBufSize stream := ⟨long, fits, Nat.not_lt.mp short⟩
      rw [all]
      refine ⟨rfl, ?_, ?_⟩
      · rw [afterReply, if_neg large, if_pos whole]
      · simp only [modePayload, whole, true_and]

theorem payloadOf_length {bufsize : UInt32} {stream : List Cell} (whole : Whole bufsize stream) :
    (payloadOf stream).length = (lengthOf stream).toNat := by
  have there := whole.2.2
  simp only [payloadOf, List.length_map, List.length_take, List.length_drop]
  omega

theorem Sound.of_null {stream : List Cell} : Sound stream ⟨none, false, false⟩ where
  accepted mode same := by cases same
  closed _ := rfl
  set := rfl

section Replies

variable {mapped : Bool} {stale : Stale} {first : Nat} {stream : List Cell}

/-- After a MODE of any length. -/
theorem connect_of_mode (long : headerSize ≤ stream.length)
    (replies : Whole clientRecvBufSize stream ∧
      (headerOf stream).headD 0 = MsgKind.mode.toByte) :
    connect true mapped stale first stream =
      let payload := payloadOf stream
      let mode := ModeMsg.ofBytes (payload ++ stale.buf.drop payload.length)
      let readsUnset := decide (payload.length < ModeMsg.size)
      if mode.accepted = 0 ∨ SpoiltGrant mapped first (afterReply stream) then
        ⟨none, false, readsUnset⟩
      else ⟨some mode.chosen, true, readsUnset⟩ := by
  obtain ⟨-, rest, payload⟩ := ctrlRecv_spec stream long
  rw [if_pos replies] at payload
  simp only [connect, payload, rest, activate_eq, Bool.true_eq_false, if_false]
  split
  · rename_i denied
    rw [if_pos (.inl denied)]
  · rename_i granted
    simp only [granted, false_or]

/-- After any other header. -/
theorem connect_of_other (long : headerSize ≤ stream.length)
    (other : ¬ (Whole clientRecvBufSize stream ∧
      (headerOf stream).headD 0 = MsgKind.mode.toByte)) :
    connect true mapped stale first stream =
      if (headerOf stream).headD 0 = MsgKind.versionMismatch.toByte ∨
          SpoiltGrant mapped first (afterReply stream) then ⟨none, false, false⟩
      else ⟨some ⟨0, 0, 0⟩, true, false⟩ := by
  obtain ⟨kind, rest, payload⟩ := ctrlRecv_spec stream long
  rw [if_neg other] at payload
  simp only [connect, payload, kind, rest, activate_eq, Bool.true_eq_false, if_false,
    Option.map_some, Option.getD_some, Option.isNone_some, UInt8.toUInt32_inj]
  split
  · rename_i mismatch
    rw [if_pos (.inl mismatch)]
  · rename_i other
    simp only [other, false_or]

theorem sound_of_mode (long : headerSize ≤ stream.length)
    (replies : Whole clientRecvBufSize stream ∧
      (headerOf stream).headD 0 = MsgKind.mode.toByte) :
    Sound stream (connect true mapped stale first stream) ↔
      Forthright true mapped first stream := by
  have length := payloadOf_length replies.1
  have match' : ¬ (headerOf stream).headD 0 = MsgKind.versionMismatch.toByte := by
    rw [replies.2]
    decide
  rw [connect_of_mode long replies]
  dsimp only
  by_cases full : ModeMsg.size ≤ (payloadOf stream).length
  · have all : RepliesMode stream := ⟨replies.1, replies.2, length ▸ full⟩
    have uncut : ¬ (Whole clientRecvBufSize stream ∧
        (headerOf stream).headD 0 = MsgKind.mode.toByte ∧
        (lengthOf stream).toNat < ModeMsg.size) := by
      rw [← length]
      exact fun cut => Nat.not_lt.mpr full cut.2.2
    rw [ModeMsg.ofBytes_append full, decide_eq_false (Nat.not_lt.mpr full)]
    by_cases denied : (ModeMsg.ofBytes (payloadOf stream)).accepted = 0
    · rw [if_pos (.inl denied)]
      exact iff_of_true .of_null (.inr (.inr (.inl ⟨all, .inl denied⟩)))
    · by_cases spoilt : SpoiltGrant mapped first (afterReply stream)
      · rw [if_pos (.inr spoilt)]
        exact iff_of_true .of_null (.inr (.inr (.inr ⟨long, uncut, spoilt⟩)))
      · rw [if_neg (not_or.mpr ⟨denied, spoilt⟩)]
        constructor
        · intro sound
          exact .inr (.inr (.inl ⟨all, .inr (sound.accepted _ rfl).2.1⟩))
        · rintro (gone | ⟨-, mismatch⟩ | ⟨-, answer⟩ | ⟨-, -, other⟩)
          · cases gone
          · exact absurd mismatch match'
          · have accepted := answer.resolve_left denied
            refine ⟨?_, ?_, rfl⟩
            · intro mode same
              cases same
              exact ⟨all, accepted, rfl⟩
            · intro same
              cases same
          · exact absurd other spoilt
  · have cut : (lengthOf stream).toNat < ModeMsg.size := length ▸ Nat.not_le.mp full
    rw [decide_eq_true (Nat.not_le.mp full)]
    refine iff_of_false (fun sound => ?_) ?_
    · have set := sound.set
      split at set <;> cases set
    · rintro (gone | ⟨-, mismatch⟩ | ⟨all, -⟩ | ⟨-, uncut, -⟩)
      · cases gone
      · exact match' mismatch
      · exact Nat.not_le.mpr cut all.2.2
      · exact uncut ⟨replies.1, replies.2, cut⟩

theorem sound_of_other (long : headerSize ≤ stream.length)
    (other : ¬ (Whole clientRecvBufSize stream ∧
      (headerOf stream).headD 0 = MsgKind.mode.toByte)) :
    Sound stream (connect true mapped stale first stream) ↔
      Forthright true mapped first stream := by
  rw [connect_of_other long other]
  by_cases mismatch : (headerOf stream).headD 0 = MsgKind.versionMismatch.toByte
  · rw [if_pos (.inl mismatch)]
    exact iff_of_true .of_null (.inr (.inl ⟨long, mismatch⟩))
  · by_cases spoilt : SpoiltGrant mapped first (afterReply stream)
    · rw [if_pos (.inr spoilt)]
      exact iff_of_true .of_null
        (.inr (.inr (.inr ⟨long, fun cut => other ⟨cut.1, cut.2.1⟩, spoilt⟩)))
    · rw [if_neg (not_or.mpr ⟨mismatch, spoilt⟩)]
      refine iff_of_false (fun sound => ?_) ?_
      · have replies := (sound.accepted _ rfl).1
        exact other ⟨replies.1, replies.2.1⟩
      · rintro (gone | ⟨-, same⟩ | ⟨replies, -⟩ | ⟨-, -, same⟩)
        · cases gone
        · exact mismatch same
        · exact other ⟨replies.1, replies.2.1⟩
        · exact spoilt same

/-- Without a header the kind is read as it was left on the stack. -/
theorem connect_of_short (short : stream.length < headerSize) :
    (connect true mapped stale first stream).readsUnset = true := by
  have reply : ctrlRecv clientRecvBufSize stream = ⟨.closed, none, [], []⟩ := by
    rw [ctrlRecv, recvAll, if_pos short]
  simp only [connect, reply, modePayload, activate_eq, Bool.true_eq_false, if_false]
  split
  · rfl
  · split <;> rfl

end Replies

/-- `wispc_connect` does what it should exactly with these peers, whatever the stack holds. -/
theorem sound_iff (reached mapped : Bool) (stale : Stale) (first : Nat) (stream : List Cell) :
    Sound stream (connect reached mapped stale first stream) ↔
      Forthright reached mapped first stream := by
  cases reached with
  | false => exact iff_of_true .of_null (.inl rfl)
  | true =>
      by_cases long : headerSize ≤ stream.length
      · by_cases replies : Whole clientRecvBufSize stream ∧
            (headerOf stream).headD 0 = MsgKind.mode.toByte
        · exact sound_of_mode long replies
        · exact sound_of_other long replies
      · refine iff_of_false (fun sound => ?_) ?_
        · have set := sound.set
          rw [connect_of_short (Nat.not_le.mp long)] at set
          cases set
        · rintro (gone | ⟨header, -⟩ | ⟨replies, -⟩ | ⟨header, -⟩)
          · cases gone
          · exact long header
          · exact long replies.1.1
          · exact long header

/-- A server whose table is full closes the socket without a reply: the call succeeds if the
stack does not happen to hold the right number. -/
theorem not_sound_of_closed : ¬ Sound [] (connect true true ⟨0, []⟩ 0 []) := by
  intro sound
  have replies := (sound.accepted ⟨0, 0, 0⟩ (by decide)).1
  exact absurd replies.1.1 (by decide)

end Client

end Wisp
