import Wisp.Socket.Framing

/-!
# One message received

`wisp_ctrl_recv` and `wisp_ctrl_recv_fds` as functions of what arrives on the socket until it
fails or the peer closes it. They say more than the value returned: which kind has been stored
through `out_kind` by then, which descriptors were closed, and what is left to be read.

`Reads` are the same calls one system call after the other, and they return the same: only the
size of the first chunk matters, as it decides which descriptors are harvested.
-/

namespace Wisp

open ControlPlane (Received)

/-- What a call of a receiver has done by its return. -/
structure Receipt where
  received : Received
  kind : Option UInt8
  closed : List Int
  rest : List Cell

/-- `wisp__recv_all`: the bytes, and what is left on the stream. -/
def recvAll (len : Nat) (stream : List Cell) : Option (List UInt8 × List Cell) :=
  if stream.length < len then none
  else some ((stream.take len).map Cell.byte, stream.drop len)

/-- What both receivers do from a complete header on. A receiver that fails closes the
descriptors it has harvested. -/
def recvPayload (bufsize : UInt32) (hdr : List UInt8) (fds closed : List Int)
    (stream : List Cell) : Receipt :=
  let kind := hdr.headD 0
  let len := ntohl (hdr.drop 1)
  if len > bufsize then ⟨.oversized, some kind, closed ++ closeFds fds, stream⟩
  else match recvAll len.toNat stream with
    | none => ⟨.closed, some kind, closed ++ closeFds fds, []⟩
    | some (payload, stream) => ⟨.message kind payload fds, some kind, closed, stream⟩

/-- `wisp_ctrl_recv` -/
def ctrlRecv (bufsize : UInt32) (stream : List Cell) : Receipt :=
  match recvAll headerSize stream with
  | none => ⟨.closed, none, [], []⟩
  | some (hdr, stream) => recvPayload bufsize hdr [] [] stream

/-- The bytes that `recvmsg` returns, with the descriptors on them: at most a header. -/
def firstChunk (first : Nat) (stream : List Cell) : List Cell :=
  stream.take (min first headerSize)

/-- The descriptors that come with the first chunk. -/
def delivered (first : Nat) (stream : List Cell) : List Int :=
  (firstChunk first stream).flatMap Cell.fds

/-- `wisp_ctrl_recv_fds`. The call of `recvmsg` returns `first` bytes, none when it fails. -/
def ctrlRecvFds (bufsize : UInt32) (maxFds first : Nat) (stream : List Cell) : Receipt :=
  let chunk := firstChunk first stream
  if chunk.isEmpty then ⟨.closed, none, [], stream⟩
  else
    let fds := (delivered first stream).take maxFds
    let excess := (delivered first stream).drop maxFds
    match recvAll (headerSize - chunk.length) (stream.drop chunk.length) with
    | none => ⟨.closed, none, excess ++ closeFds fds, []⟩
    | some (bytes, stream) =>
        recvPayload bufsize (chunk.map Cell.byte ++ bytes) fds excess stream

theorem recvAll_zero (stream : List Cell) : recvAll 0 stream = some ([], stream) :=
  if_neg (Nat.not_lt_zero _)

/-- The first bytes can be read on their own. -/
theorem recvAll_split {len n : Nat} {stream : List Cell} (asked : n ≤ len)
    (there : n ≤ stream.length) :
    recvAll len stream = (recvAll (len - n) (stream.drop n)).map fun later =>
      ((stream.take n).map Cell.byte ++ later.1, later.2) := by
  unfold recvAll
  rw [List.length_drop]
  by_cases missing : stream.length < len
  · rw [if_pos missing, if_pos (by omega)]
    rfl
  · rw [if_neg missing, if_neg (by omega), Option.map_some, ← List.map_append, List.drop_drop]
    have sum : n + (len - n) = len := by omega
    rw [← List.take_add, sum]

/-- The header that a stream begins with. -/
def headerOf (stream : List Cell) : List UInt8 :=
  (stream.take headerSize).map Cell.byte

/-- The payload length that the header gives. -/
def lengthOf (stream : List Cell) : UInt32 :=
  ntohl ((headerOf stream).drop 1)

/-- A whole message arrives, and its payload fits the buffer. -/
def Whole (bufsize : UInt32) (stream : List Cell) : Prop :=
  headerSize ≤ stream.length ∧ lengthOf stream ≤ bufsize ∧
    headerSize + (lengthOf stream).toNat ≤ stream.length

instance (bufsize : UInt32) (stream : List Cell) : Decidable (Whole bufsize stream) :=
  inferInstanceAs (Decidable (_ ∧ _))

/-- After a first chunk it does not matter how the header was read. -/
theorem ctrlRecvFds_eq {bufsize : UInt32} {maxFds first : Nat} {stream : List Cell}
    (came : firstChunk first stream ≠ []) :
    ctrlRecvFds bufsize maxFds first stream =
      if stream.length < headerSize then
        ⟨.closed, none, (delivered first stream).drop maxFds ++
          closeFds ((delivered first stream).take maxFds), []⟩
      else recvPayload bufsize (headerOf stream) ((delivered first stream).take maxFds)
        ((delivered first stream).drop maxFds) (stream.drop headerSize) := by
  let n := (firstChunk first stream).length
  have asked : n ≤ headerSize := by
    simp only [n, firstChunk, List.length_take]
    omega
  have there : n ≤ stream.length := by
    simp only [n, firstChunk, List.length_take]
    omega
  have chunk : stream.take n = firstChunk first stream := by
    simp only [n, firstChunk, List.length_take]
    exact List.take_eq_take_min.symm
  have split := recvAll_split asked there
  rw [chunk] at split
  simp only [ctrlRecvFds, List.isEmpty_iff, came, if_false]
  show (match recvAll (headerSize - n) (stream.drop n) with
    | none => _
    | some (bytes, rest) => _) = _
  cases later : recvAll (headerSize - n) (stream.drop n) with
  | none =>
      rw [later, recvAll] at split
      by_cases short : stream.length < headerSize
      · rw [if_pos short]
      · rw [if_neg short] at split
        cases split
  | some result =>
      rw [later, recvAll] at split
      by_cases short : stream.length < headerSize
      · rw [if_pos short] at split
        cases split
      · rw [if_neg short, Option.map_some, Option.some_inj, Prod.mk.injEq] at split
        rw [if_neg short]
        dsimp only
        rw [← split.1, ← split.2]
        rfl

/-- What the receiver makes of a whole message, and of anything else. -/
theorem ctrlRecvFds_spec (bufsize : UInt32) (maxFds : Nat) {first : Nat} {stream : List Cell}
    (came : firstChunk first stream ≠ []) :
    (Whole bufsize stream ∧ ∃ payload, payload.length = (lengthOf stream).toNat ∧
        (ctrlRecvFds bufsize maxFds first stream).received =
          .message ((headerOf stream).headD 0) payload ((delivered first stream).take maxFds) ∧
        (ctrlRecvFds bufsize maxFds first stream).closed =
          (delivered first stream).drop maxFds) ∨
      (¬ Whole bufsize stream ∧
        ((ctrlRecvFds bufsize maxFds first stream).received = .closed ∨
          (ctrlRecvFds bufsize maxFds first stream).received = .oversized) ∧
        (ctrlRecvFds bufsize maxFds first stream).closed = (delivered first stream).drop maxFds ++
          closeFds ((delivered first stream).take maxFds)) := by
  rw [ctrlRecvFds_eq came]
  split
  · rename_i short
    exact .inr ⟨fun whole => Nat.not_lt.mpr whole.1 short, .inl rfl, rfl⟩
  · rename_i long
    unfold recvPayload
    dsimp only
    split
    · rename_i large
      refine .inr ⟨fun whole => ?_, .inr rfl, rfl⟩
      exact absurd whole.2.1 (by simpa [lengthOf] using large)
    · rename_i fits
      unfold recvAll
      by_cases short : (stream.drop headerSize).length < (ntohl ((headerOf stream).drop 1)).toNat
      · rw [if_pos short]
        refine .inr ⟨fun whole => ?_, .inl rfl, rfl⟩
        have := whole.2.2
        rw [lengthOf] at this
        rw [List.length_drop] at short
        omega
      · rw [if_neg short]
        rw [List.length_drop] at short
        refine .inl ⟨⟨Nat.not_lt.mp long, by simpa [lengthOf] using fits, ?_⟩, _, ?_, rfl, rfl⟩
        · rw [lengthOf]
          omega
        · rw [List.length_map, List.length_take, List.length_drop, lengthOf]
          omega

/-- A call of a receiver that stands here returns this when the socket hands out the stream
and then fails. -/
inductive Reads (call : RecvCall) : RecvPc → List Cell → Received → Prop where
  | returns {received : Received} {stream : List Cell} :
      Reads call (.done received) stream received
  | reads {pc : RecvPc} {stream : List Cell} {n : Nat} {received : Received} (some : 0 < n)
      (asked : n ≤ pc.request) (there : n ≤ stream.length)
      (later : Reads call (pc.took call (stream.take n)) (stream.drop n) received) :
      Reads call pc stream received
  | fails {pc : RecvPc} (busy : pc.fail = some (.done .closed)) : Reads call pc [] .closed

namespace Reads

variable {call : RecvCall} {stream : List Cell} {received : Received}

theorem eq_of_done {result : Received} (reads : Reads call (.done result) stream received) :
    received = result := by
  cases reads with
  | returns => rfl
  | reads some asked =>
      simp only [RecvPc.request] at asked
      omega
  | fails busy => cases busy

/-- In the payload, however it is split. -/
theorem payload {kind : UInt8} {len : Nat} {got : List UInt8} {fds : List Int}
    (reads : Reads call (.payload kind len got fds) stream received) (short : got.length < len) :
    received = match recvAll (len - got.length) stream with
      | none => .closed
      | some (bytes, _) => .message kind (got ++ bytes) fds := by
  generalize stands : RecvPc.payload kind len got fds = pc at reads
  induction reads generalizing got with
  | returns => cases stands
  | fails =>
      subst stands
      have missing : recvAll (len - got.length) [] = none :=
        if_pos (by rw [List.length_nil]; omega)
      rw [missing]
  | @reads pc stream n received some asked there later ih =>
      subst stands
      have asked : n ≤ len - got.length := asked
      have more : (got ++ (stream.take n).map Cell.byte).length = got.length + n := by
        simp [there]
      by_cases whole : got.length + n = len
      · have here : RecvPc.took call (stream.take n) (.payload kind len got fds) =
            .done (.message kind (got ++ (stream.take n).map Cell.byte) fds) :=
          if_neg (by omega)
        rw [here] at later
        have all : recvAll (len - got.length) stream =
            Option.some ((stream.take n).map Cell.byte, stream.drop n) := by
          rw [show len - got.length = n by omega, recvAll, if_neg (by omega)]
        rw [later.eq_of_done, all]
      · have goes : RecvPc.payload kind len (got ++ (stream.take n).map Cell.byte) fds =
            RecvPc.took call (stream.take n) (.payload kind len got fds) :=
          (if_pos (by omega)).symm
        rw [ih (by omega) goes, more, recvAll_split asked there, Nat.sub_sub]
        cases recvAll (len - (got.length + n)) (stream.drop n) <;> simp

/-- Where the header is complete. -/
theorem complete {got : List UInt8} {fds : List Int} (closed : List Int)
    (whole : headerSize ≤ got.length)
    (reads : Reads call (RecvPc.atHeader call got fds) stream received) :
    received = (recvPayload call.bufsize got fds closed stream).received := by
  unfold RecvPc.atHeader at reads
  rw [if_neg (Nat.not_lt.mpr whole)] at reads
  unfold recvPayload
  dsimp only at reads ⊢
  by_cases large : ntohl (got.drop 1) > call.bufsize
  · rw [if_pos large] at reads ⊢
    exact reads.eq_of_done
  · rw [if_neg large] at reads ⊢
    unfold RecvPc.atPayload at reads
    rw [List.length_nil] at reads
    by_cases none : 0 < (ntohl (got.drop 1)).toNat
    · rw [if_pos none] at reads
      have result := reads.payload none
      rw [List.length_nil, Nat.sub_zero] at result
      rw [result]
      cases recvAll (ntohl (got.drop 1)).toNat stream <;> rfl
    · rw [if_neg none] at reads
      have empty : (ntohl (got.drop 1)).toNat = 0 := by omega
      rw [reads.eq_of_done, empty]
      rfl

/-- In the header. -/
theorem header {got : List UInt8} {fds : List Int} (closed : List Int)
    (reads : Reads call (.header got fds) stream received) (short : got.length < headerSize) :
    received = match recvAll (headerSize - got.length) stream with
      | none => .closed
      | some (bytes, stream) =>
          (recvPayload call.bufsize (got ++ bytes) fds closed stream).received := by
  generalize stands : RecvPc.header got fds = pc at reads
  induction reads generalizing got with
  | returns => cases stands
  | fails =>
      have missing : recvAll (headerSize - got.length) [] = none :=
        if_pos (by rw [List.length_nil]; omega)
      rw [missing]
  | @reads pc stream n received some asked there later ih =>
      subst stands
      have asked : n ≤ headerSize - got.length := asked
      have more : (got ++ (stream.take n).map Cell.byte).length = got.length + n := by
        simp [there]
      by_cases whole : got.length + n = headerSize
      · have all : recvAll (headerSize - got.length) stream =
            Option.some ((stream.take n).map Cell.byte, stream.drop n) := by
          rw [show headerSize - got.length = n by omega, recvAll, if_neg (by omega)]
        rw [all]
        exact complete closed (by omega) later
      · have goes : RecvPc.header (got ++ (stream.take n).map Cell.byte) fds =
            RecvPc.took call (stream.take n) (.header got fds) :=
          (if_pos (by omega)).symm
        rw [ih (by omega) goes, more, recvAll_split asked there, Nat.sub_sub]
        cases recvAll (headerSize - (got.length + n)) (stream.drop n) <;> simp

/-- After the first bytes of the header. -/
theorem rest {got : List UInt8} {fds : List Int} (closed : List Int)
    (reads : Reads call (RecvPc.atHeader call got fds) stream received)
    (part : got.length ≤ headerSize) :
    received = match recvAll (headerSize - got.length) stream with
      | none => .closed
      | some (bytes, stream) =>
          (recvPayload call.bufsize (got ++ bytes) fds closed stream).received := by
  by_cases whole : got.length = headerSize
  · have all : recvAll (headerSize - got.length) stream = Option.some ([], stream) := by
      rw [whole, Nat.sub_self, recvAll_zero]
    rw [all]
    simp only [List.append_nil]
    exact reads.complete closed (by omega)
  · have short : got.length < headerSize := by omega
    unfold RecvPc.atHeader at reads
    rw [if_pos short] at reads
    exact reads.header closed short

end Reads

/-- `wisp_ctrl_recv_fds`, however the kernel splits the stream. -/
theorem ctrlRecvFds_of_reads {call : RecvCall} {stream : List Cell} {received : Received}
    (harvests : call.plain = false) (reads : Reads call .first stream received) :
    ∃ first, received = (ctrlRecvFds call.bufsize call.maxFds first stream).received := by
  generalize stands : RecvPc.first = pc at reads
  cases reads with
  | returns => cases stands
  | fails => exact ⟨0, rfl⟩
  | @reads _ _ n _ some asked there later =>
      subst stands
      have asked : n ≤ headerSize := asked
      have chunk : firstChunk n stream = stream.take n := by
        rw [firstChunk, Nat.min_eq_left asked]
      have length : (stream.take n).length = n := List.length_take_of_le there
      have bytes : ((stream.take n).map Cell.byte).length = n := by
        rw [List.length_map, length]
      have fds : RecvPc.harvest call (stream.take n) = (delivered n stream).take call.maxFds := by
        rw [RecvPc.harvest, harvests, delivered, chunk]
        rfl
      have later : Reads call (RecvPc.atHeader call ((stream.take n).map Cell.byte)
          ((delivered n stream).take call.maxFds)) (stream.drop n) received := by
        rw [← fds]
        exact later
      refine ⟨n, ?_⟩
      have some : (stream.take n).isEmpty = false := by
        rw [Bool.eq_false_iff, ne_eq, List.isEmpty_iff_length_eq_zero, length]
        omega
      simp only [ctrlRecvFds, chunk, some, Bool.false_eq_true, if_false, length]
      rw [later.rest ((delivered n stream).drop call.maxFds) (by omega), bytes]
      cases recvAll (headerSize - n) (stream.drop n) <;> rfl

/-- `wisp_ctrl_recv`, however the kernel splits the stream. -/
theorem ctrlRecv_of_reads {call : RecvCall} {stream : List Cell} {received : Received}
    (plain : call.plain = true) (reads : Reads call .first stream received) :
    received = (ctrlRecv call.bufsize stream).received := by
  generalize stands : RecvPc.first = pc at reads
  cases reads with
  | returns => cases stands
  | fails => rfl
  | @reads _ _ n _ some asked there later =>
      subst stands
      have asked : n ≤ headerSize := asked
      have bytes : ((stream.take n).map Cell.byte).length = n := by
        rw [List.length_map, List.length_take_of_le there]
      have later : Reads call (RecvPc.atHeader call ((stream.take n).map Cell.byte) [])
          (stream.drop n) received := by
        have none : RecvPc.harvest call (stream.take n) = [] := if_pos plain
        rw [← none]
        exact later
      unfold ctrlRecv
      rw [recvAll_split asked there]
      rw [later.rest [] (by omega), bytes]
      cases recvAll (headerSize - n) (stream.drop n) <;> rfl

end Wisp
