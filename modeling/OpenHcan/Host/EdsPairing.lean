import OpenHcan.Host.EdsFields
import OpenHcan.Lib.Machine

/-!
# EdsPairing — which request a reply answers

The accessors of `eds_block` against a board behind two channels. A request
carries an address and an index, a reply carries neither; `recv_…` looks at the
sender, the size, the service and the command. A request that has ended with
the timeout of `recv_frame` leaves its reply in the channel or in the socket.

The channels deliver every frame once and in order, each after an arbitrary
delay. Requests are numbered; the number of a request goes with its frame and
with the reply of the board, and no code looks at it. The memory of the board
may change at any time.
-/

namespace OpenHcan.Host

open OpenHcan.Eds OpenHcan.Lib

/-! ## The accessors, request by request -/

/-- What an accessor returns. -/
inductive BlockValue where
  | uint8 (v : UInt8)
  | uint16 (v : Nat)
  | text (s : List Char)
deriving DecidableEq, Repr

/-- An accessor under way: it returns or throws, or it sends a
`READ_FROM_BLOCK` and goes on with the reply. -/
inductive BlockCall where
  | ret (result : Except String BlockValue)
  | read (address index : Nat) (rest : CanixFrame → BlockCall)

/-- The accessor against a board that answers at once. -/
def BlockCall.direct (mcu : Mcu) (c : EdsConnection) (m : Eeprom) :
    BlockCall → Except String BlockValue
  | .ret result => result
  | .read address index rest =>
      match readFromBlock mcu c m address index with
      | .ok d => (rest d).direct mcu c m
      | .error e => .error e

/-- `eds_block::field` and `uint16_field`, which differ in what they make of the
reply. -/
def numberCall (value : CanixFrame → BlockValue) (address : Nat) (fs : List FieldDesc)
    (key : List Char) : BlockCall :=
  match getBlockFieldDescByKey fs key with
  | .error e => .ret (.error e)
  | .ok f =>
      if f.datatype = .char then
        .ret (.error ("eds_block::field: eds block field '" ++ String.ofList key ++
          "' is type char[], not uint8_t"))
      else .read address (f.pos + 2) fun d => .ret (.ok (value d))

/-- `eds_block::field` -/
def fieldCall : Nat → List FieldDesc → List Char → BlockCall :=
  numberCall fun d => .uint8 (d.byte 2)

/-- `eds_block::uint16_field` -/
def uint16FieldCall : Nat → List FieldDesc → List Char → BlockCall :=
  numberCall fun d => .uint16 (word (d.byte 3) (d.byte 2))

/-- The `for` loop of `eds_block::strfield`. -/
def strfieldCallLoop (address index size : Nat) : Nat → Nat → List UInt8 → BlockCall
  | 0, _, s => .ret (.ok (.text (s.map byteChar)))
  | fuel + 1, j, s =>
      if j < size then
        .read address (index + j) fun d =>
          let bytes := [d.byte 2, d.byte 3, d.byte 4, d.byte 5]
          let s := s ++ bytes.takeWhile fun b => b != 0
          if bytes.all fun b => b != 0 then strfieldCallLoop address index size fuel (j + 4) s
          else .ret (.ok (.text (s.map byteChar)))
      else .ret (.ok (.text (s.map byteChar)))

/-- `eds_block::strfield` -/
def strfieldCall (address : Nat) (fs : List FieldDesc) (key : List Char) : BlockCall :=
  match getBlockFieldDescByKey fs key with
  | .error e => .ret (.error e)
  | .ok f =>
      if f.datatype ≠ .char then
        .ret (.error ("eds_block::strfield: eds block field '" ++ String.ofList key ++
          "' is not type char[]"))
      else strfieldCallLoop address (f.pos + 2) f.size f.size 0 []

/-- An access of the caller to the block at `address` with the fields `fs`. -/
inductive BlockRead where
  | field (address : Nat) (fs : List FieldDesc) (key : List Char)
  | uint16Field (address : Nat) (fs : List FieldDesc) (key : List Char)
  | strfield (address : Nat) (fs : List FieldDesc) (key : List Char)

def BlockRead.call : BlockRead → BlockCall
  | .field address fs key => fieldCall address fs key
  | .uint16Field address fs key => uint16FieldCall address fs key
  | .strfield address fs key => strfieldCall address fs key

section Direct

variable (mcu : Mcu) (c : EdsConnection) (m : Eeprom) (address : Nat)

/-- With a board that answers at once an accessor is the one of `EdsFields`. -/
theorem fieldCall_direct (fs : List FieldDesc) (key : List Char) :
    (fieldCall address fs key).direct mcu c m =
      (field mcu c m address fs key).map BlockValue.uint8 := by
  unfold fieldCall numberCall field
  cases getBlockFieldDescByKey fs key with
  | error e => rfl
  | ok f =>
      show BlockCall.direct mcu c m (if f.datatype = .char then _ else _) =
        Except.map _ (if f.datatype = .char then _ else _)
      by_cases hchar : f.datatype = .char
      · rw [if_pos hchar, if_pos hchar]
        rfl
      · rw [if_neg hchar, if_neg hchar, BlockCall.direct]
        cases readFromBlock mcu c m address (f.pos + 2) <;> rfl

theorem uint16FieldCall_direct (fs : List FieldDesc) (key : List Char) :
    (uint16FieldCall address fs key).direct mcu c m =
      (uint16Field mcu c m address fs key).map BlockValue.uint16 := by
  unfold uint16FieldCall numberCall uint16Field
  cases getBlockFieldDescByKey fs key with
  | error e => rfl
  | ok f =>
      show BlockCall.direct mcu c m (if f.datatype = .char then _ else _) =
        Except.map _ (if f.datatype = .char then _ else _)
      by_cases hchar : f.datatype = .char
      · rw [if_pos hchar, if_pos hchar]
        rfl
      · rw [if_neg hchar, if_neg hchar, BlockCall.direct]
        cases readFromBlock mcu c m address (f.pos + 2) <;> rfl

theorem strfieldCallLoop_direct (index size fuel : Nat) :
    ∀ j s, (strfieldCallLoop address index size fuel j s).direct mcu c m =
      (strfieldLoop mcu c m address index size fuel j s).map fun s =>
        BlockValue.text (s.map byteChar) := by
  induction fuel with
  | zero => intro j s; rfl
  | succ fuel ih =>
      intro j s
      unfold strfieldCallLoop strfieldLoop
      by_cases hj : j < size
      · rw [if_pos hj, if_pos hj, BlockCall.direct]
        cases readFromBlock mcu c m address (index + j) with
        | error e => rfl
        | ok d =>
            show BlockCall.direct mcu c m (if List.all _ _ = true then _ else _) =
              Except.map _ (if List.all _ _ = true then _ else _)
            split
            · exact ih _ _
            · rfl
      · rw [if_neg hj, if_neg hj]
        rfl

theorem strfieldCall_direct (fs : List FieldDesc) (key : List Char) :
    (strfieldCall address fs key).direct mcu c m =
      (strfield mcu c m address fs key).map BlockValue.text := by
  unfold strfieldCall strfield
  cases getBlockFieldDescByKey fs key with
  | error e => rfl
  | ok f =>
      show BlockCall.direct mcu c m (if f.datatype ≠ .char then _ else _) =
        Except.map _ (if f.datatype ≠ .char then _ else _)
      by_cases hchar : f.datatype ≠ .char
      · rw [if_pos hchar, if_pos hchar]
        rfl
      · rw [if_neg hchar, if_neg hchar,
          strfieldCallLoop_direct mcu c m address (f.pos + 2) f.size f.size 0 []]
        show _ = Except.map _ ((strfieldLoop mcu c m address (f.pos + 2) f.size f.size 0 []).bind _)
        cases strfieldLoop mcu c m address (f.pos + 2) f.size f.size 0 [] <;> rfl

end Direct

/-! ## Host, board and channels -/

/-- A frame with the number of the request it is or answers. -/
structure NumberedFrame where
  number : Nat
  frame : CanixFrame
deriving DecidableEq, Repr

/-- A reply the host has taken for the answer to its request. -/
structure TakenReply where
  request : Nat
  number : Nat
deriving DecidableEq, Repr

/-- The two parties and what is on the way between them, oldest first: the board's
memory, the requests, the replies, what has arrived in the socket, and of the
host how many requests it has sent, how many of them have timed out, and what
it does with the reply it waits for. `taken` and `returned` are all replies
taken and all results of accessors. -/
structure EdsLink where
  eeprom : Eeprom
  toBoard : List NumberedFrame
  toHost : List NumberedFrame
  socket : List NumberedFrame
  sent : Nat
  timeouts : Nat
  waiting : Option (CanixFrame → BlockCall)
  taken : List TakenReply
  returned : List (Except String BlockValue)

/-- What happens: the caller calls an accessor, the board takes a request, a reply
arrives, `recv_frame` reads one, its timeout is over, or the memory of the
board changes. -/
inductive LinkEvent where
  | call (op : BlockRead)
  | board
  | arrive
  | read
  | timeout
  | eeprom (m : Eeprom)

namespace EdsLink

/-- Nothing is on the way. -/
def start (m : Eeprom) : EdsLink := ⟨m, [], [], [], 0, 0, none, [], []⟩

/-- An accessor returns, or sends its next request. -/
def proceed (c : EdsConnection) (s : EdsLink) : BlockCall → EdsLink
  | .ret result => { s with waiting := none, returned := s.returned ++ [result] }
  | .read address index rest =>
      { s with
        toBoard := s.toBoard ++
          [⟨s.sent, c.sendReadFromBlock address (UInt8.ofNat index)⟩]
        sent := s.sent + 1
        waiting := some rest }

/-- `eds_can_callback` for the oldest request. -/
def board (mcu : Mcu) (c : EdsConnection) (s : EdsLink) : EdsLink :=
  match s.toBoard with
  | [] => s
  | q :: toBoard =>
      -- the reply carries no address: only the number says what it answers
      let (m, answer) := edsCanCallback mcu c.dst s.eeprom q.frame
      { s with
        eeprom := m
        toBoard := toBoard
        toHost := s.toHost ++ answer.toList.map fun f => (⟨q.number, f⟩ : NumberedFrame) }

def arrive (s : EdsLink) : EdsLink :=
  match s.toHost with
  | [] => s
  | q :: toHost => { s with toHost := toHost, socket := s.socket ++ [q] }

/-- `recv_frame` and `recv_READ_FROM_BLOCK_REPLAY`, if a frame has arrived. The
request that waits is the last one sent. -/
def read (c : EdsConnection) (s : EdsLink) : EdsLink :=
  match s.waiting, s.socket with
  | some rest, q :: socket =>
      let s := { s with socket := socket }
      if q.frame.dst ≠ c.src then s
      else
        match recvReplay c.dst hcanSrvEds hcanEdsReadFromBlockReplay 4 (some q.frame) with
        | .error e => { s with waiting := none, returned := s.returned ++ [.error e] }
        | .ok d => proceed c { s with taken := s.taken ++ [⟨s.sent - 1, q.number⟩] } (rest d)
  | _, _ => s

/-- Nothing has arrived in time. -/
def timeout (s : EdsLink) : EdsLink :=
  match s.waiting, s.socket with
  | some _, [] =>
      { s with
        timeouts := s.timeouts + 1
        waiting := none
        returned := s.returned ++ [.error "timeout while waiting for packet"] }
  | _, _ => s

/-- One event. A caller that waits calls nothing else. -/
def step (mcu : Mcu) (c : EdsConnection) (s : EdsLink) : LinkEvent → EdsLink
  | .call op => if s.waiting.isSome then s else s.proceed c op.call
  | .board => s.board mcu c
  | .arrive => s.arrive
  | .read => s.read c
  | .timeout => s.timeout
  | .eeprom m => { s with eeprom := m }

/-- Every reply taken answers the request it was taken for. -/
def Paired (s : EdsLink) : Prop := ∀ t ∈ s.taken, t.number = t.request

/-- A reply is only read as long as no request has timed out. -/
def NoLateReply (s : EdsLink) (e : LinkEvent) : Prop :=
  e = .read → s.waiting.isSome → s.socket ≠ [] → s.timeouts = 0

/-! ## What is on the way -/

/-- The frames that are not yet read, oldest first. -/
def pending (s : EdsLink) : List NumberedFrame := s.socket ++ s.toHost ++ s.toBoard

/-- How many requests are not settled: those that have timed out, whose replies are
still to come, and the one that waits. -/
def unsettled (s : EdsLink) : Nat := s.timeouts + s.waiting.toList.length

/-- A reply of the board to a request of the host. -/
def IsReply (c : EdsConnection) (f : CanixFrame) : Prop :=
  ∃ request bytes, request.src = c.src ∧ bytes.length = 4 ∧
    f = edsAnswer c.dst request (hcanEdsReadFromBlockReplay :: bytes)

/-- The numbers on the way are those of the unsettled requests, in order. -/
structure LinkInv (c : EdsConnection) (s : EdsLink) : Prop where
  numbers : s.pending.map NumberedFrame.number =
    List.range' (s.sent - s.unsettled) s.unsettled
  unsettled_le : s.unsettled ≤ s.sent
  requests : ∀ q ∈ s.toBoard, ∃ address index, q.frame = c.sendReadFromBlock address index
  replies : ∀ q ∈ s.socket ++ s.toHost, IsReply c q.frame

variable {mcu : Mcu} {c : EdsConnection} {s : EdsLink}

theorem linkInv_start (c : EdsConnection) (m : Eeprom) : LinkInv c (start m) where
  numbers := rfl
  unsettled_le := Nat.le_refl 0
  requests _ h := absurd h List.not_mem_nil
  replies _ h := absurd h List.not_mem_nil

theorem IsReply.dst {f : CanixFrame} (h : IsReply c f) : f.dst = c.src := by
  obtain ⟨request, bytes, hsrc, -, rfl⟩ := h
  exact hsrc

/-- No check tells the replies apart. -/
theorem IsReply.accepted {f : CanixFrame} (h : IsReply c f) :
    recvReplay c.dst hcanSrvEds hcanEdsReadFromBlockReplay 4 (some f) = .ok f := by
  obtain ⟨request, bytes, -, hlen, rfl⟩ := h
  rw [← hlen]
  exact recvReplay_edsAnswer c.dst request _ bytes (by omega)

/-- The board answers a request with a reply. -/
theorem edsCanCallback_request (mcu : Mcu) (c : EdsConnection) (m : Eeprom) (address : Nat)
    (index : UInt8) :
    ∃ f, edsCanCallback mcu c.dst m (c.sendReadFromBlock address index) = (m, some f) ∧
      IsReply c f :=
  ⟨_, edsCanCallback_read rfl, _, [_, _, _, _], rfl, rfl, rfl⟩

/-- What an accessor does next does not disturb what is on the way. -/
theorem linkInv_proceed (hi : LinkInv c s) (hw : s.waiting = none) (call : BlockCall) :
    LinkInv c (s.proceed c call) := by
  have hnumbers := hi.numbers
  have hle := hi.unsettled_le
  cases call with
  | ret result =>
      have hsame : (s.proceed c (.ret result)).unsettled = s.unsettled := by
        simp [unsettled, proceed, hw]
      refine ⟨?_, ?_, hi.requests, hi.replies⟩
      · rw [hsame]
        exact hnumbers
      · rw [hsame]
        exact hle
  | read address index rest =>
      have hone : (s.proceed c (.read address index rest)).unsettled = s.unsettled + 1 := by
        simp [unsettled, proceed, hw]
      refine ⟨?_, ?_, fun q hq => ?_, hi.replies⟩
      · have hlast : s.sent - s.unsettled + 1 * s.unsettled = s.sent := by omega
        rw [hone]
        show ((s.socket ++ s.toHost) ++ (s.toBoard ++ [_])).map NumberedFrame.number =
          List.range' (s.sent + 1 - (s.unsettled + 1)) (s.unsettled + 1)
        rw [← List.append_assoc, List.map_append, Nat.add_sub_add_right, List.range'_concat, hlast]
        exact congrArg (· ++ [s.sent]) hnumbers
      · rw [hone]
        exact Nat.succ_le_succ hle
      · rcases List.mem_append.mp hq with hq | hq
        · exact hi.requests q hq
        · rw [List.mem_singleton.mp hq]
          exact ⟨_, _, rfl⟩

theorem linkInv_board (hi : LinkInv c s) : LinkInv c (s.board mcu c) := by
  have hnumbers := hi.numbers
  cases hq : s.toBoard with
  | nil =>
      rw [board, hq]
      exact hi
  | cons q toBoard =>
      obtain ⟨address, index, hframe⟩ := hi.requests q (by rw [hq]; exact List.mem_cons_self)
      obtain ⟨f, hanswer, hreply⟩ := edsCanCallback_request mcu c s.eeprom address index
      have hboard : s.board mcu c =
          { s with toBoard := toBoard, toHost := s.toHost ++ [⟨q.number, f⟩] } := by
        rw [board, hq]
        dsimp only
        rw [hframe, hanswer]
        rfl
      rw [hboard]
      refine ⟨?_, hi.unsettled_le, fun r hr => ?_, fun r hr => ?_⟩
      · rw [pending, hq] at hnumbers
        refine Eq.trans ?_ hnumbers
        show ((s.socket ++ (s.toHost ++ [_])) ++ toBoard).map NumberedFrame.number = _
        simp
      · exact hi.requests r (by rw [hq]; exact List.mem_cons_of_mem q hr)
      · rw [← List.append_assoc] at hr
        rcases List.mem_append.mp hr with hr | hr
        · exact hi.replies r hr
        · rw [List.mem_singleton.mp hr]
          exact hreply

theorem linkInv_arrive (hi : LinkInv c s) : LinkInv c s.arrive := by
  have hnumbers := hi.numbers
  cases hq : s.toHost with
  | nil =>
      rw [arrive, hq]
      exact hi
  | cons q toHost =>
      have harrive : s.arrive = { s with toHost := toHost, socket := s.socket ++ [q] } := by
        rw [arrive, hq]
      have hsame : (s.socket ++ [q]) ++ toHost = s.socket ++ s.toHost := by
        rw [hq, List.append_assoc, List.singleton_append]
      rw [harrive]
      refine ⟨?_, hi.unsettled_le, hi.requests, fun r hr => hi.replies r (hsame ▸ hr)⟩
      show (((s.socket ++ [q]) ++ toHost) ++ s.toBoard).map NumberedFrame.number = _
      rw [hsame]
      exact hnumbers

theorem linkInv_timeout (hi : LinkInv c s) : LinkInv c s.timeout := by
  unfold timeout
  split
  · next hw hs =>
      have hsame : s.timeouts + 1 + 0 = s.unsettled := by simp [unsettled, hw]
      refine ⟨?_, ?_, hi.requests, hi.replies⟩
      · show s.pending.map NumberedFrame.number =
          List.range' (s.sent - (s.timeouts + 1 + 0)) (s.timeouts + 1 + 0)
        rw [hsame]
        exact hi.numbers
      · show s.timeouts + 1 + 0 ≤ s.sent
        rw [hsame]
        exact hi.unsettled_le
  · exact hi

/-! ## Reading -/

/-- **A reply is read**: it is the oldest frame on the way, and it is taken for the
answer to the last request. -/
theorem read_spec (hi : LinkInv c s) {rest : CanixFrame → BlockCall} {q : NumberedFrame}
    {socket : List NumberedFrame} (hw : s.waiting = some rest) (hs : s.socket = q :: socket) :
    q.number + s.timeouts + 1 = s.sent ∧ (s.read c).taken = s.taken ++ [⟨s.sent - 1, q.number⟩] ∧
      (s.read c).timeouts = s.timeouts ∧ LinkInv c (s.read c) := by
  have hnumbers := hi.numbers
  have hle := hi.unsettled_le
  have hcount : s.unsettled = s.timeouts + 1 := by simp [unsettled, hw]
  have hreply := hi.replies q (by rw [hs]; exact List.mem_append_left _ List.mem_cons_self)
  rw [pending, hs, hcount, List.range'_succ] at hnumbers
  obtain ⟨hhead, htail⟩ := List.cons.inj hnumbers
  -- the state without the reply and without the request that waited for it
  let s' : EdsLink :=
    { s with socket := socket, waiting := none, taken := s.taken ++ [⟨s.sent - 1, q.number⟩] }
  have hread : s.read c = s'.proceed c (rest q.frame) := by
    rw [read, hw, hs]
    dsimp only
    rw [if_neg (not_not.mpr hreply.dst), hreply.accepted]
    dsimp only
    cases rest q.frame <;> rfl
  have hi' : LinkInv c s' := by
    have hfirst : s.sent - (s.timeouts + 1) + 1 = s.sent - s.timeouts := by omega
    refine ⟨?_, ?_, hi.requests, fun r hr => hi.replies r ?_⟩
    · rw [hfirst] at htail
      exact htail
    · show s.timeouts + 0 ≤ s.sent
      omega
    · rw [hs]
      exact List.mem_cons_of_mem q hr
  have htaken : (s'.proceed c (rest q.frame)).taken = s'.taken ∧
      (s'.proceed c (rest q.frame)).timeouts = s'.timeouts := by
    cases rest q.frame <;> exact ⟨rfl, rfl⟩
  rw [hread]
  exact ⟨by omega, htaken.1, htaken.2, linkInv_proceed hi' rfl _⟩

theorem read_idle (h : ¬ (s.waiting.isSome = true ∧ s.socket ≠ [])) : s.read c = s := by
  unfold read
  split
  · next rest q socket hw hs =>
      exact absurd ⟨by rw [hw]; rfl, by rw [hs]; exact List.cons_ne_nil q socket⟩ h
  · rfl

theorem linkInv_step (mcu : Mcu) (hi : LinkInv c s) (e : LinkEvent) :
    LinkInv c (s.step mcu c e) := by
  cases e with
  | call op =>
      show LinkInv c (if s.waiting.isSome then s else s.proceed c op.call)
      split
      · exact hi
      · next hw => exact linkInv_proceed hi (Option.not_isSome_iff_eq_none.mp hw) _
  | board => exact linkInv_board hi
  | arrive => exact linkInv_arrive hi
  | read =>
      show LinkInv c (s.read c)
      by_cases h : s.waiting.isSome = true ∧ s.socket ≠ []
      · obtain ⟨rest, hw⟩ := Option.isSome_iff_exists.mp h.1
        obtain ⟨q, socket, hs⟩ := List.exists_cons_of_ne_nil h.2
        exact (read_spec hi hw hs).2.2.2
      · rw [read_idle h]
        exact hi
  | timeout => exact linkInv_timeout hi
  | eeprom m => exact ⟨hi.numbers, hi.unsettled_le, hi.requests, hi.replies⟩

/-- Only reading takes replies. -/
theorem step_taken (mcu : Mcu) (c : EdsConnection) (s : EdsLink) {e : LinkEvent} (h : e ≠ .read) :
    (s.step mcu c e).taken = s.taken := by
  cases e with
  | call op =>
      show (if s.waiting.isSome then s else s.proceed c op.call).taken = s.taken
      split
      · rfl
      · cases op.call <;> rfl
  | board =>
      show (s.board mcu c).taken = s.taken
      unfold board
      split <;> rfl
  | arrive =>
      show s.arrive.taken = s.taken
      unfold arrive
      split <;> rfl
  | read => exact absurd rfl h
  | timeout =>
      show s.timeout.taken = s.taken
      unfold timeout
      split <;> rfl
  | eeprom m => rfl

/-- **One event** keeps the replies with their requests exactly if it is not a late
reply. -/
theorem paired_step_iff (mcu : Mcu) (hi : LinkInv c s) (hp : s.Paired) (e : LinkEvent) :
    (s.step mcu c e).Paired ↔ s.NoLateReply e := by
  by_cases he : e = .read
  · subst he
    show (s.read c).Paired ↔ _
    by_cases h : s.waiting.isSome = true ∧ s.socket ≠ []
    · obtain ⟨rest, hw⟩ := Option.isSome_iff_exists.mp h.1
      obtain ⟨q, socket, hs⟩ := List.exists_cons_of_ne_nil h.2
      obtain ⟨hnumber, htaken, -, -⟩ := read_spec hi hw hs
      unfold Paired
      rw [htaken]
      constructor
      · intro hall _ _ _
        have hlast : q.number = s.sent - 1 :=
          hall _ (List.mem_append_right _ (List.mem_singleton.mpr rfl))
        omega
      · intro hlate t ht
        have hzero := hlate rfl h.1 h.2
        rcases List.mem_append.mp ht with ht | ht
        · exact hp t ht
        · rw [List.mem_singleton.mp ht]
          show q.number = s.sent - 1
          omega
    · rw [read_idle h]
      exact iff_of_true hp fun _ hw hs => absurd ⟨hw, hs⟩ h
  · have hsame : (s.step mcu c e).Paired ↔ s.Paired := by
      unfold Paired
      rw [step_taken mcu c s he]
    rw [hsame]
    exact iff_of_true hp fun hread => absurd hread he

/-- **When replies answer their requests.** In a run of calls, frames on the way,
timeouts and changes of the board's memory, every reply taken answers the
request it was taken for exactly if no reply is read after a timeout: from the
first timeout on every reply taken is the one to an earlier request. -/
theorem edsReads_paired_iff (mcu : Mcu) (c : EdsConnection) (m : Eeprom) (es : List LinkEvent) :
    (∀ pre, pre <+: es → (run (step mcu c) (start m) pre).Paired) ↔
      Guarded (step mcu c) NoLateReply (start m) es := by
  refine always_iff_guarded (I := fun s => LinkInv c s ∧ s.Paired) (fun _ h => h.2) ?_ ?_ es _
    ⟨linkInv_start c m, fun _ h => absurd h List.not_mem_nil⟩
  · exact fun s e hs hg => ⟨linkInv_step mcu hs.1 e, (paired_step_iff mcu hs.1 hs.2 e).mpr hg⟩
  · exact fun s e hs hp => (paired_step_iff mcu hs.1 hs.2 e).mp hp

section LateReply

/-- A host with address 1, a board with address 2. -/
def hostAndBoard : EdsConnection := ⟨1, 2, []⟩

/-- Two fields of one byte. -/
def twoFields : List FieldDesc := [⟨.uint8, "id".toList, 0, 1⟩, ⟨.uint8, "group".toList, 1, 1⟩]

/-- The first request times out, and the second one gets its reply. -/
def lateReply : List LinkEvent :=
  [.call (.field 10 twoFields "id".toList), .timeout, .call (.field 10 twoFields "group".toList),
    .board, .arrive, .read]

/-- **Another field's value**: `group` is answered with `id`. -/
theorem edsReads_lateReply :
    ¬ ∀ mcu c m es pre, pre <+: es → (run (step mcu c) (start m) pre).Paired := by
  intro hall
  have hpaired := hall .atmega32 hostAndBoard (fun p => UInt8.ofNat p) lateReply _
    (List.prefix_refl _)
  have hfirst : (run (step .atmega32 hostAndBoard) (start fun p => UInt8.ofNat p)
      lateReply).taken = [⟨1, 0⟩] := by decide
  unfold Paired at hpaired
  rw [hfirst] at hpaired
  exact absurd (hpaired _ (List.mem_singleton.mpr rfl)) (by decide)

end LateReply

end EdsLink

end OpenHcan.Host
