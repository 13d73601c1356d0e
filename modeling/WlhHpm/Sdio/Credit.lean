import WlhHpm.Lib.Run
import WlhHpm.Sdio.Moves

/-!
# Transmit tokens

The coprocessor offers receive buffers to the host and shows their number in a field of 12 bits;
`wait_for_token` compares it with the number of tokens that the host has taken, which it keeps in 12
bits too (`tx_buffer_count`). `Credit` puts the true numbers beside them: what the coprocessor has
offered since the start, what the host has taken, and the frames put on the bus. The steps are those
of `write_frame`, called any number of times with any frame, with offers and the end of the session in
between. The coprocessor never has more than 4095 buffers offered and not taken, and its field shows
what it has offered; whatever else the register holds, and whether the bus answers, is free.
-/

namespace WlhHpm.Sdio
open State

/-- The worker is inside `write_frame`. -/
def WorkerPc.writing : WorkerPc → Bool
  | .tx _ (.frame _) => true
  | .tx _ (.token _ _) => true
  | .tx _ (.poll _ _) => true
  | .tx _ (.write _) => true
  | _ => false

/-- The next step reads the token register. -/
def WorkerPc.polling : WorkerPc → Bool
  | .tx _ (.poll _ _) => true
  | _ => false

/-- The next step puts a frame on the bus. -/
def WorkerPc.putting : WorkerPc → Bool
  | .tx _ (.write _) => true
  | _ => false

/-- Outside `write_frame` no frame is put on the bus. -/
lemma WorkerPc.putting_eq_false {pc : WorkerPc} (outside : pc.writing = false) :
    pc.putting = false := by
  cases pc with
  | tx burst pc =>
    cases pc with
    | write m => cases outside
    | _ => rfl
  | _ => rfl

/-- The transport with the tokens offered and taken and the frames put on the bus since a start. -/
structure Credit where
  state : State
  offered : Nat
  taken : Nat
  written : Nat

/-- The token field of the register. -/
def tokenField (value : UInt32) : UInt32 := (value >>> 16) &&& 0xfff

namespace Credit

inductive Act where
  /-- The coprocessor offers buffers. -/
  | offer (buffers : Nat)
  /-- `write_frame` is called. -/
  | call (m : Message)
  /-- A step of `write_frame`, with the answer of the bus. -/
  | worker (reply : Reply)
  /-- `transport.running` is cleared. -/
  | halt

/-- A reading of the token register fails or shows what is offered. -/
def Shows (c : Credit) (reply : Reply) : Prop :=
  c.state.worker.polling = true → reply.error = rtEok →
    (tokenField reply.value).toNat = c.offered % 4096

instance (c : Credit) (reply : Reply) : Decidable (c.Shows reply) :=
  inferInstanceAs (Decidable (_ → _ → _))

/-- One step. The coprocessor does not offer more than 4095 buffers beyond the tokens taken, the host
    does not call `write_frame` while it is inside it, and the register does not show anything else
    than what is offered: such a step does nothing. -/
def step (p : Platform) (c : Credit) : Act → Credit
  | .offer buffers =>
    if c.offered + buffers ≤ c.taken + 4095 then { c with offered := c.offered + buffers } else c
  | .call m =>
    if c.state.worker.writing then c
    else { c with state := { c.state with worker := .tx 0 (.frame m) } }
  | .worker reply =>
    if c.state.worker.writing = true ∧ c.Shows reply then
      let state := c.state.workerStep p reply
      { c with
        state := state
        taken := c.taken + (if state.worker.putting then 1 else 0)
        written := c.written + (if c.state.worker.putting then 1 else 0) }
    else c
  | .halt => { c with state := { c.state with transport := { c.state.transport with running := false } } }

/-- The host and the coprocessor agree on the tokens, and every frame on the bus has one. -/
structure Safe (c : Credit) : Prop where
  available : (wlhRttSdioAvailableTokens c.state.transport.txBufferCount
    (UInt32.ofNat (c.offered % 4096))).toNat = c.offered - c.taken
  le : c.taken ≤ c.offered
  /-- The tokens taken are those of the frames put on the bus and of one that is about to be. -/
  tokens : c.taken = c.written + if c.state.worker.putting then 1 else 0

end Credit

/-! ## Tokens -/

/-- The tokens available, from the remainders of the numbers offered and taken. -/
lemma toNat_availableTokens {consumed offered : UInt32} {S C : Nat} (shown : offered.toNat = S % 4096)
    (kept : consumed.toNat = C % 4096) (le : C ≤ S) (most : S ≤ C + 4095) :
    (wlhRttSdioAvailableTokens consumed offered).toNat = S - C := by
  have sum : (offered + 0x1000).toNat = S % 4096 + 4096 := by
    rw [UInt32.toNat_add, shown]
    simp only [UInt32.reduceToNat]
    omega
  have below : consumed ≤ offered + 0x1000 := by
    rw [UInt32.le_iff_toNat_le, sum, kept]
    omega
  rw [wlhRttSdioAvailableTokens, UInt32.toNat_mod, UInt32.toNat_sub_of_le _ _ below, sum, kept]
  simp only [UInt32.reduceToNat]
  omega

/-- The counter after a token is taken. -/
lemma toNat_nextToken {count : UInt32} {C : Nat} (kept : count.toNat = C % 4096) :
    ((count + 1) % 0x1000).toNat = (C + 1) % 4096 := by
  rw [UInt32.toNat_mod, UInt32.toNat_add, kept]
  simp only [UInt32.reduceToNat]
  omega

namespace Credit
variable {p : Platform} {c : Credit}

/-- The counters of host and coprocessor are the true numbers in 12 bits. -/
structure Inv (c : Credit) : Prop where
  count : c.state.transport.txBufferCount.toNat = c.taken % 4096
  le : c.taken ≤ c.offered
  most : c.offered ≤ c.taken + 4095
  tokens : c.taken = c.written + if c.state.worker.putting then 1 else 0

/-- The invariant has what is asked of the tokens. -/
lemma Inv.safe (inv : c.Inv) : c.Safe where
  available := by
    refine toNat_availableTokens ?_ inv.count inv.le inv.most
    rw [UInt32.toNat_ofNat']
    omega
  le := inv.le
  tokens := inv.tokens

/-- A step of `write_frame` that takes no token. -/
lemma Inv.of_count (inv : c.Inv) {s' : State}
    (count : s'.transport.txBufferCount = c.state.transport.txBufferCount)
    (off : s'.worker.putting = false) :
    Inv ⟨s', c.offered, c.taken + (if s'.worker.putting then 1 else 0),
      c.written + (if c.state.worker.putting then 1 else 0)⟩ := by
  have tokens := inv.tokens
  refine ⟨?_, ?_, ?_, ?_⟩
  · simp only [off, Bool.false_eq_true, if_false, Nat.add_zero, count]
    exact inv.count
  · simp only [off, Bool.false_eq_true, if_false, Nat.add_zero]
    exact inv.le
  · simp only [off, Bool.false_eq_true, if_false, Nat.add_zero]
    exact inv.most
  · simp only [off, Bool.false_eq_true, if_false, Nat.add_zero]
    exact tokens

/-- A token is taken when one is available. -/
lemma Inv.poll (inv : c.Inv) {burst : Nat} {m : Message} {attempt : Nat}
    (at_pc : c.state.worker = .tx burst (.poll m attempt)) {reply : Reply} (shows : c.Shows reply) :
    Inv ⟨c.state.workerStep p reply, c.offered,
      c.taken + (if (c.state.workerStep p reply).worker.putting then 1 else 0),
      c.written + (if c.state.worker.putting then 1 else 0)⟩ := by
  have idle : c.state.worker.putting = false := by
    rw [at_pc]
    rfl
  by_cases failed : reply.error ≠ rtEok
  · have next : c.state.workerStep p reply =
        c.state.goto c.state.transport (.tx burst (.done m reply.error)) := by
      simp only [workerStep, at_pc, txStep, failed, if_true, ne_eq, not_false_eq_true]
    rw [next]
    exact inv.of_count rfl rfl
  · have polls : c.state.worker.polling = true := by
      rw [at_pc]
      rfl
    have shown := shows polls (not_not.mp failed)
    have available := toNat_availableTokens shown inv.count inv.le inv.most
    by_cases some : wlhRttSdioAvailableTokens c.state.transport.txBufferCount
        (tokenField reply.value) ≠ 0
    · have next : c.state.workerStep p reply = c.state.goto { c.state.transport with
          txBufferCount := (c.state.transport.txBufferCount + 1) % 0x1000 } (.tx burst (.write m)) := by
        simp only [tokenField] at some
        simp only [workerStep, at_pc, txStep, failed, if_false, some, ne_eq, not_false_eq_true, if_true]
      rw [next]
      -- the field shows a token that has not been taken
      have pos : c.offered - c.taken ≠ 0 := by
        rw [← available]
        exact fun zero => some (UInt32.toNat_inj.mp zero)
      have le := inv.le
      have most := inv.most
      have tokens := inv.tokens
      rw [idle] at tokens
      simp only [Bool.false_eq_true, if_false, Nat.add_zero] at tokens
      refine ⟨toNat_nextToken inv.count, ?_, ?_, ?_⟩
      · show c.taken + 1 ≤ c.offered
        omega
      · show c.offered ≤ c.taken + 1 + 4095
        omega
      · rw [idle]
        show c.taken + 1 = c.written + 0 + 1
        omega
    · have next : c.state.workerStep p reply =
          c.state.goto c.state.transport (.tx burst (.token m (attempt + 1))) := by
        simp only [tokenField] at some
        simp only [workerStep, at_pc, txStep, failed, if_false, some]
      rw [next]
      exact inv.of_count rfl rfl

/-- Every step of `write_frame` keeps the numbers. -/
lemma Inv.worker (inv : c.Inv) (inside : c.state.worker.writing = true) {reply : Reply}
    (shows : c.Shows reply) :
    Inv ⟨c.state.workerStep p reply, c.offered,
      c.taken + (if (c.state.workerStep p reply).worker.putting then 1 else 0),
      c.written + (if c.state.worker.putting then 1 else 0)⟩ := by
  cases at_pc : c.state.worker with
  | tx burst pc =>
    rw [← at_pc]
    cases pc with
    | poll m attempt => exact inv.poll at_pc shows
    | frame m =>
      simp only [workerStep, at_pc, txStep]
      rw [← at_pc]
      split
      · exact inv.of_count rfl rfl
      · exact inv.of_count rfl rfl
    | token m attempt =>
      simp only [workerStep, at_pc, txStep]
      rw [← at_pc]
      split
      · exact inv.of_count rfl rfl
      · exact inv.of_count rfl rfl
    | write m =>
      simp only [workerStep, at_pc, txStep]
      rw [← at_pc]
      exact inv.of_count rfl rfl
    | _ =>
      rw [at_pc] at inside
      cases inside
  | _ =>
    rw [at_pc] at inside
    cases inside

/-- The invariant is kept by every step. -/
lemma Inv.step (inv : c.Inv) (a : Act) : (c.step p a).Inv := by
  cases a with
  | offer buffers =>
    simp only [Credit.step]
    split
    · rename_i room
      exact ⟨inv.count, inv.le.trans (Nat.le_add_right ..), room, inv.tokens⟩
    · exact inv
  | call m =>
    simp only [Credit.step]
    split
    · exact inv
    · rename_i outside
      -- a new call is at its beginning, and the last one has left the bus
      have off := WorkerPc.putting_eq_false (Bool.not_eq_true _ ▸ outside)
      have tokens := inv.tokens
      rw [off] at tokens
      exact ⟨inv.count, inv.le, inv.most, tokens⟩
  | worker reply =>
    simp only [Credit.step]
    split
    · rename_i go
      exact inv.worker go.1 go.2
    · exact inv
  | halt => exact ⟨inv.count, inv.le, inv.most, inv.tokens⟩

/-- The numbers at a start. -/
def started (p : Platform) (s : State) (n : Nat) (reply : Reply) : Credit :=
  ⟨s.step p (.startStep n reply), 0, 0, 0⟩

/-- The invariant holds when a start has ended. -/
lemma Inv.started {s : State} {n : Nat} (commit : s.starts[n]? = some .commit)
    (outside : s.worker.putting = false) (reply : Reply) : (started p s n reply).Inv := by
  simp only [Credit.started, State.step, startStep, commit]
  refine ⟨rfl, Nat.le_refl _, Nat.zero_le _, ?_⟩
  simp only [setStart, outside]
  rfl

/-- After a start that does not fall into `write_frame`, through any number of calls and wraps, the
    host sees exactly the tokens that are offered and not taken, takes none that is not offered, and
    puts no frame on the bus without one. -/
theorem credit_safe (p : Platform) {s : State} {n : Nat} (commit : s.starts[n]? = some .commit)
    (outside : s.worker.writing = false) (reply : Reply) (acts : List Act) :
    (acts.foldl (step p) (started p s n reply)).Safe := by
  have start := Inv.started (p := p) commit (WorkerPc.putting_eq_false outside) reply
  exact (foldl_invariant (I := Inv) (fun _ a inv => inv.step a) acts start).safe

/-- One buffer is offered and one frame is written with its token; a second call finds none. -/
theorem credit_safe_one :
    let s := run (.code 16) [.probe ⟨0x6666, 1, some (1, 0x2222)⟩, .start, .startStep 0 {},
      .startStep 0 {}, .startStep 0 {}, .startStep 0 {}, .startStep 0 {}]
    let m : Message := ⟨0, ⟨⟨0x1000, 64, 0x2000, 0x3000⟩, 1⟩⟩
    let acts : List Act := [.offer 1, .call m, .worker {}, .worker {}, .worker { value := 0x10000 },
      .worker {}, .call m, .worker {}, .worker {}, .worker { value := 0x10000 }]
    s.starts[0]? = some .commit ∧ s.worker.writing = false ∧
      (acts.foldl (step (.code 16)) (started (.code 16) s 0 {})).written = 1 ∧
      (acts.foldl (step (.code 16)) (started (.code 16) s 0 {})).Safe := by
  refine ⟨by decide, by decide, by decide, credit_safe _ (by decide) (by decide) _ _⟩

end Credit

end WlhHpm.Sdio
