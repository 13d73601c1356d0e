import WlhHpm.Lib.Run
import WlhHpm.Sdio.Moves

/-!
# Access to the card

`transport.function` is the card, null while there is none, and every access to the bus goes through
it. Neither `remove_card`, which clears it, nor the threads that use it wait for each other; and
`transport_start` takes a count of the semaphore `probed` as the sign of a card, which every probe
releases and only a start that has found no card takes.

`no_access_without_card` has the two conditions under which no access is made without a card: a card
is removed only while no thread is on its way to the bus, and no start that waits for a card finds the
count of an earlier one. `stale_probe_count` is the run of a card that is inserted, used, removed, and
then used once more.
-/

namespace WlhHpm.Sdio
open State

/-- The next step of `drain_rx` is an access to the bus. -/
def RxPc.onBus : RxPc → Bool
  | .loop => false
  | _ => true

/-- The next step of `drain_tx` is an access to the bus. -/
def TxPc.onBus : TxPc → Bool
  | .poll _ _ => true
  | .write _ => true
  | _ => false

def WorkerPc.onBus : WorkerPc → Bool
  | .rx _ pc => pc.onBus
  | .tx _ pc => pc.onBus
  | _ => false

/-- The next step of `transport_start` is an access to the bus: `sdio_enable_func`,
    `sdio_set_block_size`, `sdio_attach_irq` unless it was attached before, or the register write. -/
def StartPc.onBus (irqAttached : Bool) : StartPc → Bool
  | .enable => true
  | .blockSize => true
  | .attach => !irqAttached
  | .interrupts => true
  | _ => false

/-- `transport_start` relies on the card. -/
def StartPc.going : StartPc → Bool
  | .enable => true
  | .blockSize => true
  | .attach => true
  | .interrupts => true
  | .commit => true
  | _ => false

/-- `transport_soft_reset` relies on the card. -/
def ResetPc.going : ResetPc → Bool
  | .lock => true
  | .write => true
  | _ => false

/-- The step is an access to the bus. -/
def Accesses (s : State) : Act → Prop
  | .worker _ => s.worker.onBus = true
  | .startStep n _ => ∃ pc, s.starts[n]? = some pc ∧ pc.onBus s.transport.irqAttached = true
  | .resetStep n _ => s.resets[n]? = some .write
  | _ => False

/-- The step accesses the bus with a card only, and a start that waits without a card goes on waiting
    or returns `-RT_ETIMEOUT`. -/
structure CardPresent (p : Platform) (s : State) (a : Act) : Prop where
  access : Accesses s a → s.transport.function ≠ none
  timeout : ∀ n reply, a = .startStep n reply → s.starts[n]? = some .wait →
    s.transport.function = none →
    (step p s a).starts[n]? = some .wait ∨ (step p s a).starts[n]? = some (.returned (-rtETimeout))

/-- No thread is on its way to the bus. -/
def BusFree (s : State) : Prop :=
  s.worker.onBus = false ∧ (∀ pc ∈ s.starts, pc.going = false) ∧ ∀ pc ∈ s.resets, pc.going = false

/-- A card is removed while no thread is on its way to the bus, and a start that waits without a card
    finds no count. -/
def CardKept (s : State) : Act → Prop
  | .removeCard => BusFree s
  | .startStep n _ => s.starts[n]? = some .wait → s.transport.function = none →
      s.transport.probed = 0
  | _ => True

instance (s : State) (a : Act) : Decidable (CardKept s a) :=
  match a with
  | .removeCard => inferInstanceAs (Decidable (_ ∧ _ ∧ _))
  | .startStep _ _ => inferInstanceAs (Decidable (_ → _ → _))
  | .submit _ | .submitStep _ | .stop | .stopStep _ | .start | .softReset | .resetStep _ _
  | .worker _ | .probe _ | .irq => isTrue trivial

/-- Without a card the transport is not running and no thread is on its way to the bus. -/
def Present (s : State) : Prop :=
  s.transport.function = none → s.transport.running = false ∧ BusFree s

section Present
variable {p : Platform} {s s' : State} {a : Act}

/-- With the transport stopped `drain_rx` does not come to the bus again. -/
lemma RxMove.busFree {burst : Nat} {pc : RxPc} (move : RxMove p s burst pc s')
    (halted : s.transport.running = false) (off : pc.onBus = false) : s'.worker.onBus = false := by
  cases move with
  | enter _ run =>
    rw [halted] at run
    cases run
  | leave => rfl
  | failed inside =>
    cases pc with
    | loop => exact absurd rfl inside
    | _ => cases off
  | packet | length | data | input => cases off

/-- With the transport stopped `drain_tx` does not come to the bus again. -/
lemma TxMove.busFree {burst : Nat} {pc : TxPc} (move : TxMove p s burst pc s')
    (halted : s.transport.running = false) (off : pc.onBus = false) : s'.worker.onBus = false := by
  cases move with
  | token run =>
    rw [halted] at run
    cases run
  | failed | retry | taken => cases off
  | _ => rfl

/-- The worker touches neither the card nor the flag nor the other threads. -/
lemma WorkerMove.frame (move : WorkerMove p s s') :
    s'.transport.function = s.transport.function ∧ s'.transport.running = s.transport.running ∧
      s'.starts = s.starts ∧ s'.resets = s.resets := by
  cases move with
  | rx _ rx => cases rx <;> exact ⟨rfl, rfl, rfl, rfl⟩
  | tx _ tx => cases tx <;> exact ⟨rfl, rfl, rfl, rfl⟩
  | _ => exact ⟨rfl, rfl, rfl, rfl⟩

/-- A step of the worker does not come to the bus without a card. -/
lemma WorkerMove.present (move : WorkerMove p s s') (present : Present s) : Present s' := by
  obtain ⟨function, running, starts, resets⟩ := move.frame
  intro none
  rw [function] at none
  obtain ⟨halted, off, free⟩ := present none
  refine ⟨running.trans halted, ?_, ?_⟩
  · cases move with
    | rx at_pc rx =>
      rw [at_pc] at off
      exact rx.busFree halted off
    | tx at_pc tx =>
      rw [at_pc] at off
      exact tx.busFree halted off
    | wait => exact off
    | _ => rfl
  · rw [starts, resets]
    exact free

/-- Another thread goes on, from a place where it does not rely on the card to another such place. -/
lemma Present.of_frame (present : Present s) (function : s'.transport.function = s.transport.function)
    (running : s'.transport.running = true → s.transport.running = true)
    (worker : s'.worker = s.worker)
    (starts : s.transport.function = none → ∀ pc ∈ s'.starts, pc ∉ s.starts → pc.going = false)
    (resets : s.transport.function = none → ∀ pc ∈ s'.resets, pc ∉ s.resets → pc.going = false) :
    Present s' := by
  intro none
  rw [function] at none
  obtain ⟨halted, off, noStart, noReset⟩ := present none
  refine ⟨?_, ?_, fun pc mem => ?_, fun pc mem => ?_⟩
  · cases run : s'.transport.running with
    | false => rfl
    | true =>
      rw [running run] at halted
      cases halted
  · rw [worker]
    exact off
  · by_cases old : pc ∈ s.starts
    · exact noStart pc old
    · exact starts none pc mem old
  · by_cases old : pc ∈ s.resets
    · exact noReset pc old
    · exact resets none pc mem old

/-- Threads that stay where they are. -/
lemma Present.of_same (present : Present s) (function : s'.transport.function = s.transport.function)
    (running : s'.transport.running = true → s.transport.running = true)
    (worker : s'.worker = s.worker) (starts : s'.starts = s.starts) (resets : s'.resets = s.resets) :
    Present s' := by
  apply present.of_frame function running worker
  · intro _ pc mem new
    rw [starts] at mem
    exact absurd mem new
  · intro _ pc mem new
    rw [resets] at mem
    exact absurd mem new

/-- A start goes on, if there is no card, only to where it does not rely on one. -/
lemma Present.started (present : Present s) {n : Nat} {pc pc' : StartPc} {t : Transport}
    (at_pc : s.starts[n]? = some pc) (move : StartMove s.transport pc t pc')
    (kept : pc = .wait → s.transport.function = none → s.transport.probed = 0) :
    Present (s.setStart n t pc') := by
  have still : s.transport.function = none → pc.going = false := fun none =>
    (present none).2.2.1 pc (List.mem_of_getElem? at_pc)
  -- the place it comes from relies on the card, or the place it goes to does not
  have next : s.transport.function = none → pc'.going = false := by
    intro none
    have off := still none
    cases move with
    | present some => exact absurd none some
    | taken pos => exact absurd (kept rfl none) pos
    | absent | timeout | failed | commit => rfl
    | enabled | blockSize | attached | interrupts => cases off
  have function : (s.setStart n t pc').transport.function = s.transport.function := by
    cases move <;> rfl
  intro none
  rw [function] at none
  obtain ⟨halted, off, noStart, noReset⟩ := present none
  refine ⟨?_, off, fun pc₁ mem => ?_, noReset⟩
  · cases move with
    | commit => cases still none
    | _ => exact halted
  · rcases List.mem_or_eq_of_mem_set mem with old | rfl
    · exact noStart pc₁ old
    · exact next none

/-- A step of a soft reset does not come to the bus without a card. -/
lemma Present.reset (present : Present s) {n : Nat} {pc pc' : ResetPc} {t : Transport} {error : Int}
    (at_pc : s.resets[n]? = some pc) (move : ResetMove s.transport error pc t pc') :
    Present (s.setReset n t pc') := by
  have function : (s.setReset n t pc').transport.function = s.transport.function ∧
      (s.setReset n t pc').transport.running = s.transport.running := by
    cases move <;> exact ⟨rfl, rfl⟩
  refine present.of_frame function.1 (fun run => function.2.symm.trans run) rfl ?_ ?_
  · intro _ pc₁ mem new
    exact absurd mem new
  · intro none pc₁ mem new
    have off := (present none).2.2.2 pc (List.mem_of_getElem? at_pc)
    rcases List.mem_or_eq_of_mem_set mem with old | rfl
    · exact absurd old new
    · cases move with
      | present some => exact absurd none some
      | lock => cases off
      | _ => rfl

/-- Nor does a step of another kind that keeps the card (`CardKept`). -/
lemma Move.present (move : Move p s a s') (present : Present s) (kept : CardKept s a) :
    Present s' := by
  cases move with
  | idle => exact present
  | submit => exact present.of_same rfl id rfl rfl rfl
  | submitted _ submit => cases submit <;> exact present.of_same rfl id rfl rfl rfl
  | stop => exact present.of_same rfl id rfl rfl rfl
  | stopped _ stop =>
    cases stop with
    | halted => exact present.of_same rfl (fun run => by cases run) rfl rfl rfl
    | _ => exact present.of_same rfl id rfl rfl rfl
  | start =>
    refine present.of_frame rfl id rfl (fun _ pc mem new => ?_) fun _ pc mem new => absurd mem new
    rcases List.mem_append.mp mem with old | last
    · exact absurd old new
    · rw [List.mem_singleton.mp last]
      rfl
  | started at_pc start =>
    apply present.started at_pc start
    rintro rfl
    exact kept at_pc
  | softReset =>
    refine present.of_frame rfl id rfl (fun _ pc mem new => absurd mem new) fun _ pc mem new => ?_
    rcases List.mem_append.mp mem with old | last
    · exact absurd old new
    · rw [List.mem_singleton.mp last]
      rfl
  | reset at_pc reset => exact present.reset at_pc reset
  | probed =>
    intro none
    cases none
  | removed => exact fun _ => ⟨rfl, kept⟩
  | irq => exact present.of_same rfl id rfl rfl rfl

/-- Every step that keeps the card keeps the threads from the bus without one. -/
lemma Present.step (present : Present s) (kept : CardKept s a) : Present (step p s a) := by
  rcases step_move (p := p) (s := s) a with ⟨reply, rfl, move⟩ | move
  · exact move.present present
  · exact move.present present kept

/-- A step from a state without a card is not an access. -/
lemma Present.access (present : Present s) (access : Accesses s a) :
    s.transport.function ≠ none := by
  intro none
  obtain ⟨-, off, noStart, noReset⟩ := present none
  cases a with
  | worker reply =>
    rw [Accesses, off] at access
    cases access
  | startStep n reply =>
    obtain ⟨pc, at_pc, on⟩ := access
    have still := noStart pc (List.mem_of_getElem? at_pc)
    cases pc with
    | enable | blockSize | attach | interrupts => cases still
    | _ => cases on
  | resetStep n reply => cases noReset .write (List.mem_of_getElem? access)
  | _ => exact access.elim

/-- A start without a card and without a count waits on, or gives up. -/
lemma wait_timeout {n : Nat} {reply : Reply} (at_pc : s.starts[n]? = some .wait)
    (zero : s.transport.probed = 0) :
    (s.startStep n reply).starts[n]? = some .wait ∨
      (s.startStep n reply).starts[n]? = some (.returned (-rtETimeout)) := by
  simp only [startStep, at_pc, zero, ne_eq, not_true_eq_false, if_false]
  split
  · right
    obtain ⟨lt, -⟩ := List.getElem?_eq_some_iff.mp at_pc
    exact List.getElem?_set_self lt
  · exact .inl at_pc

/-- If no thread is on its way to the bus without a card, an access has one. -/
lemma Present.cardPresent (present : Present s) (kept : CardKept s a) : CardPresent p s a where
  access := present.access
  timeout := by
    rintro n reply rfl at_pc none
    exact wait_timeout at_pc (kept at_pc none)

end Present

/-- In every run in which cards are removed only while no thread is on its way to the bus, and no
    start without a card finds the count of an earlier probe, the bus is never accessed without a
    card. -/
theorem no_access_without_card (p : Platform) (acts : List Act)
    (kept : Along (step p) CardKept initial acts) : Along (step p) (CardPresent p) initial acts := by
  refine kept.carry (I := Present) (fun _ _ present => present.step)
    (fun _ _ present => present.cardPresent) ?_
  exact fun _ => ⟨rfl, rfl, fun pc mem => (by cases mem), fun pc mem => (by cases mem)⟩

/-- A start that waits for the card takes the count of its probe, and a later start without a card
    gives up. -/
theorem no_access_without_card_timeout :
    Along (step (.code 16)) CardKept initial
        [.start, .startStep 0 {}, .probe ⟨0x6666, 1, some (1, 0x2222)⟩, .startStep 0 {},
          .startStep 0 {}, .startStep 0 {}, .startStep 0 {}, .startStep 0 {}, .startStep 0 {},
          .removeCard, .start, .startStep 1 {}, .startStep 1 { timeout := true }] ∧
      Along (step (.code 16)) (CardPresent (.code 16)) initial
        [.start, .startStep 0 {}, .probe ⟨0x6666, 1, some (1, 0x2222)⟩, .startStep 0 {},
          .startStep 0 {}, .startStep 0 {}, .startStep 0 {}, .startStep 0 {}, .startStep 0 {},
          .removeCard, .start, .startStep 1 {}, .startStep 1 { timeout := true }] :=
  ⟨by decide +kernel, no_access_without_card (.code 16) _ (by decide +kernel)⟩

/-- A card is inserted, a start finds it without taking the count of its probe, and the card is
    removed: the next start takes that count and calls `sdio_enable_func` without a card. -/
theorem stale_probe_count :
    ¬ Along (step (.code 16)) (CardPresent (.code 16)) initial
      [.probe ⟨0x6666, 1, some (1, 0x2222)⟩, .start, .startStep 0 {}, .startStep 0 {},
        .startStep 0 {}, .startStep 0 {}, .startStep 0 {}, .startStep 0 {}, .removeCard, .start,
        .startStep 1 {}, .startStep 1 {}, .startStep 1 {}] := by
  rintro ⟨-, -, -, -, -, -, -, -, -, -, -, -, now, -⟩
  exact now.access ⟨.enable, by decide, rfl⟩ (by decide)

end WlhHpm.Sdio
