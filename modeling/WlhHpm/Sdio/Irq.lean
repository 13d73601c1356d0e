import WlhHpm.Lib.Run
import WlhHpm.Sdio.Transport

/-!
# The interrupt handler of the card

`transport_start` attaches `sdio_irq` to the function of the card once, and remembers it in
`irq_attached`. The function belongs to the card: every `probe` brings a new object without a
handler, while `irq_attached` is never cleared again. Here the calls of the transport run one after
the other on a `Board`, the transport together with the function objects, and with any of the bus
calls failing. `irq_after_start` says when a successful start leaves a card whose interrupt is
attached: as long as no card is probed after the first attachment. After such a probe the next start
that succeeds leaves a function without a handler.

`startCard_run` and `transportStop_run` tie the whole calls to their steps in `Sdio/Transport.lean`.
-/

namespace WlhHpm.Sdio

def rtEBusy : Int := 16

/-- A function object of the SDIO stack (C `struct rt_sdio_function`): whether it is enabled, and how
    often `sdio_irq` has been attached to it. -/
structure FunctionObject where
  enabled : Bool
  handlers : Nat

/-- The transport and the function objects that have been probed, numbered in their order. -/
structure Board where
  transport : Transport
  object : Nat → FunctionObject
  objects : Nat

/-- The board after `wlh_rtt_sdio_transport_create`. -/
def Board.initial : Board := ⟨.initial, fun _ => ⟨false, 0⟩, 0⟩

/-- What the bus calls of one `transport_start` return. -/
structure StartReplies where
  enable : Int
  blockSize : Int
  attach : Int
  interrupts : Int

namespace Board

/-- Replace a function object. -/
def setObject (b : Board) (f : Nat) (o : FunctionObject) : Board :=
  { b with object := Function.update b.object f o }

/-- C `sdio_enable_func`. -/
def sdioEnableFunc (b : Board) (f : Nat) (reply : Int) : Board × Int :=
  if reply = rtEok then (b.setObject f { b.object f with enabled := true }, rtEok) else (b, reply)

/-- C `sdio_attach_irq`: a function takes one handler. -/
def sdioAttachIrq (b : Board) (f : Nat) (reply : Int) : Board × Int :=
  if (b.object f).handlers ≠ 0 then (b, -rtEBusy)
  else if reply = rtEok then
    (b.setObject f { b.object f with handlers := (b.object f).handlers + 1 }, rtEok)
  else (b, reply)

/-- Attach the handler unless the transport remembers to have done so. -/
def attachOnce (b : Board) (f : Nat) (reply : Int) : Board × Int :=
  if !b.transport.irqAttached then
    let a := b.sdioAttachIrq f reply
    if a.2 = rtEok then ({ a.1 with transport.irqAttached := true }, a.2) else a
  else (b, rtEok)

/-- The end of a start that has reached the card. -/
def commit (b : Board) : Board :=
  { b with transport := { b.transport with
      rxByteCount := 0
      txBufferCount := 0
      invalidStreak := 0
      generation := b.transport.generation + 1
      running := true
      wake := rtSemRelease b.transport.wake } }

/-- What `transport_start` does to a card that is present. -/
def startCard (b : Board) (f : Nat) (r : StartReplies) : Board × Int :=
  let e := b.sdioEnableFunc f r.enable
  if e.2 ≠ rtEok then e
  else if r.blockSize ≠ rtEok then (e.1, r.blockSize)
  else
    let a := e.1.attachOnce f r.attach
    if a.2 ≠ rtEok then a
    else if r.interrupts ≠ rtEok then (a.1, r.interrupts)
    else (a.1.commit, rtEok)

/-- One call of `transport_start`; with no card it returns `-RT_ETIMEOUT`, and with no card but a
    count left in `probed` it runs into the assertion of `sdio_enable_func` and does not return. -/
def transportStart (b : Board) (r : StartReplies) : Board × Option Int :=
  match b.transport.function with
  | some f => ((b.startCard f r).1, some (b.startCard f r).2)
  | none =>
    if b.transport.probed = 0 then (b, some (-rtETimeout))
    else ({ b with transport.probed := b.transport.probed - 1 }, none)

/-- The loop of `transport_stop` over the queue; it ends at the first message that `rt_mq_recv` does
    not report as `RT_EOK`. -/
def stopQueue (p : Platform) (t : Transport) : List Message → Transport
  | [] => { t with txQueue := [] }
  | _ :: queue =>
    if p.received = rtEok then stopQueue p { t with stats.txErrors := t.stats.txErrors + 1 } queue
    else { t with txQueue := queue }

/-- One call of `transport_stop`. -/
def transportStop (p : Platform) (b : Board) : Board :=
  { b with transport := stopQueue p { b.transport with
      running := false
      generation := b.transport.generation + 1 } b.transport.txQueue }

/-- C `probe`; an accepted card brings a new function object. -/
def probe (b : Board) (card : Card) : Board :=
  if card.manufacturer ≠ 0x6666 ∨ card.sdioFunctionNum < 1 then b
  else
    match card.function with
    | none => b
    | some (_, product) =>
      if product ≠ 0x2222 then b
      else
        { b with
          transport := { b.transport with
            function := some b.objects
            probed := rtSemRelease b.transport.probed }
          objects := b.objects + 1 }

/-- C `remove_card`. -/
def removeCard (b : Board) : Board :=
  { b with transport := { b.transport with running := false, function := none } }

end Board

/-- A call at the transport. -/
inductive Call where
  | probe (card : Card)
  | removeCard
  | start (r : StartReplies)
  | stop

/-- Effect of a call. -/
def Call.step (p : Platform) (b : Board) : Call → Board
  | .probe card => b.probe card
  | .removeCard => b.removeCard
  | .start r => (b.transportStart r).1
  | .stop => b.transportStop p

/-- The card passes the checks of `probe`. -/
def Card.Fits (card : Card) : Prop :=
  card.manufacturer = 0x6666 ∧ ¬ card.sdioFunctionNum < 1 ∧
    ∃ f product, card.function = some (f, product) ∧ product = 0x2222

/-- If the call is a start that returns `RT_EOK` with a card present, the function of the card is
    enabled and has `sdio_irq` attached exactly once. -/
def IrqReady (b : Board) : Call → Prop
  | .start r =>
    (b.transportStart r).2 = some rtEok →
      ∀ f, (b.transportStart r).1.transport.function = some f →
        ((b.transportStart r).1.object f).enabled = true ∧
          ((b.transportStart r).1.object f).handlers = 1
  | _ => True

/-- No card is probed once the interrupt has been attached. -/
def ProbedBeforeAttach (b : Board) : Call → Prop
  | .probe card => card.Fits → b.transport.irqAttached = false
  | _ => True

namespace Board

/-! ## One call -/

/-- A card that passes the checks brings a new function object and a count. -/
lemma probe_of_fits {card : Card} (fits : card.Fits) (b : Board) :
    b.probe card =
      { b with
        transport := { b.transport with
          function := some b.objects
          probed := rtSemRelease b.transport.probed }
        objects := b.objects + 1 } := by
  obtain ⟨vendor, number, f, product, function, same⟩ := fits
  simp [probe, vendor, number, function, same]

/-- Any other card is refused. -/
lemma probe_of_not_fits {card : Card} (h : ¬ card.Fits) (b : Board) : b.probe card = b := by
  unfold probe
  split
  · rfl
  · rename_i ok
    obtain ⟨vendor, number⟩ := not_or.mp ok
    split
    · rfl
    · rename_i f product function
      split
      · rfl
      · rename_i same
        exact absurd ⟨not_not.mp vendor, number, f, product, function, not_not.mp same⟩ h

/-- What the parts of a start can do to a board with the card `f`: they leave the card and the other
    objects alone, and attach the handler exactly when they set `irq_attached`. -/
structure Keeps (f : Nat) (b b' : Board) : Prop where
  function : b'.transport.function = b.transport.function
  objects : b'.objects = b.objects
  other : ∀ g, g ≠ f → b'.object g = b.object g
  attach :
    (b'.transport.irqAttached = b.transport.irqAttached ∧
      (b'.object f).handlers = (b.object f).handlers) ∨
    (b.transport.irqAttached = false ∧ b'.transport.irqAttached = true ∧
      (b.object f).handlers = 0 ∧ (b'.object f).handlers = 1)

/-- Nothing has been done. -/
lemma Keeps.refl (f : Nat) (b : Board) : Keeps f b b := ⟨rfl, rfl, fun _ _ => rfl, .inl ⟨rfl, rfl⟩⟩

/-- Two parts of a start, one after the other. -/
lemma Keeps.trans {f : Nat} {b₁ b₂ b₃ : Board} (h : Keeps f b₁ b₂) (h' : Keeps f b₂ b₃) :
    Keeps f b₁ b₃ := by
  refine ⟨h'.function.trans h.function, h'.objects.trans h.objects,
    fun g ne => (h'.other g ne).trans (h.other g ne), ?_⟩
  rcases h.attach with ⟨flag, count⟩ | ⟨off, on, none, one⟩
  · rcases h'.attach with ⟨flag', count'⟩ | ⟨off, on, none, one⟩
    · exact .inl ⟨flag'.trans flag, count'.trans count⟩
    · exact .inr ⟨flag ▸ off, on, count ▸ none, one⟩
  · rcases h'.attach with ⟨flag', count'⟩ | ⟨off', -⟩
    · exact .inr ⟨off, flag'.trans on, none, count'.trans one⟩
    · rw [on] at off'
      cases off'

/-- The function that is present stays the one that is started. -/
lemma Keeps.eq_of_present {f g : Nat} {b b' : Board} (h : Keeps f b b')
    (here : b.transport.function = some f) (now : b'.transport.function = some g) : f = g := by
  rw [h.function, here] at now
  exact Option.some.inj now

/-- `sdio_enable_func` attaches no handler. -/
lemma keeps_enable (b : Board) (f : Nat) (reply : Int) : Keeps f b (b.sdioEnableFunc f reply).1 := by
  unfold sdioEnableFunc
  split
  · refine ⟨rfl, rfl, fun g ne => Function.update_of_ne ne _ _, .inl ⟨rfl, ?_⟩⟩
    simp [setObject]
  · exact .refl f b

/-- The handler is attached exactly when the transport remembers it. -/
lemma keeps_attachOnce (b : Board) (f : Nat) (reply : Int) : Keeps f b (b.attachOnce f reply).1 := by
  unfold attachOnce
  split
  · rename_i off
    unfold sdioAttachIrq
    by_cases busy : (b.object f).handlers = 0
    · by_cases ok : reply = rtEok
      · simp only [busy, ok, setObject, ne_eq, not_true_eq_false, if_false, if_true]
        refine ⟨rfl, rfl, fun g ne => Function.update_of_ne ne _ _, .inr ⟨?_, rfl, busy, ?_⟩⟩
        · simpa using off
        · simp
      · simp only [busy, ok, ne_eq, not_true_eq_false, if_false]
        exact .refl f b
    · have never : ¬ -rtEBusy = rtEok := by decide
      simp only [busy, ne_eq, not_false_eq_true, if_true, if_neg never]
      exact .refl f b
  · exact .refl f b

/-- An attachment that succeeds leaves `irq_attached` set and the function as enabled as before. -/
lemma attachOnce_ok {b : Board} {f : Nat} {reply : Int} (ok : (b.attachOnce f reply).2 = rtEok) :
    (b.attachOnce f reply).1.transport.irqAttached = true ∧
      ((b.attachOnce f reply).1.object f).enabled = (b.object f).enabled := by
  revert ok
  unfold attachOnce
  split
  · unfold sdioAttachIrq
    by_cases busy : (b.object f).handlers = 0
    · by_cases reply : reply = rtEok
      · simp [busy, reply, setObject]
      · simp [busy, reply]
    · have never : ¬ -rtEBusy = rtEok := by decide
      simp [busy, never]
  · rename_i on
    exact fun _ => ⟨by simpa using on, rfl⟩

/-- A whole start does what its parts do. -/
lemma keeps_startCard (b : Board) (f : Nat) (r : StartReplies) : Keeps f b (b.startCard f r).1 := by
  have enabled := keeps_enable b f r.enable
  have attached := enabled.trans (keeps_attachOnce (b.sdioEnableFunc f r.enable).1 f r.attach)
  unfold startCard
  simp only
  split
  · exact enabled
  · split
    · exact enabled
    · split
      · exact attached
      · split
        · exact attached
        · exact attached.trans ⟨rfl, rfl, fun _ _ => rfl, .inl ⟨rfl, rfl⟩⟩

/-- A start that succeeds leaves the function enabled and `irq_attached` set. -/
lemma startCard_ok {b : Board} {f : Nat} {r : StartReplies} (ok : (b.startCard f r).2 = rtEok) :
    ((b.startCard f r).1.object f).enabled = true ∧
      (b.startCard f r).1.transport.irqAttached = true := by
  revert ok
  unfold startCard
  simp only
  split
  · rename_i bad
    exact fun ok => absurd ok bad
  · rename_i enable
    have on : ((b.sdioEnableFunc f r.enable).1.object f).enabled = true := by
      revert enable
      unfold sdioEnableFunc
      split
      · simp [setObject]
      · rename_i bad
        exact fun h => absurd bad h
    split
    · rename_i bad
      exact fun ok => absurd ok bad
    · split
      · rename_i bad
        exact fun ok => absurd ok bad
      · rename_i attach
        obtain ⟨flag, same⟩ := attachOnce_ok (not_not.mp attach)
        split
        · rename_i bad
          exact fun ok => absurd ok bad
        · exact fun _ => ⟨same.trans on, flag⟩

/-! ## Runs -/

/-- Objects that have not been probed yet have no handler. -/
structure Fresh (b : Board) : Prop where
  present : ∀ f, b.transport.function = some f → f < b.objects
  handlers : ∀ i, b.objects ≤ i → (b.object i).handlers = 0

/-- The handler is on the card that is present, if it has been attached at all. -/
structure OneCard (b : Board) : Prop where
  off : b.transport.irqAttached = false → ∀ i, (b.object i).handlers = 0
  on : b.transport.irqAttached = true → ∀ f, b.transport.function = some f →
    (b.object f).handlers = 1

/-- The queue is emptied without a look at the card. -/
lemma stopQueue_frame (p : Platform) (t : Transport) (queue : List Message) :
    (stopQueue p t queue).function = t.function ∧
      (stopQueue p t queue).irqAttached = t.irqAttached := by
  induction queue generalizing t with
  | nil => exact ⟨rfl, rfl⟩
  | cons m queue ih =>
    unfold stopQueue
    split
    · exact ih _
    · exact ⟨rfl, rfl⟩

/-- A start leaves the objects to come alone. -/
lemma Fresh.keeps {f : Nat} {b b' : Board} (fresh : Fresh b) (here : b.transport.function = some f)
    (h : Keeps f b b') : Fresh b' := by
  refine ⟨fun g now => ?_, fun i new => ?_⟩
  · rw [h.objects]
    exact fresh.present g (h.function ▸ now)
  · rw [h.objects] at new
    have ne : i ≠ f := (Nat.lt_of_lt_of_le (fresh.present f here) new).ne'
    rw [h.other i ne]
    exact fresh.handlers i new

/-- Every call leaves the objects to come alone. -/
lemma Fresh.step {p : Platform} {b : Board} (fresh : Fresh b) (c : Call) : Fresh (c.step p b) := by
  cases c with
  | probe card =>
    change Fresh (b.probe card)
    by_cases fits : card.Fits
    · rw [probe_of_fits fits]
      refine ⟨fun f now => ?_, fun i new => fresh.handlers i (Nat.le_of_succ_le new)⟩
      cases now
      exact Nat.lt_succ_self _
    · rw [probe_of_not_fits fits]
      exact fresh
  | removeCard => exact ⟨fun f now => absurd now (by simp [Call.step, removeCard]), fresh.handlers⟩
  | start r =>
    simp only [Call.step, transportStart]
    split
    · rename_i f here
      exact fresh.keeps here (keeps_startCard b f r)
    · rename_i none
      split
      · exact fresh
      · exact ⟨fresh.present, fresh.handlers⟩
  | stop =>
    refine ⟨fun f now => fresh.present f ?_, fresh.handlers⟩
    simpa [Call.step, transportStop, stopQueue_frame] using now

/-- A start attaches the handler to the card that is present. -/
lemma OneCard.keeps {f : Nat} {b b' : Board} (one : OneCard b) (here : b.transport.function = some f)
    (h : Keeps f b b') : OneCard b' := by
  rcases h.attach with ⟨flag, count⟩ | ⟨-, on, -, single⟩
  · refine ⟨fun off i => ?_, fun on g now => ?_⟩
    · by_cases same : i = f
      · subst same
        exact count.trans (one.off (flag ▸ off) i)
      · rw [h.other i same]
        exact one.off (flag ▸ off) i
    · obtain rfl := h.eq_of_present here now
      exact count.trans (one.on (flag ▸ on) f here)
  · refine ⟨fun off => ?_, fun _ g now => ?_⟩
    · rw [on] at off
      cases off
    · obtain rfl := h.eq_of_present here now
      exact single

/-- Every call keeps the handler on the card that is present, if no card is probed once it has been
    attached. -/
lemma OneCard.step {p : Platform} {b : Board} {c : Call} (one : OneCard b)
    (ok : ProbedBeforeAttach b c) : OneCard (c.step p b) := by
  cases c with
  | probe card =>
    change OneCard (b.probe card)
    by_cases fits : card.Fits
    · have off := ok fits
      rw [probe_of_fits fits]
      refine ⟨fun _ => one.off off, fun on => ?_⟩
      rw [show b.transport.irqAttached = true from on] at off
      cases off
    · rw [probe_of_not_fits fits]
      exact one
  | removeCard => exact ⟨one.off, fun _ f now => absurd now (by simp [Call.step, removeCard])⟩
  | start r =>
    simp only [Call.step, transportStart]
    split
    · rename_i f here
      exact one.keeps here (keeps_startCard b f r)
    · split
      · exact one
      · exact ⟨one.off, one.on⟩
  | stop =>
    have frame := stopQueue_frame p { b.transport with
      running := false
      generation := b.transport.generation + 1 } b.transport.txQueue
    refine ⟨fun off => one.off ?_, fun on f now => one.on ?_ f ?_⟩
    · exact frame.2.symm.trans off
    · exact frame.2.symm.trans on
    · exact frame.1.symm.trans now

/-- No object has been probed yet. -/
lemma fresh_initial : Fresh .initial := ⟨fun _ now => absurd now (by simp [initial, Transport.initial]),
  fun _ _ => rfl⟩

/-- The handler has not been attached yet. -/
lemma oneCard_initial : OneCard .initial := ⟨fun _ _ => rfl, fun on => absurd on (by decide)⟩

/-- A start that succeeds with its card attached to. -/
lemma irqReady_of_oneCard {b : Board} (one : OneCard b) (c : Call) : IrqReady b c := by
  cases c with
  | start r =>
    simp only [IrqReady, transportStart]
    split
    · rename_i f here
      intro ok g now
      have keeps := keeps_startCard b f r
      obtain ⟨enabled, flag⟩ := startCard_ok (Option.some.inj ok)
      obtain rfl := keeps.eq_of_present here now
      exact ⟨enabled, (one.keeps here keeps).on flag f now⟩
    · rename_i none
      intro _ f now
      split at now <;> exact absurd (none.symm.trans now) (by simp)
  | probe card => trivial
  | removeCard => trivial
  | stop => trivial

end Board

/-- The replies of a bus without faults. -/
def StartReplies.AllOk (r : StartReplies) : Prop :=
  r.enable = rtEok ∧ r.blockSize = rtEok ∧ r.attach = rtEok ∧ r.interrupts = rtEok

/-- A start with a card present always returns. -/
lemma Board.transportStart_of_card {b : Board} {f : Nat} (here : b.transport.function = some f)
    (r : StartReplies) :
    b.transportStart r = ((b.startCard f r).1, some (b.startCard f r).2) := by
  rw [transportStart, here]

/-- A start skips the attachment if the transport remembers one. -/
lemma Board.startCard_of_on {b : Board} (on : b.transport.irqAttached = true) (f : Nat)
    {r : StartReplies} (ok : r.AllOk) :
    b.startCard f r = ((b.setObject f { b.object f with enabled := true }).commit, rtEok) := by
  obtain ⟨enable, blockSize, -, interrupts⟩ := ok
  simp [startCard, sdioEnableFunc, enable, blockSize, interrupts, attachOnce, setObject, on]

/-- In every run in which no card is probed after the first attachment, a start that returns
    `RT_EOK` with a card present leaves its function enabled and attached exactly once. After any run
    that has attached the interrupt, probing a card makes the next start on a bus without faults
    return `RT_EOK` with a function that has no handler. -/
theorem irq_after_start (p : Platform) (calls : List Call) :
    (Along (Call.step p) ProbedBeforeAttach .initial calls →
      Along (Call.step p) IrqReady .initial calls) ∧
    ∀ card r, (calls.foldl (Call.step p) .initial).transport.irqAttached = true → card.Fits →
      r.AllOk → ¬ IrqReady ((calls.foldl (Call.step p) .initial).probe card) (.start r) := by
  constructor
  · intro along
    exact along.carry (I := Board.OneCard) (fun b c one ok => one.step ok)
      (fun b c one _ => Board.irqReady_of_oneCard one c) Board.oneCard_initial
  · intro card r on fits ok
    have fresh : Board.Fresh (calls.foldl (Call.step p) .initial) :=
      foldl_invariant (fun b c fresh => fresh.step c) calls Board.fresh_initial
    generalize calls.foldl (Call.step p) .initial = b at on fresh
    have here : (b.probe card).transport.function = some b.objects := by
      rw [Board.probe_of_fits fits]
    have flag : (b.probe card).transport.irqAttached = true := by
      rw [Board.probe_of_fits fits]
      exact on
    have none : ((b.probe card).object b.objects).handlers = 0 := by
      rw [Board.probe_of_fits fits]
      exact fresh.handlers b.objects (Nat.le_refl _)
    intro ready
    simp only [IrqReady, Board.transportStart_of_card here, Board.startCard_of_on flag _ ok] at ready
    have one := (ready trivial b.objects here).2
    simp only [Board.commit, Board.setObject, Function.update_self, none] at one
    cases one

/-- A card of this device. -/
def Card.sample : Card := ⟨0x6666, 1, some (0, 0x2222)⟩

/-- A start, a stop and a second start with one card. -/
theorem irq_after_second_start :
    Along (Call.step (.code 12)) IrqReady .initial
      [.probe .sample, .start ⟨0, 0, 0, 0⟩, .stop, .start ⟨0, 0, 0, 0⟩] :=
  (irq_after_start (.code 12) _).1 ⟨fun _ => rfl, trivial, trivial, trivial, trivial⟩

/-- After the card has been removed and inserted again, a start succeeds with a function that has no
    handler. -/
theorem irq_lost_after_reinsertion :
    ¬ Along (Call.step (.code 12)) IrqReady .initial
      [.probe .sample, .start ⟨0, 0, 0, 0⟩, .removeCard, .probe .sample, .start ⟨0, 0, 0, 0⟩] := by
  intro along
  have last := along.2.2.2.2.1
  exact absurd (last rfl 1 rfl).2 (by decide)

/-! ## The call and its steps -/

/-- Start `n` stands at `pc` with the transport `t`. -/
structure StartAt (s : State) (n : Nat) (t : Transport) (pc : StartPc) : Prop where
  transport : s.transport = t
  pc : s.starts[n]? = some pc

/-- The start that stands somewhere is the one that a step moves. -/
lemma StartAt.set {s : State} {n : Nat} {t : Transport} {pc : StartPc} (h : StartAt s n t pc)
    (t' : Transport) (pc' : StartPc) : StartAt (s.setStart n t' pc') n t' pc' := by
  have lt : n < s.starts.length := (List.getElem?_eq_some_iff.mp h.pc).1
  exact ⟨rfl, by simp [State.setStart, lt]⟩

/-- A start with a card present takes six steps; those after its return do nothing. -/
def startActs (n : Nat) (attach : Int) (r : StartReplies) : List Act :=
  [.startStep n {}, .startStep n { error := r.enable }, .startStep n { error := r.blockSize },
    .startStep n { error := attach }, .startStep n { error := r.interrupts }, .startStep n {}]

section Steps
variable {p : Platform} {s : State} {n : Nat} {t : Transport}

/-- A start that has returned stays so. -/
lemma StartAt.returned {status : Int} (h : StartAt s n t (.returned status)) (reply : Reply) :
    StartAt (s.step p (.startStep n reply)) n t (.returned status) := by
  simpa only [State.step, State.startStep, h.pc] using h

/-- The card is there after the wait. -/
lemma StartAt.probed {f : Nat} (h : StartAt s n t .probed) (here : t.function = some f)
    (reply : Reply) : StartAt (s.step p (.startStep n reply)) n t .enable := by
  have next := h.set t .enable
  simpa only [State.step, State.startStep, h.pc, h.transport, here, reduceCtorEq, if_false] using next

/-- `sdio_enable_func` has returned. -/
lemma StartAt.enable (h : StartAt s n t .enable) (reply : Reply) :
    StartAt (s.step p (.startStep n reply)) n t
      (if reply.error = rtEok then .blockSize else .returned reply.error) := by
  have next := h.set t (if reply.error = rtEok then .blockSize else .returned reply.error)
  simpa only [State.step, State.startStep, h.pc, h.transport] using next

/-- `sdio_set_block_size` has returned. -/
lemma StartAt.blockSize (h : StartAt s n t .blockSize) (reply : Reply) :
    StartAt (s.step p (.startStep n reply)) n t
      (if reply.error = rtEok then .attach else .returned reply.error) := by
  have next := h.set t (if reply.error = rtEok then .attach else .returned reply.error)
  simpa only [State.step, State.startStep, h.pc, h.transport] using next

/-- The handler has been attached, or had been. -/
lemma StartAt.attach {b : Board} {f : Nat} (h : StartAt s n b.transport .attach) (reply : Int) :
    StartAt
      (s.step p (.startStep n { error := if (b.object f).handlers ≠ 0 then -rtEBusy else reply }))
      n (b.attachOnce f reply).1.transport
      (if (b.attachOnce f reply).2 = rtEok then .interrupts
        else .returned (b.attachOnce f reply).2) := by
  have never : ¬ -rtEBusy = rtEok := by decide
  simp only [State.step, State.startStep, h.pc, h.transport, Board.attachOnce, Board.sdioAttachIrq]
  cases flag : b.transport.irqAttached with
  | true => simpa using h.set b.transport .interrupts
  | false =>
    by_cases busy : (b.object f).handlers = 0
    · by_cases ok : reply = rtEok
      · simpa [busy, ok, Board.setObject] using
          h.set { b.transport with irqAttached := true } .interrupts
      · simpa [busy, ok] using h.set b.transport (.returned reply)
    · simpa [busy, never] using h.set b.transport (.returned (-rtEBusy))

/-- The interrupt register has been written. -/
lemma StartAt.interrupts (h : StartAt s n t .interrupts) (reply : Reply) :
    StartAt (s.step p (.startStep n reply)) n t
      (if reply.error = rtEok then .commit else .returned reply.error) := by
  have next := h.set t (if reply.error = rtEok then .commit else .returned reply.error)
  simpa only [State.step, State.startStep, h.pc, h.transport] using next

/-- The start takes effect and returns. -/
lemma StartAt.commit {b : Board} (h : StartAt s n b.transport .commit) (reply : Reply) :
    StartAt (s.step p (.startStep n reply)) n b.commit.transport (.returned rtEok) := by
  have next := h.set b.commit.transport (.returned rtEok)
  simpa only [State.step, State.startStep, h.pc, h.transport, Board.commit] using next

end Steps

/-- The call of `transport_start` with a card present is a run of its steps, with `-RT_EBUSY` as the
    reply of an attachment to a function that has a handler. -/
theorem startCard_run (p : Platform) {b : Board} {f : Nat} {s : State} {n : Nat}
    (at_n : StartAt s n b.transport .probed) (here : b.transport.function = some f)
    (r : StartReplies) :
    StartAt
      ((startActs n (if (b.object f).handlers ≠ 0 then -rtEBusy else r.attach) r).foldl
        (State.step p) s) n
      (b.startCard f r).1.transport (.returned (b.startCard f r).2) := by
  simp only [startActs, List.foldl_cons, List.foldl_nil, Board.startCard, Board.sdioEnableFunc]
  have enable := (at_n.probed (p := p) here {}).enable (p := p) { error := r.enable }
  by_cases ok : r.enable = rtEok
  · simp only [ok, if_true, ne_eq, not_true_eq_false, if_false] at enable ⊢
    have blockSize := enable.blockSize (p := p) { error := r.blockSize }
    by_cases ok : r.blockSize = rtEok
    · simp only [ok, if_true, not_true_eq_false, if_false] at blockSize ⊢
      have attach := StartAt.attach (p := p) (f := f)
        (b := b.setObject f { b.object f with enabled := true }) blockSize r.attach
      have same : ((b.setObject f { b.object f with enabled := true }).object f).handlers =
          (b.object f).handlers := by simp [Board.setObject]
      rw [same] at attach
      generalize (b.setObject f { b.object f with enabled := true }).attachOnce f r.attach = a
        at attach ⊢
      by_cases ok : a.2 = rtEok
      · simp only [ok, if_true, not_true_eq_false, if_false] at attach ⊢
        have interrupts := attach.interrupts (p := p) { error := r.interrupts }
        by_cases ok : r.interrupts = rtEok
        · simp only [ok, if_true, not_true_eq_false, if_false] at interrupts ⊢
          exact interrupts.commit _
        · simp only [ok, if_false, not_false_eq_true, if_true] at interrupts ⊢
          exact interrupts.returned _
      · simp only [ok, if_false, not_false_eq_true, if_true] at attach ⊢
        exact (attach.returned _).returned _
    · simp only [ok, if_false, not_false_eq_true, if_true] at blockSize ⊢
      exact ((blockSize.returned _).returned _).returned _
  · simp only [ok, if_false, ne_eq, not_false_eq_true, if_true] at enable ⊢
    exact (((enable.returned _).returned _).returned _).returned _

/-- Stop `n` stands at `pc` with the transport `t`. -/
structure StopAt (s : State) (n : Nat) (t : Transport) (pc : StopPc) : Prop where
  transport : s.transport = t
  pc : s.stops[n]? = some pc

/-- The place of a stop after `setStop`. -/
lemma StopAt.set {s : State} {n : Nat} {t : Transport} {pc : StopPc} (h : StopAt s n t pc)
    (t' : Transport) (pc' : StopPc) : StopAt (s.setStop n t' pc') n t' pc' := by
  have lt : n < s.stops.length := (List.getElem?_eq_some_iff.mp h.pc).1
  exact ⟨rfl, by simp [State.setStop, lt]⟩

namespace Board

/-- The loop does not depend on the queue that is still in the transport. -/
lemma stopQueue_txQueue (p : Platform) (t : Transport) (old queue : List Message) :
    stopQueue p { t with txQueue := old } queue = stopQueue p t queue := by
  induction queue generalizing t with
  | nil => rfl
  | cons m queue ih =>
    rw [stopQueue, stopQueue]
    split
    · exact ih { t with stats.txErrors := t.stats.txErrors + 1 }
    · rfl

end Board

section StopSteps
variable {p : Platform} {s : State} {n : Nat} {t : Transport}

/-- A stop that has returned does nothing. -/
lemma StopAt.returned (h : StopAt s n t .returned) (k : Nat) :
    StopAt ((List.replicate k (.stopStep n)).foldl (State.step p) s) n t .returned := by
  induction k with
  | zero => exact h
  | succ k ih =>
    have still : s.step p (.stopStep n) = s := by simp only [State.step, State.stopStep, h.pc]
    rw [List.replicate_succ, List.foldl_cons, still]
    exact ih

/-- The first two steps of a stop. -/
lemma StopAt.halt (h : StopAt s n t .halt) :
    StopAt ((s.step p (.stopStep n)).step p (.stopStep n)) n
      { t with running := false, generation := t.generation + 1 } .recv := by
  have halted := h.set { t with running := false } .bump
  have one : s.step p (.stopStep n) = s.setStop n { t with running := false } .bump := by
    simp only [State.step, State.stopStep, h.pc, h.transport]
  rw [one]
  have next := halted.set { t with running := false, generation := t.generation + 1 } .recv
  simpa only [State.step, State.stopStep, halted.pc, halted.transport] using next

/-- The loop of a stop over the queue, two steps for each message. -/
lemma StopAt.queue {queue : List Message} (h : StopAt s n t .recv) (at_queue : t.txQueue = queue) :
    StopAt ((List.replicate (2 * queue.length + 1) (.stopStep n)).foldl (State.step p) s) n
      (Board.stopQueue p t queue) .returned := by
  induction queue generalizing s t with
  | nil =>
    have next := h.set { t with txQueue := [] } .returned
    simpa [Board.stopQueue, State.step, State.stopStep, h.pc, h.transport, at_queue, rtMqRecv] using next
  | cons m queue ih =>
    have len : 2 * (m :: queue).length + 1 = 2 * queue.length + 1 + 1 + 1 := by
      rw [List.length_cons]
      omega
    rw [len, List.replicate_succ, List.foldl_cons, Board.stopQueue]
    by_cases ok : p.received = rtEok
    · rw [if_pos ok, List.replicate_succ, List.foldl_cons]
      have taken : s.step p (.stopStep n) = s.setStop n { t with txQueue := queue } (.done m) := by
        simp only [State.step, State.stopStep, h.pc, h.transport, at_queue, rtMqRecv, ok, if_true]
      have held := h.set { t with txQueue := queue } (.done m)
      rw [taken]
      generalize s.setStop n { t with txQueue := queue } (.done m) = s₁ at held
      have back := held.set
        { t with txQueue := queue, stats.txErrors := t.stats.txErrors + 1 } .recv
      have again : StopAt (s₁.step p (.stopStep n)) n
          { t with txQueue := queue, stats.txErrors := t.stats.txErrors + 1 } .recv := by
        simp only [State.step, State.stopStep, held.pc, held.transport]
        exact ⟨back.transport, back.pc⟩
      have rest := ih again rfl
      rw [← Board.stopQueue_txQueue p _ queue]
      exact rest
    · have gone : s.step p (.stopStep n) = s.setStop n { t with txQueue := queue } .returned := by
        simp only [State.step, State.stopStep, h.pc, h.transport, at_queue, rtMqRecv, ok, if_false]
      rw [gone, if_neg ok]
      exact (h.set _ _).returned _

end StopSteps

/-- The call of `transport_stop` is a run of its steps. -/
theorem transportStop_run (p : Platform) {b : Board} {s : State} {n : Nat}
    (at_n : StopAt s n b.transport .halt) :
    StopAt
      ((List.replicate (2 * b.transport.txQueue.length + 3) (.stopStep n)).foldl (State.step p) s) n
      (b.transportStop p).transport .returned := by
  rw [show 2 * b.transport.txQueue.length + 3 = 2 * b.transport.txQueue.length + 1 + 1 + 1 by omega,
    List.replicate_succ, List.replicate_succ, List.foldl_cons, List.foldl_cons]
  exact at_n.halt.queue rfl

end WlhHpm.Sdio
