/-
# DMA transmission of the UART

`uart_write` puts bytes into the circular buffer `xmit`.
-/
import Mx27Drivers.Lib.Mealy
import Mx27Drivers.Lib.Ring

namespace Mx27.Uart

open List Option Function

/-- `UART_XMIT_SIZE`, a page -/
def XMIT_SIZE : ℕ := 4096

/-! ### The circular buffer -/

structure CircBuf where
  buf : ℕ → UInt8
  head : ℕ
  tail : ℕ
  head_lt : head < XMIT_SIZE
  tail_lt : tail < XMIT_SIZE

lemma mod_lt (n : ℕ) : n % XMIT_SIZE < XMIT_SIZE := Nat.mod_lt _ (by decide)

def charsPending (c : CircBuf) : ℕ := (c.head + XMIT_SIZE - c.tail) % XMIT_SIZE

def spaceToEnd (c : CircBuf) : ℕ :=
  let last := XMIT_SIZE - 1 - c.head
  let n := (last + c.tail) % XMIT_SIZE
  if n ≤ last then n else last + 1

def CircBuf.pending (c : CircBuf) : List UInt8 := Ring.slots XMIT_SIZE c.buf c.tail (charsPending c)

def CircBuf.put (c : CircBuf) (bytes : List UInt8) : CircBuf :=
  ⟨Ring.store c.buf c.head bytes, (c.head + bytes.length) % XMIT_SIZE, c.tail, mod_lt _, c.tail_lt⟩

def writeLoop : ℕ → CircBuf → List UInt8 → CircBuf × List UInt8
  | 0, c, bytes => (c, bytes)
  | fuel + 1, c, bytes =>
    let n := min bytes.length (spaceToEnd c)
    if n = 0 then (c, bytes) else writeLoop fuel (c.put (bytes.take n)) (bytes.drop n)

/-- `uart_write`; returns the bytes that were accepted. -/
def uartWrite (bytes : List UInt8) (c : CircBuf) : CircBuf × List UInt8 :=
  let r := writeLoop (bytes.length + 1) c bytes
  (r.1, bytes.take (bytes.length - r.2.length))

def CircBuf.clear (c : CircBuf) : CircBuf := ⟨c.buf, 0, 0, by decide, by decide⟩

def bytesAt (buf : ℕ → UInt8) (off n : ℕ) : List UInt8 := (List.range n).map fun j => buf (off + j)

def txCopy (c : CircBuf) (txNum : ℕ) : List UInt8 :=
  if c.tail > c.head then bytesAt c.buf c.tail (XMIT_SIZE - c.tail) ++ bytesAt c.buf 0 c.head
  else bytesAt c.buf c.tail txNum

def CircBuf.advance (c : CircBuf) (n : ℕ) : CircBuf :=
  ⟨c.buf, c.head, (c.tail + n) % XMIT_SIZE, c.head_lt, mod_lt _⟩

section Circ

variable {c : CircBuf}

lemma length_pending (c : CircBuf) : c.pending.length = charsPending c := Ring.length_slots _ _ _

lemma head_eq (c : CircBuf) : (c.tail + charsPending c) % XMIT_SIZE = c.head := by
  have hh := c.head_lt
  have ht := c.tail_lt
  unfold charsPending XMIT_SIZE at *
  omega

lemma charsPending_lt (c : CircBuf) : charsPending c < XMIT_SIZE := mod_lt _

lemma pending_put {bytes : List UInt8} (h : bytes.length ≤ spaceToEnd c) :
  (c.put bytes).pending = c.pending ++ bytes := by
  have hh := c.head_lt
  have ht := c.tail_lt
  have hroom : charsPending c + bytes.length < XMIT_SIZE ∧ c.head + bytes.length ≤ XMIT_SIZE := by
    unfold spaceToEnd at h
    unfold charsPending XMIT_SIZE at *
    simp only at h
    split at h <;> omega
  have hcount : charsPending (c.put bytes) = charsPending c + bytes.length := by
    show ((c.head + bytes.length) % XMIT_SIZE + XMIT_SIZE - c.tail) % XMIT_SIZE = _
    unfold charsPending XMIT_SIZE at *
    omega
  unfold CircBuf.pending
  rw [hcount]
  exact Ring.slots_store c.tail bytes c.buf (fun _ => (head_eq c).symm) (by omega) hroom.2

lemma writeLoop_spec : ∀ (fuel : ℕ) (c : CircBuf) (bytes : List UInt8), bytes.length < fuel →
  ∃ taken rest, bytes = taken ++ rest ∧ (writeLoop fuel c bytes).2 = rest ∧
    (writeLoop fuel c bytes).1.pending = c.pending ++ taken ∧
    (rest = [] ∨ spaceToEnd (writeLoop fuel c bytes).1 = 0)
  | fuel + 1, c, bytes, hfuel => by
    unfold writeLoop
    by_cases hn : min bytes.length (spaceToEnd c) = 0
    · rw [if_pos hn]
      refine ⟨[],bytes,rfl,rfl,by simp,?_⟩
      rcases Nat.min_eq_zero_iff.mp hn with hl | hs
      · exact Or.inl (length_eq_zero_iff.mp hl)
      · exact Or.inr hs
    · rw [if_neg hn]
      obtain ⟨taken,rest,hb,hr,hp,hdone⟩ := writeLoop_spec fuel
        (c.put (bytes.take (min bytes.length (spaceToEnd c)))) (bytes.drop (min bytes.length (spaceToEnd c)))
        (by rw [length_drop]; omega)
      refine ⟨bytes.take (min bytes.length (spaceToEnd c)) ++ taken,rest,?_,hr,?_,hdone⟩
      · rw [List.append_assoc,← hb,take_append_drop]
      · rw [hp, pending_put (by rw [length_take]; omega), List.append_assoc]

lemma uartWrite_pending (bytes : List UInt8) (c : CircBuf) :
  (uartWrite bytes c).1.pending = c.pending ++ (uartWrite bytes c).2 := by
  obtain ⟨taken,rest,hb,hr,hp,-⟩ := writeLoop_spec (bytes.length + 1) c bytes (Nat.lt_succ_self _)
  have htaken : bytes.take (bytes.length - rest.length) = taken := by
    rw [hb,length_append,Nat.add_sub_cancel,take_left]
  show (writeLoop (bytes.length + 1) c bytes).1.pending =
    c.pending ++ bytes.take (bytes.length - (writeLoop (bytes.length + 1) c bytes).2.length)
  rw [hp,hr,htaken]

lemma pending_clear (c : CircBuf) : c.clear.pending = [] := by simp [CircBuf.pending,charsPending,CircBuf.clear]

lemma pending_advance {n : ℕ} (h : n ≤ charsPending c) : c.pending = c.pending.take n ++ (c.advance n).pending := by
  have hh := c.head_lt
  have ht := c.tail_lt
  have hlt := charsPending_lt c
  have hcount : charsPending c = n + charsPending (c.advance n) := by
    show _ = n + (c.head + XMIT_SIZE - (c.tail + n) % XMIT_SIZE) % XMIT_SIZE
    unfold charsPending XMIT_SIZE at *
    omega
  have hsplit : c.pending = Ring.slots XMIT_SIZE c.buf c.tail n ++ (c.advance n).pending := by
    show Ring.slots XMIT_SIZE c.buf c.tail (charsPending c) = _
    rw [hcount,Ring.slots_add]
    rfl
  rw [hsplit,take_left' (Ring.length_slots _ _ _)]

end Circ

inductive Fate
  | sent
  | flushed
  deriving DecidableEq, Repr

structure State where
  xmit : CircBuf
  inuse : Bool
  tasklet : Bool
  dma : Option (List UInt8)

structure Effects where
  accepted : List UInt8 := []
  left : List (UInt8 × Fate) := []
  clash : Bool := false

def startDma (s : State) : State × Effects :=
  ({ s with dma := some (txCopy s.xmit (charsPending s.xmit)) }, { clash := s.dma.isSome })

def startTx (s : State) : State × Effects :=
  if s.inuse then (s, {})
  else if 0 < charsPending s.xmit then startDma { s with inuse := true }
  else (s, {})

def doTasklet (s : State) : State × Effects :=
  if 0 < charsPending s.xmit then startDma s else ({ s with inuse := false }, {})

/-- `mxcuart_dma_writecallback`, for a transfer of `tx` -/
def writeCallback (error : Bool) (tx : List UInt8) (s : State) : State × Effects :=
  let s₁ := if error then s else { s with xmit := s.xmit.advance tx.length }
  (if 0 < charsPending s₁.xmit then { s₁ with tasklet := true } else { s₁ with inuse := false },
    { left := if error then [] else tx.map fun b => (b, .sent) })

def flushBuffer (s : State) : State × Effects :=
  ({ s with xmit := s.xmit.clear }, { left := s.xmit.pending.map fun b => (b, .flushed) })

inductive Event
  | write (bytes : List UInt8)
  | flush
  | startTx
  | callback (error : Bool)
  | tasklet
  deriving DecidableEq, Repr

def act (s : State) : Event → State × Effects
  | .write bytes =>
    let r := uartWrite bytes s.xmit
    ({ s with xmit := r.1 }, { accepted := r.2 })
  | .flush => flushBuffer s
  | .startTx => startTx s
  | .callback error =>
    match s.dma with
    | none => (s, {})
    | some tx => writeCallback error tx { s with dma := none }
  | .tasklet => if s.tasklet then doTasklet { s with tasklet := false } else (s, {})

def step : State → Event → Option State := Mealy.step act

def init : State := ⟨⟨fun _ => 0, 0, 0, by decide, by decide⟩, false, false, none⟩

/-! ### The properties -/

def Current (s : State) : Event → Prop
  | .callback false => ∀ tx ∈ s.dma, tx <+: s.xmit.pending
  | _ => True

def acceptedIn (s : State) (l : List Event) : List UInt8 := Mealy.seen act Effects.accepted s l

def leftIn (s : State) (l : List Event) : List (UInt8 × Fate) := Mealy.seen act Effects.left s l

structure OneOwner (s : State) : Prop where
  inuse : s.inuse = true ↔ s.dma.isSome = true ∨ s.tasklet = true
  one : s.dma.isSome = true → s.tasklet = false

section Step

variable {s : State}

lemma OneOwner.idle (h : OneOwner s) (hdma : s.dma = none) (htasklet : s.tasklet = false) : s.inuse = false := by
  have := h.inuse
  rw [hdma,htasklet] at this
  simpa using this

lemma oneOwner_startDma (htasklet : s.tasklet = false) (hinuse : s.inuse = true) : OneOwner (startDma s).1 :=
  ⟨by simp [startDma,hinuse], fun _ => htasklet⟩

lemma oneOwner_act (h : OneOwner s) (e : Event) : OneOwner (act s e).1 ∧ (act s e).2.clash = false := by
  cases e with
  | write | flush => exact ⟨⟨h.inuse,h.one⟩,rfl⟩
  | startTx =>
    simp only [act,startTx]
    split
    · exact ⟨h,rfl⟩
    · rename_i hinuse
      have hfree := (not_congr h.inuse).mp hinuse
      rw [not_or] at hfree
      split
      · refine ⟨oneOwner_startDma (s := { s with inuse := true }) (by simpa using hfree.2) rfl,?_⟩
        show s.dma.isSome = false
        simpa using hfree.1
      · exact ⟨h,rfl⟩
  | callback error =>
    simp only [act]
    cases hdma : s.dma with
    | none => exact ⟨h,rfl⟩
    | some tx =>
      have hinuse : s.inuse = true := h.inuse.mpr (Or.inl (by simp [hdma]))
      have htasklet : s.tasklet = false := h.one (by simp [hdma])
      refine ⟨?_,rfl⟩
      simp only [writeCallback]
      split
      · refine ⟨?_,?_⟩ <;> split <;> simp [hinuse,htasklet]
      · refine ⟨?_,?_⟩ <;> split <;> simp [hinuse,htasklet]
  | tasklet =>
    simp only [act]
    split
    · rename_i htasklet
      have hinuse : s.inuse = true := h.inuse.mpr (Or.inr htasklet)
      have hdma : s.dma.isSome = false := by
        by_contra hne
        have := h.one (by simpa [isSome_iff_ne_none] using hne)
        rw [htasklet] at this
        cases this
      unfold doTasklet
      split
      · exact ⟨oneOwner_startDma (s := { s with tasklet := false }) rfl hinuse,hdma⟩
      · exact ⟨⟨by simp [hdma],fun _ => rfl⟩,rfl⟩
    · exact ⟨h,rfl⟩

lemma advance_iff (c : CircBuf) (tx : List UInt8) : c.pending = tx ++ (c.advance tx.length).pending ↔ tx <+: c.pending := by
  refine ⟨fun h => ⟨_,h.symm⟩,fun h => ?_⟩
  have hle : tx.length ≤ charsPending c := by
    rw [← length_pending]
    exact h.length_le
  have hsplit := pending_advance hle
  rwa [← prefix_iff_eq_take.mp h] at hsplit

lemma leaves_iff (s : State) (e : Event) :
  s.xmit.pending ++ (act s e).2.accepted = (act s e).2.left.map Prod.fst ++ (act s e).1.xmit.pending ↔
    Current s e := by
  cases e with
  | write bytes =>
    simp only [act,Current,uartWrite_pending]
    simp
  | flush =>
    simp [act,flushBuffer,Current,pending_clear,comp_def]
  | startTx =>
    simp only [act,startTx,Current,iff_true]
    split
    · simp
    · split
      · simp [startDma]
      · simp
  | callback error =>
    cases hdma : s.dma with
    | none => cases error <;> simp [act,Current,hdma]
    | some tx =>
      cases error with
      | true =>
        simp only [act,hdma,Current,iff_true,writeCallback]
        simp only [if_true]
        split <;> simp
      | false =>
        simp only [act,hdma,Current,writeCallback,mem_def,Option.some.injEq,forall_eq']
        rw [← advance_iff]
        simp only [Bool.false_eq_true,if_false,append_nil,List.map_map]
        have hid : tx.map (Prod.fst ∘ fun b => (b, Fate.sent)) = tx := by simp [comp_def]
        rw [hid]
        split <;> rfl
  | tasklet =>
    simp only [act,Current,iff_true]
    split
    · unfold doTasklet
      split <;> simp [startDma]
    · simp

end Step

lemma oneOwner_init : OneOwner init := ⟨by simp [init], by simp [init]⟩

end Mx27.Uart
