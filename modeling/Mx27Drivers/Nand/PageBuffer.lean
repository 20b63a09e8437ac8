/-
# Storing to and reading from the page buffer

`mxc_nand_write_buf` and `mxc_nand_read_buf`.
-/
import Mx27Drivers.Nand.Basic

namespace Mx27.Nand

open List Option Function

open ByteMem

section
variable {M : Type}

/-! ### The walk over the columns -/

structure Walk (M : Type) where
  mem : M
  i : ℕ
  n : ℤ
  col : ℕ

def lane (f : M → ℕ → M) (s : Walk M) : Walk M :=
  if s.n ≠ 0 then ⟨f s.mem s.i, s.i + 1, s.n - 1, s.col + 1⟩ else s

def switchCol (f : ℕ → M → ℕ → M) (s : Walk M) : Walk M :=
  match s.col % 4 with
  | 0 => lane (f 3) (lane (f 2) (lane (f 1) (lane (f 0) s)))
  | 1 => lane (f 3) (lane (f 2) (lane (f 1) s))
  | 2 => lane (f 3) (lane (f 2) s)
  | _ => lane (f 3) s

def bufLoop (body : Walk M → Walk M) : ℕ → Walk M → Option (Walk M)
  | 0, _ => none
  | fuel + 1, s => if s.n ≠ 0 then bufLoop body fuel (body s) else some s

def Walk.lanes (f : ℕ → M → ℕ → M) (s : Walk M) (t : ℕ) : Walk M :=
  ⟨(List.range t).foldl (fun m j => f (s.col % 4 + j) m (s.i + j)) s.mem, s.i + t, s.n - t, s.col + t⟩

variable {s : Walk M} {body : Walk M → Walk M}

lemma lane_lanes (f : ℕ → M → ℕ → M) {n : ℕ} (hn : s.n = n) (t : ℕ) {k : ℕ}
  (hk : k = s.col % 4 + t) : lane (f k) (s.lanes f (min n t)) = s.lanes f (min n (t + 1)) := by
  subst hk
  by_cases h : t < n
  · rw [Nat.min_eq_right h.le,Nat.min_eq_right (by omega : t + 1 ≤ n),lane,
      if_pos (by simp only [Walk.lanes,hn]; omega)]
    simp only [Walk.lanes,range_succ,foldl_append,foldl_cons,foldl_nil,Nat.cast_add,
      Nat.cast_one,Nat.add_assoc,sub_sub]
  · rw [Nat.min_eq_left (by omega : n ≤ t),Nat.min_eq_left (by omega : n ≤ t + 1),lane,
      if_neg (by simp [Walk.lanes,hn])]

lemma switchCol_eq (f : ℕ → M → ℕ → M) {n : ℕ} (hn : s.n = n) :
  switchCol f s = s.lanes f (min n (4 - s.col % 4)) := by
  have h0 : s = s.lanes f (min n 0) := by simp [Walk.lanes]
  have hstep := fun t k (hk : k = s.col % 4 + t) => lane_lanes f hn t hk
  unfold switchCol
  rcases (by omega : s.col % 4 = 0 ∨ s.col % 4 = 1 ∨ s.col % 4 = 2 ∨ s.col % 4 = 3) with h | h | h | h
  · simp only [h]
    calc lane (f 3) (lane (f 2) (lane (f 1) (lane (f 0) s)))
        = lane (f 3) (lane (f 2) (lane (f 1) (s.lanes f (min n 1)))) := by
          rw [← hstep 0 0 (by omega),← h0]
      _ = lane (f 3) (lane (f 2) (s.lanes f (min n 2))) := by rw [hstep 1 1 (by omega)]
      _ = lane (f 3) (s.lanes f (min n 3)) := by rw [hstep 2 2 (by omega)]
      _ = s.lanes f (min n 4) := hstep 3 3 (by omega)
  · simp only [h]
    calc lane (f 3) (lane (f 2) (lane (f 1) s))
        = lane (f 3) (lane (f 2) (s.lanes f (min n 1))) := by rw [← hstep 0 1 (by omega),← h0]
      _ = lane (f 3) (s.lanes f (min n 2)) := by rw [hstep 1 2 (by omega)]
      _ = s.lanes f (min n 3) := hstep 2 3 (by omega)
  · simp only [h]
    calc lane (f 3) (lane (f 2) s)
        = lane (f 3) (s.lanes f (min n 1)) := by rw [← hstep 0 2 (by omega),← h0]
      _ = s.lanes f (min n 2) := hstep 1 3 (by omega)
  · simp only [h]
    calc lane (f 3) s = lane (f 3) (s.lanes f (min n 0)) := by rw [← h0]
      _ = s.lanes f (min n 1) := hstep 0 3 (by omega)

lemma bufLoop_run {Q : M → M → ℕ → ℕ → ℕ → Prop} {bound : ℕ}
  (hrefl : ∀ m c i, Q m m c i 0)
  (htrans : ∀ {m m₁ m₂ c i t u}, Q m m₁ c i t → Q m₁ m₂ (c + t) (i + t) u → Q m m₂ c i (t + u))
  (hbody : ∀ m i (n : ℕ) c, 0 < n → c + n ≤ bound → ∃ m' t, 0 < t ∧ t ≤ n ∧
    body ⟨m, i, n, c⟩ = ⟨m', i + t, (n - t : ℕ), c + t⟩ ∧ Q m m' c i t) :
  ∀ (fuel n : ℕ) (m : M) (i c : ℕ), n < fuel → c + n ≤ bound →
    ∃ m', bufLoop body fuel ⟨m, i, n, c⟩ = some ⟨m', i + n, 0, c + n⟩ ∧ Q m m' c i n
  | 0, n, _, _, _, hf, _ => absurd hf (Nat.not_lt_zero n)
  | fuel + 1, n, m, i, c, hf, hb => by
    by_cases h0 : n = 0
    · subst h0
      exact ⟨m,by simp [bufLoop],hrefl m c i⟩
    · obtain ⟨m₁,t,ht,htn,he,hq⟩ := hbody m i n c (Nat.pos_of_ne_zero h0) hb
      obtain ⟨m₂,he2,hq2⟩ := bufLoop_run hrefl htrans hbody fuel (n - t) m₁ (i + t) (c + t) (by omega) (by omega)
      refine ⟨m₂,?_,?_⟩
      · rw [bufLoop,if_pos (by simpa using h0),he,he2]
        simp only [Option.some.injEq,Walk.mk.injEq,true_and]
        omega
      · have := htrans hq hq2
        rwa [Nat.add_sub_of_le htn] at this

lemma bufLoop_mono {r : Walk M} : ∀ {fuel fuel' : ℕ} {s : Walk M},
  bufLoop body fuel s = some r → fuel ≤ fuel' → bufLoop body fuel' s = some r
  | fuel + 1, fuel' + 1, s, h, hle => by
    rw [bufLoop] at h ⊢
    split
    · next hn =>
      rw [if_pos hn] at h
      exact bufLoop_mono h (by omega)
    · next hn => rwa [if_neg hn] at h

/-! A negative count stays negative. -/

lemma lane_neg (f : M → ℕ → M) (h : s.n < 0) : (lane f s).n < 0 := by
  unfold lane
  split
  · exact (by omega : s.n - 1 < 0)
  · exact h

lemma switchCol_neg (f : ℕ → M → ℕ → M) (h : s.n < 0) : (switchCol f s).n < 0 := by
  unfold switchCol
  split
  · exact lane_neg _ (lane_neg _ (lane_neg _ (lane_neg _ h)))
  · exact lane_neg _ (lane_neg _ (lane_neg _ h))
  · exact lane_neg _ (lane_neg _ h)
  · exact lane_neg _ h

lemma bufLoop_neg (h : ∀ s, s.n < 0 → (body s).n < 0) :
  ∀ (fuel : ℕ) (s : Walk M), s.n < 0 → bufLoop body fuel s = none
  | 0, _, _ => rfl
  | fuel + 1, s, hs => by
    rw [bufLoop,if_pos hs.ne]
    exact bufLoop_neg h fuel _ (h s hs)

end

def wordPtr (mtd : MtdInfo) (col : ℕ) : ℕ :=
  if col < mtd.writesize then MAIN_AREA0 + col / 4 * 4 else SPARE_AREA0 - mtd.writesize + col / 4 * 4

def byBytes {M : Type} (base : ℕ) (s : Walk M) : Prop :=
  s.col % 4 ≠ 0 ∨ (base + s.i) % 4 ≠ 0 ∨ s.n < 16

instance {M : Type} (base : ℕ) (s : Walk M) : Decidable (byBytes base s) := inferInstanceAs (Decidable (_ ∨ _))

def blockSize {M : Type} (mtd : MtdInfo) (s : Walk M) : ℤ :=
  let m : ℤ := mtd.writesize - s.col
  let m := if mtd.writesize ≤ s.col then m + mtd.oobsize else m
  min s.n m / 4 * 4

def storeLane (buf : ℕ → BitVec 8) : ℕ → BitVec 32 → ℕ → BitVec 32
  | 0, data, i => (data &&& 0xffffff00#32) ||| ((buf i).setWidth 32 <<< 0)
  | 1, data, i => (data &&& 0xffff00ff#32) ||| ((buf i).setWidth 32 <<< 8)
  | 2, data, i => (data &&& 0xff00ffff#32) ||| ((buf i).setWidth 32 <<< 16)
  | _, data, i => (data &&& 0x00ffffff#32) ||| ((buf i).setWidth 32 <<< 24)

def loadLane (data : BitVec 32) (k : ℕ) (buf : ℕ → BitVec 8) (i : ℕ) : ℕ → BitVec 8 :=
  Function.update buf i ((data >>> (8 * k)).setWidth 8)

def writeBody (mtd : MtdInfo) (base : ℕ) (buf : ℕ → BitVec 8) (s : Walk (ℕ → BitVec 8)) : Walk (ℕ → BitVec 8) :=
  let p := wordPtr mtd s.col
  if byBytes base s then
    let data := if s.col % 4 ≠ 0 ∨ s.n < 4 then loadWord s.mem p else 0
    let w := switchCol (storeLane buf) ⟨data, s.i, s.n, s.col⟩
    ⟨storeWord s.mem p w.mem, w.i, w.n, w.col⟩
  else
    let m := blockSize mtd s
    ⟨copy s.mem p buf s.i m.toNat, s.i + m.toNat, s.n - m, s.col + m.toNat⟩

def readBody (mtd : MtdInfo) (base : ℕ) (ram : ℕ → BitVec 8) (s : Walk (ℕ → BitVec 8)) : Walk (ℕ → BitVec 8) :=
  let p := wordPtr mtd s.col
  if byBytes base s then
    switchCol (loadLane (loadWord ram p)) s
  else
    let m := blockSize mtd s
    ⟨copy s.mem s.i ram p m.toNat, s.i + m.toNat, s.n - m, s.col + m.toNat⟩

def startCol (mtd : MtdInfo) (info : NandInfo) : ℕ :=
  if info.colAddr.toNat < mtd.writesize ∧ info.bSpareOnly then info.colAddr.toNat + mtd.writesize
  else info.colAddr.toNat

def startCount (mtd : MtdInfo) (info : NandInfo) (len : ℕ) : ℤ :=
  min len ((mtd.writesize : ℤ) + mtd.oobsize - startCol mtd info)

def mxcNandWriteBuf (mtd : MtdInfo) (base : ℕ) (buf : ℕ → BitVec 8) (len fuel : ℕ) (info : NandInfo)
  (ram : ℕ → BitVec 8) : Option (NandInfo × (ℕ → BitVec 8)) := do
  let s ← bufLoop (writeBody mtd base buf) fuel ⟨ram, 0, startCount mtd info len, startCol mtd info⟩
  return ({ info with colAddr := BitVec.ofNat 16 s.col }, s.mem)

def mxcNandReadBuf (mtd : MtdInfo) (base : ℕ) (buf : ℕ → BitVec 8) (len fuel : ℕ) (info : NandInfo)
  (ram : ℕ → BitVec 8) : Option (NandInfo × (ℕ → BitVec 8)) := do
  let s ← bufLoop (readBody mtd base ram) fuel ⟨buf, 0, startCount mtd info len, startCol mtd info⟩
  return ({ info with colAddr := BitVec.ofNat 16 s.col }, s.mem)

/-! ### One iteration -/

lemma wordPtr_eq (mtd : MtdInfo) (col : ℕ) : wordPtr mtd col = mtd.addr (col / 4 * 4) := by
  have := mtd.writesize_mod_four
  simp only [wordPtr,MtdInfo.addr]
  split <;> split <;> omega

lemma oneArea_word (mtd : MtdInfo) (col : ℕ) : mtd.OneArea (col / 4 * 4) 4 := by
  have := mtd.writesize_mod_four
  unfold MtdInfo.OneArea
  omega

variable {i c k : ℕ}

lemma blockSize_spec {M : Type} {mtd : MtdInfo} {base : ℕ} {m : M} {n : ℕ}
  (h : ¬ byBytes base ⟨m, i, n, c⟩) (hb : c + n ≤ mtd.total) :
  ∃ t : ℕ, blockSize mtd (⟨m, i, n, c⟩ : Walk M) = t ∧ 0 < t ∧ t ≤ n ∧ c % 4 = 0 ∧ mtd.OneArea c t := by
  simp only [byBytes,not_or,not_lt,not_not] at h
  simp only [MtdInfo.total] at hb
  have h4 := mtd.writesize_mod_four
  by_cases hc : mtd.writesize ≤ c
  · refine ⟨n / 4 * 4,?_,by omega,by omega,h.1,Or.inl hc⟩
    simp only [blockSize,hc,if_true]
    omega
  · refine ⟨min n (mtd.writesize - c) / 4 * 4,?_,by omega,by omega,h.1,Or.inr (by omega)⟩
    simp only [blockSize,hc,if_false]
    omega

lemma storeLane_eq (buf : ℕ → BitVec 8) (hk : k < 4) (data : BitVec 32) (i : ℕ) :
  storeLane buf k data i = putByte data k (buf i) := by
  have hm : ∀ k : Fin 4, [0xffffff00,0xffff00ff,0xff00ffff,0x00ffffff].get k =
      ~~~(Bits.ones 32 8 <<< (8 * k.val)) := by decide
  rcases (by omega : k = 0 ∨ k = 1 ∨ k = 2 ∨ k = 3) with rfl | rfl | rfl | rfl
  · exact congrArg (fun v => data &&& v ||| _) (hm 0)
  · exact congrArg (fun v => data &&& v ||| _) (hm 1)
  · exact congrArg (fun v => data &&& v ||| _) (hm 2)
  · exact congrArg (fun v => data &&& v ||| _) (hm 3)

lemma byteOf_storeLanes (buf : ℕ → BitVec 8) (data : BitVec 32) (r i : ℕ) (hk : k < 4) :
  ∀ t, r + t ≤ 4 →
    byteOf ((List.range t).foldl (fun m j => storeLane buf (r + j) m (i + j)) data) k =
      copy (byteOf data) r buf i t k
  | 0, _ => by rw [copy_zero]; rfl
  | t + 1, ht => by
    rw [range_succ,foldl_append,foldl_cons,foldl_nil,storeLane_eq buf (by omega),
      byteOf_putByte _ _ hk,byteOf_storeLanes buf data r i hk t (by omega),← copy_copy,← update_eq_copy]
    by_cases h : k = r + t
    · rw [if_pos h,h,update_self]
    · rw [if_neg h,update_of_ne h]

lemma loadLanes_eq (data : BitVec 32) (buf : ℕ → BitVec 8) (r i : ℕ) :
  ∀ t, (List.range t).foldl (fun m j => loadLane data (r + j) m (i + j)) buf = copy buf i (byteOf data) r t
  | 0 => by rw [copy_zero]; rfl
  | t + 1 => by
    rw [range_succ,foldl_append,foldl_cons,foldl_nil,loadLanes_eq data buf r i t,
      ← copy_copy,← update_eq_copy]
    rfl

lemma stores_word {mtd : MtdInfo} {ram buf : ℕ → BitVec 8} {data : BitVec 32} {v : BitVec 32} {t : ℕ}
  (ht : c % 4 + t ≤ 4) (hv : ∀ k < 4, byteOf v k = copy (byteOf data) (c % 4) buf i t k)
  (hdata : data = loadWord ram (wordPtr mtd c) ∨ c % 4 = 0 ∧ t = 4) :
  Stores mtd ram (storeWord ram (wordPtr mtd c) v) c buf i t := by
  have hstore := stores_copy (oneArea_word mtd c) ram (byteOf v) 0
  rw [← wordPtr_eq] at hstore
  apply hstore.congr
  funext x
  simp only [copy,Nat.zero_add]
  by_cases hx : c / 4 * 4 ≤ x ∧ x < c / 4 * 4 + 4
  · rw [if_pos hx,hv _ (by omega),copy]
    by_cases hx' : c ≤ x ∧ x < c + t
    · rw [if_pos (by omega),if_pos hx']
      congr 1
      omega
    · rw [if_neg (by omega),if_neg hx']
      rcases hdata with rfl | hfull
      · rw [byteOf_loadWord _ _ (by omega),wordPtr_eq,← mtd.addr_add (oneArea_word mtd c) (by omega),
          Nat.add_sub_of_le hx.1,MtdInfo.page]
      · omega
  · rw [if_neg hx,if_neg (by omega)]

lemma writeBody_step (mtd : MtdInfo) (base : ℕ) (buf m : ℕ → BitVec 8) (i n c : ℕ) (hn : 0 < n)
  (hb : c + n ≤ mtd.total) :
  ∃ m' t, 0 < t ∧ t ≤ n ∧ writeBody mtd base buf ⟨m, i, n, c⟩ = ⟨m', i + t, (n - t : ℕ), c + t⟩ ∧
    Stores mtd m m' c buf i t := by
  unfold writeBody
  by_cases h : byBytes base (⟨m,i,n,c⟩ : Walk (ℕ → BitVec 8))
  · simp only [if_pos h]
    obtain ⟨data,hd⟩ : ∃ data, data = if c % 4 ≠ 0 ∨ (n : ℤ) < 4 then loadWord m (wordPtr mtd c) else 0 := ⟨_,rfl⟩
    have hdata : data = loadWord m (wordPtr mtd c) ∨ c % 4 = 0 ∧ min n (4 - c % 4) = 4 := by
      by_cases hw : c % 4 ≠ 0 ∨ (n : ℤ) < 4
      · exact Or.inl (hd.trans (if_pos hw))
      · exact Or.inr (by omega)
    have hst := stores_word (by omega) (fun k hk => byteOf_storeLanes buf data _ i hk _ (by omega)) hdata
    rw [← hd,switchCol_eq (storeLane buf) (n := n) rfl]
    refine ⟨_,min n (4 - c % 4),by omega,by omega,?_,hst⟩
    simp only [Walk.lanes,Walk.mk.injEq,true_and,and_true]
    omega
  · obtain ⟨t,ht,hpos,hle,h4,harea⟩ := blockSize_spec h hb
    have hp : wordPtr mtd c = mtd.addr c := by rw [wordPtr_eq,Nat.div_mul_cancel (Nat.dvd_of_mod_eq_zero h4)]
    simp only [if_neg h,ht,Int.toNat_natCast,hp]
    refine ⟨_,t,hpos,hle,?_,stores_copy harea m buf i⟩
    simp only [Walk.mk.injEq,true_and,and_true]
    omega

lemma readBody_step (mtd : MtdInfo) (base : ℕ) (ram m : ℕ → BitVec 8) (i n c : ℕ) (hn : 0 < n)
  (hb : c + n ≤ mtd.total) :
  ∃ m' t, 0 < t ∧ t ≤ n ∧ readBody mtd base ram ⟨m, i, n, c⟩ = ⟨m', i + t, (n - t : ℕ), c + t⟩ ∧
    m' = copy m i (mtd.page ram) c t := by
  unfold readBody
  by_cases h : byBytes base (⟨m,i,n,c⟩ : Walk (ℕ → BitVec 8))
  · simp only [if_pos h]
    rw [switchCol_eq (loadLane _) (n := n) rfl]
    refine ⟨_,min n (4 - c % 4),by omega,by omega,?_,rfl⟩
    simp only [Walk.lanes,Walk.mk.injEq,true_and,and_true]
    refine ⟨?_,by omega⟩
    rw [loadLanes_eq]
    apply copy_congr
    intro j hj
    rw [byteOf_loadWord _ _ (by omega),wordPtr_eq,← mtd.addr_add (oneArea_word mtd c) (by omega),
      show c / 4 * 4 + (c % 4 + j) = c + j by omega,MtdInfo.page]
  · obtain ⟨t,ht,hpos,hle,h4,harea⟩ := blockSize_spec h hb
    simp only [if_neg h,ht,Int.toNat_natCast]
    refine ⟨_,t,hpos,hle,?_,rfl⟩
    simp only [Walk.mk.injEq,true_and,and_true]
    refine ⟨?_,by omega⟩
    rw [wordPtr_eq,Nat.div_mul_cancel (Nat.dvd_of_mod_eq_zero h4),copy_addr harea]

/-! ### Whole calls -/

section
variable {mtd : MtdInfo} {info : NandInfo}

def moved (mtd : MtdInfo) (info : NandInfo) (len : ℕ) : ℕ := min len (mtd.total - startCol mtd info)

def movedTo (mtd : MtdInfo) (info : NandInfo) (k : ℕ) : NandInfo :=
  { info with colAddr := BitVec.ofNat 16 (startCol mtd info + k) }

lemma startCount_eq (h : startCol mtd info ≤ mtd.total) (len : ℕ) : startCount mtd info len = moved mtd info len := by
  simp only [startCount,moved,MtdInfo.total] at h ⊢
  omega

lemma moved_le (h : startCol mtd info ≤ mtd.total) (len : ℕ) : startCol mtd info + moved mtd info len ≤ mtd.total := by
  unfold moved
  omega

lemma movedTo_colAddr (h : startCol mtd info ≤ mtd.total) (len : ℕ) :
  (movedTo mtd info (moved mtd info len)).colAddr.toNat = startCol mtd info + moved mtd info len := by
  have h1 := moved_le h len
  have h2 := mtd.total_le
  exact (BitVec.toNat_ofNat ..).trans (Nat.mod_eq_of_lt (by omega))

variable {fuel : ℕ}

lemma mxcNandWriteBuf_stores (h : startCol mtd info ≤ mtd.total) (base : ℕ) (buf ram : ℕ → BitVec 8) (len : ℕ)
  (hf : moved mtd info len < fuel) :
  ∃ ram', mxcNandWriteBuf mtd base buf len fuel info ram = some (movedTo mtd info (moved mtd info len), ram') ∧
    Stores mtd ram ram' (startCol mtd info) buf 0 (moved mtd info len) := by
  obtain ⟨ram',he,hs⟩ := bufLoop_run (Q := fun m m' c i t => Stores mtd m m' c buf i t)
    (fun m c i => Stores.refl mtd m c buf i) (fun h1 h2 => h1.trans h2) (writeBody_step mtd base buf) fuel _ ram 0
    (startCol mtd info) hf (moved_le h len)
  refine ⟨ram',?_,hs⟩
  rw [mxcNandWriteBuf,startCount_eq h,he]
  rfl

lemma mxcNandReadBuf_reads (h : startCol mtd info ≤ mtd.total) (base : ℕ) (buf ram : ℕ → BitVec 8) (len : ℕ)
  (hf : moved mtd info len < fuel) :
  mxcNandReadBuf mtd base buf len fuel info ram = some (movedTo mtd info (moved mtd info len),
    copy buf 0 (mtd.page ram) (startCol mtd info) (moved mtd info len)) := by
  obtain ⟨buf',he,hs⟩ := bufLoop_run (Q := fun m m' c i t => m' = copy m i (mtd.page ram) c t)
    (fun m c i => (copy_zero ..).symm) (fun h1 h2 => by rw [h2,h1,copy_copy]) (readBody_step mtd base ram) fuel _
    buf 0 (startCol mtd info) hf (moved_le h len)
  rw [mxcNandReadBuf,startCount_eq h,he,← hs]
  rfl

lemma mxcNandReadBuf_some (h : startCol mtd info ≤ mtd.total) {base len : ℕ} {buf buf' ram : ℕ → BitVec 8}
  {info' : NandInfo} (he : mxcNandReadBuf mtd base buf len fuel info ram = some (info', buf')) :
  info' = movedTo mtd info (moved mtd info len) := by
  have hr := mxcNandReadBuf_reads h base buf ram len
    (lt_of_lt_of_le (Nat.lt_succ_self _) (Nat.le_max_right fuel (moved mtd info len).succ))
  simp only [mxcNandReadBuf,bind_eq_bind,bind_eq_some_iff] at he hr
  obtain ⟨s,hs,es⟩ := he
  obtain ⟨t,ht,et⟩ := hr
  obtain rfl : s = t := Option.some.inj ((bufLoop_mono hs (Nat.le_max_left ..)).symm.trans ht)
  exact congrArg Prod.fst (Option.some.inj (es.symm.trans et))

/-- **The page buffer is one array of columns.** -/
theorem pageBuffer_flat (h : startCol mtd info ≤ mtd.total) (base : ℕ) (buf ram : ℕ → BitVec 8) (len : ℕ)
  {fuel : ℕ} (hf : len < fuel) :
  ∃ info', info'.colAddr.toNat = startCol mtd info + min len (mtd.writesize + mtd.oobsize - startCol mtd info) ∧
    info'.bSpareOnly = info.bSpareOnly ∧ info'.bStatusRequest = info.bStatusRequest ∧
    (∃ ram', mxcNandWriteBuf mtd base buf len fuel info ram = some (info', ram') ∧
      (∀ x, mtd.page ram' x =
        if startCol mtd info ≤ x ∧ x < startCol mtd info + min len (mtd.writesize + mtd.oobsize - startCol mtd info)
        then buf (x - startCol mtd info) else mtd.page ram x) ∧
      (∀ a, (∀ x, mtd.addr x ≠ a) → ram' a = ram a) ∧
      ∀ base' out, ∃ out', mxcNandReadBuf mtd base' out len fuel info ram' = some (info', out') ∧
        ∀ j < min len (mtd.writesize + mtd.oobsize - startCol mtd info), out' j = buf j) ∧
    ∃ out', mxcNandReadBuf mtd base buf len fuel info ram = some (info', out') ∧
      ∀ j, out' j = if j < min len (mtd.writesize + mtd.oobsize - startCol mtd info)
        then mtd.page ram (startCol mtd info + j) else buf j := by
  have hm : moved mtd info len < fuel := lt_of_le_of_lt (Nat.min_le_left ..) hf
  have hk : min len (mtd.writesize + mtd.oobsize - startCol mtd info) = moved mtd info len := rfl
  obtain ⟨ram',hw,hs⟩ := mxcNandWriteBuf_stores h base buf ram len hm
  rw [hk]
  refine ⟨_,movedTo_colAddr h len,rfl,rfl,⟨ram',hw,fun x => ?_,hs.offPage,fun base' out => ?_⟩,
    _,mxcNandReadBuf_reads h base buf ram len hm,fun j => ?_⟩
  · rw [hs.page,copy,Nat.zero_add]
  · refine ⟨_,mxcNandReadBuf_reads h base' out ram' len hm,fun j hj => ?_⟩
    calc copy out 0 (mtd.page ram') (startCol mtd info) (moved mtd info len) j
        = mtd.page ram' (startCol mtd info + j) := copy_apply_lt hj
      _ = buf (0 + j) := by rw [hs.page,copy_apply_add hj]
      _ = buf j := by rw [Nat.zero_add]
  · simp only [copy,Nat.zero_le,true_and,Nat.zero_add,Nat.sub_zero]

def smallPage : MtdInfo := ⟨512, 16, 0x1000000, Or.inl rfl, by decide⟩

def largePage : MtdInfo := ⟨2048, 64, 0x8000000, Or.inr rfl, by decide⟩

theorem pageBuffer_flat_border :
  startCol smallPage ⟨false, false, 510⟩ ≤ smallPage.total ∧
    ∃ info', info'.colAddr.toNat = 514 ∧ ∃ ram', mxcNandWriteBuf smallPage 1 (fun i => BitVec.ofNat 8 (i + 1)) 4 5
      ⟨false, false, 510⟩ (fun _ => 0) = some (info', ram') ∧ smallPage.page ram' 513 = 4 := by
  have h : startCol smallPage ⟨false,false,510⟩ ≤ smallPage.total := by decide
  obtain ⟨info',hc,-,-,⟨ram',hw,hp,-⟩,-⟩ :=
    pageBuffer_flat h 1 (fun i => BitVec.ofNat 8 (i + 1)) (fun _ => 0) 4 (show 4 < 5 by decide)
  exact ⟨h,info',hc,ram',hw,(hp 513).trans (by decide)⟩

lemma writeBody_neg (base : ℕ) (buf : ℕ → BitVec 8) (s : Walk (ℕ → BitVec 8)) (h : s.n < 0) :
  (writeBody mtd base buf s).n < 0 := by
  have hb : byBytes base s := Or.inr (Or.inr (by omega))
  simp only [writeBody,if_pos hb]
  exact switchCol_neg _ h

lemma readBody_neg (base : ℕ) (ram : ℕ → BitVec 8) (s : Walk (ℕ → BitVec 8)) (h : s.n < 0) :
  (readBody mtd base ram s).n < 0 := by
  have hb : byBytes base s := Or.inr (Or.inr (by omega))
  simp only [readBody,if_pos hb]
  exact switchCol_neg _ h

/-- Column 100 of the spare area of a 512-byte page. -/
theorem pageBuffer_runs_away :
  (100 : ℕ) ≤ smallPage.writesize + smallPage.oobsize ∧ ∀ base buf ram len fuel,
    mxcNandWriteBuf smallPage base buf len fuel ⟨true, false, 100⟩ ram = none ∧
    mxcNandReadBuf smallPage base buf len fuel ⟨true, false, 100⟩ ram = none := by
  refine ⟨by decide,fun base buf ram len fuel => ?_⟩
  have hn : startCount smallPage ⟨true,false,100⟩ len < 0 :=
    lt_of_le_of_lt (min_le_right ..) (by decide)
  constructor
  · rw [mxcNandWriteBuf,bufLoop_neg (writeBody_neg base buf) fuel _ hn]
    rfl
  · rw [mxcNandReadBuf,bufLoop_neg (readBody_neg base ram) fuel _ hn]
    rfl

end

end Mx27.Nand
